import Backtick.Disk.Change
import Backtick.Log.Line
import Backtick.Settings

/-!
# Where the log goes

The log goes to standard error and, if one is set, to a file behind what it holds. Only records from
a level on are written. What is asked for counts before what the settings say.
-/

namespace Backtick

/-- Where and how the log is written. -/
structure LogSetup where
  /-- the least rank of the records that are written -/
  threshold : Nat := LogLevel.info.rank
  format : LogFormat := .console
  file : Option Path := none
deriving DecidableEq

namespace LogSetup

/-- What is asked for, unless it is empty, or else what the settings say. -/
def prefer (asked : Option Text) (set : Option Text) : Option Text :=
  match asked with
  | some t => if t.isEmpty then set else some t
  | none => set

/-- A path without the directories that it leaves again. -/
def direct (p : Path) : Path :=
  { p with
    parts := p.parts.foldl
      (fun parts name =>
        if name = Disk.above && !parts.isEmpty then parts.dropLast else parts ++ [name])
      [] }

/-- The setup for what is asked for and for settings. -/
def ofSettings (s : GeneralSettings) (level file : Option Text) (json : Option Bool) : LogSetup :=
  let path := (prefer file s.logFile).filter (!·.isEmpty)
  { threshold := LogLevel.threshold ((prefer level (some s.logLevel)).getD s.logLevel)
    format := if json.getD s.jsonLogs then .json else .console
    file := path.map Path.ofText }

/-- Opens the file, with the directories that lead to it: the result, and the disk afterwards. -/
def openFile (setup : LogSetup) (d : Disk) : Except Fault Unit × Disk :=
  match setup.file with
  | none => (.ok (), d)
  | some p =>
    match d.makeDirectories p.parent with
    | .error f => (.error f, d)
    | .ok d' =>
      match d'.append (direct p) [] with
      | .error f => (.error f, d')
      | .ok d'' => (.ok (), d'')

/-- The records that are written. -/
def passing (setup : LogSetup) (records : List LogRecord) : List LogRecord :=
  records.filter (setup.threshold ≤ ·.level.rank)

/-- The lines of records. -/
def lines (setup : LogSetup) (time : Text) (records : List LogRecord) : Text :=
  (setup.passing records).flatMap (·.line setup.format time)

/-- Writes records to the file. A file that does not take them loses them. -/
def writeFile (setup : LogSetup) (time : Text) (records : List LogRecord) (d : Disk) : Disk :=
  match setup.file with
  | none => d
  | some p =>
    match d.append (direct p) (Utf8.encodeLossy (setup.lines time records)) with
    | .ok d' => d'
    | .error _ => d

end LogSetup

end Backtick
