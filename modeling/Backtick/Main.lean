import Backtick.CommandLine
import Backtick.Shell.Programs

/-!
# The program

The files that a command line can concern are read into a disk, the command line is run on it, and
the files that have changed are written back. Format commands are run by the built-in shell.

The variables of the process are asked for by name. So one that has the form of a setting, but names
a key that no setting has, is not seen here, although it would be refused. Files that have changed
are written in place and get the bits that the system gives them, not those of the disk.
-/

namespace Backtick.Program

/-- The variables that override settings. -/
def settingNames : List Text :=
  ["CONFIG_DIR", "GENERAL__PROJECT_NAME", "GENERAL__VERSION", "GENERAL__LOG_LEVEL",
    "GENERAL__JSON_LOGS", "GENERAL__LOG_FILE", "LOCATOR__MARKER", "LOCATOR__NODE_TYPES",
    "LOCATOR__DEFAULT_LANGUAGE", "FORMATTER__COMMAND", "FORMATTER__PARSER",
    "FORMATTER__TIMEOUT_SECONDS", "FORMATTER__MAX_CONCURRENCY", "FORMATTER__JITTER_MAX_SECONDS",
    "OUTPUT__SUFFIX"].map fun name => Overlay.namePrefix ++ Text.ofString name

/-- The paths that a command line with these options can concern. -/
def paths (o : Options) (env : Environment) : List Path :=
  let directory := Settings.directory env
  let log := (env.get? (Overlay.namePrefix ++ "GENERAL__LOG_FILE")).map Path.ofText
  [directory.join Settings.sharedName, directory.join Settings.localName, o.input] ++
    o.output.toList ++ log.toList

/-- The place of a path, where no link is followed. -/
def placeOf (home : Place) (p : Path) : Place :=
  p.parts.foldl
    (fun place name => if name = Disk.above then place.dropLast else place ++ [name])
    (if p.root.isEmpty then home else [])

/-- The text of a place. -/
def placeText (p : Place) : String := (Path.toText ⟨[Path.slash], p⟩).toString

/-- The bits of files and of directories that are read in. -/
def fileMode : Nat := 0o644

/-- The environment of the process, as far as it matters. -/
def environment : IO Environment :=
  settingNames.filterMapM fun name => do
    return (← IO.getEnv name.toString).map fun value => (name, Text.ofString value)

/-- Reads what stands at a place into a disk. -/
def load (d : Disk) (p : Place) : IO Disk := do
  let file? ← try some <$> IO.FS.readBinFile (placeText p) catch _ => pure none
  match file? with
  | some content => return d.put p (.file fileMode content.toList)
  | none =>
    let there ← try discard (IO.FS.realPath (placeText p)); pure true catch _ => pure false
    return if there then d.put p (.directory 0o755) else d

/-- Reads what stands at some places, and the directories that lead to them, into a disk. -/
def loadAll (d : Disk) (ps : List Place) : IO Disk :=
  ps.foldlM
    (fun d p => (List.range (p.length + 1)).foldlM (fun d n => load d (p.take n)) d) d

/-- Writes back what has changed. -/
def store (before after : Disk) : IO Unit :=
  after.entries.forM fun (p, e) => do
    if before.get? p ≠ some e then
      match e with
      | .file _ content => IO.FS.writeBinFile (placeText p) ⟨content.toArray⟩
      | .directory _ => IO.FS.createDirAll (placeText p)
      | .link _ => pure ()

/-- Writes a text to a stream. -/
def emit (s : IO.FS.Stream) (t : Text) : IO Unit := do
  s.write ⟨(Utf8.encodeLossy t).toArray⟩
  s.flush

/-- The status of the process, and what it says about a fault that escapes. -/
def statusOf : CommandEnd → UInt32 × Text
  | .status n | .refused n => (UInt32.ofNat n.toNat, [])
  | .escaped f => (1, CommandLine.line (f.message?.getD "Error"))

/-- Runs a command line. -/
def run (arguments : List Text) : IO UInt32 := do
  let start ← IO.monoMsNow
  let env ← environment
  let home := (Path.ofText (Text.ofString (← IO.FS.realPath ".").toString)).parts
  let concerned :=
    match Options.ofArguments arguments with
    | .ok o => (paths o env).map (placeOf home)
    | .error _ => []
  let d ← loadAll { home } (home :: concerned)
  let now ← IO.monoMsNow
  let tools : Tools := { programs := Programs.ofDisk d }
  let time := Text.ofNat now
  let (answer, w) :=
    CommandLine.run tools time (.whole (now - start)) arguments { disk := d, environment := env }
  store d w.disk
  let (status, complaint) := statusOf answer.ending
  emit (← IO.getStdout) answer.output
  emit (← IO.getStderr) (answer.setup.lines time answer.log ++ answer.errorOutput ++ complaint)
  return status

end Backtick.Program

/-- Formats the marked template literals of a file. -/
def main (arguments : List String) : IO UInt32 :=
  Backtick.Program.run (arguments.map Backtick.Text.ofString)
