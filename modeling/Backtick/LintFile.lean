import Backtick.Disk.Output
import Backtick.Lint
import Backtick.Process

/-!
# Linting a file

A file is read, its text is linted and the result is written to its destination, once and at the
end. When anything fails before that the disk is not touched, and writing is all or nothing, so a
run that fails leaves the disk as it was.
-/

namespace Backtick

/-- What the runs of an installation have in common: the grammars that it knows and the programs
that it can run. -/
structure Tools where
  grammars : Grammars := .builtin
  programs : Programs

/-- What is to be done with a file. -/
structure FileJob where
  input : Path
  /-- the destination; without one the output goes beside the input -/
  output : Option Path := none
  /-- the formatter; without one the settings give a command -/
  formatter : Option Formatter := none
  /-- the language; without one it follows from the name of the input -/
  language : Option Text := none
  settings : Settings := {}

/-- How a file was linted: the report, the disk afterwards, what happened to its text if it came to
that, and the log. -/
structure FileRun where
  result : Except Fault LintReport
  disk : Disk
  lint : Option LintRun := none
  log : List LogRecord := []

namespace FileJob

/-- Where the output goes. -/
def destination (j : FileJob) : Except Fault Path :=
  match j.output with
  | some p => .ok p
  | none => defaultOutputPath j.input j.settings.output.suffix

/-- The formatter that settings give. A call is put off by a random time up to a limit, which may be
as short as none. -/
def formatterOf (programs : Programs) (s : FormatterSettings) : Except Fault Formatter :=
  match FormatCommand.ofWords? s.command s.parser with
  | none => .error (.badValue FormatCommand.emptyMessage)
  | some c => .ok (c.formatter programs (if s.jitterMaxSeconds.isPositive then some 0 else none))

/-- The formatter that is used. -/
def chosenFormatter (programs : Programs) (j : FileJob) : Except Fault Formatter :=
  match j.formatter with
  | some f => .ok f
  | none => formatterOf programs j.settings.formatter

/-- The language of the input. -/
def chosenLanguage (j : FileJob) : Text :=
  j.language.getD (languageForPath j.input j.settings.locator.defaultLanguage)

/-- The context of all records of a run. -/
def context (j : FileJob) : Fields := [field "input" (.text j.input.toText)]

end FileJob

/-- The error of a source file that cannot be read. Faults of other sorts are not its business. -/
def sourceFault (p : Path) (f : Fault) : Fault :=
  match f with
  | .system e =>
    .lint (.inputNotFound p.toText (if e.cause = .noEntry then none else some e.message))
  | .decoding d => .lint (.inputNotFound p.toText (some d.message))
  | f => f

/-- The text of a source file, with its line breaks as they are. -/
def readSource (d : Disk) (p : Path) : Except Fault Text :=
  ((d.read p).bind fun b => (Utf8.decode b).mapError .decoding).mapError (sourceFault p)

namespace FileJob

/-- The record of an output. -/
def writtenRecord (r : LintReport) : LogRecord :=
  { logger := "tsxlint.pipeline", level := .info, event := "Output written", fields := r.fields }

/-- The report on a document that was written. -/
def reportOf (j : FileJob) (destination : Path) (elapsed : Number) (doc : Document) : LintReport :=
  { input := j.input, output := some destination, regions := doc.regions.length,
    changed := doc.changed, elapsed }

/-- Lints the text of the input and writes the output. -/
def lintAndWrite (tools : Tools) (mishaps : Mishaps) (elapsed : Number) (j : FileJob)
    (destination : Path) (f : Formatter) (d : Disk) (text : Text) : FileRun :=
  let run := lintText tools.grammars f j.settings (some j.chosenLanguage) text
  match run.result with
  | .error e => { result := .error e, disk := d, lint := some run, log := run.log }
  | .ok doc =>
    match d.writeOutput mishaps destination (doc.output.getD text) with
    | (.error e, d') => { result := .error e, disk := d', lint := some run, log := run.log }
    | (.ok (), d') =>
      let report := j.reportOf destination elapsed doc
      { result := .ok report, disk := d', lint := some run,
        log := run.log ++ [writtenRecord report] }

/-- Reads the input, lints its text and writes the output. The records carry what the contexts that
are open bind. Calls of the formatter have copies of these contexts and leave them alone. -/
def process (tools : Tools) (mishaps : Mishaps) (elapsed : Number) (j : FileJob)
    (destination : Path) (f : Formatter) (d : Disk) (c : LogContext) : FileRun × LogContext :=
  match readSource d j.input with
  | .error e => ({ result := .error e, disk := d }, c)
  | .ok text =>
    let run := j.lintAndWrite tools mishaps elapsed destination f d text
    ({ run with log := run.log.map (LogRecord.within c.bound) }, c)

end FileJob

/-- Lints a file while log contexts are open, and gives the contexts that are open afterwards. -/
def lintFileIn (c : LogContext) (tools : Tools) (mishaps : Mishaps) (elapsed : Number) (j : FileJob)
    (d : Disk) : FileRun × LogContext :=
  let parts := do
    let destination ← j.destination
    let f ← j.chosenFormatter tools.programs
    return (destination, f)
  match parts with
  | .error e => ({ result := .error e, disk := d }, c)
  | .ok (destination, f) =>
    c.during j.context (j.process tools mishaps elapsed destination f d)

/-- Lints a file. -/
def lintFile (tools : Tools) (mishaps : Mishaps) (elapsed : Number) (j : FileJob) (d : Disk) :
    FileRun :=
  (lintFileIn {} tools mishaps elapsed j d).1

end Backtick
