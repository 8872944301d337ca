import Backtick.Options
import Backtick.Workspace

/-!
# The command line

A command line names a file and options. Its settings are those of the workspace with what the
options override; the file is linted with the formatter that they give. An error of the run is
logged and reported with status 1; a fault of any other sort escapes.
-/

namespace Backtick

/-- How a command line ends. -/
inductive CommandEnd where
  /-- with a status -/
  | status (n : Int)
  /-- with a status, before anything is done -/
  | refused (n : Int)
  /-- with a fault that escapes -/
  | escaped (f : Fault)

/-- What comes of a command line: how it ends, what it prints besides the log, and the log, of which
the setup says what is written. -/
structure CommandRun where
  ending : CommandEnd
  output : Text := []
  errorOutput : Text := []
  setup : LogSetup := {}
  log : List LogRecord := []

namespace CommandLine

/-- A line of a message. -/
def line (t : Text) : Text := t ++ [.ofNat 0x0A]

/-- The message about two destinations. -/
def twoDestinations : Text := line "Error: Cannot use both --inplace and --output"

/-- The message about an error of the run. -/
def errorMessage (e : LintError) : Text := line ("Error: " ++ e.message)

/-- The message about a file that was linted. -/
def doneMessage (r : LintReport) : Text :=
  if r.regions = 0 then line ("No marked template literals in " ++ r.input.toText)
  else
    line ("Formatted " ++ Text.ofInt r.regions ++ " region(s): " ++ r.input.toText ++ " -> " ++
      (r.output.map Path.toText).getD "None")

/-- The record of an error of the run. -/
def failedRecord (e : LintError) : LogRecord :=
  { logger := "tsxlint.main", level := .error, event := "Lint failed", fields := e.report }

/-- What is to be done with the file. -/
def job (o : Options) (s : Settings) (f : Formatter) : FileJob :=
  { input := o.input, output := if o.inplace then some o.input else o.output, formatter := some f,
    language := o.language, settings := s }

/-- Lints the file that options name, with settings. -/
def lint (tools : Tools) (elapsed : Number) (o : Options) (s : Settings) (setup : LogSetup)
    (d : Disk) : CommandRun × Disk :=
  match FileJob.formatterOf tools.programs s.formatter with
  | .error f => ({ ending := .escaped f, setup }, d)
  | .ok f =>
    let run := lintFile tools .none elapsed (job o s f) d
    let answer : CommandRun :=
      match run.result with
      | .ok r => { ending := .status 0, errorOutput := doneMessage r, setup, log := run.log }
      | .error (.lint e) =>
        { ending := .status 1, errorOutput := errorMessage e, setup,
          log := run.log ++ [failedRecord e] }
      | .error f => { ending := .escaped f, setup, log := run.log }
    (answer, run.disk)

/-- Does what options ask for, in a workspace, at a time. -/
def perform (tools : Tools) (time : Text) (elapsed : Number) (o : Options) (w : Workspace) :
    CommandRun × Workspace :=
  if o.inplace && o.output.isSome then
    ({ ending := .status 1, errorOutput := twoDestinations }, w)
  else
    match w.openLog o.logLevel none (if o.jsonLogs then some true else none) with
    | (.error f, w) => ({ ending := .escaped f }, w)
    | (.ok (s, setup), w) =>
      let (answer, d) := lint tools elapsed o (s.override o.overrides) setup w.disk
      (answer, { w with disk := setup.writeFile time answer.log d })

/-- Does what a command line asks for. -/
def run (tools : Tools) (time : Text) (elapsed : Number) (arguments : List Text) (w : Workspace) :
    CommandRun × Workspace :=
  match Options.ofArguments arguments with
  | .error r =>
    ({ ending := .refused r.status, output := r.output, errorOutput := r.errorOutput }, w)
  | .ok o => perform tools time elapsed o w

end CommandLine

end Backtick
