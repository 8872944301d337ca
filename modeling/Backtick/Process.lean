import Backtick.Fault
import Backtick.Formatter
import Backtick.Text.Blank

/-!
# Formatting by a process

A format command is looked up, started with the text of a region as its input, and awaited. Its
output counts only when it exits with status zero; otherwise what it wrote about its errors is the
message. The programs themselves are a parameter: what a word names, and what starting it does.

A process that is no longer wanted is killed, but only while it runs; in any case it is waited for.
It may linger: its exit takes time, and its output stays open as long as another process has it.
-/

namespace Backtick

/-- How a program runs: how long it takes, the status that it exits with, which is negative when a
signal ends it, and what it has written then. -/
structure Execution where
  takes : Duration
  status : Int
  output : Bytes
  errors : Bytes
  /-- how many seconds the wait for it takes when it is given up so many seconds after its start -/
  lingers : Rat → Rat := fun _ => 0

/-- The programs that can be run. -/
structure Programs where
  /-- the file that a command word names -/
  which : Text → Option Text
  /-- starts a file with arguments and input -/
  start : Text → List Text → Bytes → Except Fault Execution

/-- What comes of starting a format command. -/
inductive Attempt where
  /-- it does not start -/
  | refused (f : Failure)
  | started (e : Execution)

namespace FormatCommand

/-- The failure of a start. -/
def startFailure (word : Text) : Fault → Failure
  | .encoding f => .refused ("Region text is not valid UTF-8: " ++ f.message)
  | .system e => .refused ("Cannot start " ++ word ++ ": " ++ e.message)
  | f => .broke "ValueError" (f.message?.getD [])

/-- Starts the command for a text. -/
def attempt (programs : Programs) (c : FormatCommand) (text : Text) : Attempt :=
  match c.commandLine with
  | [] => .refused (.refused emptyMessage)
  | word :: arguments =>
    match programs.which word with
    | none => .refused (.refused ("Formatter executable not found: " ++ word))
    | some file =>
      match (Utf8.encode text).mapError Fault.encoding with
      | .error f => .refused (startFailure word f)
      | .ok input =>
        match programs.start file arguments input with
        | .error f => .refused (startFailure word f)
        | .ok e => .started e

/-- The word that messages name the command by. -/
def word (c : FormatCommand) : Text := c.commandLine.head?.getD []

/-- What a process says about its failure. -/
def complaint (errors : Bytes) : Text :=
  let t := Text.trim Text.isBlank (Utf8.decodeLossy errors)
  if t.isEmpty then "Unknown error" else t

/-- The record of a process that failed. -/
def failedRecord (c : FormatCommand) (status : Int) : LogRecord :=
  { logger := "tsxlint.formatter", level := .debug, event := "Formatter process failed",
    fields :=
      [field "command" (.list (c.commandLine.map .text)), field "returncode" (.int status)] }

/-- What a finished process gives. -/
def outcome (c : FormatCommand) (e : Execution) : Outcome :=
  if e.status ≠ 0 then
    .error (.refused
      (c.word ++ " exited with " ++ Text.ofInt e.status ++ ": " ++ complaint e.errors))
  else
    match Utf8.decode e.output with
    | .ok t => .ok (.text t)
    | .error f => .error (.refused (c.word ++ " produced invalid UTF-8 output: " ++ f.message))

/-- The call that formats a text with the command. -/
def call (programs : Programs) (c : FormatCommand) (text : Text) : Call :=
  match c.attempt programs text with
  | .refused f => { duration := .none, outcome := .error f }
  | .started e =>
    { duration := e.takes, outcome := c.outcome e,
      log := if e.status ≠ 0 then [c.failedRecord e.status] else [], unwinds := e.lingers }

/-- The formatter that runs the command, where each call is put off by some time. What can be run
and the delay may be others for each call. -/
def formatterIn (programs : Nat → Programs) (c : FormatCommand) (delay : Nat → Option Rat) :
    Formatter :=
  { name := formatterName, call := fun n text => (c.call (programs n) text).after (delay n) }

/-- The formatter that runs the command, where they stay the same. -/
def formatter (programs : Programs) (c : FormatCommand) (delay : Option Rat) : Formatter :=
  c.formatterIn (fun _ => programs) fun _ => delay

end FormatCommand

end Backtick
