import Backtick.Log
import Backtick.Number

/-!
# Formatters

A formatter has a name and is called with the text of a region. A call takes its time and then
gives a value, which ought to be a text, or fails. The time that it takes is part of the call, so
that a formatter is a function and a run over several regions can be computed.

A call can be cancelled while it goes on. It ends then, but that may take time as well: it unwinds,
as a call that has to wait for the exit of a process does.
-/

namespace Backtick

/-- Why a call failed. -/
inductive Failure where
  /-- the formatter says why it does not format the text -/
  | refused (message : Text)
  /-- the formatter gave up waiting for something -/
  | impatient (message : Text)
  /-- an error of this kind came out of the formatter -/
  | broke (kind message : Text)
deriving DecidableEq

/-- What a call gives. -/
abbrev Outcome := Except Failure Value

/-- How long a call takes. -/
inductive Duration where
  /-- it is over at once, before anything else can happen -/
  | none
  /-- it is over after so many seconds -/
  | seconds (s : Rat)
  /-- it is never over -/
  | endless
deriving DecidableEq

/-- The time that a duration takes; one that is over at once takes none. -/
def Duration.length? : Duration → Option Rat
  | .none => some 0
  | .seconds s => some s
  | .endless => Option.none

/-- A call: how long it takes, what it gives then, and what it writes to the log at its end. -/
structure Call where
  duration : Duration
  outcome : Outcome
  log : List LogRecord := []
  /-- how many seconds it takes to end when it is cancelled so many seconds after its start -/
  unwinds : Rat → Rat := fun _ => 0

/-- A call whose start is put off by some time. Until then there is nothing to unwind. -/
def Call.after (delay : Option Rat) (c : Call) : Call :=
  match delay with
  | none => c
  | some d =>
    { c with
      duration :=
        match c.duration with
        | .none => .seconds d
        | .seconds s => .seconds (d + s)
        | .endless => .endless
      unwinds := fun elapsed => if elapsed < d then 0 else c.unwinds (elapsed - d) }

/-- A formatter. Its calls are numbered from zero in the order in which they start. -/
structure Formatter where
  name : Text
  call : Nat → Text → Call

namespace Formatter

/-- The formatter that is declared, but has no way to format. -/
def unsupported (name : Text) : Formatter :=
  { name
    call := fun _ _ => { duration := .none, outcome := .error (.broke "NotImplementedError" []) } }

/-- The name of a formatter made of a function: the one that is given unless it is empty, then the
function's own, if it has one. -/
def functionName (given function : Option Text) : Text :=
  match given with
  | some t => if t.isEmpty then function.getD "callable" else t
  | none => function.getD "callable"

end Formatter

/-! ## Commands -/

/-- A command that formats what it reads, with the dialect it is to use. -/
structure FormatCommand where
  words : List Text := ["npx", "--no-install", "prettier"]
  parser : Text := "typescript"

namespace FormatCommand

/-- The command, which is not empty. -/
def ofWords? (words : List Text) (parser : Text) : Option FormatCommand :=
  if words.isEmpty then none else some { words, parser }

/-- The message about an empty command. -/
def emptyMessage : Text := "Formatter command must not be empty"

/-- The words that are run. -/
def commandLine (c : FormatCommand) : List Text := c.words ++ [Text.ofString "--parser", c.parser]

/-- The name of all formatters that run a command. -/
def formatterName : Text := "prettier"

end FormatCommand

end Backtick
