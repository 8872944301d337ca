import Backtick.Process

/-!
# The handling of a process

The call of a format command starts its process when its delay is over. It reads what the process
writes until there is no more, and waits for the exit. It can be cancelled at any point: before the
process has started, while it runs, after it has exited but before that is noticed or all is read.
Then it kills the process, unless that has exited, and waits for it.

What happens comes to the handler of the call as signals, in whatever order. A process can exit at
any time, and its output may end before or after that: another process may have it open. The wait
for a process is over when its exit was noticed and its output has ended. A call that is cancelled
again while it waits for its process does not go on waiting.
-/

namespace Backtick

/-! ## Processes -/

/-- Where a process stands. -/
inductive Life where
  | running
  /-- it has exited, and nobody has noticed -/
  | exited
  /-- it has exited, and that was noticed -/
  | reaped
deriving DecidableEq

/-- A process that was started. -/
structure Process where
  life : Life := .running
  /-- it was killed while it ran -/
  killed : Bool := false
deriving DecidableEq

namespace Process

/-- The process exits. -/
def exit (p : Process) : Process := if p.life = .running then { p with life := .exited } else p

/-- The exit of the process is noticed. -/
def reap (p : Process) : Process := if p.life = .exited then { p with life := .reaped } else p

/-- A kill reaches the process only while it runs. -/
def kill (p : Process) : Process := if p.life = .running then { p with killed := true } else p

end Process

/-! ## Handlers -/

/-- What happens to a call and its process. -/
inductive Signal where
  /-- the delay of the call is over -/
  | due
  /-- the process exits -/
  | exits
  /-- the exit of the process is noticed -/
  | noticed
  /-- all that the process has written is read, and its output has ended -/
  | drained
  /-- the call is cancelled -/
  | cancelled
deriving DecidableEq

/-- How far a call has come. -/
inductive Stage where
  /-- it is put off -/
  | delayed
  /-- it reads what the process writes; all may have been read -/
  | talking (drained : Bool)
  /-- it was cancelled, and waits for the process; the output may have ended -/
  | waiting (drained : Bool)
  /-- it is over, with what it gives unless it was cancelled -/
  | done (result : Option Outcome)

/-- The handler of a call: how far the call has come, and its process. -/
structure Handler where
  stage : Stage := .delayed
  process : Option Process := none

/-- What a start that was tried gives when nothing is cancelled. -/
def Attempt.outcome (c : FormatCommand) : Attempt → Outcome
  | .refused f => .error f
  | .started e => c.outcome e

namespace Handler

/-- The call is over. -/
def isOver (h : Handler) : Bool :=
  match h.stage with
  | .done _ => true
  | _ => false

/-- What the call has given. -/
def result (h : Handler) : Option Outcome :=
  match h.stage with
  | .done r => r
  | _ => none

/-- The process of the call runs. -/
def runs (h : Handler) : Bool := h.process.any (·.life = .running)

/-- The process of the call was killed. -/
def killed (h : Handler) : Bool := h.process.any (·.killed)

/-- No process is left: none was started, or it has exited and that was noticed. -/
def Gone (h : Handler) : Prop := ∀ p, h.process = some p → p.life = .reaped

/-- The call goes on when the wait for its process is over. -/
def proceed (c : FormatCommand) (a : Attempt) (h : Handler) : Handler :=
  match h.stage, h.process with
  | .talking true, some ⟨.reaped, _⟩ => { h with stage := .done (some (a.outcome c)) }
  | .waiting true, some ⟨.reaped, _⟩ => { h with stage := .done none }
  | _, _ => h

/-- The handler gets a signal. -/
def step (c : FormatCommand) (a : Attempt) (h : Handler) : Signal → Handler
  | .due =>
    match h.stage, a with
    | .delayed, .refused _ => { h with stage := .done (some (a.outcome c)) }
    | .delayed, .started _ => { stage := .talking false, process := some {} }
    | _, _ => h
  | .exits => { h with process := h.process.map Process.exit }
  | .noticed => { h with process := h.process.map Process.reap }.proceed c a
  | .drained =>
    match h.stage with
    | .talking _ => { h with stage := .talking true }.proceed c a
    | .waiting _ => { h with stage := .waiting true }.proceed c a
    | _ => h
  | .cancelled =>
    match h.stage, h.process with
    | .talking drained, some p =>
      if p.life = .reaped then { h with stage := .done none }
      else { stage := .waiting drained, process := some p.kill }
    | .done _, _ => h
    | _, _ => { h with stage := .done none }

/-- The handler gets signals, one after another. -/
def run (c : FormatCommand) (a : Attempt) (h : Handler) (signals : List Signal) : Handler :=
  signals.foldl (step c a) h

end Handler

end Backtick
