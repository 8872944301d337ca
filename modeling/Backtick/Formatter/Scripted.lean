import Backtick.Formatter

/-!
# Scripted formatters

A scripted formatter does what data says: each of its calls follows the turn that is set for its
number, or else the one that is set for its text, or else the one for all others. With them the
course of a run can be laid out beforehand.
-/

namespace Backtick

/-- What is done with a text. -/
inductive Action where
  | keep
  /-- ASCII letters become capitals -/
  | capitals
  | backwards
  | wrap (front back : Text)
  | constant (t : Text)
  /-- the number of the call is put behind it -/
  | numbered
  | repeated (times : Nat)
  /-- a value is given instead, which need not be a text -/
  | give (v : Value)
  | fail (f : Failure)
  | hang

namespace Action

/-- The action never comes to its end. -/
def hangs : Action → Bool
  | .hang => true
  | _ => false

/-- What an action gives for a text in the call with this number. -/
def outcome (a : Action) (number : Nat) (t : Text) : Outcome :=
  match a with
  | .keep | .hang => .ok (.text t)
  | .capitals => .ok (.text (t.map CodePoint.upperAscii))
  | .backwards => .ok (.text t.reverse)
  | .wrap front back => .ok (.text (front ++ t ++ back))
  | .constant t => .ok (.text t)
  | .numbered => .ok (.text (t ++ "-" ++ Text.ofNat number))
  | .repeated times => .ok (.text (List.replicate times t).flatten)
  | .give v => .ok v
  | .fail f => .error f

end Action

/-- A turn of a formatter: an action after some seconds, or at once. -/
structure Turn where
  action : Action := .keep
  delay : Option Rat := none

/-- The call that a turn makes. -/
def Turn.call (t : Turn) (number : Nat) (text : Text) : Call :=
  { duration :=
      if t.action.hangs then .endless
      else match t.delay with
        | some s => .seconds s
        | none => .none
    outcome := t.action.outcome number text }

/-- A scripted formatter. -/
structure ScriptedFormatter where
  name : Text
  /-- turns by the number of the call -/
  sequence : List (Option Turn) := []
  /-- turns by text -/
  rules : List (Text × Turn) := []
  default : Turn := {}
  /-- by how much each call is put off -/
  delay : Option Rat := none

namespace ScriptedFormatter

/-- The turn of the call with this number for a text. -/
def turn (f : ScriptedFormatter) (number : Nat) (t : Text) : Turn :=
  ((f.sequence[number]?).join.or (f.rules.lookup t)).getD f.default

/-- The formatter that follows a script. -/
def formatter (f : ScriptedFormatter) : Formatter :=
  { name := f.name, call := fun number t => ((f.turn number t).call number t).after f.delay }

end ScriptedFormatter

end Backtick
