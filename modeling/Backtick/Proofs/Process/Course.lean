import Backtick.Proofs.Process.Handler
import Mathlib.Algebra.Order.Ring.Rat
import Mathlib.Tactic.Linarith

/-!
# The course of a call

A course says what happens to the process of a call that nobody cancels, and when. The time that the
call takes does not fix it: a process may exit long before all that it wrote is read, and its exit
may be noticed later. Of every course, the handler makes the call that the formatter makes: it is
over when that call is over, and gives what that call gives.

When a call is cancelled its course breaks off, and other signals follow: the process is killed, and
exits sooner or later. How long that takes is how long the call unwinds.

* `Handler.overAt?`, `Handler.unwoundAt?` — when a call is over
* `Course`, `FormatCommand.overAt?_line` — a course takes as long as the call
* `Handler.Shape.unwoundAt?_exits` — a call that was cancelled may take any time to unwind
-/

namespace Backtick

namespace Handler

variable {c : FormatCommand} {a : Attempt} {h : Handler} {line before after : List (Rat × Signal)}

/-! ## The time of a call -/

/-- When the call is over, where signals come with their times. -/
def overAt? (c : FormatCommand) (a : Attempt) : Handler → List (Rat × Signal) → Option Rat
  | _, [] => none
  | h, (t, s) :: rest =>
    if (h.step c a s).isOver then some t else overAt? c a (h.step c a s) rest

/-- A call is over at the time of a signal. -/
theorem exists_of_overAt? {t : Rat} (ht : overAt? c a h line = some t) : ∃ s, (t, s) ∈ line := by
  induction line generalizing h with
  | nil => cases ht
  | cons x rest ih =>
    unfold overAt? at ht
    split at ht
    · cases ht
      exact ⟨x.2, List.mem_cons_self⟩
    · obtain ⟨s, hs⟩ := ih ht
      exact ⟨s, List.mem_cons_of_mem _ hs⟩

/-- When the later signals come after the end of the call, it is over without them. -/
theorem isOver_of_overAt? {t : Rat} (ht : overAt? c a h (before ++ after) = some t)
    (hafter : ∀ x ∈ after, t < x.1) : (h.run c a (before.map Prod.snd)).isOver = true := by
  induction before generalizing h with
  | nil =>
    obtain ⟨s, hs⟩ := exists_of_overAt? ht
    exact absurd (hafter _ hs) (lt_irrefl t)
  | cons x rest ih =>
    rw [List.cons_append] at ht
    unfold overAt? at ht
    split at ht
    · next hover =>
      rw [List.map_cons, run_cons]
      exact isOver_run hover
    · exact ih ht

/-- When all signals come before the end of the call, it still goes on behind them. -/
theorem not_isOver_of_overAt? {t : Rat} (ht : overAt? c a h (before ++ after) = some t)
    (hopen : h.isOver = false) (hbefore : ∀ x ∈ before, x.1 < t) :
    (h.run c a (before.map Prod.snd)).isOver = false := by
  induction before generalizing h with
  | nil => exact hopen
  | cons x rest ih =>
    rw [List.cons_append] at ht
    unfold overAt? at ht
    split at ht
    · cases ht
      exact absurd (hbefore _ List.mem_cons_self) (lt_irrefl _)
    · next hstep =>
      exact ih ht (Bool.not_eq_true _ ▸ hstep) fun y hy => hbefore y (List.mem_cons_of_mem _ hy)

/-- A call is over when the signals until then have come. -/
theorem isOver_run_of_overAt? {t : Rat} (ht : overAt? c a h line = some t) :
    (h.run c a (line.map Prod.snd)).isOver = true := by
  induction line generalizing h with
  | nil => cases ht
  | cons x rest ih =>
    unfold overAt? at ht
    rw [List.map_cons, run_cons]
    split at ht
    · next hover => exact isOver_run hover
    · exact ih ht

/-- A call that starts later is over later by the same time. -/
theorem overAt?_shift (d : Rat) :
    overAt? c a h (line.map fun x => (d + x.1, x.2)) = (overAt? c a h line).map (d + ·) := by
  induction line generalizing h with
  | nil => rfl
  | cons x rest ih =>
    rw [List.map_cons]
    unfold overAt?
    split
    · rfl
    · exact ih

/-! ## The time of unwinding -/

/-- When a handler that was cancelled is over, counted from its cancellation. -/
def unwoundAt? (c : FormatCommand) (a : Attempt) (h : Handler) (line : List (Rat × Signal)) :
    Option Rat :=
  if h.isOver then some 0 else overAt? c a h line

theorem isOver_run_of_unwoundAt? {t : Rat} (ht : unwoundAt? c a h line = some t) :
    (h.run c a (line.map Prod.snd)).isOver = true := by
  unfold unwoundAt? at ht
  split at ht
  · next hover => exact isOver_run hover
  · exact isOver_run_of_overAt? ht

/-- While a handler unwinds, signals that come earlier than its end leave it unwinding. -/
theorem not_isOver_of_unwoundAt? {t : Rat} (ht : unwoundAt? c a h (before ++ after) = some t)
    (hpos : 0 < t) (hbefore : ∀ x ∈ before, x.1 < t) :
    (h.run c a (before.map Prod.snd)).isOver = false := by
  unfold unwoundAt? at ht
  split at ht
  · cases ht
    exact absurd hpos (lt_irrefl 0)
  · next hopen => exact not_isOver_of_overAt? ht (Bool.not_eq_true _ ▸ hopen) hbefore

/-- A handler that waits for its process may do so for any time: until then the process has not
exited, or its output has not ended. -/
theorem Shape.unwoundAt?_exits (h' : Shape c a true h) (hopen : h.isOver = false) (t : Rat) :
    unwoundAt? c a h [(t, .exits), (t, .noticed), (t, .drained)] = some t := by
  unfold unwoundAt?
  rw [hopen]
  cases h' with
  | @waiting p drained hwait =>
    obtain ⟨life, killed⟩ := p
    cases life with
    | reaped =>
      cases drained with
      | true => exact absurd ⟨rfl, rfl⟩ hwait
      | false => rfl
    | running | exited => cases drained <;> rfl
  | refused _ | finished _ | unborn | buried => cases hopen

end Handler

/-! ## Courses -/

/-- How long a start that was tried takes by itself. -/
def Attempt.takes : Attempt → Duration
  | .refused _ => .none
  | .started e => e.takes

/-- What happens to the process of a call that nobody cancels, and how long after its start. -/
structure Course (c : FormatCommand) (a : Attempt) where
  signals : List (Rat × Signal)
  /-- time goes forward from the start -/
  ascending : (0 :: signals.map Prod.fst).Pairwise (· ≤ ·)
  undisturbed : ∀ x ∈ signals, x.2 ≠ .cancelled
  /-- the call is over when its process says so -/
  takes : Handler.overAt? c a {} ((0, .due) :: signals) = a.takes.length?

namespace Course

variable {c : FormatCommand} {a : Attempt}

/-- All that happens to a call that is put off, and how long after its own start. -/
def line (w : Course c a) (delay : Option Rat) : List (Rat × Signal) :=
  ((0, .due) :: w.signals).map fun x => (delay.getD 0 + x.1, x.2)

theorem line_undisturbed (w : Course c a) (delay : Option Rat) :
    ∀ x ∈ w.line delay, x.2 ≠ .cancelled := by
  intro x hx
  obtain ⟨y, hy, rfl⟩ := List.mem_map.mp hx
  rcases List.mem_cons.mp hy with rfl | hy
  · exact nofun
  · exact w.undisturbed y hy

theorem line_ascending (w : Course c a) (delay : Option Rat) :
    (w.line delay).Pairwise fun x y => x.1 ≤ y.1 := by
  have h : ((0, .due) :: w.signals : List (Rat × Signal)).Pairwise fun x y => x.1 ≤ y.1 :=
    List.pairwise_map.mp w.ascending
  exact List.pairwise_map.mpr (h.imp fun hle => add_le_add_right hle _)

/-- The course of a process that exits when all that it wrote is read. -/
def plain (c : FormatCommand) (a : Attempt) (h : ∀ s, a.takes.length? = some s → 0 ≤ s) :
    Course c a where
  signals :=
    match a.takes.length? with
    | some s => [(s, .exits), (s, .noticed), (s, .drained)]
    | none => []
  ascending := by
    cases hs : a.takes.length? with
    | none => simp
    | some s => simp [h s hs]
  undisturbed := by
    cases a.takes.length? <;> simp
  takes := by
    cases a with
    | refused f => rfl
    | started e =>
      unfold Attempt.takes
      cases e.takes.length? <;> rfl

end Course

namespace FormatCommand

variable {c : FormatCommand} {programs : Programs} {text : Text} {delay : Option Rat}

/-- The call gives what the start has come to. -/
theorem call_outcome :
    ((c.call programs text).after delay).outcome = (c.attempt programs text).outcome c := by
  unfold Call.after call Attempt.outcome
  cases c.attempt programs text <;> cases delay <;> rfl

/-- A call that is put off takes longer by the delay. -/
theorem call_length : ((c.call programs text).after delay).duration.length? =
    (c.attempt programs text).takes.length?.map (delay.getD 0 + ·) := by
  have hlength : (c.call programs text).duration = (c.attempt programs text).takes := by
    unfold call Attempt.takes
    cases c.attempt programs text <;> rfl
  rw [← hlength]
  unfold Call.after
  cases delay with
  | none => cases (c.call programs text).duration <;> simp [Duration.length?]
  | some d => cases (c.call programs text).duration <;> simp [Duration.length?]

/-- Every course takes as long as the call. -/
theorem overAt?_line (w : Course c (c.attempt programs text)) :
    Handler.overAt? c (c.attempt programs text) {} (w.line delay) =
      ((c.call programs text).after delay).duration.length? := by
  unfold Course.line
  rw [Handler.overAt?_shift, w.takes, call_length]

end FormatCommand

end Backtick
