import Backtick.Process.Handler
import Mathlib.Data.List.Basic

/-!
# No process is left behind

A handler that is cancelled once, at whatever point, leaves no process behind when it is over. The
invariant says how it can stand until then and afterwards. A handler that is cancelled again while
it waits for a process does not go on waiting, so the invariant speaks of the first cancellation
only.

* `Shape` — how a handler can stand while it is cancelled at most once
* `Shape.step`, `Shape.cancel`, `Shape.run` — a signal, and a run of signals
* `run_cancelled` — what is left when a call is cancelled
-/

namespace Backtick

namespace Process

@[simp] theorem exit_killed (p : Process) : p.exit.killed = p.killed := by
  unfold exit
  split <;> rfl

@[simp] theorem reap_killed (p : Process) : p.reap.killed = p.killed := by
  unfold reap
  split <;> rfl

@[simp] theorem kill_life (p : Process) : p.kill.life = p.life := by
  unfold kill
  split <;> rfl

end Process

namespace Handler

variable {c : FormatCommand} {a : Attempt} {h : Handler} {s : Signal}

theorem proceed_process (h : Handler) : (h.proceed c a).process = h.process := by
  unfold proceed
  split <;> rfl

@[simp] theorem run_cons (rest : List Signal) :
    h.run c a (s :: rest) = (h.step c a s).run c a rest := rfl

theorem run_append (before after : List Signal) :
    h.run c a (before ++ after) = (h.run c a before).run c a after :=
  List.foldl_append

/-- A handler that is over and has left no process behind stays as it is. -/
theorem step_of_isOver (hover : h.isOver = true) (hgone : h.Gone) : h.step c a s = h := by
  obtain ⟨stage, process⟩ := h
  cases stage with
  | delayed | talking _ | waiting _ => cases hover
  | done r =>
    cases process with
    | none => cases s <;> rfl
    | some p =>
      obtain ⟨life, killed⟩ := p
      obtain rfl : life = .reaped := hgone _ rfl
      cases s <;> rfl

/-! ## Shapes -/

/-- How a handler can stand while its call is cancelled at most once. The flag says whether it was
cancelled. -/
inductive Shape (c : FormatCommand) (a : Attempt) : Bool → Handler → Prop where
  | delayed : Shape c a false {}
  | talking {e : Execution} {drained : Bool} {life : Life} (ha : a = .started e)
      (hopen : ¬ (drained = true ∧ life = .reaped)) :
      Shape c a false ⟨.talking drained, some ⟨life, false⟩⟩
  | waiting {p : Process} {drained : Bool} (hopen : ¬ (drained = true ∧ p.life = .reaped)) :
      Shape c a true ⟨.waiting drained, some p⟩
  | refused {f : Failure} {cancelled : Bool} (ha : a = .refused f) :
      Shape c a cancelled ⟨.done (some (a.outcome c)), none⟩
  | finished {e : Execution} {cancelled : Bool} (ha : a = .started e) :
      Shape c a cancelled ⟨.done (some (a.outcome c)), some ⟨.reaped, false⟩⟩
  | unborn : Shape c a true ⟨.done none, none⟩
  | buried {killed : Bool} : Shape c a true ⟨.done none, some ⟨.reaped, killed⟩⟩

namespace Shape

variable {cancelled : Bool}

/-- A handler that is over has left no process behind. -/
theorem gone (h' : Shape c a cancelled h) (hover : h.isOver = true) : h.Gone := by
  intro p hp
  cases h' with
  | delayed | talking _ _ | waiting _ => cases hover
  | refused _ | unborn => cases hp
  | finished _ | buried =>
    cases hp
    rfl

/-- A handler that is over and was not cancelled has given what its start has come to. Its process
has exited by itself. -/
theorem result_of_isOver (h' : Shape c a false h) (hover : h.isOver = true) :
    h.result = some (a.outcome c) ∧ ∀ e, a = .started e → h.process = some ⟨.reaped, false⟩ := by
  cases h' with
  | delayed | talking _ _ => cases hover
  | finished _ => exact ⟨rfl, fun _ _ => rfl⟩
  | refused ha =>
    refine ⟨rfl, fun e he => ?_⟩
    rw [ha] at he
    cases he

/-- A process is not killed before its call is cancelled. -/
theorem killed_eq_false (h' : Shape c a false h) : h.killed = false := by
  cases h' <;> rfl

/-- Without a further cancellation every signal leaves the handler in shape. -/
theorem step (h' : Shape c a cancelled h) (hs : s ≠ .cancelled) :
    Shape c a cancelled (h.step c a s) := by
  by_cases hover : h.isOver = true
  · rw [step_of_isOver hover (h'.gone hover)]
    exact h'
  cases h' with
  | refused _ | finished _ | unborn | buried => exact absurd rfl hover
  | delayed =>
    cases s with
    | due =>
      cases a with
      | refused f => exact .refused rfl
      | started e => exact .talking rfl (by decide)
    | exits | noticed | drained => exact .delayed
    | cancelled => exact absurd rfl hs
  | @talking e drained life ha hopen =>
    cases s with
    | due => exact .talking ha hopen
    | exits =>
      cases life with
      | running | exited => exact .talking ha (by simp)
      | reaped => exact .talking ha hopen
    | noticed =>
      cases life with
      | running => cases drained <;> exact .talking ha (by simp)
      | exited | reaped =>
        cases drained with
        | false => exact .talking ha (by simp)
        | true => exact .finished ha
    | drained =>
      cases life with
      | running | exited => exact .talking ha (by simp)
      | reaped => exact .finished ha
    | cancelled => exact absurd rfl hs
  | @waiting p drained hopen =>
    obtain ⟨life, killed⟩ := p
    cases s with
    | due => exact .waiting hopen
    | exits =>
      cases life with
      | running | exited => exact .waiting (by simp [Process.exit])
      | reaped => exact .waiting hopen
    | noticed =>
      cases life with
      | running => cases drained <;> exact .waiting (by simp [Process.reap])
      | exited | reaped =>
        cases drained with
        | false => exact .waiting (by simp)
        | true => exact .buried
    | drained =>
      cases life with
      | running | exited => exact .waiting (by simp)
      | reaped => exact .buried
    | cancelled => exact absurd rfl hs

/-- The first cancellation leaves the handler in shape. -/
theorem cancel (h' : Shape c a false h) : Shape c a true (h.step c a .cancelled) := by
  cases h' with
  | delayed => exact .unborn
  | @talking e drained life ha hopen =>
    cases life with
    | running | exited => exact .waiting (by simp [Process.kill])
    | reaped => exact .buried
  | refused ha => exact .refused ha
  | finished ha => exact .finished ha

/-- Signals without a cancellation. -/
theorem run {signals : List Signal} (h' : Shape c a cancelled h)
    (hs : .cancelled ∉ signals) : Shape c a cancelled (h.run c a signals) := by
  induction signals generalizing h with
  | nil => exact h'
  | cons s rest ih =>
    rw [List.mem_cons, not_or] at hs
    exact ih (h'.step (Ne.symm hs.1)) hs.2

/-! ## Kills -/

/-- Only a cancellation kills. -/
theorem killed_step (h' : Shape c a cancelled h) (hs : s ≠ .cancelled) :
    (h.step c a s).killed = h.killed := by
  cases s with
  | due =>
    cases h' with
    | delayed => cases a <;> rfl
    | _ => rfl
  | exits =>
    unfold killed Handler.step
    cases h.process with
    | none => rfl
    | some p => exact p.exit_killed
  | noticed =>
    unfold killed Handler.step
    rw [proceed_process]
    cases h.process with
    | none => rfl
    | some p => exact p.reap_killed
  | drained =>
    unfold Handler.step killed
    dsimp only
    split
    · rw [proceed_process]
    · rw [proceed_process]
    · rfl
  | cancelled => exact absurd rfl hs

/-- A process is killed when it runs as its call is cancelled. -/
theorem killed_cancel (h' : Shape c a false h) :
    (h.step c a .cancelled).killed = h.runs := by
  cases h' with
  | delayed => rfl
  | @talking e drained life ha hopen => cases life <;> rfl
  | refused ha => rfl
  | finished ha => rfl

theorem killed_run {signals : List Signal} (h' : Shape c a cancelled h)
    (hs : .cancelled ∉ signals) : (h.run c a signals).killed = h.killed := by
  induction signals generalizing h with
  | nil => rfl
  | cons s rest ih =>
    rw [List.mem_cons, not_or] at hs
    rw [run_cons, ih (h'.step (Ne.symm hs.1)) hs.2, h'.killed_step (Ne.symm hs.1)]

end Shape

/-- Whatever comes before a cancellation and after it, and in whatever order, the handler is in
shape: when it is over, no process is left. The process was killed if and only if it ran when the
cancellation came. -/
theorem run_cancelled {before rest : List Signal} (hbefore : .cancelled ∉ before)
    (hrest : .cancelled ∉ rest) :
    Shape c a true (run c a {} (before ++ .cancelled :: rest)) ∧
      (run c a {} (before ++ .cancelled :: rest)).killed = (run c a {} before).runs := by
  have hshape : Shape c a false (run c a {} before) := Shape.delayed.run hbefore
  rw [run_append, run_cons]
  exact ⟨hshape.cancel.run hrest, by rw [hshape.cancel.killed_run hrest, hshape.killed_cancel]⟩

/-! ## The end of a call -/

/-- A call that is over stays over. -/
theorem isOver_step (hover : h.isOver = true) : (h.step c a s).isOver = true := by
  obtain ⟨stage, process⟩ := h
  cases stage with
  | done r => cases s <;> rfl
  | delayed | talking _ | waiting _ => cases hover

theorem isOver_run {signals : List Signal} (hover : h.isOver = true) :
    (h.run c a signals).isOver = true := by
  induction signals generalizing h with
  | nil => exact hover
  | cons s rest ih => exact ih (isOver_step hover)

end Handler

end Backtick
