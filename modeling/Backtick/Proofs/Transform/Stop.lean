import Backtick.Proofs.Transform.Ledger

/-!
# The end of a run

When a run ends, the calls that still go on are stopped, and the run waits for those that it cancels
itself. A call that was cancelled before, because its time was up, goes on unwinding. If it has not
ended by then, it goes on behind the run.

* `State.clock_le_returnsAt`, `State.returnsAt_cases` — for how long a run waits
* `State.ended_mem_stop` — the ends that are added
* `State.mem_running_stop` — the calls that go on behind a run
* `Balanced.stop` — every call that started has ended once or goes on
-/

namespace Backtick.Transform

variable {l : Limit} {s : State}

namespace State

/-! ## The latest of several times -/

theorem later_eq_max (a b : Rat) : later a b = max a b := (max_def a b).symm

theorem le_foldl_later (ts : List Rat) (t : Rat) :
    t ≤ ts.foldl later t ∧ ∀ u ∈ ts, u ≤ ts.foldl later t := by
  induction ts generalizing t with
  | nil => exact ⟨le_rfl, nofun⟩
  | cons x rest ih =>
    obtain ⟨hlater, hrest⟩ := ih (later t x)
    rw [later_eq_max, max_le_iff] at hlater
    exact ⟨hlater.1, List.forall_mem_cons.mpr ⟨hlater.2, hrest⟩⟩

theorem foldl_later_mem (ts : List Rat) (t : Rat) : ts.foldl later t ∈ t :: ts := by
  induction ts generalizing t with
  | nil => exact List.mem_singleton_self t
  | cons x rest ih =>
    rcases List.mem_cons.mp (ih (later t x)) with h | h
    · rw [List.foldl_cons, h, later_eq_max]
      rcases max_choice t x with h | h <;> simp [h]
    · exact List.mem_cons_of_mem _ (List.mem_cons_of_mem _ h)

/-! ## Waiting for calls -/

/-- The run waits for a call that goes on: it was not cancelled before. -/
def Awaited (l : Limit) (s : State) (r : Running) : Prop :=
  r ∈ s.unfinished ∧ r.lapsed? l s.clock = none

theorem clock_le_returnsAt : s.clock ≤ s.returnsAt l := (le_foldl_later _ _).1

/-- The run waits until a call that it cancels has unwound. -/
theorem unwound_le_returnsAt {r : Running} (h : s.Awaited l r) :
    r.unwound s.clock ≤ s.returnsAt l := by
  refine (le_foldl_later _ _).2 _ (List.mem_map_of_mem (List.mem_filter.mpr ⟨h.1, ?_⟩))
  rw [h.2]
  rfl

/-- The run waits for nothing else. -/
theorem returnsAt_cases :
    s.returnsAt l = s.clock ∨ ∃ r, s.Awaited l r ∧ s.returnsAt l = r.unwound s.clock := by
  rcases List.mem_cons.mp (foldl_later_mem ((s.unfinished.filter fun r =>
    (r.lapsed? l s.clock).isNone).map (·.unwound s.clock)) s.clock) with h | h
  · exact Or.inl h
  · obtain ⟨r, hr, he⟩ := List.mem_map.mp h
    obtain ⟨hr, hnone⟩ := List.mem_filter.mp hr
    exact Or.inr ⟨r, ⟨hr, Option.isNone_iff_eq_none.mp hnone⟩, he.symm⟩

/-! ## What stopping does to a state -/

theorem enqueue_perm (l : Limit) (now : Rat) (r : Running) (rs : List Running) :
    (enqueue l now r rs).Perm (r :: rs) := by
  induction rs with
  | nil => exact .refl _
  | cons x rest ih =>
    unfold enqueue
    split
    · exact .refl _
    · exact (ih.cons x).trans (.swap r x rest)

theorem stopping_perm (l : Limit) (s : State) :
    (s.stopping l).Perm (s.unfinished.filter fun r => (r.halt l s.clock).1 ≤ s.returnsAt l) := by
  unfold stopping
  induction s.unfinished.filter _ with
  | nil => exact .refl _
  | cons r rest ih => exact (enqueue_perm l s.clock r _).trans (ih.cons r)

theorem started_stopping (l : Limit) (s : State) :
    started ((s.stopping l).map (haltEvent l s.clock)) = [] := by
  simp [started, haltEvent]

theorem ended_stopping (l : Limit) (s : State) :
    ended ((s.stopping l).map (haltEvent l s.clock)) = (s.stopping l).map (·.position) := by
  simp [ended, haltEvent, Function.comp_def]

theorem started_stop (l : Limit) (s : State) :
    started (s.stop l).trace = started s.trace := by
  show started (s.trace ++ _) = _
  rw [started_append, started_stopping, List.append_nil]

/-- Stopping starts no call. -/
theorem started_mem_stop {p : Nat} {t : Rat} :
    .started p t ∈ (s.stop l).trace ↔ .started p t ∈ s.trace := by
  refine List.mem_append.trans (or_iff_left ?_)
  simp [haltEvent]

/-- Stopping ends the calls whose ends come while the run waits. -/
theorem ended_mem_stop {p : Nat} {t : Rat} {how : Ending} :
    .ended p t how ∈ (s.stop l).trace ↔ .ended p t how ∈ s.trace ∨
      ∃ r ∈ s.unfinished, r.position = p ∧ r.halt l s.clock = (t, how) ∧ t ≤ s.returnsAt l := by
  refine List.mem_append.trans (or_congr_right ?_)
  simp only [List.mem_map, (stopping_perm l s).mem_iff, List.mem_filter, decide_eq_true_eq,
    haltEvent, Event.ended.injEq, Prod.ext_iff]
  constructor
  · rintro ⟨r, ⟨hr, hle⟩, rfl, rfl, rfl⟩
    exact ⟨r, hr, rfl, ⟨rfl, rfl⟩, hle⟩
  · rintro ⟨r, hr, rfl, ⟨rfl, rfl⟩, hle⟩
    exact ⟨r, ⟨hr, hle⟩, rfl, rfl, rfl⟩

/-- Only a call that was cancelled before goes on behind the run. -/
theorem mem_running_stop {r : Running} :
    r ∈ (s.stop l).running ↔
      r ∈ s.unfinished ∧ ∃ t, r.lapsed? l s.clock = some t ∧ s.returnsAt l < r.unwound t := by
  refine List.mem_filter.trans (and_congr_right fun hr => ?_)
  unfold Running.halt
  cases hlapsed : r.lapsed? l s.clock with
  | none => simpa using unwound_le_returnsAt ⟨hr, hlapsed⟩
  | some t => simp

/-- Where no call goes on there is nothing to stop. -/
theorem stop_of_idle (h : s.running = []) : s.stop l = s := by
  cases s
  cases h
  simp [stop, returnsAt, stopping, unfinished]

end State

/-- When a run is stopped every call that started has ended once or goes on behind it. -/
theorem Balanced.stop (h : Balanced [] s) : Balanced [] (s.stop l) := by
  -- a call ends until the run is over, or goes on behind it
  have hsplit : (s.stopping l ++ (s.stop l).running).Perm s.unfinished := by
    refine ((s.stopping_perm l).append_right _).trans ?_
    have hlast : (s.stop l).running =
        s.unfinished.filter fun r => !decide ((r.halt l s.clock).1 ≤ s.returnsAt l) := by
      refine List.filter_congr fun r _ => ?_
      rw [← decide_not]
      exact decide_eq_decide.mpr not_le.symm
    rw [hlast]
    exact List.filter_append_perm _ _
  have hopen : openPositions ((s.stop l).running ++ []) =
      (s.stop l).running.map (·.position) := by
    unfold openPositions
    rw [List.append_nil, List.filter_eq_self.mpr]
    intro r hr
    exact (List.mem_filter.mp (State.mem_running_stop.mp hr).1).2
  unfold Balanced at h ⊢
  rw [State.started_stop, hopen]
  refine List.Perm.trans ?_ h
  show (ended (s.trace ++ _) ++ _).Perm _
  rw [ended_append, State.ended_stopping, List.append_assoc, List.append_nil, ← List.map_append]
  exact (hsplit.map _).append_left _

end Backtick.Transform
