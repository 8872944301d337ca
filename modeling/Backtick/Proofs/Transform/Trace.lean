import Backtick.Proofs.Transform.Job

/-!
# Traces

What a trace says about calls: which started, which ended, which go on, and when. A call whose
position stands only once among the started ones has one time of start.
-/

namespace Backtick.Transform

/-- The positions whose calls ended, in order. -/
def ended (trace : List Event) : List Nat :=
  trace.filterMap fun
    | .ended p _ _ => some p
    | .started .. => none

@[simp] theorem started_append (a b : List Event) : started (a ++ b) = started a ++ started b :=
  List.filterMap_append

@[simp] theorem ended_append (a b : List Event) : ended (a ++ b) = ended a ++ ended b :=
  List.filterMap_append

@[simp] theorem started_started (p : Nat) (t : Rat) : started [.started p t] = [p] := rfl

@[simp] theorem started_ended (p : Nat) (t : Rat) (how : Ending) : started [.ended p t how] = [] :=
  rfl

@[simp] theorem ended_started (p : Nat) (t : Rat) : ended [.started p t] = [] := rfl

@[simp] theorem ended_ended (p : Nat) (t : Rat) (how : Ending) : ended [.ended p t how] = [p] := rfl

theorem mem_started {p : Nat} {trace : List Event} :
    p ∈ started trace ↔ ∃ t, Event.started p t ∈ trace := by
  constructor
  · intro h
    obtain ⟨e, he, hp⟩ := List.mem_filterMap.mp h
    cases e with
    | started q t =>
      cases hp
      exact ⟨t, he⟩
    | ended q t how => cases hp
  · rintro ⟨t, h⟩
    exact List.mem_filterMap.mpr ⟨_, h, rfl⟩

theorem exists_of_mem_ended {p : Nat} {trace : List Event} (h : p ∈ ended trace) :
    ∃ t how, Event.ended p t how ∈ trace := by
  obtain ⟨e, he, hp⟩ := List.mem_filterMap.mp h
  cases e with
  | started q t => cases hp
  | ended q t how =>
    cases hp
    exact ⟨t, how, he⟩

/-! ## Calls that go on -/

/-- The positions whose calls go on behind a trace: they have started and not ended. -/
def ongoing (trace : List Event) : List Nat :=
  (started trace).filter fun p => p ∉ ended trace

theorem mem_ongoing {p : Nat} {trace : List Event} :
    p ∈ ongoing trace ↔ p ∈ started trace ∧ p ∉ ended trace := by
  simp [ongoing]

/-- When every call that started has ended once or is one of some others, these go on. -/
theorem ongoing_perm {trace : List Event} {others : List Nat}
    (h : (ended trace ++ others).Perm (started trace)) (hnodup : (started trace).Nodup) :
    (ongoing trace).Perm others := by
  have hsep := (List.nodup_append.mp (h.nodup_iff.mpr hnodup)).2.2
  have hended : (ended trace).filter (fun p => p ∉ ended trace) = [] :=
    List.filter_eq_nil_iff.mpr fun p hp hnot => of_decide_eq_true hnot hp
  have hothers : others.filter (fun p => p ∉ ended trace) = others :=
    List.filter_eq_self.mpr fun p hp => decide_eq_true fun hmem => hsep p hmem p hp rfl
  have hfilter := h.filter fun p => p ∉ ended trace
  rw [List.filter_append, hended, List.nil_append, hothers] at hfilter
  exact hfilter.symm

/-- A start adds at most one call to those that go on. -/
theorem ongoing_length_started (trace : List Event) (p : Nat) (t : Rat) :
    (ongoing (trace ++ [.started p t])).length ≤ (ongoing trace).length + 1 := by
  have hended : ended (trace ++ [.started p t]) = ended trace := by simp
  unfold ongoing
  rw [hended, started_append, List.filter_append, List.length_append]
  exact Nat.add_le_add_left (List.length_filter_le ..) _

/-- An end adds no call to those that go on. -/
theorem ongoing_length_ended (trace : List Event) (p : Nat) (t : Rat) (how : Ending) :
    (ongoing (trace ++ [.ended p t how])).length ≤ (ongoing trace).length := by
  have hstarted : started (trace ++ [.ended p t how]) = started trace := by simp
  unfold ongoing
  rw [hstarted]
  refine (List.monotone_filter_right _ fun q hq => ?_).length_le
  rw [decide_eq_true_eq, ended_append, List.mem_append, not_or] at hq
  exact decide_eq_true hq.1

/-- At no moment of a trace do more than so many calls go on. -/
def Capped (k : Nat) (trace : List Event) : Prop :=
  ∀ before, before <+: trace → (ongoing before).length ≤ k

theorem capped_nil (k : Nat) : Capped k [] := by
  intro before hbefore
  rw [List.prefix_nil.mp hbefore]
  exact Nat.zero_le k

theorem Capped.concat {k : Nat} {trace : List Event} {e : Event} (h : Capped k trace)
    (hlast : (ongoing (trace ++ [e])).length ≤ k) : Capped k (trace ++ [e]) := by
  intro before hbefore
  rcases List.prefix_concat_iff.mp hbefore with rfl | hbefore
  · exact hlast
  · exact h before hbefore

/-- Ends keep a trace below its cap. -/
theorem Capped.append_ended {k : Nat} {trace more : List Event} (h : Capped k trace)
    (hmore : started more = []) : Capped k (trace ++ more) := by
  induction more generalizing trace with
  | nil => rwa [List.append_nil]
  | cons e rest ih =>
    cases e with
    | started p t => cases hmore
    | ended p t how =>
      rw [List.append_cons]
      refine ih (h.concat ?_) hmore
      exact (ongoing_length_ended trace p t how).trans (h trace (List.prefix_refl trace))

/-! ## Times of start -/

/-- A call that starts only once starts at one time. -/
theorem started_unique {trace : List Event} (h : (started trace).Nodup) {p : Nat} {t t' : Rat}
    (ht : Event.started p t ∈ trace) (ht' : Event.started p t' ∈ trace) : t = t' := by
  induction trace with
  | nil => cases ht
  | cons e rest ih =>
    have happ : started (e :: rest) = started [e] ++ started rest := started_append [e] rest
    rw [happ] at h
    have hrest := (List.nodup_append.mp h).2.1
    have hsep := (List.nodup_append.mp h).2.2
    rcases List.mem_cons.mp ht with rfl | ht
    · rcases List.mem_cons.mp ht' with he | ht'
      · cases he; rfl
      · exact absurd rfl (hsep p (by simp) p (mem_started.mpr ⟨t', ht'⟩))
    · rcases List.mem_cons.mp ht' with he | ht'
      · exact absurd rfl (hsep p (by rw [← he]; simp) p (mem_started.mpr ⟨t, ht⟩))
      · exact ih hrest ht ht'

end Backtick.Transform
