import Backtick.Text
import Mathlib.Data.List.Infix

/-!
# Searching, cutting and trimming

What the operations on texts find and leave, in terms of the list relations.
-/

namespace Backtick.Text

/-- A run of neighbours is found exactly when it is there. -/
theorem occursIn_iff {α : Type} [BEq α] [LawfulBEq α] {needle hay : List α} :
    occursIn needle hay = true ↔ needle <:+: hay := by
  induction hay with
  | nil => rw [occursIn, List.isEmpty_iff, List.infix_nil]
  | cons x rest ih =>
    rw [occursIn, Bool.or_eq_true, List.isPrefixOf_iff_prefix, ih, List.infix_cons_iff]

/-- A text that is cut has at least one part. -/
theorem splitOnPair_ne_nil {α : Type} [BEq α] (sep : α) (l : List α) : splitOnPair sep l ≠ [] := by
  fun_cases splitOnPair sep l <;> simp [*]

/-- Where the separating element does not stand, there is one part. -/
theorem splitOn_of_notMem {α : Type} [BEq α] [LawfulBEq α] {sep : α} {l : List α} (h : sep ∉ l) :
    splitOn sep l = [l] := by
  induction l with
  | nil => rfl
  | cons x rest ih =>
    rw [List.mem_cons, not_or] at h
    have hx : (x == sep) = false := beq_eq_false_iff_ne.mpr (Ne.symm h.1)
    simp [splitOn, hx, ih h.2]

/-- The separating element stands in no part. -/
theorem notMem_of_mem_splitOn {α : Type} [BEq α] [LawfulBEq α] {sep : α} {l part : List α}
    (h : part ∈ splitOn sep l) : sep ∉ part := by
  induction l generalizing part with
  | nil =>
    rw [splitOn, List.mem_singleton] at h
    rw [h]
    exact List.not_mem_nil
  | cons x rest ih =>
    rw [splitOn] at h
    split at h
    next =>
      rcases List.mem_cons.mp h with rfl | h
      · exact List.not_mem_nil
      · exact ih h
    next hx =>
      have hne : sep ≠ x := fun he => hx (beq_iff_eq.mpr he.symm)
      split at h
      next =>
        rw [List.mem_singleton] at h
        simp [h, hne]
      next first parts hrest =>
        rcases List.mem_cons.mp h with rfl | h
        · have hfirst : sep ∉ first := ih (hrest ▸ List.mem_cons_self)
          simp [hne, hfirst]
        · exact ih (hrest ▸ List.mem_cons_of_mem _ h)

/-- What is not trimmed stays. -/
theorem mem_trim {p : CodePoint → Bool} {c : CodePoint} {t : Text} (hc : p c = false)
    (h : c ∈ t) : c ∈ trim p t := by
  have hdrop {l : Text} (h : c ∈ l) : c ∈ l.dropWhile p := by
    induction l with
    | nil => cases h
    | cons d rest ih =>
      rw [List.dropWhile_cons]
      split
      next hd =>
        rcases List.mem_cons.1 h with rfl | h
        · rw [hc] at hd
          cases hd
        · exact ih h
      next => exact h
  exact List.mem_reverse.2 (hdrop (List.mem_reverse.2 (hdrop h)))

end Backtick.Text
