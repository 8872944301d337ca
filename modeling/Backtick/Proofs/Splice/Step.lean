import Backtick.Splice
import Mathlib.Logic.Basic

/-!
# One step of the pass over the regions

The pass checks a region and goes on behind it, or stops there. A region is checked against the end
of the one before, and in a fixed order: its number, its range, and that there is a result for it.

* `resultFor?_isSome_iff`, `resultFor?_of_perm` — which result is found
* `RangeFits`, `RegionFault` — what is asked of a region, and what can be wrong with it
* `spliceFrom_cons`, `spliceFrom_cons_cases` — what the pass does with a region
-/

namespace Backtick

variable {text : Text} {results : List Replacement} {position : Nat} {index done : Int} {r : Region}
  {fault : SpliceFault}

/-! ## Results -/

/-- What is found is the text of a result with the number. -/
theorem mem_of_resultFor? {new : Text} (h : resultFor? results index = some new) :
    ∃ x ∈ results, x.index = index ∧ x.text = new := by
  obtain ⟨x, hx, rfl⟩ := Option.map_eq_some_iff.mp h
  have hindex := List.find?_some hx
  exact ⟨x, List.mem_reverse.mp (List.mem_of_find?_eq_some hx), eq_of_beq hindex, rfl⟩

/-- A result is found exactly when there is one with the number. -/
theorem resultFor?_isSome_iff :
    (∃ new, resultFor? results index = some new) ↔ ∃ x ∈ results, x.index = index := by
  constructor
  · rintro ⟨new, h⟩
    obtain ⟨x, hx, hindex, -⟩ := mem_of_resultFor? h
    exact ⟨x, hx, hindex⟩
  · rintro ⟨x, hx, rfl⟩
    have hsome : (results.reverse.find? (·.index == x.index)).isSome :=
      List.find?_isSome.mpr ⟨x, List.mem_reverse.mpr hx, beq_self_eq_true _⟩
    obtain ⟨y, hy⟩ := Option.isSome_iff_exists.mp hsome
    exact ⟨y.text, by rw [resultFor?, hy]; rfl⟩

/-- Among numbered results in any order, the one with a number is found. -/
theorem resultFor?_of_perm {o : Nat → Text} {n i : Nat}
    (h : results.Perm ((List.range n).map fun i : Nat => ⟨i, o i⟩)) (hi : i < n) :
    resultFor? results i = some (o i) := by
  have hmem : (⟨i, o i⟩ : Replacement) ∈ results :=
    h.mem_iff.mpr (List.mem_map.mpr ⟨i, List.mem_range.mpr hi, rfl⟩)
  obtain ⟨new, hnew⟩ := resultFor?_isSome_iff.mpr ⟨_, hmem, rfl⟩
  obtain ⟨x, hx, hindex, rfl⟩ := mem_of_resultFor? hnew
  obtain ⟨k, -, rfl⟩ := List.mem_map.mp (h.mem_iff.mp hx)
  rw [hnew, Int.ofNat_inj.mp hindex]

/-! ## Regions -/

/-- The range of a region lies inside the text and does not start in front of a place. -/
def RangeFits (text : Text) (done : Int) (r : Region) : Prop :=
  done ≤ r.start ∧ r.start ≤ r.stop ∧ r.stop ≤ text.length

/-- The pass stops at the range of a region exactly when it does not fit. -/
theorem not_rangeFits_iff :
    ¬ RangeFits text done r ↔
      r.start < done ∨ r.stop < r.start ∨ (text.length : Int) < r.stop := by
  unfold RangeFits
  omega

/-- What is wrong with a region at a position that may not start in front of `done`. -/
inductive RegionFault (text : Text) (results : List Replacement) (position : Nat) (done : Int)
    (r : Region) : SpliceFault → Prop where
  /-- the region has another number -/
  | outOfSequence (hindex : r.index ≠ position) :
    RegionFault text results position done r (.outOfSequence r.index position)
  /-- its range overlaps the region before, is turned round or exceeds the text -/
  | badRange (hindex : r.index = position) (hrange : ¬ RangeFits text done r) :
    RegionFault text results position done r (.badRange r)
  /-- there is no result with its number -/
  | missingResult (hindex : r.index = position) (hrange : RangeFits text done r)
    (hmissing : ∀ x ∈ results, x.index ≠ r.index) :
    RegionFault text results position done r (.missingResult r.index)

/-- A region has one fault at most. -/
theorem RegionFault.unique {fault' : SpliceFault}
    (h : RegionFault text results position done r fault)
    (h' : RegionFault text results position done r fault') : fault = fault' := by
  cases h with
  | outOfSequence hindex =>
    cases h' with
    | outOfSequence => rfl
    | badRange hindex' => exact absurd hindex' hindex
    | missingResult hindex' => exact absurd hindex' hindex
  | badRange hindex hrange =>
    cases h' with
    | outOfSequence hindex' => exact absurd hindex hindex'
    | badRange => rfl
    | missingResult _ hrange' => exact absurd hrange' hrange
  | missingResult hindex hrange _ =>
    cases h' with
    | outOfSequence hindex' => exact absurd hindex hindex'
    | badRange _ hrange' => exact absurd hrange hrange'
    | missingResult => rfl

/-- A region that passes all checks has no fault. -/
theorem not_regionFault {new : Text} (hindex : r.index = position)
    (hrange : RangeFits text done r) (hnew : resultFor? results r.index = some new) :
    ¬ RegionFault text results position done r fault := by
  rintro (hindex' | ⟨-, hrange'⟩ | ⟨-, -, hmissing⟩)
  · exact hindex' hindex
  · exact hrange' hrange
  · obtain ⟨x, hx, hxindex, -⟩ := mem_of_resultFor? hnew
    exact hmissing x hx hxindex

/-! ## The step -/

/-- Where a region passes all checks, the text in front of it is copied, its result put in, and the
pass goes on behind it. -/
theorem spliceFrom_cons {new : Text} (hindex : r.index = position)
    (hrange : RangeFits text done r) (hnew : resultFor? results r.index = some new)
    (rest : List Region) :
    spliceFrom text results position done (r :: rest) =
      (spliceFrom text results (position + 1) r.stop rest).map fun tail =>
        Text.slice text done r.start ++ new ++ tail := by
  rw [spliceFrom, if_neg (not_not.mpr hindex), if_neg (not_rangeFits_iff.not_right.mp hrange),
    hnew]

/-- The pass stops at a region that has a fault, and goes on behind one that passes all checks. -/
theorem spliceFrom_cons_cases (text : Text) (results : List Replacement) (position : Nat)
    (done : Int) (r : Region) (rest : List Region) :
    (∃ fault, RegionFault text results position done r fault ∧
      spliceFrom text results position done (r :: rest) = .error fault) ∨
    (r.index = position ∧ RangeFits text done r ∧ ∃ new, resultFor? results r.index = some new ∧
      spliceFrom text results position done (r :: rest) =
        (spliceFrom text results (position + 1) r.stop rest).map fun tail =>
          Text.slice text done r.start ++ new ++ tail) := by
  by_cases hindex : r.index = position
  · by_cases hrange : RangeFits text done r
    · cases hresult : resultFor? results r.index with
      | none =>
        have hmissing : ∀ x ∈ results, x.index ≠ r.index := by
          intro x hx heq
          obtain ⟨new, hnew⟩ := resultFor?_isSome_iff.mpr ⟨x, hx, heq⟩
          rw [hresult] at hnew
          cases hnew
        refine Or.inl ⟨_, .missingResult hindex hrange hmissing, ?_⟩
        rw [spliceFrom, if_neg (not_not.mpr hindex),
          if_neg (not_rangeFits_iff.not_right.mp hrange), hresult]
      | some new =>
        exact Or.inr ⟨hindex, hrange, new, rfl, spliceFrom_cons hindex hrange hresult rest⟩
    · refine Or.inl ⟨_, .badRange hindex hrange, ?_⟩
      rw [spliceFrom, if_neg (not_not.mpr hindex), if_pos (not_rangeFits_iff.mp hrange)]
  · refine Or.inl ⟨_, .outOfSequence hindex, ?_⟩
    rw [spliceFrom, if_pos hindex]

end Backtick
