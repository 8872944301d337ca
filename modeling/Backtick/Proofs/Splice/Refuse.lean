import Backtick.Proofs.Outcome
import Backtick.Proofs.Splice.Accept
import Mathlib.Data.List.Perm.Subperm
import Mathlib.Data.List.Nodup

/-!
# What splicing refuses, and why

The pass over the regions stops at the first region that does not fit. So splicing is refused with
the fault of the least position, and where a region has several faults, its number counts before its
range and its range before its result. What is not refused are regions that follow each other in the
text together with results whose numbers are those of the regions, each used once.

* `FirstFault`, `spliceFrom_eq_error_iff` — the pass stops at the first region that does not fit
* `Consistent`, `splice_isOk_iff_consistent` — what is accepted
* `splice_verdict` — when splicing succeeds, and why it fails
-/

namespace Backtick

variable {text : Text} {regions : List Region} {results : List Replacement}
  {position : Nat} {done : Int} {r : Region} {fault : SpliceFault}

/-- Where the region at a position may start: at the end of the region before it, and the first one
at the place that is given. -/
def startLimit (done : Int) (regions : List Region) (i : Nat) : Int :=
  (done :: regions.map (·.stop)).getD i 0

/-! ## The first fault -/

/-- The fault of the first region that has one, where the regions are numbered from `position` on
and the first one may not start in front of `done`. -/
def FirstFault (text : Text) (results : List Replacement) (position : Nat) (done : Int)
    (regions : List Region) (fault : SpliceFault) : Prop :=
  ∃ i r, regions[i]? = some r ∧
    RegionFault text results (position + i) (startLimit done regions i) r fault ∧
    ∀ j < i, ∀ r', regions[j]? = some r' →
      ∀ f, ¬ RegionFault text results (position + j) (startLimit done regions j) r' f

/-- The first fault is that of the first region, if it has one, and otherwise that of the regions
behind it. -/
theorem firstFault_cons {rest : List Region} :
    FirstFault text results position done (r :: rest) fault ↔
      RegionFault text results position done r fault ∨
        (∀ f, ¬ RegionFault text results position done r f) ∧
          FirstFault text results (position + 1) r.stop rest fault := by
  constructor
  · rintro ⟨i, r', hr', hfault, hbefore⟩
    cases i with
    | zero =>
      cases hr'
      exact Or.inl hfault
    | succ i =>
      refine Or.inr ⟨hbefore 0 (Nat.succ_pos i) r rfl, i, r', hr', ?_, ?_⟩
      · rw [Nat.add_right_comm]
        exact hfault
      · intro j hj r'' hr'' f
        rw [Nat.add_right_comm]
        exact hbefore (j + 1) (Nat.succ_lt_succ hj) r'' hr'' f
  · rintro (hfault | ⟨hnone, i, r', hr', hfault, hbefore⟩)
    · exact ⟨0, r, rfl, hfault, nofun⟩
    · rw [Nat.add_right_comm] at hfault
      refine ⟨i + 1, r', hr', hfault, ?_⟩
      intro j hj r'' hr'' f
      cases j with
      | zero =>
        cases hr''
        exact hnone f
      | succ j =>
        have hf := hbefore j (Nat.lt_of_succ_lt_succ hj) r'' hr'' f
        rw [Nat.add_right_comm] at hf
        exact hf

/-- **The pass stops at the first region that does not fit**, with the fault of that region. -/
theorem spliceFrom_eq_error_iff :
    spliceFrom text results position done regions = .error fault ↔
      FirstFault text results position done regions fault := by
  induction regions generalizing position done with
  | nil =>
    constructor
    · exact nofun
    · rintro ⟨i, r, hr, -⟩
      cases hr
  | cons r rest ih =>
    rw [firstFault_cons]
    rcases spliceFrom_cons_cases text results position done r rest with
      ⟨f, hf, heq⟩ | ⟨hindex, hrange, new, hnew, heq⟩
    · rw [heq]
      constructor
      · intro h
        cases h
        exact Or.inl hf
      · rintro (h | ⟨hnone, -⟩)
        · rw [hf.unique h]
        · exact absurd hf (hnone f)
    · have hnone : ∀ f, ¬ RegionFault text results position done r f :=
        fun f => not_regionFault hindex hrange hnew
      rw [heq, map_eq_error, ih]
      constructor
      · exact fun h => Or.inr ⟨hnone, h⟩
      · rintro (h | ⟨-, h⟩)
        · exact absurd h (hnone fault)
        · exact h

/-! ## What is accepted -/

/-- Regions follow each other exactly when each has its number and a range that fits. -/
theorem followFrom_iff :
    FollowFrom text.length position done regions ↔
      ∀ (i : Nat) r, regions[i]? = some r →
        r.index = (position + i : Nat) ∧ RangeFits text (startLimit done regions i) r := by
  induction regions generalizing position done with
  | nil =>
    refine ⟨fun _ i r hr => ?_, fun _ => trivial⟩
    cases hr
  | cons r rest ih =>
    rw [followFrom_cons, ih]
    constructor
    · rintro ⟨hindex, hrange, hrest⟩ i r' hr'
      cases i with
      | zero =>
        cases hr'
        exact ⟨hindex, hrange⟩
      | succ i =>
        rw [← Nat.add_assoc, Nat.add_right_comm]
        exact hrest i r' hr'
    · intro h
      obtain ⟨hindex, hrange⟩ := h 0 r rfl
      refine ⟨hindex, hrange, fun i r' hr' => ?_⟩
      rw [Nat.add_right_comm]
      exact h (i + 1) r' hr'

/-- Regions that follow each other are numbered in order. -/
theorem FollowFrom.map_index {length : Nat} (h : FollowFrom length position done regions) :
    regions.map (·.index) =
      (List.range' position regions.length).map fun i : Nat => (i : Int) := by
  induction regions generalizing position done with
  | nil => rfl
  | cons r rest ih =>
    obtain ⟨hindex, -, -, -, hrest⟩ := h
    rw [List.map_cons, List.length_cons, List.range'_succ, List.map_cons, hindex, ih hrest]

/-- The numbers from zero on, as many as given. -/
def numbers (n : Nat) : List Int := (List.range n).map fun i : Nat => (i : Int)

theorem nodup_numbers (n : Nat) : (numbers n).Nodup :=
  List.nodup_range.map fun _ _ h => Int.ofNat_inj.mp h

/-- As many results as numbers, and one for each number: the results have these numbers, and each
once. -/
theorem perm_numbers_iff {n : Nat} (hlength : results.length = n) :
    (results.map (·.index)).Perm (numbers n) ↔ ∀ i ∈ numbers n, ∃ x ∈ results, x.index = i := by
  constructor
  · intro h i hi
    exact List.mem_map.mp (h.mem_iff.mpr hi)
  · intro h
    -- the numbers are distinct and as many as the results, so no result is left over
    have hsubset : numbers n ⊆ results.map (·.index) := fun i hi => List.mem_map.mpr (h i hi)
    have hle : (results.map (·.index)).length ≤ (numbers n).length := by
      unfold numbers
      rw [List.length_map, List.length_map, List.length_range]
      exact Nat.le_of_eq hlength
    exact (((nodup_numbers n).subperm hsubset).perm_of_length_le hle).symm

/-- Regions and results fit together: there are as many results as regions, each region has its
position as its number and a range that fits behind the region before it, and the numbers of the
results are those of the regions. -/
structure Consistent (text : Text) (regions : List Region) (results : List Replacement) :
    Prop where
  count : results.length = regions.length
  fits : ∀ (i : Nat) r, regions[i]? = some r →
    r.index = i ∧ RangeFits text (startLimit 0 regions i) r
  matched : (results.map (·.index)).Perm (numbers regions.length)

/-- Splicing succeeds exactly for regions and results that fit together. -/
theorem splice_isOk_iff_consistent :
    (∃ out, splice text regions results = .ok out) ↔ Consistent text regions results := by
  rw [splice_isOk_iff]
  have hnumbered : FollowFrom text.length 0 0 regions →
      regions.map (·.index) = numbers regions.length := by
    intro h
    rw [h.map_index, ← List.range_eq_range']
    rfl
  have hfits : FollowFrom text.length 0 0 regions ↔
      ∀ (i : Nat) r, regions[i]? = some r →
        r.index = i ∧ RangeFits text (startLimit 0 regions i) r := by
    rw [followFrom_iff]
    simp only [Nat.zero_add]
  constructor
  · rintro ⟨hlength, hfollow, hresults⟩
    refine ⟨hlength, hfits.mp hfollow, (perm_numbers_iff hlength).mpr ?_⟩
    intro i hi
    rw [← hnumbered hfollow] at hi
    obtain ⟨r, hr, rfl⟩ := List.mem_map.mp hi
    exact hresults r hr
  · rintro ⟨hlength, hregions, hmatched⟩
    have hfollow := hfits.mpr hregions
    refine ⟨hlength, hfollow, fun r hr => (perm_numbers_iff hlength).mp hmatched r.index ?_⟩
    rw [← hnumbered hfollow]
    exact List.mem_map_of_mem hr

/-- Where regions and results fit together, a result is found by its number. -/
theorem Consistent.resultFor?_eq (h : Consistent text regions results) {x : Replacement}
    (hx : x ∈ results) : resultFor? results x.index = some x.text := by
  obtain ⟨new, hnew⟩ := resultFor?_isSome_iff.mpr ⟨x, hx, rfl⟩
  obtain ⟨y, hy, hindex, rfl⟩ := mem_of_resultFor? hnew
  have hnodup : (results.map (·.index)).Nodup := h.matched.nodup_iff.mpr (nodup_numbers _)
  rw [hnew, List.inj_on_of_nodup_map hnodup hy hx hindex]

/-- Where regions and results fit together, each result is for a region. -/
theorem Consistent.exists_region (h : Consistent text regions results) {x : Replacement}
    (hx : x ∈ results) : ∃ r ∈ regions, r.index = x.index := by
  have hnumber : x.index ∈ numbers regions.length :=
    h.matched.mem_iff.mp (List.mem_map_of_mem hx)
  obtain ⟨i, hi, hindex⟩ := List.mem_map.mp hnumber
  have hlt : i < regions.length := List.mem_range.mp hi
  have hfits := h.fits i regions[i] (List.getElem?_eq_getElem hlt)
  exact ⟨regions[i], List.getElem_mem hlt, hfits.1.trans hindex⟩

/-! ## The verdict -/

/-- Splicing fails because of the number of results, and otherwise because of the first region that
has a fault. -/
theorem splice_eq_error_iff :
    splice text regions results = .error fault ↔
      results.length ≠ regions.length ∧
          fault = .countMismatch regions.length results.length ∨
        results.length = regions.length ∧ FirstFault text results 0 0 regions fault := by
  unfold splice
  by_cases hlength : results.length = regions.length
  · rw [if_neg (not_not.mpr hlength), spliceFrom_eq_error_iff]
    constructor
    · exact fun h => Or.inr ⟨hlength, h⟩
    · rintro (⟨hne, -⟩ | ⟨-, h⟩)
      · exact absurd hlength hne
      · exact h
  · rw [if_pos hlength]
    constructor
    · intro h
      cases h
      exact Or.inl ⟨hlength, rfl⟩
    · rintro (⟨-, rfl⟩ | ⟨heq, -⟩)
      · rfl
      · exact absurd heq hlength

/-- Every fault is reported as an error of splicing. -/
theorem SpliceFault.toError_code (fault : SpliceFault) : fault.toError.code = .spliceError := by
  cases fault <;> rfl

/-- **Splicing succeeds exactly for regions and results that fit together.** Everything else is
refused with an error of splicing: another number of results than of regions as such, and otherwise
the first region that has a fault, with its fault. What is accepted uses each result once, for the
region with the result's number. -/
theorem splice_verdict (text : Text) (regions : List Region) (results : List Replacement) :
    ((∃ out, splice text regions results = .ok out) ↔ Consistent text regions results) ∧
    (∀ fault, splice text regions results = .error fault ↔
      results.length ≠ regions.length ∧
          fault = .countMismatch regions.length results.length ∨
        results.length = regions.length ∧ FirstFault text results 0 0 regions fault) ∧
    (∀ fault, splice text regions results = .error fault → fault.toError.code = .spliceError) ∧
    (Consistent text regions results → ∀ x ∈ results,
      (∃ r ∈ regions, r.index = x.index) ∧ resultFor? results x.index = some x.text) :=
  ⟨splice_isOk_iff_consistent, fun _ => splice_eq_error_iff, fun fault _ => fault.toError_code,
    fun h _ hx => ⟨h.exists_region hx, h.resultFor?_eq hx⟩⟩

/-- The missing result of the first region counts before the wrong number of the second one. -/
example : splice "ab" [⟨0, 0, 1⟩, ⟨5, 1, 2⟩] [⟨1, "x"⟩, ⟨1, "y"⟩] = .error (.missingResult 0) := by
  decide

end Backtick
