import Backtick.Proofs.Splice.Refuse
import Backtick.Proofs.Text.Offset

/-!
# Splicing forwards and replacing backwards

Splicing copies the text from front to back and puts the results in as it passes the regions. The
same text is made by replacing one region after the other from the last one to the first: a
replacement moves only what stands behind it, so the offsets of the regions in front stay right.

* `replaceBackwards_eq` — in the text that is made backwards, what stands in front of a place is
  unchanged, and behind it stands what the forward pass makes from there on
* `splice_backwards` — the spliced text, for the results in any order
-/

namespace Backtick

variable {text : Text} {regions : List Region} {results : List Replacement} {o : Nat → Text}
  {position done : Nat}

/-- Regions from a position on with their new texts: each with the text that has its position. -/
def withTexts (o : Nat → Text) (position : Nat) (regions : List Region) : List (Region × Text) :=
  (regions.zipIdx position).map fun (r, i) => (r, o i)

/-- Replacing between two places of a text that is unchanged up to the second one. -/
theorem replace_between {a b : Nat} (hab : a ≤ b) (hb : b ≤ text.length) (new tail : Text) :
    Text.slice (text.take b ++ tail) 0 (a : Int) ++ new ++
        Text.slice (text.take b ++ tail) (b : Int) ((text.take b ++ tail).length : Nat) =
      text.take a ++ new ++ tail := by
  have hlength : (text.take b).length = b := List.length_take_of_le hb
  have hfront : Text.slice (text.take b ++ tail) 0 (a : Int) = text.take a := by
    show Text.slice _ ((0 : Nat) : Int) (a : Int) = _
    rw [Text.slice_natCast, List.drop_zero, List.take_append_of_le_length (by omega),
      List.take_take, Nat.min_eq_left hab]
  have hback : Text.slice (text.take b ++ tail) (b : Int) ((text.take b ++ tail).length : Nat) =
      tail := by
    rw [Text.slice_natCast, List.take_length]
    exact List.drop_left' hlength
  rw [hfront, hback]

/-- What is made backwards from the regions behind a place is the text in front of the place and
what the forward pass makes from there on. -/
theorem replaceBackwards_eq (hfollow : FollowFrom text.length position done regions)
    (hdone : done ≤ text.length)
    (hresults : ∀ i, position ≤ i → i < position + regions.length →
      resultFor? results i = some (o i)) :
    ∃ tail, spliceFrom text results position done regions = .ok tail ∧
      replaceBackwards text (withTexts o position regions) = text.take done ++ tail := by
  induction regions generalizing position done with
  | nil =>
    refine ⟨text.drop done, ?_, (List.take_append_drop done text).symm⟩
    rw [spliceFrom, Text.slice_natCast, List.take_length]
  | cons r rest ih =>
    obtain ⟨index, start, stop⟩ := r
    obtain ⟨hindex, hstart, hle, hend, hrest⟩ := hfollow
    dsimp only at hindex hstart hle hend hrest
    -- the ends of the region lie behind `done`, so they are no negative numbers
    obtain ⟨a, rfl⟩ := Int.eq_ofNat_of_zero_le (show 0 ≤ start by omega)
    obtain ⟨b, rfl⟩ := Int.eq_ofNat_of_zero_le (show 0 ≤ stop by omega)
    subst hindex
    have hnew : resultFor? results position = some (o position) :=
      hresults position (Nat.le_refl _) (by simp)
    obtain ⟨tail, htail, hback⟩ := ih hrest (by omega) fun i hi hlt =>
      hresults i (by omega) (by rw [List.length_cons]; omega)
    refine ⟨Text.slice text (done : Int) (a : Int) ++ o position ++ tail, ?_, ?_⟩
    · rw [spliceFrom_cons rfl ⟨hstart, hle, hend⟩ hnew, htail]
      rfl
    · have hcons : withTexts o position (⟨position, a, b⟩ :: rest) =
          (⟨position, a, b⟩, o position) :: withTexts o (position + 1) rest := rfl
      rw [hcons, replaceBackwards, hback]
      dsimp only
      rw [replace_between (by omega) (by omega), Text.slice_natCast, ← List.append_assoc,
        ← List.append_assoc, ← take_eq_append text (by omega)]

/-- Results that fit to regions are numbered texts, in some order. -/
theorem Consistent.exists_texts (h : Consistent text regions results) :
    ∃ o : Nat → Text, results.Perm ((List.range regions.length).map fun i : Nat => ⟨i, o i⟩) := by
  let o : Nat → Text := fun i => (resultFor? results i).getD []
  refine ⟨o, ?_⟩
  have hself : results = (results.map (·.index)).map fun i : Int => ⟨i, o i.toNat⟩ := by
    rw [List.map_map]
    refine (List.map_id results).symm.trans (List.map_congr_left fun x hx => ?_)
    obtain ⟨i, -, hi⟩ := List.mem_map.mp (h.matched.mem_iff.mp (List.mem_map_of_mem hx))
    have hfound := h.resultFor?_eq hx
    rw [← hi] at hfound
    show x = ⟨x.index, o x.index.toNat⟩
    rw [← hi, Int.toNat_natCast]
    show x = ⟨(i : Int), (resultFor? results i).getD []⟩
    rw [hfound, hi]
    rfl
  have hperm := h.matched.map fun i : Int => (⟨i, o i.toNat⟩ : Replacement)
  rw [← hself, numbers, List.map_map] at hperm
  exact hperm

/-- **Splicing makes the same text as replacing backwards.** Where splicing succeeds, each position
has one result. In whichever order the results are given, the spliced text is the one that is made
by replacing the regions one after the other from the last to the first, each by the result with its
position. -/
theorem splice_backwards {out : Text} (h : splice text regions results = .ok out) :
    ∃ o : Nat → Text,
      results.Perm ((List.range regions.length).map fun i : Nat => ⟨i, o i⟩) ∧
      out = replaceBackwards text (withTexts o 0 regions) ∧
      ∀ results' : List Replacement, results'.Perm results →
        splice text regions results' = .ok out := by
  have hconsistent := splice_isOk_iff_consistent.mp ⟨out, h⟩
  obtain ⟨o, ho⟩ := hconsistent.exists_texts
  have hfollow := (splice_isOk_iff.mp ⟨out, h⟩).2.1
  have hall : ∀ results' : List Replacement, results'.Perm results →
      splice text regions results' =
        .ok (replaceBackwards text (withTexts o 0 regions)) := by
    intro results' hperm
    have hresults : ∀ i, 0 ≤ i → i < 0 + regions.length →
        resultFor? results' i = some (o i) :=
      fun i _ hi => resultFor?_of_perm (hperm.trans ho) (by omega)
    obtain ⟨tail, htail, hback⟩ := replaceBackwards_eq hfollow (Nat.zero_le _) hresults
    have hcount : results'.length = regions.length := hperm.length_eq.trans hconsistent.count
    unfold splice
    rw [if_neg (not_not.mpr hcount)]
    exact htail.trans (congrArg _ hback.symm)
  have hout := hall results (.refl _)
  rw [h] at hout
  cases hout
  exact ⟨o, ho, rfl, hall⟩

/-- Regions at both edges of a text, one without characters and two that touch. -/
theorem splice_edges :
    splice "abc" [⟨0, 0, 0⟩, ⟨1, 0, 1⟩, ⟨2, 1, 3⟩] [⟨2, ""⟩, ⟨0, "xy"⟩, ⟨1, "z"⟩] =
        .ok "xyz" ∧
      ∃ o : Nat → Text, [⟨2, ""⟩, ⟨0, "xy"⟩, ⟨1, "z"⟩].Perm
          ((List.range 3).map fun i : Nat => (⟨i, o i⟩ : Replacement)) ∧
        Text.ofString "xyz" = replaceBackwards "abc"
          (withTexts o 0 [⟨0, 0, 0⟩, ⟨1, 0, 1⟩, ⟨2, 1, 3⟩]) := by
  have h : splice "abc" [⟨0, 0, 0⟩, ⟨1, 0, 1⟩, ⟨2, 1, 3⟩]
      [⟨2, ""⟩, ⟨0, "xy"⟩, ⟨1, "z"⟩] = .ok "xyz" := by decide
  obtain ⟨o, hperm, hout, -⟩ := splice_backwards h
  exact ⟨h, o, hperm, hout⟩

end Backtick
