import Backtick.Proofs.Splice.Accept
import Backtick.Proofs.Splice.Bytes

/-!
# Located regions fit the splicer

Nodes that follow each other in the bytes have insides that follow each other in the characters.
Between two of them stand at least the last character of the one node and the first character of the
next. So the regions that are located pass every check of the splicer, whatever the results and in
whichever order they are given.

* `Node.Insides.follow` — the insides of nodes are regions that follow each other
* `Node.Insides.gap` — two characters stand between them
-/

namespace Backtick

open Utf8

variable {source : Bytes} {text : Text} {nodes : List Node} {root : Node} {q : Query}
  {index done low high : Nat}

/-- Every region of insides is that of a node. -/
theorem exists_of_insides_getElem? {i : Nat} {r : Region}
    (h : (insides source nodes)[i]? = some r) :
    ∃ n, nodes[i]? = some n ∧ r = insideOf source n i := by
  unfold insides at h
  rw [List.getElem?_map, List.getElem?_zipIdx, Option.map_map] at h
  obtain ⟨n, hn, rfl⟩ := Option.map_eq_some_iff.mp h
  refine ⟨n, hn, ?_⟩
  simp

namespace Node

/-- No node among nodes that follow each other starts in front of the first offset. -/
theorem InOrder.low_le_start {m : Node} (h : InOrder low high nodes) (hm : m ∈ nodes) :
    low ≤ m.start := by
  induction nodes generalizing low with
  | nil => cases hm
  | cons first rest ih =>
    obtain ⟨hlow, hle, hrest⟩ := h
    rcases List.mem_cons.mp hm with rfl | hm
    · exact hlow
    · exact Nat.le_trans hlow (Nat.le_trans hle (ih hrest hm))

/-- Of two nodes among nodes that follow each other, the first stops where the second starts or
before. -/
theorem InOrder.stop_le_start {n m : Node} {i j : Nat} (h : InOrder low high nodes)
    (hn : nodes[i]? = some n) (hm : nodes[j]? = some m) (hij : i < j) : n.stop ≤ m.start := by
  induction nodes generalizing i j low with
  | nil => cases hn
  | cons first rest ih =>
    obtain ⟨k, rfl⟩ : ∃ k, j = k + 1 := ⟨j - 1, by omega⟩
    cases i with
    | zero =>
      cases hn
      exact h.2.2.low_le_start (List.mem_of_getElem? hm)
    | succ i => exact ih h.2.2 hn hm (by omega)

namespace Insides

/-- The insides of nodes are regions that follow each other in the text. -/
theorem follow (h : Insides source low high nodes) (hs : Spells source text)
    (hdone : OnBoundary source done) (hle : done ≤ low) :
    FollowFrom text.length index (charsBefore source done)
      ((nodes.zipIdx index).map fun (n, i) => insideOf source n i) := by
  induction nodes generalizing index done low with
  | nil => trivial
  | cons n rest ih =>
    have hlow := h.order.1
    have hlong := h.long n List.mem_cons_self
    obtain ⟨hstart, hstop⟩ := h.bounds n List.mem_cons_self
    have hgap := (hdone.between hstart (by omega) hs).1
    have hinner := (hstart.between hstop (by omega) hs).1
    have hend := (hstop.before hs).2
    refine ⟨rfl, ?_, ?_, ?_, ih h.tail hstop (Nat.sub_le _ 1)⟩
    · exact Int.ofNat_le.mpr hgap
    · exact Int.ofNat_le.mpr hinner
    · exact Int.ofNat_le.mpr hend

/-- Between the insides of delimited neighbours stand two characters or more. -/
theorem gap (h : Insides source low high nodes) (hs : Spells source text)
    (hbounds : ∀ n ∈ nodes, OnBoundary source n.start ∧ OnBoundary source n.stop)
    (hdelimited : ∀ n ∈ nodes, n.Delimited source) {n m : Node} {i : Nat}
    (hn : nodes[i]? = some n) (hm : nodes[i + 1]? = some m) :
    charsBefore source (n.stop - 1) + 2 ≤ charsBefore source (m.start + 1) := by
  have hnmem := List.mem_of_getElem? hn
  have hmmem := List.mem_of_getElem? hm
  obtain ⟨-, b, hb, hbone⟩ := hdelimited n hnmem
  obtain ⟨⟨a, ha, haone⟩, -⟩ := hdelimited m hmmem
  have hlong := h.long n hnmem
  have hlast : charsBefore source n.stop = charsBefore source (n.stop - 1) + 1 := by
    have hnext := (h.bounds n hnmem).2.charsBefore_next hb hbone
    rwa [Nat.sub_add_cancel (by omega)] at hnext
  have hfirst := (hbounds m hmmem).1.charsBefore_next ha haone
  have hbetween := ((hbounds n hnmem).2.between (hbounds m hmmem).1
    (h.order.stop_le_start hn hm (Nat.lt_succ_self i)) hs).1
  omega

end Insides

end Node

/-- **Located regions fit the splicer.** The marked nodes of a tree that fits are located as regions
that are numbered from zero in order and lie inside the text, two characters or more apart. Each
holds the characters whose bytes are those of its node without the first and the last one. With one
result for each region, in any order, splicing succeeds. -/
theorem locate_fits (hs : encode text = .ok source) (h : root.FitsIn source)
    (hdelimited : ∀ n ∈ markedNodes q source root, n.Delimited source) :
    ∃ regions, locate q text root = .ok regions ∧
      regions.length = (markedNodes q source root).length ∧
      (∀ (i : Nat) r, regions[i]? = some r →
        r.index = i ∧ 0 ≤ r.start ∧ r.start ≤ r.stop ∧ r.stop ≤ text.length) ∧
      (∀ (i : Nat) r r', regions[i]? = some r → regions[i + 1]? = some r' →
        r.stop + 2 ≤ r'.start) ∧
      (∀ (i : Nat) r n, regions[i]? = some r → (markedNodes q source root)[i]? = some n →
        encode (r.slice text) = .ok (Bytes.slice source (n.start + 1) (n.stop - 1))) ∧
      ∀ results : List Replacement,
        (results.map (·.index)).Perm (regions.map (·.index)) →
          ∃ out, splice text regions results = .ok out := by
  have hs := encode_iff.mp hs
  have hinsides := markedNodes_insides h hdelimited
  have hbounds : ∀ n ∈ markedNodes q source root,
      OnBoundary source n.start ∧ OnBoundary source n.stop :=
    fun n hn => h.bounds n (mem_outermost root hn).1
  refine ⟨insides source (markedNodes q source root), locate_eq hs h hdelimited,
    insides_length source _, ?_, ?_, ?_, ?_⟩
  · intro i r hr
    obtain ⟨n, hn, rfl⟩ := exists_of_insides_getElem? hr
    have hmem := List.mem_of_getElem? hn
    have hlong := hinsides.long n hmem
    obtain ⟨hstart, hstop⟩ := hinsides.bounds n hmem
    refine ⟨rfl, Int.natCast_nonneg _, ?_, ?_⟩
    · exact Int.ofNat_le.mpr (hstart.between hstop (by omega) hs).1
    · exact Int.ofNat_le.mpr (hstop.before hs).2
  · intro i r r' hr hr'
    obtain ⟨n, hn, rfl⟩ := exists_of_insides_getElem? hr
    obtain ⟨m, hm, rfl⟩ := exists_of_insides_getElem? hr'
    have hgap := hinsides.gap hs hbounds hdelimited hn hm
    show (charsBefore source (n.stop - 1) : Int) + 2 ≤ (charsBefore source (m.start + 1) : Int)
    omega
  · intro i r n hr hn
    obtain ⟨n', hn', rfl⟩ := exists_of_insides_getElem? hr
    rw [hn] at hn'
    cases hn'
    exact encode_iff.mpr (hinsides.spells_slice hs (List.mem_of_getElem? hn) i)
  · intro results hperm
    refine splice_isOk_iff.mpr ⟨?_, ?_, fun r hr => ?_⟩
    · have hlength := hperm.length_eq
      rwa [List.length_map, List.length_map] at hlength
    · have hzero : charsBefore source 0 = 0 :=
        charsBefore_eq (charOffset_iff.mpr ⟨[], .nil, rfl⟩)
      have hfollow := @Node.Insides.follow source text _ 0 0 _ _ hinsides hs (.zero source)
        (Nat.zero_le _)
      rw [hzero] at hfollow
      exact hfollow
    · exact List.mem_map.mp (hperm.mem_iff.mpr (List.mem_map_of_mem hr))

/-- Two marked literals, one behind the other. The first one holds a character of two bytes. -/
def pairText : Text := "/*tsx*/`é`/*tsx*/`b`"

/-- The bytes of the two literals. -/
def pairSource : Bytes :=
  [0x2F, 0x2A, 0x74, 0x73, 0x78, 0x2A, 0x2F, 0x60, 0xC3, 0xA9, 0x60,
    0x2F, 0x2A, 0x74, 0x73, 0x78, 0x2A, 0x2F, 0x60, 0x62, 0x60]

/-- The tree of the two literals and their comments. -/
def pairTree : Node :=
  ⟨"program", 0, 21, (0, 0), false, false,
    [⟨"comment", 0, 7, (0, 0), false, false, []⟩,
      ⟨"template_string", 7, 11, (0, 7), false, false, []⟩,
      ⟨"comment", 11, 18, (0, 11), false, false, []⟩,
      ⟨"template_string", 18, 21, (0, 18), false, false, []⟩]⟩

theorem pair_fits : pairTree.FitsIn pairSource where
  nested := by simp [pairTree, Node.Nested, Node.NestedIn]
  inside := by decide
  bounds := by decide +kernel

/-- The two literals are located, and results given in the wrong order are spliced. -/
theorem locate_pair :
    locate {} pairText pairTree = .ok [⟨0, 8, 9⟩, ⟨1, 18, 19⟩] ∧
      ∃ out, splice pairText [⟨0, 8, 9⟩, ⟨1, 18, 19⟩] [⟨1, "x"⟩, ⟨0, "yz"⟩] = .ok out := by
  have hs : encode pairText = .ok pairSource := by cbv
  have hspans : (markedNodes {} pairSource pairTree).map (fun n => (n.start, n.stop)) =
      [(7, 11), (18, 21)] := by decide +kernel
  have hdelimited : ∀ n ∈ markedNodes {} pairSource pairTree, n.Delimited pairSource := by
    intro n hn
    have hmem := List.mem_map_of_mem (f := fun n : Node => (n.start, n.stop)) hn
    rw [hspans, List.mem_cons, List.mem_singleton, Prod.mk.injEq, Prod.mk.injEq] at hmem
    unfold Node.Delimited
    rcases hmem with ⟨hstart, hstop⟩ | ⟨hstart, hstop⟩
    · rw [hstart, hstop]
      exact ⟨⟨0x60, rfl, by decide⟩, 0x60, rfl, by decide⟩
    · rw [hstart, hstop]
      exact ⟨⟨0x60, rfl, by decide⟩, 0x60, rfl, by decide⟩
  obtain ⟨regions, hregions, -, -, -, -, hsplice⟩ := locate_fits hs pair_fits hdelimited
  have hlocated : locate {} pairText pairTree = .ok [⟨0, 8, 9⟩, ⟨1, 18, 19⟩] :=
    toOption_eq_some.1 (by decide +kernel)
  rw [hlocated] at hregions
  cases hregions
  exact ⟨hlocated, hsplice _ (List.Perm.swap _ _ _)⟩

end Backtick
