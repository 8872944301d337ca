import Backtick.Proofs.Locate
import Backtick.Proofs.Splice.Accept

/-!
# Splicing, seen from the bytes

Regions are ranges of characters, but a text is stored as bytes. Here the pass over the regions is
followed in both at once: what stands between two regions is copied, and the insides of the nodes
are replaced by the bytes of the results, whatever their length.

* `replaceSpans` — bytes with some spans replaced
* `spliceFrom_spells`, `splice_spells` — the spliced text is spelled by the bytes with the spans
  replaced
-/

namespace Backtick

open Utf8

/-- Bytes from an offset on, with spans in them, given in order, replaced by other bytes. -/
def replaceSpans (source : Bytes) (done : Nat) : List (Span × Bytes) → Bytes
  | [] => source.drop done
  | (span, new) :: rest =>
    Bytes.slice source done span.start ++ new ++ replaceSpans source span.stop rest

/-- The bytes inside a node: without the first and the last one. -/
def Node.inner (n : Node) : Span := ⟨n.start + 1, n.stop - 1⟩

/-- The insides of nodes with the bytes that replace them: those with the node's number. -/
def innerSpans (u : Nat → Bytes) (index : Nat) (nodes : List Node) : List (Span × Bytes) :=
  (nodes.zipIdx index).map fun (n, i) => (n.inner, u i)

variable {source : Bytes} {text : Text} {nodes : List Node} {results : List Replacement}
  {o : Nat → Text} {u : Nat → Bytes} {index done low high : Nat}

theorem replaceSpans_cons (n : Node) (rest : List Node) :
    replaceSpans source done (innerSpans u index (n :: rest)) =
      Bytes.slice source done (n.start + 1) ++ u index ++
        replaceSpans source (n.stop - 1) (innerSpans u (index + 1) rest) := rfl

/-- The bytes between two offsets and those behind them are the bytes behind the first one. -/
theorem Bytes.slice_append_drop {a b : Nat} (h : a ≤ b) :
    Bytes.slice source a b ++ source.drop b = source.drop a := by
  have hdrop : source.drop b = (source.drop a).drop (b - a) := by
    rw [List.drop_drop, Nat.add_sub_cancel' h]
  rw [hdrop]
  exact List.take_append_drop (b - a) (source.drop a)

/-- When every span gets the bytes that it has, nothing changes. -/
theorem replaceSpans_self (h : Node.Insides source low high nodes) (hdone : done ≤ low)
    (hself : ∀ i n, nodes[i]? = some n →
      u (index + i) = Bytes.slice source n.inner.start n.inner.stop) :
    replaceSpans source done (innerSpans u index nodes) = source.drop done := by
  induction nodes generalizing index done low with
  | nil => rfl
  | cons n rest ih =>
    have hlow := h.order.1
    have hn := h.long n List.mem_cons_self
    have hu : u index = _ := hself 0 n rfl
    have hih : replaceSpans source (n.stop - 1) (innerSpans u (index + 1) rest) =
        source.drop (n.stop - 1) := by
      refine ih h.tail (Nat.sub_le _ 1) ?_
      intro i m hm
      rw [Nat.add_assoc, Nat.add_comm 1 i]
      exact hself (i + 1) m hm
    rw [replaceSpans_cons, hih, hu, List.append_assoc]
    show _ ++ (Bytes.slice source (n.start + 1) (n.stop - 1) ++ _) = _
    rw [Bytes.slice_append_drop (by omega), Bytes.slice_append_drop (by omega)]

/-- The spliced text is spelled by the bytes with the spans replaced. -/
theorem spliceFrom_spells (hs : Spells source text) (h : Node.Insides source low high nodes)
    (hdone : OnBoundary source done) (hle : done ≤ low)
    (hresults : ∀ i, index ≤ i → i < index + nodes.length →
      resultFor? results i = some (o i) ∧ Spells (u i) (o i)) :
    ∃ out, spliceFrom text results index (charsBefore source done)
        ((nodes.zipIdx index).map fun (n, i) => insideOf source n i) = .ok out ∧
      Spells (replaceSpans source done (innerSpans u index nodes)) out := by
  induction nodes generalizing index done low with
  | nil =>
    refine ⟨text.drop (charsBefore source done), ?_, hdone.after hs⟩
    show Except.ok (Text.slice text (charsBefore source done : Int) (text.length : Int)) = _
    rw [Text.slice_natCast, List.take_length]
  | cons n rest ih =>
    have hlow := h.order.1
    have hn := h.long n List.mem_cons_self
    obtain ⟨hstart, hstop⟩ := h.bounds n List.mem_cons_self
    obtain ⟨hgapLe, hgap⟩ := hdone.between hstart (by omega) hs
    obtain ⟨hinnerLe, -⟩ := hstart.between hstop (by omega) hs
    obtain ⟨-, hend⟩ := hstop.before hs
    obtain ⟨hfound, hnew⟩ := hresults index (Nat.le_refl _) (by simp)
    obtain ⟨tail, htail, hspells⟩ := @ih (index + 1) (n.stop - 1) n.stop h.tail hstop
      (Nat.sub_le _ 1) fun i hi hlt => hresults i (by omega) (by rw [List.length_cons]; omega)
    refine ⟨(text.take (charsBefore source (n.start + 1))).drop (charsBefore source done) ++
      o index ++ tail, ?_, ?_⟩
    · -- the inside of the node is a region with the expected number, and its ends are in order
      have hrange : RangeFits text (charsBefore source done) (insideOf source n index) :=
        ⟨Int.ofNat_le.mpr hgapLe, Int.ofNat_le.mpr hinnerLe, Int.ofNat_le.mpr hend⟩
      have hrest : spliceFrom text results (index + 1) (insideOf source n index).stop
          ((rest.zipIdx (index + 1)).map fun (n, i) => insideOf source n i) = .ok tail := htail
      rw [List.zipIdx_cons, List.map_cons, spliceFrom_cons rfl hrange hfound, hrest]
      show Except.ok (Text.slice text (charsBefore source done : Int)
        (charsBefore source (n.start + 1) : Int) ++ _ ++ _) = _
      rw [Text.slice_natCast]
    · rw [replaceSpans_cons, Bytes.slice, ← List.drop_take]
      exact (hgap.append hnew).append hspells

/-! ## All regions of a text -/

/-- Splicing numbered results into the insides of nodes, seen from the bytes. -/
theorem splice_spells (hs : Spells source text) (h : Node.Insides source low high nodes)
    (hu : ∀ i < nodes.length, Spells (u i) (o i)) :
    ∃ out, splice text (insides source nodes)
        ((List.range nodes.length).map fun i : Nat => ⟨i, o i⟩) = .ok out ∧
      Spells (replaceSpans source 0 (innerSpans u 0 nodes)) out := by
  have hzero : charsBefore source 0 = 0 := charsBefore_eq (charOffset_iff.mpr ⟨[], .nil, rfl⟩)
  have hresults : ∀ i, 0 ≤ i → i < 0 + nodes.length →
      resultFor? ((List.range nodes.length).map fun i : Nat => ⟨i, o i⟩) i = some (o i) ∧
        Spells (u i) (o i) := by
    intro i _ hi
    rw [Nat.zero_add] at hi
    exact ⟨resultFor?_of_perm (.refl _) hi, hu i hi⟩
  obtain ⟨out, hout, hspells⟩ :=
    spliceFrom_spells hs h (.zero source) (Nat.zero_le low) hresults
  refine ⟨out, ?_, hspells⟩
  unfold splice
  rw [if_neg (by rw [insides_length]; simp)]
  rw [hzero] at hout
  exact hout

end Backtick
