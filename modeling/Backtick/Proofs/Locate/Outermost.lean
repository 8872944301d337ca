import Backtick.Proofs.Locate
import Backtick.Proofs.Text.Basic

/-!
# Exactly the outermost marked nodes are located

Nothing is asked of a tree here: its nodes may overlap or span bytes that are not there. As long as
everything that is looked at can be decoded, the search with a stack finds the nodes that the
recursion on the tree finds, and these are the marked nodes that lie in no other marked node.

* `Query.Marked` — what it is to be marked
* `outermost_eq_filter` — the recursion, and the nodes with what they lie in
* `insides_of_locate` — what a search that succeeds has found
* `locate_outermost` — the located regions
-/

namespace Backtick

open Utf8

/-! ## Marked nodes -/

namespace Query

variable {q : Query} {comments : CommentIndex} {n : Node}

/-- A node is marked when it is of a wanted type, spans two bytes or more, and the marker stands in
the body of a comment that leads it. -/
def Marked (q : Query) (comments : CommentIndex) (n : Node) : Prop :=
  n.type ∈ q.types ∧ n.start + 2 ≤ n.stop ∧
    ∃ bodies, comments.leading n.start = .ok bodies ∧ ∃ body ∈ bodies, q.marker <:+: body

theorem isMarked_iff : q.isMarked comments n = true ↔ q.Marked comments n := by
  unfold isMarked admits Marked
  cases comments.leading n.start with
  | error f => simp
  | ok bodies => simp [marks, Text.occursIn_iff, and_assoc]

/-- The search selects marked nodes. -/
theorem isMarked_of_selects {b : Bool} (h : q.selects comments n = .ok b) :
    q.isMarked comments n = b := by
  unfold selects at h
  unfold isMarked
  split at h
  · next hadmits =>
    obtain ⟨bodies, hbodies, rfl⟩ := map_eq_ok.1 h
    rw [hadmits, hbodies]
    rfl
  · next hadmits =>
    cases h
    rw [Bool.not_eq_true] at hadmits
    rw [hadmits]
    rfl

end Query

/-! ## Outermost nodes -/

section Outermost

variable {p : Node → Bool}

/-- A node satisfies a condition that no node that it lies in satisfies. -/
def isOutermost (p : Node → Bool) (x : Node × List Node) : Bool :=
  p x.1 && !x.2.any p

/-- Below a node that satisfies the condition, none is outermost. -/
theorem filter_lineagesAll_of_any {above : List Node} (h : above.any p = true) (ns : List Node) :
    (Node.lineagesAll above ns).filter (isOutermost p) = [] := by
  rw [List.filter_eq_nil_iff]
  intro x hx
  obtain ⟨m, hm, hpm⟩ := List.any_eq_true.mp h
  have hmem : m ∈ x.2 := (Node.above_suffixAll ns hx).mem hm
  have hany : x.2.any p = true := List.any_eq_true.mpr ⟨m, hmem, hpm⟩
  simp [isOutermost, hany]

mutual

/-- Below nodes that do not satisfy the condition, the recursion finds the outermost ones. -/
theorem map_fst_filter_lineages {above : List Node} (h : above.any p = false) :
    ∀ n : Node, ((Node.lineages above n).filter (isOutermost p)).map Prod.fst = outermost p n
  | ⟨type, start, stop, point, missing, hasError, children⟩ => by
    rw [Node.lineages_eq, outermost_eq, List.filter_cons]
    split
    · next hout =>
      have hp : p ⟨type, start, stop, point, missing, hasError, children⟩ = true := by
        simpa [isOutermost, h] using hout
      rw [if_pos hp, filter_lineagesAll_of_any (by rw [List.any_cons, hp, Bool.true_or])]
      rfl
    · next hout =>
      have hp : p ⟨type, start, stop, point, missing, hasError, children⟩ = false := by
        simpa [isOutermost, h] using hout
      -- the node joins those that its children lie in, and still none of them satisfies it
      have hbelow : List.any (⟨type, start, stop, point, missing, hasError, children⟩ :: above) p =
          false := by rw [List.any_cons, hp, h, Bool.false_or]
      rw [hp, if_neg Bool.false_ne_true]
      exact map_fst_filter_lineagesAll hbelow children

theorem map_fst_filter_lineagesAll {above : List Node} (h : above.any p = false) :
    ∀ ns : List Node,
      ((Node.lineagesAll above ns).filter (isOutermost p)).map Prod.fst = outermostAll p ns
  | [] => rfl
  | n :: rest => by
    rw [Node.lineagesAll, outermostAll, List.filter_append, List.map_append,
      map_fst_filter_lineages h n, map_fst_filter_lineagesAll h rest]

end

/-- The recursion finds, in document order, the nodes that satisfy the condition and lie in none
that does. -/
theorem outermost_eq_filter (p : Node → Bool) (root : Node) :
    outermost p root = ((Node.lineages [] root).filter (isOutermost p)).map Prod.fst :=
  (map_fst_filter_lineages rfl root).symm

end Outermost

/-! ## The search -/

/-- Only a node whose inside lies between boundaries is narrowed. -/
theorem onBoundary_of_narrow {source : Bytes} {r r' : OffsetReader} {index : Nat} {n : Node}
    {region : Region} (hr : r.Valid source) (hlong : n.start + 2 ≤ n.stop)
    (h : narrow source r index n = .ok (region, r')) :
    OnBoundary source (n.start + 1) ∧ OnBoundary source (n.stop - 1) := by
  have hstart : ((n.start : Int) + 1) = ((n.start + 1 : Nat) : Int) := by omega
  have hstop : ((n.stop : Int) - 1) = ((n.stop - 1 : Nat) : Int) := by omega
  unfold narrow at h
  rw [hstop, hstart] at h
  dsimp only at h
  obtain ⟨first, hfirst, h⟩ := bind_eq_ok.1 h
  obtain ⟨_, hlast, -⟩ := map_eq_ok.1 h
  obtain ⟨last, hlast, -⟩ := bind_eq_ok.1 hlast
  have hbefore := OffsetReader.onBoundary_of_convert hr hfirst
  obtain ⟨hconvert, hr'⟩ := OffsetReader.convert_eq hr hbefore
  rw [hconvert] at hlast
  exact ⟨hbefore, OffsetReader.onBoundary_of_convert hr' hlast⟩

/-- A search with a stack that comes to an end has found the outermost marked nodes. -/
theorem outermost_of_locateFrom {q : Query} {comments : CommentIndex} {r : OffsetReader}
    {index : Nat} {stack : List Node} {regions : List Region} (hr : r.Valid comments.source)
    (h : locateFrom q comments r index stack = .ok regions) :
    (∀ n ∈ outermostAll (q.isMarked comments) stack,
      OnBoundary comments.source (n.start + 1) ∧ OnBoundary comments.source (n.stop - 1)) ∧
    regions = ((outermostAll (q.isMarked comments) stack).zipIdx index).map fun x =>
      insideOf comments.source x.1 x.2 := by
  induction stack using stack_induction generalizing r index regions with
  | nil =>
    rw [locateFrom] at h
    cases h
    refine ⟨?_, rfl⟩
    intro n hn
    cases hn
  | cons n stack ihBelow ihChildren =>
    rw [locateFrom] at h
    obtain ⟨selected, hselects, h⟩ := bind_eq_ok.1 h
    have hmarked := Query.isMarked_of_selects hselects
    rw [outermostAll, outermost_eq, hmarked]
    cases selected with
    | true =>
      obtain ⟨⟨region, r'⟩, hnarrow, h⟩ := bind_eq_ok.1 h
      obtain ⟨rest, hrest, h⟩ := bind_eq_ok.1 h
      cases h
      -- that the node could be narrowed says that its inside lies between boundaries
      have hlong := Query.isMarked_admits hmarked
      obtain ⟨hstart, hstop⟩ := onBoundary_of_narrow hr hlong hnarrow
      obtain ⟨r'', hr'', heq⟩ := narrow_eq hr hlong hstart hstop index
      rw [heq] at hnarrow
      cases hnarrow
      obtain ⟨hbounds, rfl⟩ := ihBelow hr'' hrest
      refine ⟨?_, rfl⟩
      intro m hm
      rcases List.mem_cons.mp hm with rfl | hm
      · exact ⟨hstart, hstop⟩
      · exact hbounds m hm
    | false =>
      have hrest := ihChildren hr h
      rw [outermostAll_append] at hrest
      exact hrest

/-- When nothing that is looked at fails to be decoded, the search comes to an end. -/
theorem locateFrom_ok {q : Query} {source : Bytes} {text : Text} {root : Node}
    (hs : encode text = .ok source) (hdecodes : ∀ f, locate q text root ≠ .error (.decoding f)) :
    ∃ regions, locateFrom q (.ofTree root source) {} 0 [root] = .ok regions ∧
      locate q text root = .ok regions := by
  unfold locate at hdecodes ⊢
  rw [hs] at hdecodes ⊢
  dsimp only at hdecodes ⊢
  cases hsearch : locateFrom q (.ofTree root source) {} 0 [root] with
  | error f =>
    rw [hsearch] at hdecodes
    exact absurd rfl (hdecodes f)
  | ok regions => exact ⟨regions, rfl, rfl⟩

/-- The regions of a search that succeeds are the insides of the outermost marked nodes, and these
lie between boundaries. -/
theorem insides_of_locate {q : Query} {source : Bytes} {text : Text} {root : Node}
    {regions : List Region} (hs : encode text = .ok source)
    (h : locate q text root = .ok regions) :
    regions = insides source (markedNodes q source root) ∧
    ∀ n ∈ markedNodes q source root,
      OnBoundary source (n.start + 1) ∧ OnBoundary source (n.stop - 1) := by
  have hroot : outermostAll (q.isMarked (.ofTree root source)) [root] =
      markedNodes q source root := by
    rw [outermostAll, outermostAll, List.append_nil]
    rfl
  unfold locate at h
  rw [hs] at h
  dsimp only at h
  split at h
  · next hsearch =>
    cases h
    obtain ⟨hbounds, hregions⟩ := outermost_of_locateFrom (OffsetReader.valid_start source) hsearch
    rw [← hroot]
    exact ⟨hregions, hbounds⟩
  · cases h

/-- **Exactly the outermost marked nodes are located.** Whatever the tree is like: when nothing that
is looked at fails to be decoded, the search comes to an end, with a region for each node that the
recursion on the tree finds. These are the marked nodes that lie in no other marked node, and no
other nodes, in document order. A region has its position as its number and holds what lies inside
its node. -/
theorem locate_outermost {q : Query} {source : Bytes} {text : Text} {root : Node}
    (hs : encode text = .ok source) (hdecodes : ∀ f, locate q text root ≠ .error (.decoding f)) :
    locate q text root =
      .ok (insides source (outermost (q.isMarked (.ofTree root source)) root)) ∧
    (∀ n ∈ outermost (q.isMarked (.ofTree root source)) root,
      OnBoundary source (n.start + 1) ∧ OnBoundary source (n.stop - 1)) ∧
    outermost (q.isMarked (.ofTree root source)) root =
      ((Node.lineages [] root).filter
        (isOutermost (q.isMarked (.ofTree root source)))).map Prod.fst ∧
    (outermost (q.isMarked (.ofTree root source)) root).Sublist (Node.preorder root) ∧
    ∀ n, q.isMarked (.ofTree root source) n = true ↔ q.Marked (.ofTree root source) n := by
  obtain ⟨regions, hsearch, hlocate⟩ := locateFrom_ok hs hdecodes
  obtain ⟨hbounds, hregions⟩ := outermost_of_locateFrom (OffsetReader.valid_start source) hsearch
  have hroot : outermostAll (q.isMarked (.ofTree root source)) [root] =
      outermost (q.isMarked (.ofTree root source)) root := by
    rw [outermostAll, outermostAll, List.append_nil]
  have hfilter := outermost_eq_filter (q.isMarked (.ofTree root source)) root
  refine ⟨?_, ?_, hfilter, ?_, fun n => Query.isMarked_iff⟩
  · rw [hlocate, hregions, ← hroot]
    rfl
  · rw [← hroot]
    exact hbounds
  · rw [hfilter, ← Node.map_fst_lineages [] root]
    exact List.filter_sublist.map Prod.fst

/-- Two literals with a marked literal inside each. The second one is marked itself. -/
def nestedText : Text := "`$\x7b/*tsx*/`a`\x7d`+/*tsx*/`$\x7b/*tsx*/`b`\x7d`"

/-- The bytes of the literals, one for each character. -/
def nestedSource : Bytes := nestedText.map fun c => UInt8.ofNat c.val

/-- The tree of the literals and their comments. -/
def nestedTree : Node :=
  ⟨"program", 0, 38, (0, 0), false, false,
    [⟨"template_string", 0, 15, (0, 0), false, false,
        [⟨"template_substitution", 1, 14, (0, 1), false, false,
          [⟨"comment", 3, 10, (0, 3), false, false, []⟩,
            ⟨"template_string", 10, 13, (0, 10), false, false, []⟩]⟩]⟩,
      ⟨"comment", 16, 23, (0, 16), false, false, []⟩,
      ⟨"template_string", 23, 38, (0, 23), false, false,
        [⟨"template_substitution", 24, 37, (0, 24), false, false,
          [⟨"comment", 26, 33, (0, 26), false, false, []⟩,
            ⟨"template_string", 33, 36, (0, 33), false, false, []⟩]⟩]⟩]⟩

/-- Three literals are marked. The two that lie in no other marked one are located: the one inside
the literal that is not marked, and the second of the two literals. -/
theorem locate_nested :
    ((Node.preorder nestedTree).filter
        (Query.isMarked {} (.ofTree nestedTree nestedSource))).map (fun n => (n.start, n.stop)) =
      [(10, 13), (23, 38), (33, 36)] ∧
    insides nestedSource (((Node.lineages [] nestedTree).filter
        (isOutermost (Query.isMarked {} (.ofTree nestedTree nestedSource)))).map Prod.fst) =
      [⟨0, 11, 12⟩, ⟨1, 24, 37⟩] ∧
    locate {} nestedText nestedTree = .ok [⟨0, 11, 12⟩, ⟨1, 24, 37⟩] := by
  have hs : encode nestedText = .ok nestedSource := by cbv
  have hlocated : locate {} nestedText nestedTree = .ok [⟨0, 11, 12⟩, ⟨1, 24, 37⟩] :=
    toOption_eq_some.1 (by decide +kernel)
  have hdecodes : ∀ f, locate {} nestedText nestedTree ≠ .error (.decoding f) := by
    intro f h
    rw [hlocated] at h
    cases h
  obtain ⟨hregions, -, hfilter, -⟩ := locate_outermost hs hdecodes
  rw [hlocated, hfilter] at hregions
  exact ⟨by decide +kernel, (Except.ok.inj hregions).symm, hlocated⟩

end Backtick
