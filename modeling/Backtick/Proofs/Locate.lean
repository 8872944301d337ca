import Backtick.Locate
import Backtick.Proofs.Comment

/-!
# The located regions are the outermost marked nodes

In a tree whose nodes nest and start and end between characters, no comment and no offset fails to
decode, so the search with a stack finds what the recursion on the tree finds: the outermost marked
nodes, in document order and apart from each other. Each region holds the characters of its node
without the one-byte characters at the ends.

* `Node.FitsIn` — what is asked of a tree
* `Node.InOrder` — nodes that follow each other
* `Node.Insides` — what the located nodes have, so that their insides can be replaced
* `locate_eq` — the located regions
-/

namespace Backtick

open Utf8

/-! ## Trees -/

namespace Node

/-- The nodes of a tree nest inside the bytes, and start and end between characters. -/
structure FitsIn (root : Node) (source : Bytes) : Prop where
  nested : Nested root
  inside : root.stop ≤ source.length
  bounds : ∀ n ∈ preorder root, OnBoundary source n.start ∧ OnBoundary source n.stop

/-- Nodes that follow each other without overlap between two offsets. -/
def InOrder (low high : Nat) : List Node → Prop
  | [] => low ≤ high
  | n :: rest => low ≤ n.start ∧ n.start ≤ n.stop ∧ InOrder n.stop high rest

/-- The first and the last byte of the node are one-byte characters. -/
def Delimited (source : Bytes) (n : Node) : Prop :=
  (∃ b, source[n.start]? = some b ∧ b.toNat < 0x80) ∧
    ∃ b, source[n.stop - 1]? = some b ∧ b.toNat < 0x80

instance (source : Bytes) (n : Node) : Decidable (n.Delimited source) :=
  inferInstanceAs (Decidable ((∃ b ∈ source[n.start]?, b.toNat < 0x80) ∧
    ∃ b ∈ source[n.stop - 1]?, b.toNat < 0x80))

end Node

/-! ## Outermost nodes -/

section Outermost

variable {p : Node → Bool} {x : Node}

theorem outermost_eq (p : Node → Bool) (n : Node) :
    outermost p n = if p n then [n] else outermostAll p n.children := by
  cases n
  rfl

theorem outermostAll_append (a b : List Node) :
    outermostAll p (a ++ b) = outermostAll p a ++ outermostAll p b := by
  induction a with
  | nil => rfl
  | cons n rest ih => rw [List.cons_append, outermostAll, outermostAll, ih, List.append_assoc]

mutual

/-- The outermost nodes that satisfy a condition are nodes of the tree and satisfy it. -/
theorem mem_outermost : ∀ n : Node, x ∈ outermost p n → x ∈ Node.preorder n ∧ p x = true
  | ⟨type, start, stop, point, missing, hasError, children⟩, h => by
    rw [outermost_eq] at h
    rw [Node.preorder_eq]
    split at h
    · next hp =>
      rw [List.mem_singleton] at h
      rw [h]
      exact ⟨List.mem_cons_self, hp⟩
    · obtain ⟨hmem, hp⟩ := mem_outermostAll children h
      exact ⟨List.mem_cons_of_mem _ hmem, hp⟩

theorem mem_outermostAll :
    ∀ ns : List Node, x ∈ outermostAll p ns → x ∈ Node.preorderAll ns ∧ p x = true
  | [], h => by cases h
  | n :: rest, h => by
    rw [outermostAll] at h
    rw [Node.preorderAll, List.mem_append]
    rcases List.mem_append.mp h with h | h
    · obtain ⟨hmem, hp⟩ := mem_outermost n h
      exact ⟨Or.inl hmem, hp⟩
    · obtain ⟨hmem, hp⟩ := mem_outermostAll rest h
      exact ⟨Or.inr hmem, hp⟩

end

theorem Node.InOrder.le {low high : Nat} : ∀ {ns : List Node}, InOrder low high ns → low ≤ high
  | [], h => h
  | _ :: _, h => by
    have := InOrder.le h.2.2
    exact Nat.le_trans h.1 (Nat.le_trans h.2.1 this)

theorem Node.InOrder.append {low mid high : Nat} {b : List Node} :
    ∀ {a : List Node}, InOrder low mid a → InOrder mid high b → InOrder low high (a ++ b)
  | [], ha, hb => by
    cases b with
    | nil => exact Nat.le_trans ha hb
    | cons n rest => exact ⟨Nat.le_trans ha hb.1, hb.2⟩
  | _ :: _, ha, hb => ⟨ha.1, ha.2.1, ha.2.2.append hb⟩

mutual

/-- In a tree that nests, outermost nodes follow each other. -/
theorem outermost_inOrder (p : Node → Bool) : ∀ n : Node, n.start ≤ n.stop → Node.Nested n →
    Node.InOrder n.start n.stop (outermost p n)
  | ⟨type, start, stop, point, missing, hasError, children⟩, hle, h => by
    rw [outermost_eq]
    split
    · exact ⟨Nat.le_refl _, hle, Nat.le_refl _⟩
    · exact outermostAll_inOrder p children h

theorem outermostAll_inOrder (p : Node → Bool) : ∀ {low high : Nat} (ns : List Node),
    Node.NestedIn low high ns → Node.InOrder low high (outermostAll p ns)
  | _, _, [], h => h
  | low, high, n :: rest, h => by
    obtain ⟨hlow, hle, hn, hrest⟩ := h
    have hhead : Node.InOrder low n.stop (outermost p n) :=
      Node.InOrder.append (a := []) hlow (outermost_inOrder p n hle hn)
    exact hhead.append (outermostAll_inOrder p rest hrest)

end

end Outermost

/-! ## Marked nodes -/

/-- The node is marked: it is admitted, and one of the comments that lead it has the marker. -/
def Query.isMarked (q : Query) (comments : CommentIndex) (n : Node) : Bool :=
  q.admits n &&
    match comments.leading n.start with
    | .ok bodies => q.marks bodies
    | .error _ => false

/-- The marked nodes of a tree that lie in no other marked node, in document order. -/
def markedNodes (q : Query) (source : Bytes) (root : Node) : List Node :=
  outermost (q.isMarked (.ofTree root source)) root

theorem Query.isMarked_admits {q : Query} {comments : CommentIndex} {n : Node}
    (h : q.isMarked comments n = true) : n.start + 2 ≤ n.stop := by
  unfold Query.isMarked Query.admits at h
  rw [Bool.and_eq_true, Bool.and_eq_true, decide_eq_true_eq] at h
  exact h.1.2

theorem Query.selects_eq {q : Query} {comments : CommentIndex} {n : Node} {bodies : List Text}
    (h : comments.leading n.start = .ok bodies) :
    q.selects comments n = .ok (q.isMarked comments n) := by
  unfold Query.selects Query.isMarked
  rw [h]
  split
  · next hadmits =>
    rw [hadmits]
    rfl
  · next hadmits =>
    rw [Bool.not_eq_true] at hadmits
    rw [hadmits]
    rfl

/-- The leading comments of a tree that fits can all be decoded. -/
theorem CommentIndex.leading_ok {root : Node} {source : Bytes} {text : Text}
    (hs : Spells source text) (h : root.FitsIn source) (offset : Nat) :
    ∃ bodies, (CommentIndex.ofTree root source).leading offset = .ok bodies := by
  refine backwards_ok hs ?_ _ _
  intro s hmem
  rw [spans_ofTree, List.mem_toArray] at hmem
  obtain ⟨n, hn, rfl⟩ := List.mem_map.mp hmem
  exact h.bounds n (List.mem_filter.mp hn).1

/-! ## Regions -/

/-- The region of the characters of a node without the bytes at its ends. -/
def insideOf (source : Bytes) (n : Node) (index : Nat) : Region :=
  ⟨index, charsBefore source (n.start + 1), charsBefore source (n.stop - 1)⟩

/-- The regions of the insides of nodes. -/
def insides (source : Bytes) (nodes : List Node) : List Region :=
  nodes.zipIdx.map fun (n, i) => insideOf source n i

theorem insides_length (source : Bytes) (nodes : List Node) :
    (insides source nodes).length = nodes.length := by
  unfold insides
  rw [List.length_map, List.length_zipIdx]

theorem insides_ne_nil {source : Bytes} {nodes : List Node} (h : nodes ≠ []) :
    insides source nodes ≠ [] := by
  intro hnil
  have hlen := insides_length source nodes
  rw [hnil] at hlen
  exact h (List.eq_nil_of_length_eq_zero hlen.symm)

theorem insides_getElem? {source : Bytes} {nodes : List Node} {i : Nat} {n : Node}
    (hn : nodes[i]? = some n) :
    (insides source nodes)[i]? = some (insideOf source n i) := by
  unfold insides
  rw [List.getElem?_map, List.getElem?_zipIdx, hn]
  simp

/-- The bytes at the ends of a delimited node are cut off at boundaries. -/
theorem Node.Delimited.inside {source : Bytes} {n : Node} (h : n.Delimited source)
    (hlong : n.start + 2 ≤ n.stop) (hstart : OnBoundary source n.start)
    (hstop : OnBoundary source n.stop) :
    OnBoundary source (n.start + 1) ∧ OnBoundary source (n.stop - 1) := by
  obtain ⟨⟨a, ha, haone⟩, b, hb, hbone⟩ := h
  refine ⟨hstart.next ha haone, OnBoundary.previous ?_ hb hbone⟩
  have hsucc : n.stop - 1 + 1 = n.stop := by omega
  rw [hsucc]
  exact hstop

/-- A node between boundaries is narrowed to what lies inside it. -/
theorem narrow_eq {source : Bytes} {r : OffsetReader} {n : Node} (hr : r.Valid source)
    (hlong : n.start + 2 ≤ n.stop) (hstart : OnBoundary source (n.start + 1))
    (hstop : OnBoundary source (n.stop - 1)) (index : Nat) :
    ∃ r' : OffsetReader, r'.Valid source ∧
      narrow source r index n = .ok (insideOf source n index, r') := by
  obtain ⟨hfirst, hr'⟩ := OffsetReader.convert_eq hr hstart
  obtain ⟨hsecond, hr''⟩ := OffsetReader.convert_eq hr' hstop
  have hstop : ((n.stop : Int) - 1) = ((n.stop - 1 : Nat) : Int) := by omega
  have hstart : ((n.start : Int) + 1) = ((n.start + 1 : Nat) : Int) := by omega
  refine ⟨_, hr'', ?_⟩
  unfold narrow
  rw [hstop, hstart, hfirst]
  dsimp only
  rw [hsecond]
  rfl

theorem narrow_index {source : Bytes} {r r' : OffsetReader} {index : Nat} {n : Node}
    {region : Region} (h : narrow source r index n = .ok (region, r')) : region.index = index := by
  unfold narrow at h
  dsimp only at h
  obtain ⟨start, -, h⟩ := bind_eq_ok.1 h
  obtain ⟨stop, -, h⟩ := map_eq_ok.1 h
  cases h
  rfl

/-- Whatever the tree is like, the regions are numbered in order. -/
theorem locateFrom_index {q : Query} {comments : CommentIndex} {r : OffsetReader} {index : Nat}
    {stack : List Node} {regions : List Region}
    (h : locateFrom q comments r index stack = .ok regions) :
    regions.map (·.index) = (List.range' index regions.length).map fun i : Nat => (i : Int) := by
  induction stack using stack_induction generalizing r index regions with
  | nil =>
    rw [locateFrom] at h
    cases h
    rfl
  | cons n stack ihBelow ihChildren =>
    rw [locateFrom] at h
    obtain ⟨selected, -, h⟩ := bind_eq_ok.1 h
    cases selected with
    | true =>
      obtain ⟨⟨region, r'⟩, hnarrow, h⟩ := bind_eq_ok.1 h
      obtain ⟨rest, hrest, h⟩ := bind_eq_ok.1 h
      cases h
      rw [List.map_cons, List.length_cons, List.range'_succ, List.map_cons,
        narrow_index hnarrow, ihBelow hrest]
    | false => exact ihChildren h

theorem locate_index {q : Query} {text : Text} {root : Node} {regions : List Region}
    (h : locate q text root = .ok regions) :
    regions.map (·.index) = (List.range regions.length).map fun i : Nat => (i : Int) := by
  unfold locate at h
  split at h
  · cases h
  · split at h
    next regions' hregions =>
      cases h
      rw [locateFrom_index hregions, List.range_eq_range']
    · cases h

/-- The search with a stack finds the outermost marked nodes, in order. -/
theorem locateFrom_eq {q : Query} {comments : CommentIndex} {r : OffsetReader} {index : Nat}
    {stack : List Node} (hr : r.Valid comments.source)
    (hleading : ∀ offset, ∃ bodies, comments.leading offset = .ok bodies)
    (hinside : ∀ n ∈ outermostAll (q.isMarked comments) stack,
      OnBoundary comments.source (n.start + 1) ∧ OnBoundary comments.source (n.stop - 1)) :
    locateFrom q comments r index stack =
      .ok (((outermostAll (q.isMarked comments) stack).zipIdx index).map fun (n, i) =>
        insideOf comments.source n i) := by
  induction stack using stack_induction generalizing r index with
  | nil =>
    rw [locateFrom]
    rfl
  | cons n stack ihBelow ihChildren =>
    obtain ⟨bodies, hbodies⟩ := hleading n.start
    rw [locateFrom, Query.selects_eq hbodies]
    rw [outermostAll, outermost_eq] at hinside ⊢
    by_cases hmarked : q.isMarked comments n = true
    · rw [if_pos hmarked] at hinside ⊢
      obtain ⟨hstart, hstop⟩ := hinside n (List.mem_append_left _ List.mem_cons_self)
      obtain ⟨r', hr', hnarrow⟩ :=
        narrow_eq hr (Query.isMarked_admits hmarked) hstart hstop index
      have hrest : locateFrom q comments r' (index + 1) stack = _ :=
        ihBelow hr' fun m hm => hinside m (List.mem_append_right _ hm)
      rw [hmarked]
      simp only [bind, Except.bind, hnarrow, hrest, if_true]
      rfl
    · rw [if_neg hmarked, ← outermostAll_append] at hinside ⊢
      have hrest : locateFrom q comments r index (n.children ++ stack) = _ := ihChildren hr hinside
      rw [Bool.not_eq_true] at hmarked
      rw [hmarked]
      exact hrest

/-- Nodes that follow each other, with insides between boundaries. -/
structure Node.Insides (source : Bytes) (low high : Nat) (nodes : List Node) : Prop where
  order : InOrder low high nodes
  long : ∀ n ∈ nodes, n.start + 2 ≤ n.stop
  bounds : ∀ n ∈ nodes, OnBoundary source (n.start + 1) ∧ OnBoundary source (n.stop - 1)

/-- The nodes behind the first one have insides as well. -/
theorem Node.Insides.tail {source : Bytes} {low high : Nat} {n : Node} {rest : List Node}
    (h : Insides source low high (n :: rest)) : Insides source n.stop high rest where
  order := h.order.2.2
  long := fun m hm => h.long m (List.mem_cons_of_mem _ hm)
  bounds := fun m hm => h.bounds m (List.mem_cons_of_mem _ hm)

/-- What lies inside a node is spelled by the node's bytes without the first and the last one. -/
theorem Node.Insides.spells_slice {source : Bytes} {text : Text} {low high : Nat}
    {nodes : List Node} (h : Insides source low high nodes) (hs : Spells source text) {n : Node}
    (hn : n ∈ nodes) (index : Nat) :
    Spells (Bytes.slice source (n.start + 1) (n.stop - 1))
      ((insideOf source n index).slice text) := by
  have hlong := h.long n hn
  obtain ⟨hstart, hstop⟩ := h.bounds n hn
  rw [Bytes.slice, ← List.drop_take]
  show Spells _ (Text.slice text (charsBefore source (n.start + 1) : Int)
    (charsBefore source (n.stop - 1) : Int))
  rw [Text.slice_natCast]
  exact (hstart.between hstop (by omega) hs).2

/-- The marked nodes of a tree that fits have insides. -/
theorem markedNodes_insides {q : Query} {source : Bytes} {root : Node} (h : root.FitsIn source)
    (hdelimited : ∀ n ∈ markedNodes q source root, n.Delimited source) :
    Node.Insides source root.start root.stop (markedNodes q source root) := by
  have hlong : ∀ n ∈ markedNodes q source root, n.start + 2 ≤ n.stop :=
    fun n hn => Query.isMarked_admits (mem_outermost root hn).2
  refine ⟨outermost_inOrder _ root h.nested.le h.nested, hlong, fun n hn => ?_⟩
  obtain ⟨hstart, hstop⟩ := h.bounds n (mem_outermost root hn).1
  exact (hdelimited n hn).inside (hlong n hn) hstart hstop

/-- **The located regions** of a tree that fits are the insides of its outermost marked nodes, in
document order. -/
theorem locate_eq {q : Query} {source : Bytes} {text : Text} {root : Node}
    (hs : Spells source text) (h : root.FitsIn source)
    (hdelimited : ∀ n ∈ markedNodes q source root, n.Delimited source) :
    locate q text root =
      .ok ((markedNodes q source root).zipIdx.map fun (n, i) => insideOf source n i) := by
  have hroot : outermostAll (q.isMarked (.ofTree root source)) [root] =
      markedNodes q source root := by
    rw [outermostAll, outermostAll, List.append_nil]
    rfl
  unfold locate
  rw [encode_iff.mpr hs]
  dsimp only
  rw [locateFrom_eq (OffsetReader.valid_start source) (CommentIndex.leading_ok hs h) ?_]
  · rw [hroot]
    rfl
  · intro n hn
    rw [hroot] at hn
    exact (markedNodes_insides h hdelimited).bounds n hn

end Backtick
