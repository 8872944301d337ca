import Backtick.Proofs.Tree
import Mathlib.Data.List.Infix
import Mathlib.Logic.Function.Iterate

/-!
# The walk visits every node once

A position says which child to take at each step down from the root. Two nodes of a tree may have
the same data, but their positions differ, and a node lies below another when its position goes on
from the other's. The walk visits the nodes at all positions of a tree, each once, and none behind
one that lies below it.

The stack is empty after as many steps as the tree has nodes: each step takes one node away.

* `Node.map_at?_positions`, `Node.mem_positions`, `Node.positions_pairwise` — the positions of a
  tree in document order
* `head?_unstack`, `unstack_eq_nil_iff` — the stack after so many steps of the walk
* `Node.Nested.stops_ascend` — the ends of nodes that have nothing in common
-/

namespace Backtick

namespace Node

/-! ## Positions -/

/-- The node at a position. -/
def at? (n : Node) : List Nat → Option Node
  | [] => some n
  | i :: rest =>
    match n.children[i]? with
    | some child => child.at? rest
    | none => none

mutual

/-- The positions of the nodes of a tree in document order. -/
def positions : Node → List (List Nat)
  | ⟨_, _, _, _, _, _, children⟩ => [] :: positionsAll 0 children

/-- The positions of the nodes of several neighbouring trees, the first of which is the child with
number `i`. -/
def positionsAll (i : Nat) : List Node → List (List Nat)
  | [] => []
  | n :: rest => (positions n).map (i :: ·) ++ positionsAll (i + 1) rest

end

theorem positions_eq (n : Node) : positions n = [] :: positionsAll 0 n.children := by
  cases n
  rfl

mutual

/-- The nodes at the positions of a tree are its nodes in document order. -/
theorem map_at?_positions : ∀ n : Node, (positions n).map n.at? = (preorder n).map some
  | ⟨_, _, _, _, _, _, children⟩ => by
    rw [positions_eq, preorder_eq, List.map_cons, List.map_cons]
    congr 1
    exact map_at?_positionsAll children _ 0 rfl

theorem map_at?_positionsAll : ∀ (ns : List Node) (n : Node) (i : Nat), n.children.drop i = ns →
    (positionsAll i ns).map n.at? = (preorderAll ns).map some
  | [], _, _, _ => rfl
  | child :: rest, n, i, h => by
    have hchild : n.children[i]? = some child := by
      rw [← List.head?_drop, h, List.head?_cons]
    have hrest : n.children.drop (i + 1) = rest := by
      rw [← List.tail_drop, h, List.tail_cons]
    have hinner : ((positions child).map (i :: ·)).map n.at? = (preorder child).map some := by
      rw [← map_at?_positions child, List.map_map]
      refine List.map_congr_left fun p _ => ?_
      rw [Function.comp_apply, at?, hchild]
    rw [positionsAll, preorderAll, List.map_append, List.map_append, hinner,
      map_at?_positionsAll rest n (i + 1) hrest]

end

/-- The positions in neighbouring trees: the number of a tree, and a position in it. -/
theorem mem_positionsAll {ns : List Node} {i : Nat} {p : List Nat} :
    p ∈ positionsAll i ns ↔
      ∃ k child rest, ns[k]? = some child ∧ p = (i + k) :: rest ∧ rest ∈ positions child := by
  induction ns generalizing i with
  | nil => simp [positionsAll]
  | cons n ns ih =>
    rw [positionsAll, List.mem_append, List.mem_map, ih]
    constructor
    · rintro (⟨rest, hrest, rfl⟩ | ⟨k, child, rest, hchild, rfl, hrest⟩)
      · exact ⟨0, n, rest, rfl, rfl, hrest⟩
      · exact ⟨k + 1, child, rest, hchild, by rw [Nat.add_right_comm, Nat.add_assoc], hrest⟩
    · rintro ⟨k, child, rest, hchild, rfl, hrest⟩
      cases k with
      | zero =>
        cases hchild
        exact Or.inl ⟨rest, hrest, rfl⟩
      | succ k =>
        refine Or.inr ⟨k, child, rest, hchild, ?_, hrest⟩
        rw [Nat.add_right_comm, Nat.add_assoc]

/-- The positions of a tree are those at which there is a node. -/
theorem mem_positions {n : Node} {p : List Nat} : p ∈ positions n ↔ (n.at? p).isSome := by
  induction p generalizing n with
  | nil => simp [positions_eq, at?]
  | cons i rest ih =>
    rw [positions_eq, List.mem_cons, mem_positionsAll]
    simp only [reduceCtorEq, false_or, Nat.zero_add, List.cons.injEq, at?]
    cases hchild : n.children[i]? with
    | none =>
      simp only [Option.isSome_none, Bool.false_eq_true, iff_false]
      rintro ⟨k, child, rest', hk, ⟨rfl, -⟩, -⟩
      rw [hchild] at hk
      cases hk
    | some child =>
      rw [← ih]
      constructor
      · rintro ⟨k, child', rest', hk, ⟨rfl, rfl⟩, hrest⟩
        rw [hchild] at hk
        cases hk
        exact hrest
      · exact fun hrest => ⟨i, child, rest, hchild, ⟨rfl, rfl⟩, hrest⟩

mutual

/-- In document order no position comes again, and none comes behind one that goes on from it. -/
theorem positions_pairwise : ∀ n : Node, (positions n).Pairwise fun p q => ¬ q <+: p
  | ⟨_, _, _, _, _, _, children⟩ => by
    rw [positions_eq]
    refine List.pairwise_cons.mpr ⟨fun q hq hprefix => ?_, positionsAll_pairwise children 0⟩
    obtain ⟨k, child, rest, -, rfl, -⟩ := mem_positionsAll.mp hq
    exact absurd (List.prefix_nil.mp hprefix) (List.cons_ne_nil _ _)

theorem positionsAll_pairwise :
    ∀ (ns : List Node) (i : Nat), (positionsAll i ns).Pairwise fun p q => ¬ q <+: p
  | [], _ => .nil
  | n :: rest, i => by
    rw [positionsAll]
    refine List.pairwise_append.mpr ⟨?_, positionsAll_pairwise rest (i + 1), ?_⟩
    · refine List.pairwise_map.mpr ((positions_pairwise n).imp fun h hprefix => h ?_)
      exact (List.cons_prefix_cons.mp hprefix).2
    · rintro p hp q hq hprefix
      -- the positions in two different children part at the first step
      obtain ⟨p, -, rfl⟩ := List.mem_map.mp hp
      obtain ⟨k, child, q, -, rfl, -⟩ := mem_positionsAll.mp hq
      have hi : i + 1 + k = i := (List.cons_prefix_cons.mp hprefix).1
      omega

end

/-! ## The number of nodes -/

mutual

theorem length_preorder : ∀ n : Node, (preorder n).length = count n
  | ⟨_, _, _, _, _, _, children⟩ => by
    rw [preorder_eq, List.length_cons, length_preorderAll children, count_eq]

theorem length_preorderAll : ∀ ns : List Node, (preorderAll ns).length = countAll ns
  | [] => rfl
  | n :: rest => by
    rw [preorderAll, countAll, List.length_append, length_preorder n, length_preorderAll rest]

end

theorem preorderAll_eq_flatMap (ns : List Node) : preorderAll ns = ns.flatMap preorder := by
  induction ns with
  | nil => rfl
  | cons n rest ih => rw [preorderAll, List.flatMap_cons, ih]

/-! ## Ends -/

/-- Nodes of a tree that nests which are not empty and have no byte in common end in document
order. -/
theorem Nested.stops_ascend {root : Node} (h : root.Nested) {ns : List Node}
    (hsub : ns.Sublist (preorder root)) (hlong : ∀ n ∈ ns, n.start < n.stop)
    (hapart : ns.Pairwise fun a b => a.stop ≤ b.start ∨ b.stop ≤ a.start) :
    ns.Pairwise fun a b => a.stop < b.stop := by
  refine ((h.starts_ascend.sublist hsub).and hapart).imp_of_mem ?_
  rintro a b - hb ⟨hstart, happart⟩
  have hblong := hlong b hb
  omega

end Node

/-! ## Steps of the walk -/

/-- The stack after a step: the children of the node on top come in its place. -/
def unstack : List Node → List Node
  | [] => []
  | n :: stack => n.children ++ stack

/-- On top of the stack after so many steps is the node that is visited next. -/
theorem head?_unstack (k : Nat) (stack : List Node) :
    (unstack^[k] stack).head? = (walkFrom stack)[k]? := by
  induction k generalizing stack with
  | zero =>
    cases stack with
    | nil => rw [walkFrom]; rfl
    | cons n stack => rw [walkFrom]; rfl
  | succ k ih =>
    rw [Function.iterate_succ_apply, ih]
    cases stack with
    | nil => rw [unstack, walkFrom]; rfl
    | cons n stack =>
      conv => rhs; rw [walkFrom]
      rw [unstack, List.getElem?_cons_succ]

/-- Every step takes one node off all the nodes of the stack. -/
theorem unstack_eq_nil_iff (k : Nat) (stack : List Node) :
    unstack^[k] stack = [] ↔ Node.countAll stack ≤ k := by
  rw [← List.head?_eq_none_iff, head?_unstack, List.getElem?_eq_none_iff, walkFrom_eq,
    Node.length_preorderAll]

/-- **The walk is a preorder.** The stack is empty after as many steps as the tree has nodes, and
until then the node on top is the next one of the walk. The walk visits a node, then its children's
trees from left to right. So it visits the nodes at all positions of the tree, each once, and none
behind one that lies below it. Where the nodes nest, their starts ascend along the walk, and so do
the ends of nodes that are not empty and have no byte in common. -/
theorem walk_preorder (root : Node) :
    (∀ k, unstack^[k] [root] = [] ↔ root.count ≤ k) ∧
    (∀ k, (unstack^[k] [root]).head? = (walk root)[k]?) ∧
    walk root = root :: root.children.flatMap walk ∧
    (root.positions.map root.at? = (walk root).map some ∧
      (∀ p, p ∈ root.positions ↔ (root.at? p).isSome) ∧
      root.positions.Pairwise fun p q => ¬ q <+: p) ∧
    (root.Nested →
      ((walk root).Pairwise fun a b => a.start ≤ b.start) ∧
      ∀ ns : List Node, ns.Sublist (walk root) → (∀ n ∈ ns, n.start < n.stop) →
        (ns.Pairwise fun a b => a.stop ≤ b.start ∨ b.stop ≤ a.start) →
        ns.Pairwise fun a b => a.stop < b.stop) := by
  have hwalk : walk = Node.preorder := funext walk_eq
  refine ⟨fun k => ?_, fun k => head?_unstack k [root], ?_, ?_, fun h => ⟨?_, ?_⟩⟩
  · rw [unstack_eq_nil_iff, Node.countAll, Node.countAll, Nat.add_zero]
  · rw [hwalk, Node.preorder_eq, Node.preorderAll_eq_flatMap]
  · rw [hwalk]
    exact ⟨Node.map_at?_positions root, fun p => Node.mem_positions, Node.positions_pairwise root⟩
  · rw [hwalk]
    exact h.starts_ascend
  · rw [hwalk]
    exact fun ns hsub hlong hapart => h.stops_ascend hsub hlong hapart

/-- The tree of `/*a*/f(/*b*/`: two comments at different depths, and two brackets are missing, both
in the same place. -/
def brokenTree : Node :=
  ⟨"program", 0, 12, (0, 0), false, true,
    [⟨"comment", 0, 5, (0, 0), false, false, []⟩,
      ⟨"call_expression", 5, 12, (0, 5), false, true,
        [⟨"identifier", 5, 6, (0, 5), false, false, []⟩,
          ⟨"arguments", 6, 12, (0, 6), false, true,
            [⟨"comment", 7, 12, (0, 7), false, false, []⟩,
              ⟨")", 12, 12, (0, 12), true, true, []⟩]⟩,
          ⟨")", 12, 12, (0, 12), true, true, []⟩]⟩]⟩

/-- The walk through eight nodes comes to both missing brackets, which only their positions tell
apart, and to the comments in the order of their ends. -/
theorem walk_broken :
    Node.Nested brokenTree ∧
      (∀ k, unstack^[k] [brokenTree] = [] ↔ 8 ≤ k) ∧
      ((walk brokenTree).filter Node.isFault).map (fun n => (n.start, n.stop)) =
        [(12, 12), (12, 12)] ∧
      [0] ∈ brokenTree.positions ∧ [1, 1, 1] ∈ brokenTree.positions ∧
      [1, 2] ∈ brokenTree.positions ∧ [2] ∉ brokenTree.positions ∧
      ((walk brokenTree).filter Node.isComment).Pairwise (fun a b => a.stop < b.stop) := by
  have hnested : Node.Nested brokenTree := by simp [brokenTree, Node.Nested, Node.NestedIn]
  obtain ⟨hempty, -, -, ⟨-, hpositions, -⟩, hnests⟩ := walk_preorder brokenTree
  refine ⟨hnested, hempty, ?_, ?_, ?_, ?_, ?_, ?_⟩
  · rw [walk_eq]
    decide +kernel
  · exact (hpositions _).2 rfl
  · exact (hpositions _).2 rfl
  · exact (hpositions _).2 rfl
  · exact fun h => nomatch (hpositions _).1 h
  · refine (hnests hnested).2 _ List.filter_sublist ?_ ?_
    · rw [walk_eq]
      decide +kernel
    · rw [walk_eq]
      decide +kernel

end Backtick
