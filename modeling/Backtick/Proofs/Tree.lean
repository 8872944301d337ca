import Backtick.Tree

/-!
# Trees in document order

The walk with a stack visits the nodes of a tree in document order. Where the nodes nest, they lie
inside the root and their starts ascend on the way.

`lineages` lists the nodes in the same order, each with the nodes that it lies in. Two nodes of a
tree can have the same data; the list tells them apart by their places.

* `stack_induction`, `walk_eq` — the walk, which goes in document order
* `Node.Nested.start_le`, `Node.Nested.stop_le` — what lies inside a node
* `Node.Nested.starts_ascend` — the starts of the nodes in document order
* `Node.map_fst_lineages`, `Node.above_suffix` — the nodes, and what they lie in
-/

namespace Backtick

namespace Node

theorem preorderAll_append (a b : List Node) :
    preorderAll (a ++ b) = preorderAll a ++ preorderAll b := by
  induction a with
  | nil => rfl
  | cons n rest ih => rw [List.cons_append, preorderAll, preorderAll, ih, List.append_assoc]

/-! ## Nodes that nest -/

theorem NestedIn.le {low high : Nat} : ∀ {ns : List Node}, NestedIn low high ns → low ≤ high
  | [], h => h
  | _ :: _, h => Nat.le_trans h.1 (Nat.le_trans h.2.1 h.2.2.2.le)

/-- A node of a tree that nests does not stop in front of its start. -/
theorem Nested.le : ∀ {n : Node}, Nested n → n.start ≤ n.stop
  | ⟨_, _, _, _, _, _, _⟩, h => NestedIn.le h

mutual

/-- No node of a tree that nests starts in front of the root. -/
theorem Nested.start_le {m : Node} :
    ∀ {n : Node}, Nested n → m ∈ preorder n → n.start ≤ m.start
  | ⟨_, _, _, _, _, _, _⟩, h, hm => by
    rw [preorder_eq] at hm
    rcases List.mem_cons.mp hm with rfl | hm
    · exact Nat.le_refl _
    · exact NestedIn.start_le h hm

theorem NestedIn.start_le {m : Node} {low high : Nat} :
    ∀ {ns : List Node}, NestedIn low high ns → m ∈ preorderAll ns → low ≤ m.start
  | n :: _, h, hm => by
    obtain ⟨hlow, hle, hn, hrest⟩ := h
    rw [preorderAll] at hm
    rcases List.mem_append.mp hm with hm | hm
    · exact Nat.le_trans hlow (hn.start_le hm)
    · exact Nat.le_trans hlow (Nat.le_trans hle (hrest.start_le hm))

end

mutual

/-- No node of a tree that nests stops behind the end of the root. -/
theorem Nested.stop_le {m : Node} :
    ∀ {n : Node}, Nested n → m ∈ preorder n → m.stop ≤ n.stop
  | ⟨_, _, _, _, _, _, _⟩, h, hm => by
    rw [preorder_eq] at hm
    rcases List.mem_cons.mp hm with rfl | hm
    · exact Nat.le_refl _
    · exact NestedIn.stop_le h hm

theorem NestedIn.stop_le {m : Node} {low high : Nat} :
    ∀ {ns : List Node}, NestedIn low high ns → m ∈ preorderAll ns → m.stop ≤ high
  | n :: _, h, hm => by
    obtain ⟨-, -, hn, hrest⟩ := h
    rw [preorderAll] at hm
    rcases List.mem_append.mp hm with hm | hm
    · exact Nat.le_trans (hn.stop_le hm) hrest.le
    · exact hrest.stop_le hm

end

mutual

/-- Every node of a tree that nests is the root of one. -/
theorem Nested.of_mem {m : Node} : ∀ {n : Node}, Nested n → m ∈ preorder n → Nested m
  | ⟨_, _, _, _, _, _, _⟩, h, hm => by
    rw [preorder_eq] at hm
    rcases List.mem_cons.mp hm with rfl | hm
    · exact h
    · exact NestedIn.of_mem h hm

theorem NestedIn.of_mem {m : Node} {low high : Nat} :
    ∀ {ns : List Node}, NestedIn low high ns → m ∈ preorderAll ns → Nested m
  | n :: _, h, hm => by
    obtain ⟨-, -, hn, hrest⟩ := h
    rw [preorderAll] at hm
    rcases List.mem_append.mp hm with hm | hm
    · exact hn.of_mem hm
    · exact hrest.of_mem hm

end

mutual

/-- In document order, the starts of nodes that nest ascend. -/
theorem Nested.starts_ascend :
    ∀ {n : Node}, Nested n → (preorder n).Pairwise fun a b => a.start ≤ b.start
  | ⟨_, _, _, _, _, _, _⟩, h => by
    rw [preorder_eq]
    exact List.pairwise_cons.mpr ⟨fun _ hm => NestedIn.start_le h hm, NestedIn.starts_ascend h⟩

theorem NestedIn.starts_ascend {low high : Nat} :
    ∀ {ns : List Node}, NestedIn low high ns →
      (preorderAll ns).Pairwise fun a b => a.start ≤ b.start
  | [], _ => .nil
  | n :: _, h => by
    obtain ⟨-, -, hn, hrest⟩ := h
    rw [preorderAll]
    refine List.pairwise_append.mpr ⟨hn.starts_ascend, hrest.starts_ascend, ?_⟩
    intro a ha b hb
    have hab : n.stop ≤ b.start := hrest.start_le hb
    exact Nat.le_trans (hn.of_mem ha).le (Nat.le_trans (hn.stop_le ha) hab)

end

/-! ## Lineages -/

mutual

/-- The nodes of a tree in document order, each with the nodes that it lies in, the nearest one
first. The root lies in the nodes that are given. -/
def lineages (above : List Node) : Node → List (Node × List Node)
  | ⟨type, start, stop, point, missing, hasError, children⟩ =>
    let n : Node := ⟨type, start, stop, point, missing, hasError, children⟩
    (n, above) :: lineagesAll (n :: above) children

/-- The nodes of several trees in document order, each with the nodes that it lies in. -/
def lineagesAll (above : List Node) : List Node → List (Node × List Node)
  | [] => []
  | n :: rest => lineages above n ++ lineagesAll above rest

end

theorem lineages_eq (above : List Node) (n : Node) :
    lineages above n = (n, above) :: lineagesAll (n :: above) n.children := by
  cases n
  rfl

mutual

/-- The lineages are those of the nodes in document order. -/
theorem map_fst_lineages (above : List Node) :
    ∀ n : Node, (lineages above n).map Prod.fst = preorder n
  | ⟨_, _, _, _, _, _, _⟩ => by
    rw [lineages_eq, preorder_eq, List.map_cons, map_fst_lineagesAll]

theorem map_fst_lineagesAll (above : List Node) :
    ∀ ns : List Node, (lineagesAll above ns).map Prod.fst = preorderAll ns
  | [] => rfl
  | n :: rest => by
    rw [lineagesAll, preorderAll, List.map_append, map_fst_lineages, map_fst_lineagesAll]

end

mutual

/-- What the root lies in, all nodes of the tree lie in. -/
theorem above_suffix {above : List Node} {x : Node × List Node} :
    ∀ n : Node, x ∈ lineages above n → above <:+ x.2
  | ⟨_, _, _, _, _, _, children⟩, h => by
    rw [lineages_eq] at h
    rcases List.mem_cons.mp h with rfl | h
    · exact List.suffix_rfl
    · exact (List.suffix_cons _ above).trans (above_suffixAll children h)

theorem above_suffixAll {above : List Node} {x : Node × List Node} :
    ∀ ns : List Node, x ∈ lineagesAll above ns → above <:+ x.2
  | n :: rest, h => by
    rw [lineagesAll] at h
    rcases List.mem_append.mp h with h | h
    · exact above_suffix n h
    · exact above_suffixAll rest h

end

end Node

/-! ## The walk -/

/-- Induction along a walk with a stack: the node on top leaves with its tree, or its children come
in its place. -/
@[elab_as_elim]
theorem stack_induction {motive : List Node → Prop} (nil : motive [])
    (cons : ∀ n stack, motive stack → motive (n.children ++ stack) → motive (n :: stack))
    (stack : List Node) : motive stack := by
  -- each of the two steps takes one node at least off all the nodes of the stack
  induction hn : Node.countAll stack using Nat.strongRecOn generalizing stack with
  | ind count ih =>
    cases stack with
    | nil => exact nil
    | cons n stack =>
      rw [Node.countAll] at hn
      have hpos := Node.count_pos n
      have hcount : Node.countAll (n.children ++ stack) < count := by
        rw [Node.countAll_append, ← hn, Node.count_eq]
        omega
      exact cons n stack (ih _ (by omega) stack rfl) (ih _ hcount _ rfl)

/-- The walk with a stack goes in document order. -/
theorem walkFrom_eq (stack : List Node) : walkFrom stack = Node.preorderAll stack := by
  induction stack using stack_induction with
  | nil => rw [walkFrom, Node.preorderAll]
  | cons n stack _ ih =>
    rw [walkFrom, ih, Node.preorderAll, Node.preorder_eq, Node.preorderAll_append]
    rfl

theorem walk_eq (root : Node) : walk root = Node.preorder root := by
  unfold walk
  rw [walkFrom_eq, Node.preorderAll, Node.preorderAll, List.append_nil]

end Backtick
