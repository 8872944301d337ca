import Backtick.Text

/-!
# Syntax trees

A syntax tree says for each node its type, the bytes of the source that it spans and its
children from left to right. A node may stand for a token that the source lacks (`missing`), and
a root tells whether a syntax error lies anywhere below it.

`walk` visits a tree in document order with an explicit stack; `Node.preorder` says the same by
recursion on the tree.

## Termination

`walk` takes one node from the stack and puts its children there, so the number of nodes on and
below the stack falls by one.
-/

namespace Backtick

/-- A node of a syntax tree. Offsets count bytes; the point is the row and column of the start,
both from zero. -/
structure Node where
  type : Text
  start : Nat
  stop : Nat
  point : Nat × Nat
  missing : Bool
  hasError : Bool
  children : List Node

namespace Node

instance : Inhabited Node := ⟨⟨[], 0, 0, (0, 0), false, false, []⟩⟩

mutual

/-- The number of nodes of a tree. -/
def count : Node → Nat
  | ⟨_, _, _, _, _, _, children⟩ => countAll children + 1

/-- The number of nodes of several trees. -/
def countAll : List Node → Nat
  | [] => 0
  | n :: rest => count n + countAll rest

end

theorem count_pos (n : Node) : 0 < count n := by
  cases n
  simp [count]

theorem count_eq (n : Node) : count n = countAll n.children + 1 := by
  cases n
  rfl

theorem countAll_append (a b : List Node) : countAll (a ++ b) = countAll a + countAll b := by
  induction a with
  | nil => simp [countAll]
  | cons n rest ih => simp [countAll, ih, Nat.add_assoc]

mutual

/-- The nodes of a tree in document order: a node, then its children's trees from left to
right. -/
def preorder : Node → List Node
  | ⟨type, start, stop, point, missing, hasError, children⟩ =>
    ⟨type, start, stop, point, missing, hasError, children⟩ :: preorderAll children

/-- The nodes of several trees in document order. -/
def preorderAll : List Node → List Node
  | [] => []
  | n :: rest => preorder n ++ preorderAll rest

end

theorem preorder_eq (n : Node) : preorder n = n :: preorderAll n.children := by
  cases n
  rfl

mutual

/-- The nodes of a tree nest: each spans a range, its children lie in order and apart from each
other inside it. -/
def Nested : Node → Prop
  | ⟨_, start, stop, _, _, _, children⟩ => NestedIn start stop children

/-- The trees nest, in order and apart from each other, between two offsets. -/
def NestedIn (low high : Nat) : List Node → Prop
  | [] => low ≤ high
  | n :: rest => low ≤ n.start ∧ n.start ≤ n.stop ∧ Nested n ∧ NestedIn n.stop high rest

end

/-- The node marks a place where the source is wrong. -/
def isFault (n : Node) : Bool :=
  n.type == Text.ofString "ERROR" || n.missing

/-- The node is a comment. -/
def isComment (n : Node) : Bool :=
  n.type == Text.ofString "comment"

end Node

/-- The nodes on and below a stack in document order. -/
def walkFrom : List Node → List Node
  | [] => []
  | n :: stack => n :: walkFrom (n.children ++ stack)
termination_by stack => Node.countAll stack
decreasing_by
  rw [Node.countAll_append, Node.countAll, Node.count_eq]
  omega

/-- The nodes of a tree in document order. -/
def walk (root : Node) : List Node := walkFrom [root]

/-- The first node in document order that marks a fault. -/
def firstFault? (root : Node) : Option Node := (walk root).find? Node.isFault

end Backtick
