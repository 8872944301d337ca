import Backtick.Comment
import Backtick.Fault
import Backtick.Region

/-!
# Locating marked literals

A node of a wanted type that spans two bytes or more is marked when one of the comments that lead
it contains the marker. `locate` gives the outermost marked nodes as regions: their characters
without the byte at each end, which for a literal are its delimiters. What lies inside a marked
node is not looked at, so the regions of a tree whose nodes nest never overlap.

`locate` goes through the tree with an explicit stack; `outermost` chooses the same nodes by
recursion on the tree.

## Termination

As for `walk`: a step takes a node from the stack and puts at most its children there.
-/

namespace Backtick

/-- What is looked for. -/
structure Query where
  marker : Text := "tsx"
  types : List Text := ["template_string"]

namespace Query

/-- The node is of a wanted type and long enough to have delimiters. -/
def admits (q : Query) (n : Node) : Bool :=
  q.types.contains n.type && n.start + 2 ≤ n.stop

/-- One of the bodies contains the marker. -/
def marks (q : Query) (bodies : List Text) : Bool :=
  bodies.any (Text.occursIn q.marker)

/-- The node is selected. The comments are looked at only for admitted nodes. -/
def selects (q : Query) (comments : CommentIndex) (n : Node) : Except Utf8.DecodeFault Bool :=
  if q.admits n then (comments.leading n.start).map q.marks else .ok false

end Query

/-- The region of a selected node, whose number is `index`. -/
def narrow (source : Bytes) (r : OffsetReader) (index : Nat) (n : Node) :
    Except Utf8.DecodeFault (Region × OffsetReader) :=
  let (start, r) := r.convert source (n.start + 1)
  let (stop, r) := r.convert source ((n.stop : Int) - 1)
  start.bind fun start => stop.map fun stop => (⟨index, start, stop⟩, r)

/-- The regions of the selected nodes on and below a stack, numbered from `index`. -/
def locateFrom (q : Query) (comments : CommentIndex) (r : OffsetReader) (index : Nat) :
    List Node → Except Utf8.DecodeFault (List Region)
  | [] => .ok []
  | n :: stack => do
    if ← q.selects comments n then
      let (region, r) ← narrow comments.source r index n
      let rest ← locateFrom q comments r (index + 1) stack
      return region :: rest
    else locateFrom q comments r index (n.children ++ stack)
termination_by stack => Node.countAll stack
decreasing_by
  · have := Node.count_pos n
    rw [Node.countAll]
    omega
  · rw [Node.countAll_append, Node.countAll, Node.count_eq]
    omega

/-- The regions of the marked nodes of a text's tree, in document order. -/
def locate (q : Query) (text : Text) (root : Node) : Except Fault (List Region) :=
  match Utf8.encode text with
  | .error f => .error (.encoding f)
  | .ok source =>
    match locateFrom q (.ofTree root source) {} 0 [root] with
    | .ok regions => .ok regions
    | .error f => .error (.decoding f)

mutual

/-- The outermost nodes of a tree that satisfy a condition, in document order. -/
def outermost (p : Node → Bool) : Node → List Node
  | ⟨type, start, stop, point, missing, hasError, children⟩ =>
    let n : Node := ⟨type, start, stop, point, missing, hasError, children⟩
    if p n then [n] else outermostAll p children

/-- The outermost nodes of several trees that satisfy a condition. -/
def outermostAll (p : Node → Bool) : List Node → List Node
  | [] => []
  | n :: rest => outermost p n ++ outermostAll p rest

end

end Backtick
