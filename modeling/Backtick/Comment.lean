import Backtick.Tree
import Backtick.Text.Blank
import Backtick.Text.Utf8

/-!
# Leading comments

Comments stand at any level of a syntax tree, so the comments that lead a node are found by
position: they are the run of comments in front of it in which only ASCII blanks stand between a
comment and the next one, and between the last one and the node.

`CommentIndex.leading` finds the last comment that ends at or before an offset by bisection and
then goes backwards. `leadingScan` finds the same run by looking at every comment.

## Termination

Bisection halves an interval; the way back counts comments down.
-/

namespace Backtick

/-- The bytes from one offset up to, but not including, another. -/
def Bytes.slice (b : Bytes) (start stop : Nat) : Bytes := (b.drop start).take (stop - start)

/-- Only ASCII blanks stand between two offsets. -/
def isGap (source : Bytes) (start stop : Nat) : Bool :=
  (Bytes.slice source start stop).all fun b => Text.isAsciiBlank b.toNat

/-- The inside of a comment: what stands between its marks. A block comment that is not closed
has all that follows its opening mark. -/
def commentBody (raw : Text) : Text :=
  if ("/*" : Text).isPrefixOf raw then
    if ("*/" : Text).isSuffixOf raw then Text.slice raw 2 (-2) else raw.drop 2
  else if ("//" : Text).isPrefixOf raw then raw.drop 2
  else raw

/-- The bytes that a comment spans. -/
structure Span where
  start : Nat
  stop : Nat
deriving DecidableEq, Inhabited

/-- The inside of the comment that spans these bytes. -/
def Span.body (source : Bytes) (s : Span) : Except Utf8.DecodeFault Text :=
  (Utf8.decode (Bytes.slice source s.start s.stop)).map commentBody

/-- The comments of a source text in document order. -/
structure CommentIndex where
  source : Bytes
  spans : Array Span

namespace CommentIndex

/-- The comments of a tree. -/
def ofTree (root : Node) (source : Bytes) : CommentIndex :=
  { source, spans := ((walk root).filter Node.isComment |>.map fun n => ⟨n.start, n.stop⟩).toArray }

/-- The first position from `low` to `high` that the ends of the comments pass `offset` at, when
the ends ascend. -/
def bisect (spans : Array Span) (offset : Nat) (low high : Nat) : Nat :=
  if low < high then
    let middle := (low + high) / 2
    if offset < (spans[middle]?.getD default).stop then bisect spans offset low middle
    else bisect spans offset (middle + 1) high
  else low
termination_by high - low

/-- The bodies of the run of comments that ends in front of `cursor`, nearest first, among the
first `n` comments. -/
def backwards (index : CommentIndex) : Nat → Nat → Except Utf8.DecodeFault (List Text)
  | 0, _ => .ok []
  | n + 1, cursor =>
    let span := index.spans[n]?.getD default
    if isGap index.source span.stop cursor then do
      let body ← span.body index.source
      let rest ← backwards index n span.start
      return body :: rest
    else .ok []

/-- The bodies of the comments that lead a node starting at an offset, nearest first. -/
def leading (index : CommentIndex) (offset : Nat) : Except Utf8.DecodeFault (List Text) :=
  backwards index (bisect index.spans offset 0 index.spans.size) offset

end CommentIndex

/-- The comments, given from the last to the first, that run up to `cursor`: one belongs to the
run when it ends at or before the cursor with a gap between, and the run goes on at its start.
Comments that end after the cursor are passed over. -/
def leadingScan (source : Bytes) : List Span → Nat → List Span
  | [], _ => []
  | s :: earlier, cursor =>
    if s.stop ≤ cursor then
      if isGap source s.stop cursor then s :: leadingScan source earlier s.start else []
    else leadingScan source earlier cursor

end Backtick
