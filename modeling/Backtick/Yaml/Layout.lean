import Backtick.Yaml.Property
import Backtick.Yaml.Scalar

/-!
# Layout of a document

The tokens of a document, with the blocks that indentation stands for. Blocks are open at
increasing columns; a line that begins further to the left closes those it lies outside of.

A key is recognised only by the colon behind it. A token that could begin a key is therefore kept
pending, one for each level of flow collections, until the colon comes, the line ends or 1024
characters have passed; if the colon comes, the key and perhaps its block are opened in front of
that token.

## Termination

Every round takes at least one code point of the text.
-/

namespace Backtick.Yaml

/-- What turns out to open in front of a token. -/
inductive Opening where
  | nothing
  | key
  /-- a block of entries, and its first key -/
  | block
deriving DecidableEq

/-- The tokens of an opening. -/
def Opening.tokens : Opening → List Token
  | .nothing => []
  | .key => [.key]
  | .block => [.blockMapping, .key]

/-- A token that may turn out to begin a key. -/
structure PendingKey where
  /-- the number of the token -/
  number : Nat
  /-- it stands where a key has to stand -/
  required : Bool
  index : Nat
  line : Nat
  column : Nat

/-- What is known at a place of a document. -/
structure Layout where
  cursor : Cursor
  /-- the columns of the open blocks, innermost first -/
  columns : List Nat := []
  /-- the pending key outside of flow collections or, within some, of the innermost -/
  pending : Option PendingKey := none
  /-- the pending keys of the levels around this one, innermost first -/
  outer : List (Option PendingKey) := []
  /-- a key may begin here -/
  keyAllowed : Bool := true
  /-- the tokens so far -/
  tokens : Array (Opening × Token) := #[]

namespace Layout

/-- The place lies within a flow collection. -/
def inFlow (s : Layout) : Bool := !s.outer.isEmpty

/-- The column of the innermost block, -1 if there is none. -/
def indent (s : Layout) : Int := (s.columns.head?.map Int.ofNat).getD (-1)

/-- Adds a token. -/
def emit (s : Layout) (t : Token) : Layout := { s with tokens := s.tokens.push (.nothing, t) }

/-- Goes on to a place. -/
def moveTo (s : Layout) (c : Cursor) : Layout := { s with cursor := c }

/-- Closes the blocks to the right of a column, unless the place lies within a flow collection. -/
def closeBlocks (s : Layout) (column : Int) : Layout :=
  if s.inFlow then s
  else
    let closed := s.columns.takeWhile fun (n : Nat) => column < (n : Int)
    closed.foldl (fun s _ => s.emit .blockEnd) { s with columns := s.columns.drop closed.length }

/-- Opens a block at a column to the right of the innermost one. -/
def openBlock? (s : Layout) (column : Nat) : Option Layout :=
  if s.indent < column then some { s with columns := column :: s.columns } else none

/-! ## Pending keys -/

/-- A key that cannot wait any longer at a place. -/
def isStale (c : Cursor) (k : PendingKey) : Bool := k.line ≠ c.line || k.index + 1024 < c.index

/-- Gives up pending keys that have waited too long. One that has to be a key is a fault. -/
def dropStale (s : Layout) : Except Fault Layout :=
  let stale := isStale s.cursor
  if (s.pending :: s.outer).any (·.any fun k => stale k && k.required) then .error .document
  else
    let keep (k : Option PendingKey) := k.filter (!stale ·)
    .ok { s with pending := keep s.pending, outer := s.outer.map keep }

/-- Gives up the pending key of this level. -/
def dropPending (s : Layout) : Except Fault Layout :=
  if s.pending.any (·.required) then .error .document else .ok { s with pending := none }

/-- The token that follows may begin a key. -/
def savePending (s : Layout) : Except Fault Layout :=
  if !s.keyAllowed then .ok s
  else
    let c := s.cursor
    let key : PendingKey :=
      { number := s.tokens.size, required := !s.inFlow && s.indent = c.column, index := c.index,
        line := c.line, column := c.column }
    s.dropPending.map fun s => { s with pending := some key }

/-! ## Tokens -/

/-- A token of its own, of so many characters. -/
def mark (s : Layout) (t : Token) (size : Nat) : Layout := (s.emit t).moveTo (s.cursor.skip size)

/-- Reads a token that may begin a key. -/
def readKeyed (s : Layout) (read : Cursor → Except Fault (Token × Cursor)) :
    Except Fault Layout := do
  let s ← s.savePending
  let (t, c) ← read s.cursor
  return ({ s with keyAllowed := false }.emit t).moveTo c

/-- A line between documents. -/
def documentMark (s : Layout) (t : Token) : Except Fault Layout := do
  let s ← (s.closeBlocks (-1)).dropPending
  return { s with keyAllowed := false }.mark t 3

/-- A directive. -/
def readDirective (s : Layout) : Except Fault Layout := do
  let s ← (s.closeBlocks (-1)).dropPending
  let (d, c) ← directive s.cursor
  return ({ s with keyAllowed := false }.emit (.directive d)).moveTo c

/-- The beginning of a flow collection. -/
def openFlow (s : Layout) (t : Token) : Except Fault Layout := do
  let s ← s.savePending
  return { s with keyAllowed := true, outer := s.pending :: s.outer, pending := none }.mark t 1

/-- The end of a flow collection. -/
def closeFlow (s : Layout) (t : Token) : Except Fault Layout := do
  let s ← s.dropPending
  match s.outer with
  | [] => throw .document
  | key :: outer => return { s with keyAllowed := false, pending := key, outer }.mark t 1

/-- A comma of a flow collection. -/
def comma (s : Layout) : Except Fault Layout := do
  let s ← s.dropPending
  return { s with keyAllowed := true }.mark .comma 1

/-- Opens a block for an entry at this place, if none is open at its column. -/
def openEntry (s : Layout) (t : Token) : Except Fault Layout :=
  if s.inFlow then .ok s
  else if !s.keyAllowed then .error .document
  else .ok (((s.openBlock? s.cursor.column).map (·.emit t)).getD s)

/-- The hyphen of an item. -/
def item (s : Layout) : Except Fault Layout := do
  let s ← (← s.openEntry .blockSequence).dropPending
  return { s with keyAllowed := true }.mark .item 1

/-- The question mark of a key. -/
def keyMark (s : Layout) : Except Fault Layout := do
  let s ← (← s.openEntry .blockMapping).dropPending
  return { s with keyAllowed := !s.inFlow }.mark .key 1

/-- The colon of a value: behind the pending key, or without one. -/
def valueMark (s : Layout) : Except Fault Layout := do
  match s.pending with
  | some key =>
    let (opening, s) :=
      match if s.inFlow then none else s.openBlock? key.column with
      | some s => (Opening.block, s)
      | none => (Opening.key, s)
    let tokens := s.tokens.modify key.number fun (_, t) => (opening, t)
    return { s with tokens, pending := none, keyAllowed := false }.mark .value 1
  | none =>
    let s ← (← s.openEntry .blockMapping).dropPending
    return { s with keyAllowed := !s.inFlow }.mark .value 1

/-- A block of lines. -/
def readBlock (s : Layout) (folded : Bool) : Except Fault Layout := do
  let s ← s.dropPending
  let (t, c) ← blockScalar folded s.indent s.cursor.advance
  return ({ s with keyAllowed := true }.emit (.scalar false t)).moveTo c

/-- A plain scalar. A line break behind it lets a key begin. -/
def readPlain (s : Layout) : Except Fault Layout := do
  let s ← s.savePending
  let (t, broken, c) := plainScalar s.inFlow (s.indent + 1) s.cursor
  return ({ s with keyAllowed := broken }.emit (.scalar true t)).moveTo c

/-- A plain scalar can begin with a code point in front of a text. -/
def beginsPlain (flow : Bool) (c : CodePoint) (rest : Text) : Bool :=
  let isIndicator := isQuote c || isApostrophe c || c.val == 0x60 || c.val == 0x7B ||
    c.val == 0x7D || among "-?:,[]#&*!|>%@" c
  (!endsWord [c] && !isIndicator) ||
    (!endsWord rest && (c.is '-' || (!flow && (c.is '?' || c.is ':'))))

/-- Reads the token that begins with a code point. -/
def read (s : Layout) (c : CodePoint) (rest : Text) : Except Fault Layout :=
  let flow := s.inFlow
  let atLineStart := s.cursor.column = 0
  if c.is '%' && atLineStart then s.readDirective
  else if atLineStart && isSeparator (c :: rest) then
    s.documentMark (if c.is '-' then .documentStart else .documentEnd)
  else if c.is '[' then s.openFlow .flowSequence
  else if c.val == 0x7B then s.openFlow .flowMapping
  else if c.is ']' then s.closeFlow .flowSequenceEnd
  else if c.val == 0x7D then s.closeFlow .flowMappingEnd
  else if c.is ',' then s.comma
  else if c.is '-' && endsWord rest then s.item
  else if c.is '?' && (flow || endsWord rest) then s.keyMark
  else if c.is ':' && (flow || endsWord rest) then s.valueMark
  else if c.is '*' then
    s.readKeyed fun c => (anchorName c.advance).map fun (name, c) => (.alias name, c)
  else if c.is '&' then
    s.readKeyed fun c => (anchorName c.advance).map fun (name, c) => (.anchor name, c)
  else if c.is '!' then s.readKeyed fun c => (tagName c).map fun (name, c) => (.tag name, c)
  else if c.is '|' && !flow then s.readBlock false
  else if c.is '>' && !flow then s.readBlock true
  else if isApostrophe c then
    s.readKeyed fun c => (quotedScalar false c.advance).map fun (t, c) => (.scalar false t, c)
  else if isQuote c then
    s.readKeyed fun c => (quotedScalar true c.advance).map fun (t, c) => (.scalar false t, c)
  else if beginsPlain flow c rest then s.readPlain
  else .error .document

/-- Goes to the next token, over blanks, comments and line breaks. -/
def skipBlanks (s : Layout) : Layout :=
  let c := (s.cursor.skipWhile isSpace).skipComment
  match c.lineBreak? with
  | none => s.moveTo c
  | some (_, c) =>
    if _h : c.rest.length < s.cursor.rest.length then
      skipBlanks { s with cursor := c, keyAllowed := s.keyAllowed || !s.inFlow }
    else s.moveTo c
termination_by s.cursor.rest.length

/-- The tokens, at the end of the text. -/
def finish (s : Layout) : Except Fault (List Token) :=
  ((s.closeBlocks (-1)).dropPending).map fun s =>
    s.tokens.toList.flatMap fun (opening, t) => opening.tokens ++ [t]

/-- Reads all tokens that follow. -/
def run (s : Layout) : Except Fault (List Token) :=
  match s.skipBlanks.dropStale with
  | .error f => .error f
  | .ok s₁ =>
    let s₂ := s₁.closeBlocks s₁.cursor.column
    match s₂.cursor.rest with
    | [] => s₂.finish
    | c :: rest =>
      match s₂.read c rest with
      | .error f => .error f
      | .ok s' =>
        if _h : s'.cursor.rest.length < s.cursor.rest.length then run s' else .error .document
termination_by s.cursor.rest.length

end Layout

/-- The tokens of a document. A byte order mark at the beginning is skipped. -/
def tokens (t : Text) : Except Fault (List Token) :=
  let t := if next (·.val == 0xFEFF) t then t.drop 1 else t
  Layout.run { cursor := { rest := t } }

end Backtick.Yaml
