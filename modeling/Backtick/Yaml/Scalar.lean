import Backtick.Yaml.Cursor

/-!
# Scalars in a document

A scalar is written plain, in quotes or as a block of lines. In the first two forms a line break
between words counts as a space, and of several breaks in a row all but the first count; in a block
lines are kept, or folded where neither of two neighbours starts with a blank.

Every round of a reader has to take something; a reader that does not stops with a fault.
-/

namespace Backtick.Yaml

/-! ## Plain scalars -/

/-- The characters that end a plain word in a flow collection. -/
def isFlowEnd (c : CodePoint) : Bool :=
  c.is ',' || c.is '?' || c.is '[' || c.is ']' || c.val == 0x7B || c.val == 0x7D

/-- A plain word at the beginning of a text. A colon belongs to it unless it ends a key. -/
def plainWord (flow : Bool) : Text → Text
  | [] => []
  | c :: rest =>
    let endsKey := c.is ':' &&
      (endsWord rest || (flow && next (fun d => isFlowEnd d && !d.is '?') rest))
    if endsWord [c] || endsKey || (flow && isFlowEnd c) then [] else c :: plainWord flow rest

/-- What stands between two plain words. -/
structure Gap where
  /-- what it counts for, nothing if it ends the document -/
  text : Option Text
  /-- it holds a line break -/
  broken : Bool
  behind : Cursor

/-- Breaks and spaces behind the first line break of a gap, until a line that separates documents.
-/
def gapBreaks (c : Cursor) : Option Text × Cursor :=
  if next isSpace c.rest then
    let c' := c.advance
    if _h : c'.rest.length < c.rest.length then gapBreaks c' else (none, c)
  else
    match c.lineBreak? with
    | none => (some [], c)
    | some (x, c') =>
      if isSeparator c'.rest then (none, c')
      else if _h : c'.rest.length < c.rest.length then
        let (t, c'') := gapBreaks c'
        (t.map (x :: ·), c'')
      else (none, c)
termination_by c.rest.length

/-- Line breaks joined: one counts as a space, and of several the first does not count. A
separator of lines or paragraphs always counts. -/
def foldBreaks (first : CodePoint) (others : Text) : Text :=
  if first.val ≠ 0x0A then first :: others
  else if others.isEmpty then [.ofNat 0x20]
  else others

/-- The gap behind a plain word. -/
def plainGap (c : Cursor) : Gap :=
  let (spaces, c) := c.span isSpace
  match c.lineBreak? with
  | none => { text := some spaces, broken := false, behind := c }
  | some (x, c) =>
    if isSeparator c.rest then { text := none, broken := true, behind := c }
    else
      let (others, c) := gapBreaks c
      { text := others.map (foldBreaks x), broken := true, behind := c }

/-- A plain scalar: its text, whether a line break follows it, and the cursor behind it. Outside of
flow collections the lines of a plain scalar stand at `indent` or further right. -/
def plainScalar (flow : Bool) (indent : Int) (c : Cursor) : Text × Bool × Cursor :=
  let word := if next (·.is '#') c.rest then [] else plainWord flow c.rest
  if word.isEmpty then ([], false, c)
  else
    let gap := plainGap (c.skip word.length)
    let c' := gap.behind
    let goesOn :=
      match gap.text with
      | none => false
      | some t => !t.isEmpty && !next (·.is '#') c'.rest && (flow || indent ≤ c'.column) &&
          !(plainWord flow c'.rest).isEmpty
    if goesOn then
      if _h : c'.rest.length < c.rest.length then
        let (t, broken, c'') := plainScalar flow indent c'
        (word ++ gap.text.getD [] ++ t, broken, c'')
      else (word, gap.broken, c')
    else (word, gap.broken, c')
termination_by c.rest.length

/-! ## Quoted scalars -/

/-- What a letter behind a backslash stands for. -/
def escapes : List (Char × Nat) :=
  [('0', 0x00), ('a', 0x07), ('b', 0x08), ('t', 0x09), (Char.ofNat 0x09, 0x09), ('n', 0x0A),
    ('v', 0x0B), ('f', 0x0C), ('r', 0x0D), ('e', 0x1B), (' ', 0x20), (Char.ofNat 0x22, 0x22),
    (Char.ofNat 0x5C, 0x5C), ('/', 0x2F), ('N', 0x85), ('_', 0xA0), ('L', 0x2028), ('P', 0x2029)]

/-- How many hexadecimal digits follow a letter behind a backslash. -/
def escapeSizes : List (Char × Nat) := [('x', 2), ('u', 4), ('U', 8)]

/-- The value of hexadecimal digits. -/
def hexValue? (digits : Text) : Option Nat :=
  digits.foldl (fun n? c => n?.bind fun n => c.hexValue?.map (16 * n + ·)) (some 0)

/-- The code point that is given by a number of hexadecimal digits. -/
def numberedEscape (size : Nat) (c : Cursor) : Except Fault (CodePoint × Cursor) :=
  let digits := c.rest.take size
  match hexValue? digits with
  | none => .error .document
  | some n =>
    if digits.length ≠ size then .error .document
    else if 0x7FFFFFFF < n then .error .oversized
    else
      match CodePoint.ofNat? n with
      | some x => .ok (x, c.skip size)
      | none => .error (.badValue "chr() arg not in range(0x110000)")

/-- Blanks and line breaks behind the first line break in quotes. Documents do not end there. -/
def quotedBreaks (c : Cursor) : Except Fault (Text × Cursor) :=
  if isSeparator c.rest then .error .document
  else
    match (c.skipWhile fun x => isSpace x || isTab x).lineBreak? with
    | none => .ok ([], c.skipWhile fun x => isSpace x || isTab x)
    | some (x, c') =>
      if _h : c'.rest.length < c.rest.length then
        (quotedBreaks c').map fun (t, c'') => (x :: t, c'')
      else .error .document
termination_by c.rest.length

/-- What follows a backslash. -/
def escape (c : Cursor) : Except Fault (Text × Cursor) :=
  match c.rest with
  | [] => .error .document
  | x :: _ =>
    match escapes.find? fun (l, _) => x.is l with
    | some (_, n) => .ok ([.ofNat n], c.advance)
    | none =>
      match escapeSizes.find? fun (l, _) => x.is l with
      | some (_, size) => (numberedEscape size c.advance).map fun (y, c') => ([y], c')
      | none => if isBreak x then quotedBreaks c.skipBreak else .error .document

/-- Blanks in quotes, with the line breaks among them joined. -/
def quotedGap (c : Cursor) : Except Fault (Text × Cursor) :=
  let (blanks, c) := c.span fun x => isSpace x || isTab x
  if c.rest.isEmpty then .error .document
  else
    match c.lineBreak? with
    | none => .ok (blanks, c)
    | some (x, c) => (quotedBreaks c).map fun (others, c') => (foldBreaks x others, c')

/-- The characters that stand for themselves in both sorts of quotes. -/
def isQuotedPlain (c : CodePoint) : Bool :=
  !isApostrophe c && !isQuote c && !isBackslash c && !isSpace c && !isTab c && !isBreak c

/-- One piece of a quoted scalar: plain characters, an escape, a lone quote of the other sort, or a
gap. Nothing is left of it at the closing quote. -/
def quotedPiece (double : Bool) (c : Cursor) : Except Fault (Option Text × Cursor) :=
  match c.rest with
  | [] => .error .document
  | x :: rest =>
    if isQuotedPlain x then
      let (t, c') := c.span isQuotedPlain
      .ok (some t, c')
    else if isApostrophe x && !double then
      if next isApostrophe rest then .ok (some [x], c.skip 2) else .ok (none, c.advance)
    else if isQuote x && double then .ok (none, c.advance)
    else if isBackslash x && double then (escape c.advance).map fun (t, c') => (some t, c')
    else if isApostrophe x || isQuote x || isBackslash x then .ok (some [x], c.advance)
    else (quotedGap c).map fun (t, c') => (some t, c')

/-- The rest of a quoted scalar, behind its opening quote. -/
def quotedScalar (double : Bool) (c : Cursor) : Except Fault (Text × Cursor) :=
  match quotedPiece double c with
  | .error f => .error f
  | .ok (none, c') => .ok ([], c')
  | .ok (some t, c') =>
    if _h : c'.rest.length < c.rest.length then
      (quotedScalar double c').map fun (t', c'') => (t ++ t', c'')
    else .error .document
termination_by c.rest.length

/-! ## Block scalars -/

/-- What becomes of the line breaks at the end of a block. -/
inductive Chomping where
  /-- all are dropped -/
  | strip
  /-- one is kept -/
  | clip
  /-- all are kept -/
  | keep
deriving DecidableEq

/-- The sign of a chomping. -/
def chomping? : Text → Option (Chomping × Text)
  | c :: rest =>
    if c.is '+' then some (.keep, rest) else if c.is '-' then some (.strip, rest) else none
  | [] => none

/-- The digit of an indentation. -/
def increment? : Text → Option (Nat × Text)
  | c :: rest => if c.isDigit then some (c.val - 0x30, rest) else none
  | [] => none

/-- The signs behind the indicator of a block, in either order. -/
def blockSigns (t : Text) : Chomping × Option Nat × Text :=
  match chomping? t with
  | some (chomping, rest) =>
    match increment? rest with
    | some (n, rest) => (chomping, some n, rest)
    | none => (chomping, none, rest)
  | none =>
    match increment? t with
    | some (n, rest) =>
      match chomping? rest with
      | some (chomping, rest) => (chomping, some n, rest)
      | none => (.clip, some n, rest)
    | none => (.clip, none, t)

/-- The cursor behind spaces, as far as a column. -/
def skipIndent (indent : Nat) (c : Cursor) : Cursor :=
  c.skip ((c.rest.takeWhile isSpace).length.min (indent - c.column))

/-- The empty lines at the beginning of a block without an indentation of its own, and the largest
column that their spaces reach. -/
def leadingBreaks (c : Cursor) : Text × Nat × Cursor :=
  let c' := c.skipWhile isSpace
  let reached := if next isSpace c.rest then c'.column else 0
  match c'.lineBreak? with
  | none => ([], reached, c')
  | some (x, c') =>
    if _h : c'.rest.length < c.rest.length then
      let (t, reached', c'') := leadingBreaks c'
      (x :: t, max reached reached', c'')
    else ([], reached, c)
termination_by c.rest.length

/-- The empty lines that follow in a block. -/
def blockBreaks (indent : Nat) (c : Cursor) : Text × Cursor :=
  let c' := skipIndent indent c
  match c'.lineBreak? with
  | none => ([], c')
  | some (x, c') =>
    if _h : c'.rest.length < c.rest.length then
      let (t, c'') := blockBreaks indent c'
      (x :: t, c'')
    else ([], c)
termination_by c.rest.length

/-- The lines of a block, behind the empty lines in front of them. What is left over at the end is
the last line break and the empty lines behind it. -/
def blockLines (folded : Bool) (indent : Nat) (breaks : Text) (c : Cursor) :
    Text × Text × Text × Cursor :=
  if c.column ≠ indent || c.rest.isEmpty then ([], [], breaks, c)
  else
    let isBlank := fun x => isSpace x || isTab x
    let (line, behind) := c.span (!isBreak ·)
    let (newline, behind) :=
      match behind.lineBreak? with
      | some (x, behind) => (([x] : Text), behind)
      | none => ([], behind)
    let (breaks', c') := blockBreaks indent behind
    if c'.column = indent && !c'.rest.isEmpty then
      let joint : Text :=
        if folded && newline == [CodePoint.ofNat 0x0A] && !next isBlank c.rest &&
            !next isBlank c'.rest then
          if breaks'.isEmpty then [.ofNat 0x20] else []
        else newline
      if _h : c'.rest.length < c.rest.length then
        let (t, newline', last, c'') := blockLines folded indent breaks' c'
        (breaks ++ line ++ joint ++ t, newline', last, c'')
      else (breaks ++ line, newline, breaks', c')
    else (breaks ++ line, newline, breaks', c')
termination_by c.rest.length

/-- The rest of a block scalar, behind its indicator. The lines of the block stand to the right of
`indent`, the column of the collection that the block belongs to. -/
def blockScalar (folded : Bool) (indent : Int) (c : Cursor) : Except Fault (Text × Cursor) := do
  let (chomping, increment, rest) := blockSigns c.rest
  if increment = some 0 || !endsField rest then throw .document
  let c ← (c.skip (c.rest.length - rest.length)).skipLineEnd
  let least := (indent + 1).toNat.max 1
  let (column, breaks, c) :=
    match increment with
    | some n =>
      let column := least + n - 1
      let (breaks, c) := blockBreaks column c
      (column, breaks, c)
    | none =>
      let (breaks, reached, c) := leadingBreaks c
      (least.max reached, breaks, c)
  let (t, newline, last, c) := blockLines folded column breaks c
  match chomping with
  | .strip => return (t, c)
  | .clip => return (t ++ newline, c)
  | .keep => return (t ++ newline ++ last, c)

end Backtick.Yaml
