import Backtick.Fault

/-!
# Places in a document

A cursor is a place in a text together with its line and column. A document is read from one
cursor to the next, and every reader gives the cursor behind what it has read.

Five characters end a line; a carriage return in front of a line feed belongs to it. The byte
order mark takes no column.
-/

namespace Backtick.Yaml

/-- A place in a text: what follows it, and where it stands. -/
structure Cursor where
  rest : Text
  index : Nat := 0
  line : Nat := 0
  column : Nat := 0

/-! ## Classes of characters

What follows a place is a code point or the end of the text.
-/

/-- The code point is one of these characters. -/
def among (chars : String) (c : CodePoint) : Bool := chars.toList.any c.is

/-- The characters that end a line. -/
def isBreak (c : CodePoint) : Bool :=
  c.val == 0x0A || c.val == 0x0D || c.val == 0x85 || c.val == 0x2028 || c.val == 0x2029

/-- The space. -/
def isSpace (c : CodePoint) : Bool := c.val == 0x20

/-- The tabulator. -/
def isTab (c : CodePoint) : Bool := c.val == 0x09

/-- The apostrophe. -/
def isApostrophe (c : CodePoint) : Bool := c.val == 0x27

/-- The double quote. -/
def isQuote (c : CodePoint) : Bool := c.val == 0x22

/-- The backslash. -/
def isBackslash (c : CodePoint) : Bool := c.val == 0x5C

/-- What follows belongs to a class. -/
def next (p : CodePoint → Bool) (t : Text) : Bool := t.head?.any p

/-- What follows ends the line. -/
def endsLine (t : Text) : Bool := t.head?.all isBreak

/-- What follows ends a field: a space or the end of the line. -/
def endsField (t : Text) : Bool := t.head?.all fun c => isSpace c || isBreak c

/-- What follows ends a word: a space, a tabulator or the end of the line. -/
def endsWord (t : Text) : Bool := t.head?.all fun c => isSpace c || isTab c || isBreak c

/-- The letters of names: letters, digits, `-` and `_`. -/
def isNameLetter (c : CodePoint) : Bool := c.isAlphanumeric || c.is '-' || c.is '_'

/-- The code points that a document may hold. -/
def isPrintable (c : CodePoint) : Bool :=
  c.val == 0x09 || c.val == 0x0A || c.val == 0x0D || c.val == 0x85 ||
    (0x20 ≤ c.val && c.val ≤ 0x7E) || (0xA0 ≤ c.val && c.val ≤ 0xD7FF) ||
    (0xE000 ≤ c.val && c.val ≤ 0xFFFD) || 0x10000 ≤ c.val

/-- What follows is a line that separates documents: three hyphens or three dots, and the end of a
word. -/
def isSeparator (t : Text) : Bool :=
  ("---".toList.map CodePoint.ofChar).isPrefixOf t && endsWord (t.drop 3) ||
    ("...".toList.map CodePoint.ofChar).isPrefixOf t && endsWord (t.drop 3)

namespace Cursor

/-- The cursor behind the next code point. -/
def advance (c : Cursor) : Cursor :=
  match c.rest with
  | [] => c
  | x :: rest =>
    if isBreak x && !(x.val == 0x0D && next (·.val == 0x0A) rest) then
      { rest, index := c.index + 1, line := c.line + 1, column := 0 }
    else if x.val == 0xFEFF then { c with rest, index := c.index + 1 }
    else { c with rest, index := c.index + 1, column := c.column + 1 }

/-- The cursor behind some code points. -/
def skip : Nat → Cursor → Cursor
  | 0, c => c
  | n + 1, c => skip n c.advance

/-- The code points of a class that follow, and the cursor behind them. -/
def span (p : CodePoint → Bool) (c : Cursor) : Text × Cursor :=
  let t := c.rest.takeWhile p
  (t, c.skip t.length)

/-- The cursor behind all code points of a class that follow. -/
def skipWhile (p : CodePoint → Bool) (c : Cursor) : Cursor := (c.span p).2

/-- The line break that follows, as it counts in a scalar, and the cursor behind it. The line and
paragraph separators stand for themselves, every other break for a line feed. -/
def lineBreak? (c : Cursor) : Option (CodePoint × Cursor) :=
  match c.rest with
  | [] => none
  | x :: rest =>
    if !isBreak x then none
    else if x.val == 0x0D && next (·.val == 0x0A) rest then some (.ofNat 0x0A, c.skip 2)
    else if x.val == 0x2028 || x.val == 0x2029 then some (x, c.advance)
    else some (.ofNat 0x0A, c.advance)

/-- The cursor behind the line break that follows, if there is one. -/
def skipBreak (c : Cursor) : Cursor := (c.lineBreak?.map (·.2)).getD c

/-- The cursor behind a comment, if one follows. -/
def skipComment (c : Cursor) : Cursor :=
  if next (·.is '#') c.rest then c.skipWhile (!isBreak ·) else c

/-- The cursor behind the rest of a line that may hold only blanks and a comment. -/
def skipLineEnd (c : Cursor) : Except Fault Cursor :=
  let c := (c.skipWhile isSpace).skipComment
  if endsLine c.rest then .ok c.skipBreak else .error .document

end Cursor

end Backtick.Yaml
