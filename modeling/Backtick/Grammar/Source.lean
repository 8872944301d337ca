import Backtick.Text

/-!
# Source texts and their lexemes

A source text is an array of code points with, for each place between them, the byte offset and
the row and column. A *place* counts code points from the start.

The lexemes of the grammar are given as functions from a place to the place behind the lexeme, or
to `none` when no such lexeme starts there. Each takes the longest one.

## Termination

A scan counts down the code points that remain.
-/

namespace Backtick

/-- A text with the byte offset and the point of every place in it. -/
structure Source where
  chars : Array CodePoint
  offsets : Array Nat
  points : Array (Nat × Nat)

namespace Source

/-- The number of bytes that a code point takes. -/
def width (c : CodePoint) : Nat :=
  if c.val < 0x80 then 1 else if c.val < 0x800 then 2 else if c.val < 0x10000 then 3 else 4

/-- The source of a text. -/
def ofText (t : Text) : Source :=
  let step := fun (s : Array Nat × Array (Nat × Nat) × Nat × Nat × Nat) (c : CodePoint) =>
    let (offsets, points, offset, row, column) := s
    let offset := offset + width c
    let (row, column) := if c.is '\n' then (row + 1, 0) else (row, column + width c)
    (offsets.push offset, points.push (row, column), offset, row, column)
  let (offsets, points, _) := t.foldl step (#[0], #[(0, 0)], 0, 0, 0)
  { chars := t.toArray, offsets, points }

/-- The number of code points. -/
def size (s : Source) : Nat := s.chars.size

/-- The code point behind a place. -/
def at? (s : Source) (i : Nat) : Option CodePoint := s.chars[i]?

/-- The number of the code point behind a place, zero at the end. -/
def code (s : Source) (i : Nat) : Nat :=
  match s.chars[i]? with
  | some c => c.val
  | none => 0

/-- The byte offset of a place. -/
def offset (s : Source) (i : Nat) : Nat := s.offsets[i]?.getD 0

/-- The row and column of a place. -/
def point (s : Source) (i : Nat) : Nat × Nat := s.points[i]?.getD (0, 0)

/-- This character stands behind a place. -/
def has (s : Source) (i : Nat) (ch : Char) : Bool := s.code i == ch.toNat && i < s.size

/-- The code points of a string stand behind a place. -/
def hasAll (s : Source) (i : Nat) (word : List Char) : Bool :=
  match word with
  | [] => true
  | ch :: rest => s.has i ch && s.hasAll (i + 1) rest

/-- The place behind the longest run of code points of a class, looking at `n` of them. -/
def spanFor (s : Source) (p : Nat → Bool) : Nat → Nat → Nat
  | 0, i => i
  | n + 1, i => if i < s.size && p (s.code i) then spanFor s p n (i + 1) else i

/-- The place behind the longest run of code points of a class. -/
def span (s : Source) (p : Nat → Bool) (i : Nat) : Nat := spanFor s p (s.size - i) i

/-- The code points from one place up to another. -/
def text (s : Source) (i j : Nat) : Text := (s.chars.extract i j).toList

end Source

/-! ## Classes of code points -/

namespace Lexeme

/-- The separators of Unicode that are blanks of the grammar but no line ends. -/
def isSpaceSeparator (n : Nat) : Bool :=
  n == 0x20 || n == 0xA0 || n == 0x1680 || (0x2000 ≤ n && n ≤ 0x200A) || n == 0x202F ||
    n == 0x205F || n == 0x3000

/-- Blanks between tokens. -/
def isBlank (n : Nat) : Bool :=
  (0x09 ≤ n && n ≤ 0x0D) || isSpaceSeparator n || n == 0xFEFF || n == 0x2028 || n == 0x2029 ||
    n == 0x2060 || n == 0x200B

/-- The blanks that automatic semicolons and markup text look through: those of the grammar
without the ones that forbid a line break. -/
def isOpenBlank (n : Nat) : Bool :=
  (0x09 ≤ n && n ≤ 0x0D) || n == 0x20 || n == 0x1680 || (0x2000 ≤ n && n ≤ 0x2006) ||
    (0x2008 ≤ n && n ≤ 0x200A) || n == 0x2028 || n == 0x2029 || n == 0x205F || n == 0x3000

/-- Line ends that stop a line comment. -/
def isLineEnd (n : Nat) : Bool :=
  n == 0x0A || n == 0x0D || n == 0x2028 || n == 0x2029

def isDigit (n : Nat) : Bool := 0x30 ≤ n && n ≤ 0x39

def isLetter (n : Nat) : Bool := (0x41 ≤ n && n ≤ 0x5A) || (0x61 ≤ n && n ≤ 0x7A)

def isHexDigit (n : Nat) : Bool :=
  isDigit n || (0x41 ≤ n && n ≤ 0x46) || (0x61 ≤ n && n ≤ 0x66)

/-- The ASCII code points that no name contains: everything but letters, digits, `$` and `_`. -/
def isMark (n : Nat) : Bool :=
  n < 0x80 && !isLetter n && !isDigit n && n != 0x24 && n != 0x5F && n != 0x7F

/-- Code points that continue a name. -/
def isNamePart (n : Nat) : Bool := !isMark n && !isBlank n

/-- Code points that start a name. -/
def isNameStart (n : Nat) : Bool := isNamePart n && !isDigit n

/-! ## Names -/

/-- The place behind `n` hexadecimal digits. -/
def hexDigits? (s : Source) : Nat → Nat → Option Nat
  | 0, i => some i
  | n + 1, i => if isHexDigit (s.code i) then hexDigits? s n (i + 1) else none

/-- The place behind a code point given in braces by one hexadecimal digit or more. -/
def bracedHex? (s : Source) (i : Nat) : Option Nat :=
  let j := s.span isHexDigit (i + 1)
  if s.has i '\x7b' && i + 1 < j && s.has j '\x7d' then some (j + 1) else none

/-- The place behind an escaped code point in a name. -/
def nameEscape? (s : Source) (i : Nat) : Option Nat :=
  if s.hasAll i ['\\', 'u'] then (bracedHex? s (i + 2)).or (hexDigits? s 4 (i + 2)) else none

/-- The place behind the parts of a name, looking at `n` of them. -/
def nameParts (s : Source) : Nat → Nat → Nat
  | 0, i => i
  | n + 1, i =>
    if i < s.size && isNamePart (s.code i) then nameParts s n (i + 1)
    else
      match nameEscape? s i with
      | some j => nameParts s n j
      | none => i

/-- The place behind a name. -/
def name? (s : Source) (i : Nat) : Option Nat :=
  if i < s.size && isNameStart (s.code i) then some (nameParts s (s.size - i) (i + 1))
  else (nameEscape? s i).map (nameParts s (s.size - i))

/-- The place behind a private name, whose first part may be a digit. -/
def privateName? (s : Source) (i : Nat) : Option Nat :=
  if s.has i '#' then name? s (i + 1) else none

/-- The place behind a name in markup, which has a hyphen and is otherwise plain. -/
def markupName? (s : Source) (i : Nat) : Option Nat :=
  let isPart := fun n => isLetter n || isDigit n || n == 0x24 || n == 0x5F
  let j := s.span isPart i
  if i < j && !isDigit (s.code i) && s.has j '-' then
    some (s.span (fun n => isPart n || n == 0x2D) j)
  else none

/-! ## Comments -/

/-- The place behind the end mark of a block comment, looking at `n` code points. -/
def blockEnd? (s : Source) : Nat → Nat → Option Nat
  | 0, _ => none
  | n + 1, i => if s.hasAll i ['*', '/'] then some (i + 2) else blockEnd? s n (i + 1)

/-- The place behind a comment. -/
def comment? (s : Source) (i : Nat) : Option Nat :=
  if s.hasAll i ['/', '/'] then some (s.span (fun n => !isLineEnd n) (i + 2))
  else if s.hasAll i ['/', '*'] then blockEnd? s (s.size - i) (i + 2)
  else none

/-- The place behind a comment in the manner of markup, which ends with its line. -/
def markupComment? (s : Source) (i : Nat) : Option Nat :=
  let isLineEnd := fun n => n == 0 || n == 0x0A || n == 0x2028 || n == 0x2029
  if s.hasAll i ['<', '!', '-', '-'] then some (s.span (fun n => !isLineEnd n) (i + 4))
  else if s.hasAll i ['-', '-', '>'] then some (s.span (fun n => !isLineEnd n) (i + 3))
  else none

/-! ## Numbers -/

/-- The place behind digits of a class with single underscores between them, looking at `n`
code points; the first digit is already read. -/
def moreDigits (s : Source) (p : Nat → Bool) : Nat → Nat → Nat
  | 0, i => i
  | n + 1, i =>
    if p (s.code i) then moreDigits s p n (i + 1)
    else if s.has i '_' && p (s.code (i + 1)) then moreDigits s p n (i + 2)
    else i

/-- The place behind digits of a class. -/
def digits? (s : Source) (p : Nat → Bool) (i : Nat) : Option Nat :=
  if p (s.code i) then some (moreDigits s p (s.size - i) (i + 1)) else none

/-- The place behind an exponent. -/
def exponent? (s : Source) (i : Nat) : Option Nat :=
  if s.has i 'e' || s.has i 'E' then
    digits? s isDigit (if s.has (i + 1) '+' || s.has (i + 1) '-' then i + 2 else i + 1)
  else none

/-- The place behind digits of a base that are marked by a letter. -/
def basedDigits? (s : Source) (lower upper : Char) (p : Nat → Bool) (i : Nat) : Option Nat :=
  if s.has i '0' && (s.has (i + 1) lower || s.has (i + 1) upper) then digits? s p (i + 2) else none

/-- The place behind the whole part of a decimal number that has a fraction or an exponent:
digits without more than one leading zero. -/
def wholePart? (s : Source) (i : Nat) : Option Nat :=
  if s.has i '0' then
    if isDigit (s.code (i + 1)) && !s.has (i + 1) '0' then digits? s isDigit (i + 1)
    else some (i + 1)
  else digits? s isDigit i

/-- The later of two places. -/
def later (a b : Option Nat) : Option Nat :=
  match a, b with
  | some i, some j => some (max i j)
  | some i, none => some i
  | none, b => b

/-- The place behind a number: the longest of its forms. -/
def number? (s : Source) (i : Nat) : Option Nat :=
  let hex := basedDigits? s 'x' 'X' isHexDigit i
  let binary := basedDigits? s 'b' 'B' (fun n => n == 0x30 || n == 0x31) i
  let octal := basedDigits? s 'o' 'O' (fun n => 0x30 ≤ n && n ≤ 0x37) i
  let plain := digits? s isDigit i
  let integer := later (later hex binary) (later octal plain)
  let big := integer.bind fun j => if s.has j 'n' then some (j + 1) else none
  let scaled := fun j => later (some j) (exponent? s j)
  let whole := wholePart? s i
  let fraction := whole.bind fun j =>
    if s.has j '.' then scaled ((digits? s isDigit (j + 1)).getD (j + 1)) else none
  let bare := if s.has i '.' then (digits? s isDigit (i + 1)).bind scaled else none
  later (later integer big) (later (later fraction bare) (whole.bind (exponent? s)))

/-! ## Text literals -/

/-- The place behind an escape in a text literal. -/
def escape? (s : Source) (i : Nat) : Option Nat :=
  if s.has i '\\' && i + 1 < s.size then
    let n := s.code (i + 1)
    let isOctal := fun n => 0x30 ≤ n && n ≤ 0x37
    if isOctal n then some (min (i + 4) (s.span isOctal (i + 1)))
    else if n == 0x78 then hexDigits? s 2 (i + 2)
    else if n == 0x75 then (bracedHex? s (i + 2)).or (hexDigits? s 4 (i + 2))
    else
      let next := s.code (i + 2)
      if (n == 0x0D || n == 0x3F) && (next == 0x0A || next == 0x2028 || next == 0x2029) then
        some (i + 3)
      else some (i + 2)
  else none

/-- The place behind the plain text of a quoted literal. -/
def quotedText (s : Source) (quote : Char) (i : Nat) : Nat :=
  s.span (fun n => n != quote.toNat && n != 0x5C && n != 0x0A && n != 0x0D) i

/-- The place behind the plain text of a template literal, looking at `n` code points, or `none`
when the source ends or has a zero in it. -/
def templateTextFor (s : Source) : Nat → Nat → Option Nat
  | 0, _ => none
  | n + 1, i =>
    if s.code i == 0 then none
    else if s.has i '`' || s.has i '\\' then some i
    else if s.has i '$' then
      if s.has (i + 1) '\x7b' then some i else templateTextFor s n (i + 1)
    else templateTextFor s n (i + 1)

/-- The place behind the plain text of a template literal, if there is any. -/
def templateText? (s : Source) (i : Nat) : Option Nat :=
  (templateTextFor s (s.size - i) i).filter (i < ·)

/-! ## Regular expressions -/

/-- The place behind a class in brackets, whose opening one is read, looking at `n` code
points. -/
def regexClass? (s : Source) : Nat → Nat → Option Nat
  | 0, _ => none
  | n + 1, i =>
    if s.has i ']' then some (i + 1)
    else if s.has i '\n' || s.size ≤ i then none
    else if s.has i '\\' then
      if s.size ≤ i + 1 || s.has (i + 1) '\n' then none else regexClass? s n (i + 2)
    else regexClass? s n (i + 1)

/-- The place behind the parts of a pattern, looking at `n` of them. -/
def regexParts (s : Source) : Nat → Nat → Nat
  | 0, i => i
  | n + 1, i =>
    if s.size ≤ i || s.has i '\n' || s.has i '/' then i
    else if s.has i '[' then
      match regexClass? s (s.size - i) (i + 1) with
      | some j => regexParts s n j
      | none => i
    else if s.has i '\\' then
      if s.size ≤ i + 1 || s.has (i + 1) '\n' then i else regexParts s n (i + 2)
    else regexParts s n (i + 1)

/-- The place behind a pattern, which is not empty. -/
def regexPattern? (s : Source) (i : Nat) : Option Nat :=
  let j := regexParts s (s.size - i) i
  if i < j then some j else none

/-! ## Markup -/

/-- The place behind the text in an element, looking at `n` code points. Blanks that hold or
follow a line end do not make a text on their own; the first flag says that they are being read,
the second that there is something else. -/
def markupTextFor (s : Source) : Nat → Bool → Bool → Nat → Option Nat
  | 0, _, saw, i => if saw then some i else none
  | n + 1, newline, saw, i =>
    let c := s.code i
    if c == 0 || s.has i '<' || s.has i '>' || s.has i '&' || c == 0x7B || c == 0x7D then
      if saw then some i else none
    else if c == 0x0A then markupTextFor s n true saw (i + 1)
    else
      let newline := newline && isOpenBlank c
      markupTextFor s n newline (saw || !newline) (i + 1)

/-- The place behind the text in an element. -/
def markupText? (s : Source) (i : Nat) : Option Nat :=
  markupTextFor s (s.size - i) false false i

/-- The place behind a character reference. -/
def reference? (s : Source) (i : Nat) : Option Nat :=
  let close := fun (limit start stop : Nat) =>
    if start < stop && stop ≤ start + limit && s.has stop ';' then some (stop + 1) else none
  if s.hasAll i ['&', '#', 'x'] || s.hasAll i ['&', '#', 'X'] then
    close 6 (i + 3) (s.span isHexDigit (i + 3))
  else if s.hasAll i ['&', '#'] then close 5 (i + 2) (s.span isDigit (i + 2))
  else if s.has i '&' then close 30 (i + 1) (s.span isLetter (i + 1))
  else none

/-- The place behind the plain text of a quoted attribute. -/
def attributeText (s : Source) (quote : Char) (i : Nat) : Nat :=
  go (s.size - i) i
where
  go : Nat → Nat → Nat
    | 0, i => i
    | n + 1, i =>
      if s.size ≤ i || s.has i quote then i
      else if s.has i '&' then
        if s.size ≤ i + 1 || s.has (i + 1) '#' || isLetter (s.code (i + 1)) then i
        else go n (i + 2)
      else go n (i + 1)

end Lexeme

end Backtick
