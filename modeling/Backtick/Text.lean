/-!
# Text as code points

A text is a list of Unicode code points in which lone surrogates may stand, because an
environment variable or a configuration value can hold one and only its encoding fails.
All positions in a text count code points.

## Slices

A slice is given by two integers. A negative one counts from the end, and what lies outside
the text is cut to its ends, so that every pair of integers has a slice.
-/

namespace Backtick

/-- A Unicode code point, surrogates included. -/
structure CodePoint where
  val : Nat
  val_lt : val < 0x110000
deriving DecidableEq

namespace CodePoint

/-- The code point with this number, if there is one. -/
def ofNat? (n : Nat) : Option CodePoint :=
  if h : n < 0x110000 then some ⟨n, h⟩ else none

theorem ofNat?_val (c : CodePoint) : ofNat? c.val = some c := by
  simp [ofNat?, c.val_lt]

/-- A character is a code point that is no surrogate. -/
def ofChar (c : Char) : CodePoint :=
  ⟨c.toNat, by
    have h := c.valid
    simp only [UInt32.isValidChar, Nat.isValidChar] at h
    have e : c.val.toNat = c.toNat := rfl
    omega⟩

instance : Inhabited CodePoint := ⟨ofChar ' '⟩

/-- A code point for a number that is known to be small; numbers above the range give U+FFFD. -/
def ofNat (n : Nat) : CodePoint :=
  (ofNat? n).getD ⟨0xFFFD, by decide⟩

/-- Surrogates are the code points that have no UTF-8 form. -/
def isSurrogate (c : CodePoint) : Bool :=
  0xD800 ≤ c.val && c.val < 0xE000

/-- The code point is this character. -/
def is (c : CodePoint) (ch : Char) : Bool :=
  c.val == ch.toNat

/-- The ASCII digits. -/
def isDigit (c : CodePoint) : Bool :=
  0x30 ≤ c.val && c.val ≤ 0x39

/-- The ASCII letters. -/
def isLetter (c : CodePoint) : Bool :=
  (0x41 ≤ c.val && c.val ≤ 0x5A) || (0x61 ≤ c.val && c.val ≤ 0x7A)

/-- The ASCII digits and letters. -/
def isAlphanumeric (c : CodePoint) : Bool :=
  c.isDigit || c.isLetter

/-- The value of a hexadecimal digit. -/
def hexValue? (c : CodePoint) : Option Nat :=
  if 0x30 ≤ c.val && c.val ≤ 0x39 then some (c.val - 0x30)
  else if 0x41 ≤ c.val && c.val ≤ 0x46 then some (c.val - 0x41 + 10)
  else if 0x61 ≤ c.val && c.val ≤ 0x66 then some (c.val - 0x61 + 10)
  else none

/-- The ASCII letters a to z in capitals, every other code point unchanged. -/
def upperAscii (c : CodePoint) : CodePoint :=
  if 0x61 ≤ c.val && c.val ≤ 0x7A then ofNat (c.val - 0x20) else c

/-- The ASCII letters A to Z in lower case, every other code point unchanged. -/
def lowerAscii (c : CodePoint) : CodePoint :=
  if 0x41 ≤ c.val && c.val ≤ 0x5A then ofNat (c.val + 0x20) else c

end CodePoint

/-- A text is the list of its code points. -/
abbrev Text := List CodePoint

namespace Text

/-- The text of a string. -/
def ofString (s : String) : Text := s.toList.map CodePoint.ofChar

instance : Coe String Text := ⟨ofString⟩

/-- The code points of a number's decimal form. -/
def ofNat (n : Nat) : Text := (Nat.toDigits 10 n).map CodePoint.ofChar

/-- An integer in decimal, with a minus sign when it is negative. -/
def ofInt : Int → Text
  | .ofNat n => ofNat n
  | .negSucc n => CodePoint.ofChar '-' :: ofNat (n + 1)

/-! ## Slices -/

/-- The position that an index stands for in a list of `len` elements: a negative index counts
from the end, and the result is cut to `0 … len`. -/
def position (len : Nat) (i : Int) : Nat :=
  if i < 0 then (len + i).toNat else min len i.toNat

theorem position_of_nonneg {len : Nat} {i : Int} (h : 0 ≤ i) :
    position len i = min len i.toNat := by
  unfold position
  rw [if_neg (by omega)]

/-- The elements from one index up to, but not including, another. -/
def slice {α : Type} (xs : List α) (start stop : Int) : List α :=
  (xs.take (position xs.length stop)).drop (position xs.length start)

/-! ## Searching -/

/-- `needle` occurs somewhere in the list as a run of neighbours. -/
def occursIn {α : Type} [BEq α] (needle : List α) : List α → Bool
  | [] => needle.isEmpty
  | hay@(_ :: rest) => needle.isPrefixOf hay || occursIn needle rest

/-- The parts of a list between the occurrences of one separating element. -/
def splitOn {α : Type} [BEq α] (sep : α) : List α → List (List α)
  | [] => [[]]
  | x :: rest =>
    if x == sep then [] :: splitOn sep rest
    else
      match splitOn sep rest with
      | [] => [[x]]
      | part :: parts => (x :: part) :: parts

/-- The parts of a list between the occurrences of two neighbouring copies of one element, read
from the left. -/
def splitOnPair {α : Type} [BEq α] (sep : α) : List α → List (List α)
  | [] => [[]]
  | [x] => [[x]]
  | x :: y :: rest =>
    if x == sep && y == sep then [] :: splitOnPair sep rest
    else
      match splitOnPair sep (y :: rest) with
      | [] => [[x]]
      | part :: parts => (x :: part) :: parts

/-- The parts joined, with `sep` between neighbours. -/
def join (sep : Text) : List Text → Text
  | [] => []
  | [t] => t
  | t :: rest => t ++ sep ++ join sep rest

/-- The text without the leading and trailing code points of a class. -/
def trim (p : CodePoint → Bool) (t : Text) : Text :=
  ((t.dropWhile p).reverse.dropWhile p).reverse

/-- Lexicographic order by code point. -/
def le : Text → Text → Bool
  | [], _ => true
  | _ :: _, [] => false
  | a :: s, b :: t => a.val < b.val || (a.val == b.val && le s t)

/-- The text as a string; a lone surrogate, which no string can hold, becomes U+FFFD. -/
def toString (t : Text) : String :=
  String.ofList (t.map fun c => if c.isSurrogate then Char.ofNat 0xFFFD else Char.ofNat c.val)

end Text

end Backtick
