import Backtick.Double
import Backtick.Text.Blank

/-!
# Numerals

How a text is read as a number. Two dialects are in use.

* `Numeral.int?` and `Numeral.double?` read what a person types into an environment variable or a
  command line: blanks around it, digits of any script, single underscores between digits.
* `Numeral.Strict` reads texts that stand where a setting wants a number: ASCII digits only, and a
  whole number may carry a fraction of zeros.

Reading a whole number refuses more than 4300 digits in both dialects.
-/

namespace Backtick.Numeral

/-- The most digits that a whole number is read with. -/
def maxDigits : Nat := 4300

/-- The blanks that may stand around a number. -/
def isPadding (c : CodePoint) : Bool :=
  Text.isAsciiBlank c.val || (0x80 ≤ c.val && Text.isBlank c)

/-- Digits of other scripts as ASCII digits; everything else is unchanged. -/
def normalize (t : Text) : Text :=
  t.map fun c =>
    if c.val < 0x80 then c
    else match Text.digitValue? c with
      | some n => .ofNat (0x30 + n)
      | none => c

/-- The value of a run of ASCII digits. -/
def valueOf (digits : Text) : Nat :=
  digits.foldl (fun n c => 10 * n + (c.val - 0x30)) 0

/-- A sign in front of a number, and what follows it. -/
def sign : Text → Bool × Text
  | c :: rest =>
    if c.is '-' then (true, rest) else if c.is '+' then (false, rest) else (false, c :: rest)
  | [] => (false, [])

/-- The text without its underscores, if each of them stands between two ASCII digits. -/
def dropUnderscores (t : Text) : Option Text :=
  go none t
where
  /-- `before` is the code point in front of the rest. -/
  go (before : Option CodePoint) : Text → Option Text
    | [] => some []
    | c :: rest =>
      if c.is '_' then
        match before, rest with
        | some b, d :: _ => if b.isDigit && d.isDigit then go (some c) rest else none
        | _, _ => none
      else (go (some c) rest).map (c :: ·)

/-- The whole number that a text is. -/
def int? (t : Text) : Option Int :=
  let (negative, rest) := sign (Text.trim isPadding (normalize t))
  match dropUnderscores rest with
  | some digits =>
    if digits.isEmpty || !digits.all CodePoint.isDigit || maxDigits < digits.length then none
    else some (if negative then -(valueOf digits : Int) else valueOf digits)
  | none => none

/-- A text of ASCII letters, whatever their case. -/
def isWord (word : String) (t : Text) : Bool :=
  t.map CodePoint.lowerAscii == Text.ofString word

/-- The exponent part of a number: nothing, or `e`, a sign and digits. -/
def exponent? : Text → Option Int
  | [] => some 0
  | c :: rest =>
    if c.is 'e' || c.is 'E' then
      let (negative, digits) := sign rest
      if digits.isEmpty || !digits.all CodePoint.isDigit then none
      else
        -- more digits than these say no more about an exponent
        let n : Int := valueOf ((digits.dropWhile (·.is '0')).take 12)
        some (if negative then -n else n)
    else none

/-- A number in ASCII: digits with an optional point and exponent, or a name of an infinity or of
not-a-number. -/
def ascii? (t : Text) : Option Double :=
  let (negative, rest) := sign t
  if isWord "inf" rest || isWord "infinity" rest then some (.infinite negative)
  else if isWord "nan" rest then some .nan
  else
    let whole := rest.takeWhile CodePoint.isDigit
    let (fraction, tail) :=
      match rest.dropWhile CodePoint.isDigit with
      | c :: rest =>
        if c.is '.' then (rest.takeWhile CodePoint.isDigit, rest.dropWhile CodePoint.isDigit)
        else ([], c :: rest)
      | [] => ([], [])
    if whole.isEmpty && fraction.isEmpty then none
    else (exponent? tail).map fun e =>
      Double.ofDecimal negative (valueOf (whole ++ fraction)) (e - fraction.length)

/-- The number that a text is. -/
def double? (t : Text) : Option Double :=
  (dropUnderscores (Text.trim isPadding (normalize t))).bind ascii?

namespace Strict

/-- The blanks that may stand around a number: all but the four separator controls. -/
def isPadding (c : CodePoint) : Bool :=
  Text.isBlank c && !(0x1C ≤ c.val && c.val ≤ 0x1F)

/-- The text without its underscores, if none stands first, last or beside another. -/
def dropUnderscores (t : Text) : Option Text :=
  let mark := CodePoint.ofChar '_'
  if t.head? = some mark || t.getLast? = some mark || Text.occursIn [mark, mark] t then none
  else some (t.filter (· != mark))

/-- A whole number without zeros or a plus sign in front. -/
def plain? (t : Text) : Option Int :=
  let (negative, digits) :=
    match t with
    | c :: rest => if c.is '-' then (true, rest) else (false, c :: rest)
    | [] => (false, [])
  let zeros := digits.takeWhile (·.is '0')
  if digits.isEmpty || !digits.all CodePoint.isDigit || (!zeros.isEmpty && digits.length ≠ 1) then
    none
  else some (if negative then -(valueOf digits : Int) else valueOf digits)

/-- The text without zeros and underscores in front; a zero stays where no other digit follows
it. -/
def dropZeros (t : Text) : Text :=
  match t with
  | c :: _ =>
    if c.is '0' then
      match t.dropWhile fun c => c.is '0' || c.is '_' with
      | [] => t.drop (t.length - 1)
      | d :: rest => if d.is '.' then .ofChar '0' :: d :: rest else d :: rest
    else t
  | [] => []

/-- The text without a fraction of one or more zeros. -/
def dropZeroFraction (t : Text) : Text :=
  let whole := t.takeWhile (!·.is '.')
  let fraction := t.drop (whole.length + 1)
  if !fraction.isEmpty && fraction.all (·.is '0') then whole else t

/-- Why a text is no whole number. -/
inductive IntFault where
  | notAnInt
  | tooLong
deriving DecidableEq

/-- The whole number that a text is, leading zeros, a plus sign, underscores and a fraction of
zeros allowed. -/
def int (t : Text) : Except IntFault Int :=
  let t := Text.trim isPadding t
  let digits := (t.filter CodePoint.isDigit).length
  if maxDigits < digits then
    if t.all fun c => c.isDigit || c.is '-' || c.is '+' then .error .tooLong else .error .notAnInt
  else
    match plain? t with
    | some n => .ok n
    | none =>
      let unsigned :=
        match t with
        | c :: d :: rest => if c.is '+' && d.isDigit then d :: rest else t
        | _ => t
      match (dropUnderscores (dropZeroFraction (dropZeros unsigned))).bind plain? with
      | some n => .ok n
      | none => .error .notAnInt

/-- The number that a text is. -/
def double? (t : Text) : Option Double :=
  match ascii? (Text.trim isPadding t) with
  | some d => some d
  | none => (dropUnderscores t).bind ascii?

end Strict

end Backtick.Numeral
