import Backtick.Text

/-!
# Double-precision numbers

The numbers of the 64-bit binary format: a sign, a whole mantissa below 2⁵³ and a power of two
from 2⁻¹⁰⁷⁴ to 2⁹⁷¹, with two infinities and one not-a-number. Every finite value has one form
here, so equal forms are equal numbers except that the two zeros differ.

Arithmetic is exact arithmetic on whole numbers followed by one rounding: `ofFraction` gives
the nearest number of the format, and of two equally near ones that with the even mantissa.
-/

namespace Backtick

/-- A power of two. -/
def twoTo (n : Nat) : Nat := Nat.pow 2 n

/-- A power of ten. -/
def tenTo (n : Nat) : Nat := Nat.pow 10 n

/-- A double-precision number. -/
inductive Double where
  /-- plus or minus `mantissa · 2 ^ exponent` -/
  | finite (negative : Bool) (mantissa : Nat) (exponent : Int)
  | infinite (negative : Bool)
  | nan
deriving DecidableEq

namespace Double

/-- Zero, with a sign. -/
def zero (negative : Bool) : Double := .finite negative 0 (-1074)

/-- The quotient of two whole numbers, rounded to a whole number; a half goes to the even
neighbour. -/
def roundQuotient (num den : Nat) : Nat :=
  let q := num / den
  let r := num % den
  if 2 * r < den then q else if den < 2 * r then q + 1 else q + q % 2

/-- `num / den` in units of `2 ^ e`, rounded to a whole number. -/
def unitsOf (num den : Nat) (e : Int) : Nat :=
  if 0 ≤ e then roundQuotient num (den * twoTo e.toNat)
  else roundQuotient (num * twoTo (-e).toNat) den

/-- The number nearest to plus or minus `num / den`. -/
def ofFraction (negative : Bool) (num den : Nat) : Double :=
  if num = 0 ∨ den = 0 then zero negative
  else
    -- the quotient is at least `2 ^ (k - 1)` and below `2 ^ (k + 1)`
    let k : Int := (Nat.log2 num : Int) - Nat.log2 den
    let low : Int := max (k - 53) (-1074)
    let e := if unitsOf num den low < twoTo 53 then low else low + 1
    let m := unitsOf num den e
    let (m, e) := if m = twoTo 53 then (twoTo 52, e + 1) else (m, e)
    if 971 < e then .infinite negative else .finite negative m e

/-- The number nearest to an integer. -/
def ofInt (i : Int) : Double :=
  ofFraction (i < 0) i.natAbs 1

/-- The number nearest to plus or minus `digits · 10 ^ exponent`. -/
def ofDecimal (negative : Bool) (digits : Nat) (exponent : Int) : Double :=
  if digits = 0 then zero negative
  else
    let size : Int := (Nat.toDigits 10 digits).length + exponent
    if 310 < size then .infinite negative
    else if size < -330 then zero negative
    else if 0 ≤ exponent then ofFraction negative (digits * tenTo exponent.toNat) 1
    else ofFraction negative digits (tenTo (-exponent).toNat)

/-- The magnitude of a finite number as a fraction. -/
def magnitude (mantissa : Nat) (exponent : Int) : Nat × Nat :=
  if 0 ≤ exponent then (mantissa * twoTo exponent.toNat, 1)
  else (mantissa, twoTo (-exponent).toNat)

/-- The exact value of a finite number. -/
def toRat? : Double → Option Rat
  | .finite negative m e =>
    let (num, den) := magnitude m e
    some (mkRat (if negative then -(num : Int) else num) den)
  | _ => none

/-- The integer that a finite number is, if it is whole. -/
def toInt? : Double → Option Int
  | .finite negative m e =>
    let (num, den) := magnitude m e
    if num % den = 0 then
      some (if negative then -((num / den : Nat) : Int) else ((num / den : Nat) : Int))
    else none
  | _ => none

/-- The number is zero, of either sign. -/
def isZero : Double → Bool
  | .finite _ m _ => m == 0
  | _ => false

/-- The number is above zero. -/
def isPositive : Double → Bool
  | .finite negative m _ => !negative && m != 0
  | .infinite negative => !negative
  | .nan => false

/-- The number rounded to a multiple of 1/10; a half goes to the even neighbour. -/
def roundTenth : Double → Double
  | .finite negative m e =>
    let (num, den) := magnitude m e
    ofFraction negative (roundQuotient (num * 10) den) 10
  | other => other

/-- The sum, rounded once. Not-a-number arises from opposite infinities. -/
def add : Double → Double → Double
  | .finite n m e, .finite n' m' e' =>
    let (p, q) := magnitude m e
    let (p', q') := magnitude m' e'
    let left : Int := (if n then -(p * q' : Int) else p * q')
    let right : Int := (if n' then -(p' * q : Int) else p' * q)
    let total := left + right
    if total = 0 then zero (n && n') else ofFraction (total < 0) total.natAbs (q * q')
  | .infinite n, .infinite n' => if n = n' then .infinite n else .nan
  | .infinite n, .finite .. => .infinite n
  | .finite .., .infinite n => .infinite n
  | .nan, _ => .nan
  | _, .nan => .nan

/-- The product with a whole number, rounded once. -/
def scale (x : Double) (k : Nat) : Double :=
  match x with
  | .finite n m e =>
    let (p, q) := magnitude m e
    ofFraction n (p * k) q
  | .infinite n => if k = 0 then .nan else .infinite n
  | .nan => .nan

/-- The number with the opposite sign. -/
def neg : Double → Double
  | .finite n m e => .finite (!n) m e
  | .infinite n => .infinite (!n)
  | .nan => .nan

/-! ## Shortest decimal form -/

/-- The decimal that reads back as a number and has the fewest digits. -/
structure Decimal where
  /-- the significant digits, as a number -/
  digits : Nat
  /-- the power of ten that the last digit counts -/
  exponent : Int
deriving DecidableEq

/-- `n · 10 ^ p` as a numerator over `den`, where `den` is a multiple of the power of ten below
the line. -/
private def onGrid (n : Nat) (p : Int) : Nat × Nat :=
  if 0 ≤ p then (n * tenTo p.toNat, 1) else (n, tenTo (-p).toNat)

/-- The number of decimal digits before the point of a quotient: `10 ^ (d - 1) ≤ num / den` and
`num / den < 10 ^ d`. -/
def decimalSize (num den : Nat) : Int :=
  let guess : Int := (Nat.toDigits 10 num).length - (Nat.toDigits 10 den).length
  let (p, q) := onGrid 1 guess
  if num * q < p * den then guess else guess + 1

/-- The decimals with `n` digits next to a positive number that read back as it: those in the
interval of reals that round to the number, whose ends belong to it when the mantissa is even. -/
def hits (m : Nat) (e : Int) (n : Nat) : List Decimal :=
  let (num, den) := magnitude m e
  -- the ends of the interval in quarters of the last binary place
  let lowNum := if m = twoTo 52 ∧ -1074 < e then 4 * m - 1 else 4 * m - 2
  let (low, quarter) := magnitude lowNum (e - 2)
  let (high, _) := magnitude (4 * m + 2) (e - 2)
  let p := decimalSize num den - n
  let (unit, below) := onGrid 1 p
  let down := num * below / (den * unit)
  [down, down + 1].filterMap fun c =>
    let (a, b) := (c * unit, below)
    let inside :=
      if m % 2 = 0 then low * b ≤ a * quarter ∧ a * quarter ≤ high * b
      else low * b < a * quarter ∧ a * quarter < high * b
    if 0 < c ∧ inside then some ⟨c, p⟩ else none

/-- Twice the distance between a positive number and a decimal, over a denominator that is the
same for decimals of one exponent. -/
private def distance (m : Nat) (e : Int) (d : Decimal) : Nat :=
  let (num, den) := magnitude m e
  let (a, b) := onGrid d.digits d.exponent
  (num * b - a * den) + (a * den - num * b)

/-- Of the decimals with the fewest digits that read back as a positive number, the nearest; of
two equally near ones that with the even last digit. -/
def shortest (m : Nat) (e : Int) : Decimal :=
  go 17 1
where
  /-- Tries `n` digits and more, at most `left` times. -/
  go : Nat → Nat → Decimal
    | 0, _ => ⟨m, e⟩
    | left + 1, n =>
      match hits m e n with
      | [] => go left (n + 1)
      | [d] => d
      | d :: d' :: _ =>
        if distance m e d < distance m e d' then d
        else if distance m e d' < distance m e d then d'
        else if d.digits % 2 = 0 then d else d'

/-- The same decimal without the zeros at its end. -/
def Decimal.stripZeros (d : Decimal) : Decimal :=
  go 20 d
where
  /-- Drops at most `left` zeros. -/
  go : Nat → Decimal → Decimal
    | 0, d => d
    | left + 1, d =>
      if d.digits % 10 = 0 ∧ d.digits ≠ 0 then go left ⟨d.digits / 10, d.exponent + 1⟩ else d

/-- How a number is written: positionally when its first digit counts a power of ten from 10⁻⁴ to
10¹⁵, with a point in any case, and otherwise with an exponent of two digits or more. -/
def Decimal.text (d : Decimal) : Text :=
  let d := d.stripZeros
  let digits := Text.ofNat d.digits
  let point : Int := digits.length + d.exponent
  let zeros (n : Int) : Text := List.replicate n.toNat (.ofChar '0')
  if -4 < point ∧ point ≤ 16 then
    if point ≤ 0 then "0." ++ zeros (-point) ++ digits
    else if digits.length ≤ point then digits ++ zeros (point - digits.length) ++ ".0"
    else digits.take point.toNat ++ "." ++ digits.drop point.toNat
  else
    let power := point - 1
    let size := Text.ofNat power.natAbs
    digits.take 1 ++ (if digits.length = 1 then ([] : Text) else "." ++ digits.drop 1) ++ "e" ++
      (if power < 0 then "-" else "+") ++ zeros (2 - size.length) ++ size

/-- The shortest text that reads back as the number. -/
def text : Double → Text
  | .finite negative m e =>
    (if negative then ("-" : Text) else "") ++
      (if m = 0 then ("0.0" : Text) else (shortest m e).text)
  | .infinite negative => if negative then "-inf" else "inf"
  | .nan => "nan"

end Double

end Backtick
