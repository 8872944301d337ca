import Backtick.Value

/-!
# Numbers

Where a number is given by a user it is a whole number or a double-precision number, and it is
shown the way it was given.
-/

namespace Backtick

/-- A number as it was given. -/
inductive Number where
  | whole (i : Int)
  | real (d : Double)
deriving DecidableEq

namespace Number

/-- The number in decimal. -/
def text : Number → Text
  | .whole i => Text.ofInt i
  | .real d => d.text

/-- The number is zero, of either sign. -/
def isZero : Number → Bool
  | .whole i => i == 0
  | .real d => d.isZero

/-- The number is below zero. -/
def isNegative : Number → Bool
  | .whole i => i < 0
  | .real (.finite negative m _) => negative && m != 0
  | .real (.infinite negative) => negative
  | .real .nan => false

/-- The exact value, which the infinities and not-a-number lack. -/
def toRat? : Number → Option Rat
  | .whole i => some i
  | .real d => d.toRat?

/-- The number rounded to a multiple of 1/10. -/
def roundTenth : Number → Number
  | .whole i => .whole i
  | .real d => .real d.roundTenth

/-- The number as a value. -/
def value : Number → Value
  | .whole i => .int i
  | .real d => .float d

end Number

end Backtick
