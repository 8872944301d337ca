import Backtick.Yaml.Cursor
import Backtick.Yaml.Timestamp

/-!
# Tags

A tag says what sort of value a node is. The tag of a plain scalar that has none follows from its
spelling: it may spell nothing, a truth value, a number or a point in time, and is a text otherwise.
-/

namespace Backtick.Yaml

/-- The sort of a node's value. -/
inductive Tag where
  | null
  | bool
  | int
  | float
  | binary
  | timestamp
  | text
  | sequence
  | mapping
  | set
  /-- a list of pairs, with or without an order that counts -/
  | pairs
  /-- the key whose value is merged into its map -/
  | merge
  /-- the key whose value stands for its map -/
  | default
  | unknown
deriving DecidableEq

namespace Tag

/-- What the standard tags begin with. -/
def standardStart : Text := "tag:yaml.org,2002:"

/-- The standard tags. -/
def standard : List (String × Tag) :=
  [("null", .null), ("bool", .bool), ("int", .int), ("float", .float), ("binary", .binary),
    ("timestamp", .timestamp), ("str", .text), ("seq", .sequence), ("map", .mapping), ("set", .set),
    ("omap", .pairs), ("pairs", .pairs), ("merge", .merge), ("value", .default)]

/-- The tag that is written in full. -/
def ofUri (uri : Text) : Tag :=
  match standard.find? fun (name, _) => standardStart ++ Text.ofString name == uri with
  | some (_, tag) => tag
  | none => .unknown

/-! ## Spellings -/

/-- The text is one of some words. -/
def isOneOf (words : List String) (t : Text) : Bool := words.any fun w => Text.ofString w == t

/-- The words for nothing. -/
def spellsNull : Text → Bool := isOneOf ["", "~", "null", "Null", "NULL"]

/-- The words for truth values. -/
def spellsBool : Text → Bool :=
  isOneOf ["yes", "Yes", "YES", "no", "No", "NO", "true", "True", "TRUE", "false", "False", "FALSE",
    "on", "On", "ON", "off", "Off", "OFF"]

/-- A text without a sign in front of it. -/
def unsigned (t : Text) : Text :=
  match t with
  | c :: rest => if c.is '+' || c.is '-' then rest else t
  | [] => []

/-- Digits of a class and underscores, at least one of them. -/
def areDigits (p : CodePoint → Bool) (t : Text) : Bool :=
  !t.isEmpty && t.all fun c => p c || c.is '_'

/-- Decimal digits and underscores, a digit first. -/
def isDecimal (t : Text) : Bool := next CodePoint.isDigit t && areDigits CodePoint.isDigit t

/-- A part of a number to base 60: one digit or two. -/
def isSixtieth (t : Text) : Bool :=
  t.all CodePoint.isDigit &&
    (t.length = 1 || (t.length = 2 && next (fun c => c.val ≤ 0x35) t))

/-- A whole number to base 60 with more than one part. -/
def isSexagesimal (t : Text) : Bool :=
  match Text.splitOn (.ofChar ':') t with
  | first :: part :: parts => isDecimal first && (part :: parts).all isSixtieth
  | _ => false

/-- The text spells a whole number: to base 2, 8, 10, 16 or 60. -/
def spellsInt (t : Text) : Bool :=
  let t := unsigned t
  match t with
  | [] => false
  | c :: rest =>
    if c.is '0' then
      rest.isEmpty || areDigits (fun d => d.isDigit && d.val < 0x38) rest ||
        (next (·.is 'b') rest && areDigits (among "01") (rest.drop 1)) ||
        (next (·.is 'x') rest && areDigits (·.hexValue?.isSome) (rest.drop 1))
    else isDecimal t || isSexagesimal t

/-- An exponent with a sign, or nothing. -/
def isExponent (t : Text) : Bool :=
  t.isEmpty ||
    (next (among "eE") t && next (among "+-") (t.drop 1) && !(t.drop 2).isEmpty &&
      (t.drop 2).all CodePoint.isDigit)

/-- The text spells a number with a point, an infinity or not-a-number. -/
def spellsFloat (t : Text) : Bool :=
  let isPart := fun (c : CodePoint) => c.isDigit || c.is '_'
  let magnitude := unsigned t
  let (whole, rest) := magnitude.span (!·.is '.')
  let fraction := rest.drop 1
  let pointed := !rest.isEmpty && isDecimal whole && isExponent (fraction.dropWhile isPart)
  let sixtieths := !rest.isEmpty && isSexagesimal whole && fraction.all isPart
  let bare := next (·.is '.') t && next CodePoint.isDigit (t.drop 1) &&
    isExponent ((t.drop 1).dropWhile isPart)
  pointed || sixtieths || bare || isOneOf [".inf", ".Inf", ".INF"] magnitude ||
    isOneOf [".nan", ".NaN", ".NAN"] t

/-- The text spells a point in time. -/
def spellsTimestamp (t : Text) : Bool := (Timestamp.read? t).any (·.2)

/-- The tag of a plain scalar that has none. -/
def ofPlain (t : Text) : Tag :=
  if spellsBool t then .bool
  else if spellsFloat t then .float
  else if spellsInt t then .int
  else if t == ("<<" : Text) then .merge
  else if spellsNull t then .null
  else if spellsTimestamp t then .timestamp
  else if t == ("=" : Text) then .default
  else .text

end Tag

end Backtick.Yaml
