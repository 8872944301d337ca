import Backtick.Linked
import Backtick.Numeral
import Backtick.Text.LowerCase
import Backtick.Yaml.Base64
import Backtick.Yaml.Node

/-!
# The value of a node

A node has the value that its tag says. A mapping may merge others into itself: their entries stand
in front of its own, and of entries with the same key the last gives the value.

## Faults

A document is understood from the outside in: the faults of a collection's parts are found before
those that lie deeper, and of equally deep ones that which comes first in the document.
-/

namespace Backtick.Yaml

/-! ## Scalars -/

namespace Meaning

/-- A text without its underscores. -/
def dropUnderscores (t : Text) : Text := t.filter (!·.is '_')

/-- A sign in front of a text, which is not empty, and the rest. -/
def sign (t : Text) : Except Fault (Bool × Text) :=
  match t with
  | [] => .error .badPosition
  | c :: rest =>
    .ok (if c.is '-' then (true, rest) else if c.is '+' then (false, rest) else (false, t))

/-- The message about a text that is no whole number to a base. -/
def notWhole (base : Nat) (t : Text) : Fault :=
  .badValue ("invalid literal for int() with base " ++ Text.ofNat base ++ ": " ++
    t.quoted.take 200)

/-- The whole number that a text is to base 2, 8 or 16. The letter of the base may stand in front of
it. -/
def wholeTo (base : Nat) (letter : Char) (t : Text) : Except Fault Int :=
  let (negative, digits) := Numeral.sign (Text.trim Numeral.isPadding (Numeral.normalize t))
  let digits :=
    match digits with
    | z :: l :: rest => if z.is '0' && l.lowerAscii.is letter then rest else digits
    | _ => digits
  let isDigit := fun (c : CodePoint) => c.hexValue?.any (· < base)
  if digits.isEmpty || !digits.all isDigit then .error (notWhole base t)
  else
    let n : Nat := digits.foldl (fun n c => base * n + c.hexValue?.getD 0) 0
    .ok (if negative then -(n : Int) else n)

/-- The whole number that a text is. -/
def whole (t : Text) : Except Fault Int :=
  match Numeral.int? t with
  | some i => .ok i
  | none =>
    let digits := (t.filter CodePoint.isDigit).length
    if Numeral.maxDigits < digits && t.all CodePoint.isDigit then
      .error (.badValue (Text.ofString "Exceeds the limit (4300 digits) for integer string " ++
        Text.ofString "conversion: value has " ++ Text.ofNat digits ++
        Text.ofString " digits; use sys.set_int_max_str_digits() to increase the limit"))
    else .error (notWhole 10 t)

/-- The parts of a number, the last of which counts ones and each other sixty times the next. -/
def sixtieths (parts : List Int) : Int := parts.foldl (fun n part => 60 * n + part) 0

/-- The whole number of a scalar. -/
def int (t : Text) : Except Fault Scalar := do
  let (negative, t) ← sign (dropUnderscores t)
  let begins (s : String) := (Text.ofString s).isPrefixOf t
  let magnitude ←
    if t == ("0" : Text) then pure 0
    else if begins "0b" then wholeTo 2 'b' (t.drop 2)
    else if begins "0x" then wholeTo 16 'x' (t.drop 2)
    else if begins "0" then wholeTo 8 'o' t
    else if t.isEmpty then throw .badPosition
    else if t.any (·.is ':') then
      sixtieths <$> (Text.splitOn (.ofChar ':') t).mapM whole
    else whole t
  return .int (if negative then -magnitude else magnitude)

/-- The number that a text is. -/
def real (t : Text) : Except Fault Double :=
  match Numeral.double? t with
  | some d => .ok d
  | none => .error (.badValue ("could not convert string to float: " ++ t.quoted))

/-- The sum of parts, the first of which counts ones and each other sixty times the one before it.
-/
def sumOfSixtieths (parts : List Double) : Double :=
  (parts.foldl (fun (sum, base) part => (sum.add (part.scale base), 60 * base))
    (Double.zero false, 1)).1

/-- The number of a scalar. -/
def float (t : Text) : Except Fault Scalar := do
  let (negative, t) ← sign (Text.lower (dropUnderscores t))
  let magnitude ←
    if t == (".inf" : Text) then pure (.infinite false)
    else if t == (".nan" : Text) then pure .nan
    else if t.any (·.is ':') then
      (sumOfSixtieths ·.reverse) <$> (Text.splitOn (.ofChar ':') t).mapM real
    else real t
  return .float (if negative then magnitude.neg else magnitude)

/-- The truth value of a scalar. -/
def bool (t : Text) : Except Fault Scalar :=
  let t := Text.lower t
  if Tag.isOneOf ["yes", "true", "on"] t then .ok (.bool true)
  else if Tag.isOneOf ["no", "false", "off"] t then .ok (.bool false)
  else .error .unknownName

/-- The bytes of a scalar. -/
def binary (t : Text) : Except Fault Scalar :=
  if t.all (·.val < 0x80) then
    match Base64.decode? t with
    | some bytes => .ok (.bytes bytes)
    | none => .error .document
  else .error .document

/-- The point in time of a scalar. -/
def timestamp (t : Text) : Except Fault Scalar :=
  match Timestamp.read? t with
  | none => .error .missingMember
  | some (time, _) =>
    match time.fault? with
    | some message => .error (.badValue message)
    | none => .ok (.date time.text)

/-- The value of a scalar with a tag that is meant for scalars. -/
def scalar? : Tag → Option (Text → Except Fault Scalar)
  | .null => some fun _ => .ok .null
  | .bool => some bool
  | .int => some int
  | .float => some float
  | .binary => some binary
  | .timestamp => some timestamp
  | .text => some fun t => .ok (.text t)
  | _ => none

end Meaning

/-! ## Collections -/

/-- A value, or a fault and how deep it lies. -/
abbrev Meant (α : Type) := Except (Nat × Fault) α

namespace Meant

/-- A fault at the place itself. -/
def fault {α : Type} (f : Fault) : Meant α := .error (0, f)

/-- What is meant by a part. -/
def deeper {α : Type} (m : Meant α) : Meant α := m.mapError fun (depth, f) => (depth + 1, f)

/-- Two meanings: of two faults the less deep, of equally deep ones the first. -/
def and {α β : Type} (a : Meant α) (b : Meant β) : Meant (α × β) :=
  match a, b with
  | .ok x, .ok y => .ok (x, y)
  | .error e, .ok _ => .error e
  | .ok _, .error e => .error e
  | .error e, .error e' => .error (if e'.1 < e.1 then e' else e)

/-- Several meanings in a row. -/
def all {α : Type} : List (Meant α) → Meant (List α)
  | [] => .ok []
  | m :: rest => (and m (all rest)).map fun (x, xs) => x :: xs

end Meant

/-- What is meant by an entry of a mapping. -/
structure MeantEntry where
  key : Meant Linked
  value : Meant Linked

namespace MeantEntry

/-- The key, which has to be a scalar. A fault inside of a key is not reached. -/
def scalarKey (e : MeantEntry) : Meant Scalar :=
  match e.key with
  | .ok (.scalar s) => .ok s
  | .error (0, f) => Meant.fault f
  | _ => Meant.fault .document

/-- The members that entries make up. -/
def map (es : List MeantEntry) : Meant Members :=
  (Meant.all (es.map fun e => e.scalarKey.and e.value)).map fun pairs =>
    pairs.foldl (fun members (k, v) => members.put k v) ([] : Members)

end MeantEntry

namespace Node

/-- The key of an entry is its default or is to be merged. -/
def tag? : Node → Option Tag
  | .scalar tag _ | .sequence tag _ | .mapping tag _ _ => some tag
  | .enclosing => none

mutual

/-- The text of a scalar. A mapping stands for its default value. -/
def scalarText : Node → Except Fault Text
  | .scalar _ t => .ok t
  | .mapping _ _ entries => defaultText entries
  | _ => .error .document

/-- The text of the default value among entries. -/
def defaultText : List (Node × Node) → Except Fault Text
  | [] => .error .document
  | (k, v) :: rest => if k.tag? = some .default then scalarText v else defaultText rest

end

mutual

/-- The value of a node. -/
def value (n : Node) : Meant Linked :=
  match n with
  | .enclosing => Meant.fault .endless
  | .scalar tag t =>
    match Meaning.scalar? tag with
    | some read => ((read t).map .scalar).mapError (0, ·)
    | none =>
      match tag with
      | .sequence | .mapping | .set | .pairs => (Meant.fault .document).deeper
      | _ => Meant.fault .document
  | .sequence tag items =>
    match tag with
    | .sequence => ((Meant.all (values items)).deeper).map .list
    | .pairs => ((Meant.all (pairs items)).deeper).map .list
    | .mapping | .set => (Meant.fault .document).deeper
    | _ => Meant.fault .document
  | .mapping tag number es =>
    match tag with
    | .mapping => ((mapOf (entries es)).deeper).map (.map number)
    | .set => ((mapOf (entries es)).deeper).map fun es => .set (es.map (·.1))
    | .sequence | .pairs => (Meant.fault .document).deeper
    | tag =>
      match Meaning.scalar? tag with
      | some read => (((defaultText es).bind read).map .scalar).mapError (0, ·)
      | none => Meant.fault .document
where
  /-- The map of entries, unless they cannot be merged. -/
  mapOf : Except Fault (List MeantEntry × List MeantEntry) → Meant Members
    | .error f => Meant.fault f
    | .ok (merged, own) => MeantEntry.map (merged ++ own)

/-- The values of several nodes. -/
def values : List Node → List (Meant Linked)
  | [] => []
  | n :: rest => value n :: values rest

/-- The pairs that nodes are, each a mapping of one entry. -/
def pairs : List Node → List (Meant Linked)
  | [] => []
  | .mapping _ _ [(k, v)] :: rest =>
    (((value k).and (value v)).map fun (k, v) => .list [k, v]) :: pairs rest
  | _ :: rest => Meant.fault .document :: pairs rest

/-- The entries of a mapping: those that are merged into it, and its own. -/
def entries : List (Node × Node) → Except Fault (List MeantEntry × List MeantEntry)
  | [] => .ok ([], [])
  | (k, v) :: rest =>
    if k.tag? = some .merge then
      match merged v, entries rest with
      | .error f, _ => .error f
      | _, .error f => .error f
      | .ok es, .ok (merged, own) => .ok (es ++ merged, own)
    else
      let key : Meant Linked :=
        match k with
        | .scalar .default t => .ok (.scalar (.text t))
        | k => value k
      (entries rest).map fun (merged, own) => (merged, ⟨key, value v⟩ :: own)

/-- The entries that are merged from a mapping, or from several of which the first counts most. -/
def merged : Node → Except Fault (List MeantEntry)
  | .mapping _ _ es => (entries es).map fun (merged, own) => merged ++ own
  | .sequence _ items => mergedFrom items
  | _ => .error .document

/-- The entries that are merged from several mappings, those of the last in front. -/
def mergedFrom : List Node → Except Fault (List MeantEntry)
  | [] => .ok []
  | .mapping _ _ es :: rest =>
    match entries es, mergedFrom rest with
    | .error f, _ => .error f
    | _, .error f => .error f
    | .ok (merged, own), .ok others => .ok (others ++ merged ++ own)
  | _ :: _ => .error .document

end

end Node

end Backtick.Yaml
