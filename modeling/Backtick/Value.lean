import Backtick.Double

/-!
# Configuration values

The values of configuration files, environment overlays and log fields. A scalar can be the key
of a map. Maps keep the order in which their keys were first put.

Two keys are the same when their identities are equal: numbers are the same when they have the
same value, and truth values count as 0 and 1. `Entries.put` keeps the key that came first and
replaces its value.
-/

namespace Backtick

/-- A value without parts. -/
inductive Scalar where
  | null
  | bool (b : Bool)
  | int (i : Int)
  | float (d : Double)
  | text (t : Text)
  | bytes (b : List UInt8)
  /-- a date or a point in time, in ISO form -/
  | date (iso : Text)
deriving DecidableEq

/-- What two scalars have in common when they are the same key. -/
inductive KeyIdentity where
  | null
  | number (r : Rat)
  | infinite (negative : Bool)
  | nan
  | text (t : Text)
  | bytes (b : List UInt8)
  | date (iso : Text)
deriving DecidableEq

namespace Scalar

/-- The identity of a scalar as a key. -/
def identity : Scalar → KeyIdentity
  | .null => .null
  | .bool b => .number (if b then 1 else 0)
  | .int i => .number i
  | .float d =>
    match d with
    | .infinite negative => .infinite negative
    | .nan => .nan
    | d => (d.toRat?.map KeyIdentity.number).getD .nan
  | .text t => .text t
  | .bytes b => .bytes b
  | .date iso => .date iso

/-- The two scalars are the same key. -/
def same (a b : Scalar) : Bool := a.identity == b.identity

@[simp] theorem same_iff {a b : Scalar} : same a b = true ↔ a.identity = b.identity := by
  simp [same]

/-- The scalar counts as false. -/
def isFalsy : Scalar → Bool
  | .null => true
  | .bool b => !b
  | .int i => i == 0
  | .float d => d.isZero
  | .text t => t.isEmpty
  | .bytes b => b.isEmpty
  | .date _ => false

end Scalar

/-- A configuration value. -/
inductive Value where
  | scalar (s : Scalar)
  | list (items : List Value)
  | map (entries : List (Scalar × Value))
  | set (items : List Scalar)

namespace Value

/-- A text as a value. -/
@[match_pattern] abbrev text (t : Text) : Value := .scalar (.text t)

/-- A whole number as a value. -/
@[match_pattern] abbrev int (i : Int) : Value := .scalar (.int i)

/-- A truth value. -/
@[match_pattern] abbrev bool (b : Bool) : Value := .scalar (.bool b)

/-- A double-precision number as a value. -/
@[match_pattern] abbrev float (d : Double) : Value := .scalar (.float d)

/-- The absent value. -/
@[match_pattern] abbrev null : Value := .scalar .null

instance : Inhabited Value := ⟨null⟩

/-- The value is a map. -/
def isMap : Value → Bool
  | .map _ => true
  | _ => false

/-- The value counts as false: it is absent, false, zero or empty. -/
def isFalsy : Value → Bool
  | .scalar s => s.isFalsy
  | .list items => items.isEmpty
  | .map entries => entries.isEmpty
  | .set items => items.isEmpty

/-- The name of a value's type in messages. -/
def typeName : Value → Text
  | .scalar .null => "NoneType"
  | .scalar (.bool _) => "bool"
  | .scalar (.int _) => "int"
  | .scalar (.float _) => "float"
  | .scalar (.text _) => "str"
  | .scalar (.bytes _) => "bytes"
  | .scalar (.date _) => "date"
  | .list _ => "list"
  | .map _ => "dict"
  | .set _ => "set"

end Value

/-- The entries of a map, in order. -/
abbrev Entries := List (Scalar × Value)

namespace Entries

/-- The value of a key. -/
def get? (es : Entries) (k : Scalar) : Option Value :=
  match es with
  | [] => none
  | (k', v) :: rest => if k'.same k then some v else get? rest k

/-- The entries with a key's value replaced, or with a new entry at the end. -/
def put (es : Entries) (k : Scalar) (v : Value) : Entries :=
  match es with
  | [] => [(k, v)]
  | (k', v') :: rest => if k'.same k then (k', v) :: rest else (k', v') :: put rest k v

/-- The key has a value. -/
def has (es : Entries) (k : Scalar) : Bool := (get? es k).isSome

/-- A key put is found again under every form of it, and no other key is affected. -/
theorem get?_put (es : Entries) (k k' : Scalar) (v : Value) :
    get? (put es k v) k' = if k.same k' then some v else get? es k' := by
  induction es with
  | nil => simp [put, get?]
  | cons e rest ih =>
    obtain ⟨k₀, v₀⟩ := e
    by_cases h : k₀.same k = true
    · have hs := Scalar.same_iff.1 h
      have hk : k₀.same k' = k.same k' := by simp [Scalar.same, hs]
      rw [put, if_pos h, get?, get?, hk]
      split <;> rfl
    · rw [put, if_neg h, get?, get?, ih]
      by_cases h₀ : k₀.same k' = true
      · have hk : ¬k.same k' = true := fun hk =>
          h (Scalar.same_iff.2 ((Scalar.same_iff.1 h₀).trans (Scalar.same_iff.1 hk).symm))
        rw [if_pos h₀, if_neg hk, if_pos h₀]
      · rw [if_neg h₀, if_neg h₀]

end Entries

/-- Named values, as errors and log records carry them. -/
abbrev Fields := List (Text × Value)

/-- One named value. -/
def field (name : String) (v : Value) : Text × Value := (name, v)

/-- Named values as a map. -/
def Fields.value (fields : Fields) : Value :=
  .map (fields.map fun (name, v) => (.text name, v))

end Backtick
