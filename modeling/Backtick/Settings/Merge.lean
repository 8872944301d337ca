import Backtick.Fault
import Backtick.Linked

/-!
# Merging configurations

A configuration is merged over another key by key: where both have a map the maps are merged, and
otherwise the value on top replaces the one below. Values that are no maps can be merged only as
far as the one below can be copied and takes the keys of the one on top.

A merged map is a new one. A map that is taken over from one side is the same as before, also where
that side has it in other places.
-/

namespace Backtick

mutual

/-- The entries of a map with the entries of another merged over them. -/
def Entries.merge (base : Entries) : Entries → Entries
  | [] => base
  | (k, v) :: rest =>
    Entries.merge (Entries.put base k (Value.overlay (Entries.get? base k) v)) rest

/-- A value on top of what stood in its place. -/
def Value.overlay (below : Option Value) : Value → Value
  | .map entries =>
    match below with
    | some (.map base) => .map (Entries.merge base entries)
    | _ => .map entries
  | .scalar s => .scalar s
  | .list items => .list items
  | .set items => .set items

end

/-- Where a scalar points to in a list of `len` elements. -/
def listIndex? (len : Nat) : Scalar → Except Fault Nat
  | .int i =>
    let j := if i < 0 then len + i else i
    if 0 ≤ j ∧ j < len then .ok j.toNat else .error .badPosition
  | .bool b =>
    let j := if b then 1 else 0
    if j < len then .ok j else .error .badPosition
  | _ => .error .badType

/-- The value is a scalar that is the same key. -/
def Value.isKey (k : Scalar) : Value → Bool
  | .scalar s => s.same k
  | _ => false

/-- A list with entries merged over it, whose keys have to be positions. What stands at a position
is merged only if the position itself is an item of the list. -/
def mergeIntoList (items : List Value) : Entries → Except Fault (List Value)
  | [] => .ok items
  | (k, v) :: rest =>
    match listIndex? items.length k with
    | .ok i =>
      let below := if items.any (Value.isKey k) then items[i]? else none
      mergeIntoList (items.set i (Value.overlay below v)) rest
    | .error e => .error e

/-- A configuration merged over another. -/
def Value.merge (base override : Value) : Except Fault Value :=
  match base, override with
  | .map b, .map o => .ok (.map (Entries.merge b o))
  | .list items, .map o => (mergeIntoList items o).map .list
  | .set items, .map o => if o.isEmpty then .ok (.set items) else .error .badType
  | _, _ => .error .missingMember

/-! ## Which maps are new -/

namespace Linked

mutual

/-- The members of a map with those of another merged over them. Merged maps are numbered from one
number on; the number behind theirs is given as well. -/
def mergeMembers (next : Nat) (base : Members) : Members → Members × Nat
  | [] => (base, next)
  | (k, v) :: rest =>
    let (v, next) := layOver next (base.get? k) v
    mergeMembers next (base.put k v) rest

/-- A value on top of what stood in its place. -/
def layOver (next : Nat) (below : Option Linked) : Linked → Linked × Nat
  | .map n members =>
    match below with
    | some (.map _ base) =>
      let (members, last) := mergeMembers (next + 1) base members
      (.map next members, last)
    | _ => (.map n members, next)
  | .scalar s => (.scalar s, next)
  | .list items => (.list items, next)
  | .set items => (.set items, next)

end

/-- A list with members merged over it, whose keys have to be positions. What stands at a position
is merged only if the position itself is an item of the list. -/
def mergeIntoList (next : Nat) (items : List Linked) : Members → Except Fault (List Linked)
  | [] => .ok items
  | (k, v) :: rest =>
    match listIndex? items.length k with
    | .ok i =>
      let below := if items.any (·.value.isKey k) then items[i]? else none
      let (v, next) := layOver next below v
      mergeIntoList next (items.set i v) rest
    | .error e => .error e

/-- A configuration merged over another. -/
def merge (base override : Linked) : Except Fault Linked :=
  let next := max base.fresh override.fresh
  match base, override with
  | .map _ b, .map _ o => .ok (.map next (mergeMembers (next + 1) b o).1)
  | .list items, .map _ o => (mergeIntoList next items o).map .list
  | .set items, .map _ o => if o.isEmpty then .ok (.set items) else .error .badType
  | _, _ => .error .missingMember

end Linked

end Backtick
