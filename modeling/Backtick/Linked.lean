import Backtick.Value

/-!
# Values with shared maps

A configuration can have one map in several places: what is put into it is then there in all of
them. Here every map has a number, and maps with the same number are the same map. `Linked.write`
puts an entry into a map, wherever it stands. `Linked.value` is the value alone, which does not say
which of its maps are the same.
-/

namespace Backtick

/-- A configuration value whose maps have numbers. -/
inductive Linked where
  | scalar (s : Scalar)
  | list (items : List Linked)
  | map (number : Nat) (members : List (Scalar × Linked))
  | set (items : List Scalar)

instance : Inhabited Linked := ⟨.scalar .null⟩

/-- The members of a map, in order. -/
abbrev Members := List (Scalar × Linked)

namespace Members

/-- The member under a key. -/
def get? (ms : Members) (k : Scalar) : Option Linked :=
  match ms with
  | [] => none
  | (k', v) :: rest => if k'.same k then some v else get? rest k

/-- The members with another one under a key, or with a new one at the end. -/
def put (ms : Members) (k : Scalar) (v : Linked) : Members :=
  match ms with
  | [] => [(k, v)]
  | (k', v') :: rest => if k'.same k then (k', v) :: rest else (k', v') :: put rest k v

end Members

namespace Linked

/-! ## The value alone -/

mutual

/-- The value, without the numbers. -/
def value : Linked → Value
  | .scalar s => .scalar s
  | .list items => .list (values items)
  | .map _ members => .map (entries members)
  | .set items => .set items

/-- The values of several. -/
def values : List Linked → List Value
  | [] => []
  | v :: rest => value v :: values rest

/-- The entries that members are. -/
def entries : Members → Entries
  | [] => []
  | (k, v) :: rest => (k, value v) :: entries rest

end

/-! ## Numbers -/

mutual

/-- The numbers of the maps in a value, once for every place. -/
def numbers : Linked → List Nat
  | .scalar _ => []
  | .list items => numbersOf items
  | .map n members => n :: numbersIn members
  | .set _ => []

/-- The numbers of the maps in several values. -/
def numbersOf : List Linked → List Nat
  | [] => []
  | v :: rest => numbers v ++ numbersOf rest

/-- The numbers of the maps in members. -/
def numbersIn : Members → List Nat
  | [] => []
  | (_, v) :: rest => numbers v ++ numbersIn rest

end

/-- A number behind those of all maps. -/
def fresh (v : Linked) : Nat := v.numbers.max?.getD 0 + 1

mutual

/-- The value with every number moved on. -/
def shift (d : Nat) : Linked → Linked
  | .scalar s => .scalar s
  | .list items => .list (shiftAll d items)
  | .map n members => .map (n + d) (shiftMembers d members)
  | .set items => .set items

/-- Several values with every number moved on. -/
def shiftAll (d : Nat) : List Linked → List Linked
  | [] => []
  | v :: rest => shift d v :: shiftAll d rest

/-- Members with every number moved on. -/
def shiftMembers (d : Nat) : Members → Members
  | [] => []
  | (k, v) :: rest => (k, shift d v) :: shiftMembers d rest

end

mutual

/-- A value in which no two maps are the same, numbered from one number on, and the number behind
its own. -/
def number (next : Nat) : Value → Linked × Nat
  | .scalar s => (.scalar s, next)
  | .list items =>
    let (vs, next) := numberAll next items
    (.list vs, next)
  | .map es =>
    let (ms, last) := numberEntries (next + 1) es
    (.map next ms, last)
  | .set items => (.set items, next)

/-- Several values in which no two maps are the same. -/
def numberAll (next : Nat) : List Value → List Linked × Nat
  | [] => ([], next)
  | v :: rest =>
    let (v, next) := number next v
    let (vs, next) := numberAll next rest
    (v :: vs, next)

/-- Entries in which no two maps are the same. -/
def numberEntries (next : Nat) : Entries → Members × Nat
  | [] => ([], next)
  | (k, v) :: rest =>
    let (v, next) := number next v
    let (ms, next) := numberEntries next rest
    ((k, v) :: ms, next)

end

/-- A value in which no two maps are the same. -/
def ofValue (v : Value) : Linked := (number 0 v).1

/-! ## Writing -/

mutual

/-- The value with a member put into the map with a number, in every place in which it stands. -/
def write (n : Nat) (k : Scalar) (x : Linked) : Linked → Linked
  | .scalar s => .scalar s
  | .list items => .list (writeAll n k x items)
  | .map m members =>
    let members := writeMembers n k x members
    .map m (if m = n then members.put k x else members)
  | .set items => .set items

/-- Several values with a member put into the map with a number. -/
def writeAll (n : Nat) (k : Scalar) (x : Linked) : List Linked → List Linked
  | [] => []
  | v :: rest => write n k x v :: writeAll n k x rest

/-- Members with a member put into the map with a number among them. -/
def writeMembers (n : Nat) (k : Scalar) (x : Linked) : Members → Members
  | [] => []
  | (k', v) :: rest => (k', write n k x v) :: writeMembers n k x rest

end

end Linked

end Backtick
