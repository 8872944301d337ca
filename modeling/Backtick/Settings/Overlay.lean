import Backtick.Fault
import Backtick.Linked
import Backtick.Numeral
import Backtick.Text.LowerCase

/-!
# Environment overlay

An environment variable overrides a setting when its name starts with `TSXLINT_` and contains two
underscores in a row. What follows the prefix, in lower case and cut at double underscores, is
the path of the setting. The value becomes a truth value, a number with a point, a whole number
or stays the text that it is.

The value is put into the map to which the path leads, and that map may stand in other places of the
configuration as well.
-/

namespace Backtick

/-- Environment variables, in the order in which they were first set. -/
abbrev Environment := List (Text × Text)

namespace Environment

/-- The value of a variable. -/
def get? (env : Environment) (name : Text) : Option Text :=
  (env.find? (·.1 == name)).map (·.2)

/-- The environment with a variable set. -/
def set (env : Environment) (name value : Text) : Environment :=
  match env with
  | [] => [(name, value)]
  | (n, v) :: rest => if n == name then (n, value) :: rest else (n, v) :: set rest name value

/-- The environment without a variable. -/
def unset (env : Environment) (name : Text) : Environment := env.filter (·.1 != name)

end Environment

namespace Overlay

/-- What the names of overriding variables start with. -/
def namePrefix : Text := "TSXLINT_"

/-- The path of the setting that a variable overrides. -/
def path? (name : Text) : Option (List Text) :=
  let mark := CodePoint.ofNat 0x5F
  if namePrefix.isPrefixOf name && Text.occursIn [mark, mark] name then
    some (Text.splitOnPair mark (Text.lower (name.drop namePrefix.length)))
  else none

/-- The value that a text stands for. -/
def coerce (t : Text) : Scalar :=
  let low := Text.lower t
  if low == Text.ofString "true" then .bool true
  else if low == Text.ofString "false" then .bool false
  else if t.contains (.ofNat 0x2E) then
    match Numeral.double? t with
    | some d => .float d
    | none => .text t
  else
    match Numeral.int? t with
    | some i => .int i
    | none => .text t

/-- The value at a path. -/
def lookup? (v : Value) : List Text → Option Value
  | [] => some v
  | k :: rest =>
    match v with
    | .map entries => (Entries.get? entries (.text k)).bind (lookup? · rest)
    | _ => none

/-- The settings that the environment overrides, with the values, in order. -/
def assignments (env : Environment) : List (List Text × Scalar) :=
  env.filterMap fun (name, value) => (path? name).map (·, coerce value)

/-- The configuration with a value put at a path that leads on from one of its maps. Where no map
stands on the way, one is made; such maps are numbered from one number on. -/
def assignFrom (next number : Nat) (members : Members) (s : Scalar) :
    List Text → Linked → Linked
  | [], config => config
  | [k], config => Linked.write number (.text k) (.scalar s) config
  | k :: k' :: rest, config =>
    match members.get? (.text k) with
    | some (.map inner members) => assignFrom next inner members s (k' :: rest) config
    | _ =>
      assignFrom (next + 1) next [] s (k' :: rest)
        (Linked.write number (.text k) (.map next []) config)

/-- The configuration with a value put at a path. -/
def assign (config : Linked) (a : List Text × Scalar) : Linked :=
  match config with
  | .map n members => assignFrom config.fresh n members a.2 a.1 config
  | config => config

/-- A configuration with the environment's overrides. Only a map can be overridden. -/
def applyTo (env : Environment) (config : Linked) : Except Fault Linked :=
  match config, assignments env with
  | .map n members, overrides => .ok (overrides.foldl assign (.map n members))
  | config, [] => .ok config
  | _, ([_], _) :: _ => .error .badType
  | _, _ => .error .missingMember

/-- A configuration in which no two maps are the same with the environment's overrides. -/
def apply (env : Environment) (config : Value) : Except Fault Value :=
  (applyTo env (.ofValue config)).map (·.value)

end Overlay

end Backtick
