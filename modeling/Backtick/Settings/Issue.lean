import Backtick.Text

/-!
# Issues of a configuration

What is wrong with a value that stands where a setting wants one, and where it stands.
-/

namespace Backtick

/-- What is wrong with a configuration value. -/
inductive IssueKind where
  | notText
  | badEncoding
  | notBool
  | unreadableBool
  | notInt
  | unreadableInt
  | fractionalInt
  | oversizedInt
  | notFinite
  | notFloat
  | unreadableFloat
  | notList
  | notSection
  | unknownKey
  | keyNotText
deriving DecidableEq

/-- The name of an issue in reports. -/
def IssueKind.name : IssueKind → Text
  | .notText => "string_type"
  | .badEncoding => "string_unicode"
  | .notBool => "bool_type"
  | .unreadableBool => "bool_parsing"
  | .notInt => "int_type"
  | .unreadableInt => "int_parsing"
  | .fractionalInt => "int_from_float"
  | .oversizedInt => "int_parsing_size"
  | .notFinite => "finite_number"
  | .notFloat => "float_type"
  | .unreadableFloat => "float_parsing"
  | .notList => "list_type"
  | .notSection => "model_type"
  | .unknownKey => "extra_forbidden"
  | .keyNotText => "invalid_key"

/-- One step of a path into a configuration. -/
inductive Step where
  | key (t : Text)
  | index (i : Int)
deriving DecidableEq

/-- An issue and the path of the value that has it. -/
structure Issue where
  path : List Step
  kind : IssueKind
deriving DecidableEq

/-- Order of steps: numbers in front of names. -/
def Step.le : Step → Step → Bool
  | .index i, .index j => i ≤ j
  | .index _, .key _ => true
  | .key _, .index _ => false
  | .key s, .key t => Text.le s t

/-- Order of paths: step by step, a shorter path in front of its extensions. -/
def pathLe : List Step → List Step → Bool
  | [], _ => true
  | _ :: _, [] => false
  | a :: s, b :: t => if a = b then pathLe s t else Step.le a b

/-- Order of issues: by path, then by kind. -/
def Issue.le (a b : Issue) : Bool :=
  if a.path = b.path then Text.le a.kind.name b.kind.name else pathLe a.path b.path

end Backtick
