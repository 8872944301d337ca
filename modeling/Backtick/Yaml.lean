import Backtick.Yaml.Meaning

/-!
# Configuration documents

A configuration file is a document of nested blocks or flow collections whose scalars have the
types that they spell. `Yaml.read` gives the value of the one document that a text holds; an empty
text has no value. Aliases of a mapping are the same map as the mapping. A node with an alias of
itself inside would be a value without end and is a fault here.
-/

namespace Backtick.Yaml

/-- The value of a document. -/
def read (t : Text) : Except Fault Linked := do
  if !t.all isPrintable then throw .document
  match ← Node.ofTokens (← tokens t) with
  | none => return .scalar .null
  | some n => n.value.mapError (·.2)

end Backtick.Yaml
