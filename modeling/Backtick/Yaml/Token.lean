import Backtick.Text

/-!
# Tokens of a document

The tokens that a document is made of. Blocks are opened and closed by tokens of their own, which
indentation stands for in the text.
-/

namespace Backtick.Yaml

/-- How a tag is written: in full, or with a handle that stands for the beginning of it. -/
inductive TagName where
  | full (uri : Text)
  | short (handle suffix : Text)
deriving DecidableEq

/-- A line in front of a document that says how to read it. -/
inductive Directive where
  | version (major : Nat)
  | handle (handle start : Text)
  | unknown
deriving DecidableEq

/-- A token. -/
inductive Token where
  | directive (d : Directive)
  | documentStart
  | documentEnd
  | blockSequence
  | blockMapping
  | blockEnd
  | flowSequence
  | flowMapping
  | flowSequenceEnd
  | flowMappingEnd
  | item
  | comma
  | key
  | value
  | alias (name : Text)
  | anchor (name : Text)
  | tag (name : TagName)
  /-- a scalar, written without quotes or indicators or else with them -/
  | scalar (plain : Bool) (text : Text)
deriving DecidableEq

end Backtick.Yaml
