import Backtick.Fault
import Backtick.Grammar

/-!
# Parsing a text

A text is parsed by the grammar of its language. The grammar is looked up first, the text is
encoded next, and the tree is accepted if its root says that there is no error in it. Otherwise the
error names the first node in document order that marks a fault, or the root if no node does.
-/

namespace Backtick

/-- Why there is no grammar for a language. -/
inductive GrammarFault where
  /-- the language is not known -/
  | unknown
  /-- the grammar is known but cannot be loaded -/
  | broken (reason : Text)
  /-- the loader itself is at fault -/
  | misused

/-- The grammars by the names of their languages. -/
abbrev Grammars := Text → Except GrammarFault (Text → Node)

/-- The grammars of the dialects. -/
def Grammars.builtin : Grammars := fun language =>
  match Dialect.ofName? language with
  | some d => .ok (parseSource d)
  | none => .error .unknown

/-- The error for a grammar that is not available. -/
def GrammarFault.toFault (language : Text) : GrammarFault → Fault
  | .unknown => .lint (.parse ("Unsupported language: " ++ language) none none (some language))
  | .broken reason =>
    .lint (.parse ("Cannot load grammar for " ++ language ++ ": " ++ reason) none none
      (some language))
  | .misused => .badType

/-- The error that a node marks. Lines and columns count from one. -/
def syntaxError (language : Text) (bad : Node) : LintError :=
  let line := bad.point.1 + 1
  let column := bad.point.2 + 1
  let kind : Text := if bad.missing then "missing " ++ bad.type else "unexpected token"
  .parse ("Syntax error (" ++ kind ++ ") at line " ++ Text.ofNat line ++ ", column " ++
    Text.ofNat column) (some line) (some column) (some language)

/-- The tree if it has no error, or else its first fault. -/
def accept (language : Text) (root : Node) : Except LintError Node :=
  if root.hasError then .error (syntaxError language ((firstFault? root).getD root)) else .ok root

/-- The syntax tree of a text in a language. -/
def parseText (grammars : Grammars) (language text : Text) : Except Fault Node :=
  match grammars language with
  | .error f => .error (f.toFault language)
  | .ok grammar =>
    match Utf8.encode text with
    | .error f => .error (.encoding f)
    | .ok _ =>
      match accept language (grammar text) with
      | .ok root => .ok root
      | .error e => .error (.lint e)

end Backtick
