import Backtick.Grammar.Parser

/-!
# Rules of the grammar

The rules that refer to each other, and the small parsers that need no rule. A grammar gives every
rule a parser, and the parsers of one rule are written over a function `self` that stands for all
of them.

An expression is read in a context: whether a statement may end behind it, and whether the heads of
arrow functions in it are bare, as they are between the marks of a conditional, where a colon
belongs to the conditional.
-/

namespace Backtick.Grammar

open Backtick.Grammar.Parser

/-- Where an expression stands. -/
structure Context where
  /-- A statement may end behind the expression. -/
  ends : Bool := true
  /-- The head of an arrow function has no type of its result. -/
  bare : Bool := false

namespace Context

/-- Inside brackets. -/
def inner : Context := ⟨false, false⟩

/-- A token that goes on with the expression may come next. -/
def carry (c : Context) : Parser := if c.ends then continues {} else nothing

def number (c : Context) : Nat := (if c.ends then 1 else 0) + (if c.bare then 2 else 0)

end Context

/-- The rules. -/
inductive Rule
  | sequence (c : Context)
  | expression (c : Context)
  | operand (c : Context)
  | chain (c : Context)
  | array
  | object
  | template
  | functionLiteral
  | classLiteral
  | element
  | arguments
  | parameters
  | pattern
  | destructuring
  | classBody
  | statement
  | block
  | type
  | operandType
  | primaryType
  | objectType
  | typeParameters
  | typeArguments
  | decorators

namespace Rule

/-- A number from 1 to 63 for each rule. -/
def number : Rule → Nat
  | sequence c => 1 + c.number
  | expression c => 5 + c.number
  | operand c => 9 + c.number
  | chain c => 13 + c.number
  | array => 17
  | object => 18
  | template => 19
  | functionLiteral => 20
  | classLiteral => 21
  | element => 22
  | arguments => 23
  | parameters => 24
  | pattern => 25
  | destructuring => 26
  | classBody => 27
  | statement => 28
  | block => 29
  | type => 30
  | operandType => 31
  | primaryType => 32
  | objectType => 33
  | typeParameters => 34
  | typeArguments => 35
  | decorators => 36

end Rule

/-! ## Words -/

/-- Words that are no names of values. -/
def reservedWords : List Text :=
  ["await", "break", "case", "catch", "class", "const", "continue", "debugger", "default", "delete",
    "do", "else", "enum", "export", "extends", "false", "finally", "for", "function", "if",
    "import", "in", "instanceof", "new", "null", "return", "super", "switch", "this", "throw",
    "true", "try", "typeof", "var", "void", "while", "with", "yield"].map Text.ofString

/-- The place behind a name that is no reserved word. -/
def freeName? (s : Source) (i : Nat) : Option Nat :=
  (Lexeme.name? s i).filter fun j => !reservedWords.contains (s.text i j)

/-- A name that is no reserved word, as a leaf of this type. -/
def nameAs (type : Text) : Parser := lexeme type freeName?

/-- The name of a value. -/
def identifier : Parser := nameAs "identifier"

/-- A private name. -/
def privateName : Parser := lexeme "private_property_identifier" Lexeme.privateName?

/-- A name behind a dot, which may be a reserved word. -/
def memberName : Parser := alts [lexeme "property_identifier" Lexeme.name?, privateName]

/-! ## Literals -/

/-- A number. -/
def numeral : Parser := lexeme "number" Lexeme.number?

/-- An escape in a text literal. -/
def escape : Parser := immediate "escape_sequence" Lexeme.escape?

/-- Blanks and one comment. -/
def oneComment : Parser := ⟨fun subject i =>
  let s := subject.source
  let j := s.span Lexeme.isBlank i
  match Lexeme.comment? s j with
  | some k => pure (some ([leaf subject "comment" j k], k))
  | none => pure none⟩

/-- A literal between two of these quotes. Blanks and comments that its text cannot hold may stand
in front of the closing quote. -/
def quoted (quote : Char) : Parser :=
  let mark := String.singleton quote
  let part := immediate "string_fragment" fun s i =>
    let j := Lexeme.quotedText s quote i
    if i < j then some j else none
  node "string" (seqs [exactly mark, many (alts [part, escape, oneComment]), exactly mark])

/-- A quoted literal. -/
def string : Parser := alts [quoted '"', quoted (Char.ofNat 0x27)]

/-- A regular expression. -/
def regex : Parser :=
  let flags := immediate "regex_flags" fun s i =>
    let j := s.span (fun n => 0x61 ≤ n && n ≤ 0x7A) i
    if i < j then some j else none
  node "regex"
    (seqs [exactly "/", immediate "regex_pattern" Lexeme.regexPattern?, exactlyHere "/", opt flags])

end Backtick.Grammar
