import Backtick.Grammar.Statement

/-!
# Parsing a source

`parseSource` gives the syntax tree of a text in one of the dialects. A text that is no program has
a tree whose root says so and which marks the furthest place at which a token was looked for.

## Termination

No rule reads itself at the place where it starts, so the rules that are open at a time are at most
the number of rules times the number of places; the fuel is more than that.
-/

namespace Backtick

namespace Grammar

open Backtick.Grammar.Parser

/-- The parser of each rule, over the parsers of all rules. -/
def step (self : Rule → Parser) : Rule → Parser
  | .sequence c => sequence self c
  | .expression c => expression self c
  | .operand c => operand self c
  | .chain c => chain self c
  | .array => array self
  | .object => object self
  | .template => template self
  | .functionLiteral => functionLiteral self
  | .classLiteral => classLiteral self
  | .element => element self
  | .arguments => arguments self
  | .parameters => parameters self
  | .pattern => pattern self
  | .destructuring => destructuring self
  | .classBody => classBody self
  | .statement => statement self
  | .block => block self
  | .type => type self
  | .operandType => operandType self
  | .primaryType => primaryType self
  | .objectType => objectType self
  | .typeParameters => typeParameters self
  | .typeArguments => typeArguments self
  | .decorators => decorators self

/-- The parser of a rule. -/
def ruleFor : Nat → Rule → Parser
  | 0, _ => default
  | n + 1, r => remembered r.number ⟨fun subject i => (step (ruleFor n) r).run subject i⟩

/-- The line that names an interpreter. -/
def interpreterLine : Parser :=
  let isLine := fun n => n != 0x0A && n != 0x0D && n != 0x2028 && n != 0x2029
  immediate "hash_bang_line" fun s i =>
    let i := if s.code i == 0xFEFF then i + 1 else i
    if s.hasAll i ['#', '!'] then some (s.span isLine (i + 2)) else none

/-- A program. -/
def program (fuel : Nat) : Parser :=
  seqs [opt interpreterLine, statements (ruleFor fuel .statement), atEnd]

/-- The tree of a text that is no program, with the place of the fault. -/
def faulty (s : Source) (place : Nat) : Node :=
  let fault : Node := { type := "ERROR", start := s.offset place, stop := s.offset s.size,
                        point := s.point place, missing := false, hasError := true, children := [] }
  { type := "program", start := 0, stop := s.offset s.size, point := (0, 0), missing := false,
    hasError := true, children := [fault] }

/-- The syntax tree of a source. -/
def parse (d : Dialect) (s : Source) : Node :=
  let (outcome, memo) := ((program (64 * (s.size + 1))).run ⟨s, d⟩ 0).run {}
  match outcome with
  | some (nodes, _) =>
    { type := "program", start := 0, stop := s.offset s.size, point := (0, 0), missing := false,
      hasError := false, children := nodes }
  | none => faulty s memo.furthest

end Grammar

/-- The dialect with this name. -/
def Dialect.ofName? (name : Text) : Option Dialect :=
  if name == ("javascript" : Text) then some .plain
  else if name == ("typescript" : Text) then some .typed
  else if name == ("tsx" : Text) then some .typedMarkup
  else none

/-- The syntax tree of a text. -/
def parseSource (d : Dialect) (t : Text) : Node := Grammar.parse d (Source.ofText t)

end Backtick
