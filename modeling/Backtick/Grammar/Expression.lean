import Backtick.Grammar.Types

/-!
# Expressions

An expression is a chain of operands and operators, perhaps with the two branches of a conditional.
The chain is read flat and then nested by the precedence of its operators.

An operand whose type can be assigned to may be followed by an assignment wherever it stands, so
that `a + b = c` assigns to `b`.
-/

namespace Backtick.Grammar

open Backtick.Grammar.Parser

/-! ## Nesting by precedence -/

/-- How tightly an operator binds. -/
def precedence (operator : Text) : Nat :=
  let levels : List (List Text) :=
    [["??"], ["||"], ["&&"], ["|"], ["^"], ["&"], ["==", "!=", "===", "!=="],
      ["<", "<=", ">", ">=", "in", "instanceof", "as", "satisfies"], ["<<", ">>", ">>>"],
      ["+", "-"], ["*", "/", "%"], ["**"]]
  levels.findIdx (·.contains operator)

/-- The type of the node that an operator makes. -/
def operationType (operator : Text) : Text :=
  if operator == ("as" : Text) then "as_expression"
  else if operator == ("satisfies" : Text) then "satisfies_expression"
  else "binary_expression"

/-- A left operand that waits for its right one, with the operator between them. Each is a node
behind comments. -/
structure Pending where
  left : List Node
  operator : List Node

namespace Pending

/-- The type of the operator. -/
def type (p : Pending) : Text := (p.operator.getLast?.map Node.type).getD []

/-- The node of the operation on a right operand. -/
def close (p : Pending) (right : List Node) : List Node :=
  wrap (operationType p.type) (p.left ++ p.operator ++ right)

/-- Closes the operations that bind at least as tightly as an operator on their right. Powers nest
to the right. -/
def closeFor (operator : Text) : List Pending → List Node → List Pending × List Node
  | [], right => ([], right)
  | p :: rest, right =>
    let own := precedence p.type
    let next := precedence operator
    if next < own || (next == own && operator != ("**" : Text)) then
      closeFor operator rest (p.close right)
    else (p :: rest, right)

end Pending

/-- Nests the operators that follow an operand, each given with the operand behind it. -/
def nest : List Pending → List Node → List (List Node × List Node) → List Node
  | pending, right, [] => pending.foldl (fun right p => p.close right) right
  | pending, right, (operator, next) :: rest =>
    let type := (operator.getLast?.map Node.type).getD []
    let (pending, left) := Pending.closeFor type pending right
    nest (⟨left, operator⟩ :: pending) next rest

/-- The nodes cut behind each node that is no comment. -/
def segments : List Node → List (List Node)
  | [] => []
  | n :: rest =>
    if n.isComment then
      match segments rest with
      | [] => [[n]]
      | s :: more => (n :: s) :: more
    else [n] :: segments rest

/-- Neighbours in pairs. -/
def pairs {α : Type} : List α → List (α × α)
  | a :: b :: rest => (a, b) :: pairs rest
  | _ => []

/-- A flat chain of operands and operators as one node. -/
def nestFlat (nodes : List Node) : List Node :=
  match segments nodes with
  | [] => []
  | first :: rest => nest [] first (pairs rest)

section

variable (self : Rule → Parser)

/-! ## Literals with expressions in them -/

/-- A template literal. -/
def template : Parser :=
  let hole := node "template_substitution"
    (seqs [exactlyHere "$\x7b", self (.sequence .inner), "\x7d"])
  node "template_string"
    (seqs [exactly "`",
      many (alts [immediate "string_fragment" Lexeme.templateText?, escape, hole]),
      exactlyHere "`"])

/-- All elements of a value. -/
def spread : Parser := node "spread_element" (seqs ["...", self (.expression .inner)])

/-- An array. -/
def array : Parser :=
  node "array" (brackets (holed (alts [self (.expression .inner), spread self])))

/-- A method. -/
def method : Parser :=
  node "method_definition"
    (seqs [self .decorators,
      optsThen [typed access, "static", typed override, typed "readonly", "async",
          alts ["get", "set", operator ["*"]]]
        (seqs [propertyName self, optTyped "?", signature self, self .block])])

/-- An object. -/
def object : Parser :=
  let pair := node "pair" (seqs [propertyName self, ":", self (.expression .inner)])
  let member := alts [method self, pair, spread self, nameAs "shorthand_property_identifier"]
  node "object" (braces (holed member))

/-- The arguments of a call. -/
def arguments : Parser :=
  node "arguments" (parens (holed (alts [self (.expression .inner), spread self])))

/-- A function without a name of its own scope. -/
def functionLiteral : Parser :=
  let rest := seqs [opt identifier, signature self, self .block]
  alts [node "generator_function" (optThen "async" (seqs ["function", operator ["*"], rest])),
    node "function_expression" (optThen "async" (seqs ["function", rest]))]

/-- An arrow function. A brace behind the arrow opens a block. -/
def arrow (c : Context) : Parser :=
  let result := if c.bare then nothing else optTyped (resultType self)
  let head := seqs [optTyped (self .typeParameters), self .parameters, result]
  let body := alts [seqs [ahead "\x7b", self .block],
    seqs [absent "\x7b", self (.expression c)]]
  node "arrow_function" (seqs [optThen "async" (alts [identifier, head]), "=>", body])

/-! ## Operands -/

/-- An expression in brackets. -/
def parenthesized : Parser :=
  node "parenthesized_expression"
    (parens (seqs [self (.sequence .inner), optTyped (ascription self)]))

/-- What `new` makes an object of: an operand with parts taken of it, but not called. -/
def constructed : Parser :=
  let word := alts ["this", "super", "undefined",
    node "meta_property" (seqs ["new", ".", "target"]),
    node "meta_property" (seqs ["import", ".", "meta"])]
  let base := alts [self .functionLiteral, self .classLiteral, self .array, self .object,
    self .template, string, numeral, regex, parenthesized self, word, "true", "false", "null",
    identifier]
  let name := alts [".", "?."]
  suffixed base
    [("member_expression", seqs [name, memberName]),
      ("subscript_expression", seqs [opt "?.", brackets (self (.sequence .inner))]),
      ("call_expression", self .template), ("non_null_expression", typed (operator ["!"]))]

/-- The tokens that start an operand and so keep an angle bracket from closing a list of types. -/
def operandStart : Parser :=
  alts [identifier, numeral, exactly "`", string, "(", "[", "\x7b"]

/-- A new object. -/
def creation : Parser :=
  node "new_expression"
    (seqs ["new", alts [constructed self, self (.chain .inner)],
      optTyped (seqs [self .typeArguments, alts [ahead "(", absent operandStart]]),
      opt (self .arguments)])

/-- An operand that is no operation. -/
def primary (c : Context) : Parser :=
  let imported := seqs [ahead (seqs ["import", alts ["(", "."]]), "import"]
  let owned := seqs [privateName, ahead "in"]
  alts [within Dialect.hasMarkup (self .element), arrow self c, self .functionLiteral,
    self .classLiteral, self .template, string, numeral, regex, self .object, self .array,
    parenthesized self, node "meta_property" (seqs ["new", ".", "target"]), creation self,
    node "meta_property" (seqs ["import", ".", "meta"]), imported,
    "this", "super", "true", "false", "null", "undefined", owned, identifier]

/-- An operand with all that takes a part of it or calls it. -/
def chain (c : Context) : Parser :=
  let types := self .typeArguments
  suffixed (primary self c)
    [("member_expression", seqs [c.carry, alts [".", "?."], memberName]),
      ("subscript_expression",
        seqs [c.carry, opt "?.", brackets (self (.sequence .inner))]),
      ("call_expression", seqs [c.carry, opt "?.", optTyped types, self .arguments]),
      ("call_expression", seqs [c.carry, self .template]),
      ("non_null_expression", typed (seqs [c.carry, operator ["!"]])),
      ("instantiation_expression", typed (seqs [c.carry, types, absent operandStart]))]

/-- Nodes that are places to assign to. -/
def isPlace (type : Text) : Bool :=
  (["identifier", "undefined", "member_expression", "subscript_expression",
    "non_null_expression"] : List String).any (Text.ofString · == type)

/-- Nodes that can be assigned to: places, perhaps in brackets. -/
def isTarget (type : Text) : Bool :=
  isPlace type || type == ("parenthesized_expression" : Text)

/-- The operators that assign the result of an operation. -/
def augmented : Parser :=
  operator ["+=", "-=", "*=", "/=", "%=", "^=", "&=", "|=", ">>=", ">>>=", "<<=", "**=", "&&=",
    "||=", "??="]

/-- An operand, perhaps counted up or down or assigned to. -/
def assignable (c : Context) : Parser :=
  let value := self (.expression c)
  let counted := extended (self (.chain c))
    fun _ => [("update_expression", seqs [c.carry, operator ["++", "--"]])]
  let pattern := node "assignment_expression" (seqs [self .destructuring, "=", value])
  alts [seqs [ahead (alts ["\x7b", "["]), pattern],
    extended counted fun type =>
      if isTarget type then
        [("assignment_expression", seqs [c.carry, "=", value]),
          ("augmented_assignment_expression", seqs [c.carry, augmented, value])]
      else []]

/-- An operand with the operators in front of it. -/
def operand (c : Context) : Parser :=
  let again := self (.operand c)
  let unary := alts [operator ["!", "~", "-", "+"], "typeof", "void", "delete"]
  let value := alts [seqs [operator ["*"], self (.expression c)],
    opt (seqs [if c.ends then continues {} else nothing, self (.expression c)])]
  alts [node "unary_expression" (seqs [unary, again]),
    node "update_expression" (seqs [operator ["++", "--"], again]),
    node "await_expression" (seqs ["await", again]),
    node "yield_expression" (seqs ["yield", value]), assignable self c,
    within (· == .typed)
      (node "type_assertion"
        (seqs [node "type_arguments" (seqs [exactly "<", alts ["const", self .type], exactly ">"]),
          again]))]

/-! ## Operations -/

/-- Operands with operators in between. -/
def operation (c : Context) : Parser :=
  let infixMark := operator ["&&", "||", ">>", ">>>", "<<", "&", "^", "|", "+", "-", "*", "/", "%",
    "**", "<", "<=", "==", "===", "!=", "!==", ">=", ">", "??"]
  let infixOp := alts [infixMark, "instanceof", "in"]
  let step := alts [seqs [c.carry, infixOp, self (.operand c)],
    typed (seqs [c.carry, "as", alts ["const", self .type]]),
    typed (seqs [c.carry, "satisfies", self .type])]
  mapNodes nestFlat (seqs [self (.operand c), many step])

/-- An expression. The first branch of a conditional is read with bare heads if no colon follows it
otherwise. -/
def expression (c : Context) : Parser :=
  let branch := alts [seqs [self (.expression .inner), ahead ":"],
    typed (self (.expression ⟨false, true⟩))]
  extended (operation self c) fun _ =>
    [("ternary_expression", seqs [c.carry, "?", branch, ":", self (.expression c)])]

/-- Expressions with commas in between. -/
def sequence (c : Context) : Parser :=
  let one := self (.expression c)
  alts [node "sequence_expression" (seqs [one, many1 (seqs [c.carry, ",", one])]), one]

end

end Backtick.Grammar
