import Backtick.Grammar.Expression

/-!
# Bindings and classes

Patterns that bind or assign the parts of a value, the parameters of functions, and classes with
their members.
-/

namespace Backtick.Grammar

open Backtick.Grammar.Parser

section

variable (self : Rule → Parser)

/-- The value that a name has if none is given. -/
def initializer (c : Context) : Parser := seqs ["=", self (.expression c)]

/-! ## Patterns -/

/-- A place to assign to, without brackets around it. -/
def place : Parser :=
  bindNodes (self (.chain .inner)) fun nodes =>
    if ((nodes.getLast?).map Node.type).any isPlace then nothing else default

/-- The rest of a value. -/
def restPattern : Parser :=
  node "rest_pattern" (seqs ["...", alts [self .destructuring, place self]])

/-- A pattern or a pattern with a value. -/
def valuedPattern : Parser :=
  alts [node "assignment_pattern" (seqs [self .pattern, initializer self .inner]), self .pattern]

/-- A pattern that takes an object or an array apart. -/
def destructuring : Parser :=
  let short := nameAs "shorthand_property_identifier_pattern"
  let member := alts [node "pair_pattern" (seqs [propertyName self, ":", valuedPattern self]),
    restPattern self,
    node "object_assignment_pattern"
      (seqs [alts [short, self .destructuring], initializer self .inner]), short]
  alts [node "object_pattern" (braces (holed member)),
    node "array_pattern" (brackets (holed (valuedPattern self)))]

/-- A pattern: one that takes a value apart, the rest of a value, or a place to assign to. -/
def pattern : Parser := alts [self .destructuring, restPattern self, place self]

/-- What a declaration binds. -/
def binding : Parser := alts [identifier, self .destructuring]

/-! ## Parameters -/

/-- The decorators in front of a member. -/
def decorators : Parser :=
  let base := alts [identifier, parenthesized self]
  let applied := suffixed base
    [("member_expression", seqs [alts [".", "?."], memberName]),
      ("call_expression", seqs [optTyped (self .typeArguments), self .arguments])]
  many (node "decorator" (seqs ["@", applied]))

/-- The parameters of a function. -/
def parameters : Parser :=
  let value := opt (initializer self .inner)
  let rest := seqs [optTyped (ascription self), value]
  let parameter := fun mark =>
    seqs [self .decorators,
      optsThen [access, override, "readonly"]
        (seqs [alts [self .pattern, "this"], mark, rest])]
  let member := alts
    [typed (alts [node "optional_parameter" (parameter "?"),
        node "required_parameter" (parameter nothing)]),
      valuedPattern self]
  node "formal_parameters" (parens (listed member))

/-! ## Classes -/

/-- A field of a class. -/
def field : Parser :=
  let modifiers := [typed "declare", typed access, typed "declare", "static", typed override,
    typed "abstract", typed "readonly", typed "accessor"]
  let named := seqs [propertyName self, optTyped (alts ["?", operator ["!"]]),
    optTyped (ascription self)]
  let plainEnd : Ending := { afterExpression := false }
  let comma := typed ","
  let body := alts [seqs [named, initializer self {}, alts [semicolon {}, comma]],
    seqs [named, alts [semicolon plainEnd, comma]]]
  seqs [self .decorators, optsThen modifiers body]

/-- A field without its semicolon is one node. -/
def fieldDefinition (type : Text) : Parser :=
  mapNodes (fun nodes =>
    match nodes.getLast? with
    | some last =>
      if [";", ","].any fun (mark : String) => last.type == Text.ofString mark then
        wrap type nodes.dropLast ++ [last]
      else wrap type nodes
    | none => nodes) (field self)

/-- A member without a body. -/
def abstractMember : Parser :=
  let stop := alts [semicolon { afterExpression := false, afterHead := true }, ","]
  let method := node "abstract_method_signature"
    (optsThen [access, "static"]
      (seqs ["abstract", optsThen [override, alts ["get", "set", operator ["*"]]]
        (seqs [propertyName self, opt "?", signature self])]))
  seqs [alts [method, indexSignature self, methodSignature self], stop]

/-- The members of a class. -/
def classBody : Parser :=
  let block := node "class_static_block" (seqs ["static", self .block])
  let member := alts [";", block, method self, typed (abstractMember self),
    typed (fieldDefinition self "public_field_definition"),
    within (· == .plain) (fieldDefinition self "field_definition")]
  node "class_body" (braces (many (alts [member, typed (many1 (self .decorators))])))

/-- What a class extends and implements. -/
def heritage : Parser :=
  let base := self (.chain .inner)
  let extension := node "extends_clause"
    (seqs ["extends", sepBy1 "," (seqs [base, opt (self .typeArguments)])])
  let interfaces := node "implements_clause" (seqs ["implements", sepBy1 "," (self .type)])
  let plainBase := within (· == .plain) (seqs ["extends", base])
  node "class_heritage"
    (alts [typed (seqs [extension, opt interfaces]), typed interfaces, plainBase])

/-- The part of a class behind its name. -/
def classRest : Parser :=
  seqs [optTyped (self .typeParameters), opt (heritage self), self .classBody]

/-- A name for a class or a type. -/
def className : Parser := typed (nameAs "type_identifier") |>.orElse identifier

/-- A class in an expression. -/
def classLiteral : Parser :=
  let named := seqs [className, classRest self]
  node "class" (seqs [self .decorators, "class", alts [named, classRest self]])

/-- A declaration of a class. -/
def classDeclaration : Parser :=
  alts [node "class_declaration" (seqs [self .decorators, "class", className, classRest self]),
    typed (node "abstract_class_declaration"
      (seqs [self .decorators, "abstract", "class", className, classRest self]))]

end

end Backtick.Grammar
