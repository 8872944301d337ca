import Backtick.Grammar.Rule

/-!
# Types

The grammar of types, which the dialects with types have. Angle brackets are read as single code
points here, so that two lists of types can close side by side.
-/

namespace Backtick.Grammar

open Backtick.Grammar.Parser

section

variable (self : Rule → Parser)

/-- A name of a type. -/
def typeName : Parser := nameAs "type_identifier"

/-- The words that a type starts with and that are no names there. -/
def typeWord : Parser := alts ["keyof", "infer", "unique", "readonly", "abstract"]

/-- The types that have a word of their own. -/
def predefinedType : Parser :=
  node "predefined_type"
    (alts ["any", "number", "boolean", "string", "symbol", "void", "unknown", "never", "object",
      seqs ["unique", "symbol"]])

/-- A type with one value. -/
def literalType : Parser :=
  node "literal_type"
    (alts [string, node "unary_expression" (seqs [operator ["-", "+"], numeral]), numeral, "true",
      "false", "null", "undefined"])

/-- A template literal among the types. -/
def templateType : Parser :=
  let hole := node "template_type"
    (seqs [exactlyHere "$\x7b", self .type, "\x7d"])
  node "template_literal_type"
    (seqs [exactly "`", many (alts [immediate "string_fragment" Lexeme.templateText?, hole]),
      exactlyHere "`"])

/-- A part of an imported module, as the type of a value. -/
def importedPart : Parser :=
  let part := seqs [".", alts [privateName, nameAs "property_identifier"]]
  let rest := suffixed nothing
    [("member_expression", part), ("call_expression", self .arguments)]
  seqs ["import", ahead (alts [".", "("]), rest]

/-- A type with its colon. -/
def ascription : Parser :=
  node "type_annotation" (seqs [":", alts [self .type, importedPart self]])

/-- A statement on the type of a parameter. -/
def predicate : Parser :=
  node "type_predicate" (seqs [alts [identifier, "this"], "is", self .type])

/-- An assertion on a parameter. -/
def assertion : Parser :=
  node "asserts" (seqs ["asserts", alts [predicate self, identifier, "this"]])

/-- The type of a result with its colon. -/
def resultType : Parser :=
  alts [node "asserts_annotation" (seqs [":", assertion self]),
    node "type_predicate_annotation" (seqs [":", predicate self]),
    seqs [ahead (seqs [":", absent "asserts"]), ascription self]]

/-- The names of types, their parameters and the parameters of a function and its result. -/
def signature : Parser :=
  seqs [optTyped (self .typeParameters), self .parameters, optTyped (resultType self)]

/-- The type of a function. -/
def functionType : Parser :=
  let result := alts [assertion self, predicate self, self .type]
  alts [node "function_type"
      (seqs [opt (self .typeParameters), self .parameters, "=>", result]),
    node "constructor_type"
      (seqs [opt "abstract", "new", opt (self .typeParameters), self .parameters, "=>",
        self .type])]

/-- The type of a tuple. -/
def tupleType : Parser :=
  let named := alts [node "optional_parameter" (seqs [identifier, "?", ascription self]),
    node "required_parameter" (seqs [opt "...", identifier, ascription self])]
  let member := alts [named, node "rest_type" (seqs ["...", self .type]),
    node "optional_type" (seqs [self .type, "?"]), self .type]
  node "tuple_type" (brackets (listed member))

/-- The type of a value that is named. -/
def typeQuery : Parser :=
  let imported := node "call_expression" (seqs ["import", node "arguments" (parens string)])
  let root := alts [imported, identifier, "this"]
  let path := suffixed root
    [("member_expression", seqs [alts [".", "?."], memberName]),
      ("subscript_expression", brackets (alts [string, numeral, predefinedType]))]
  node "type_query" (seqs ["typeof", path, opt (self .typeArguments)])

/-- A type that is named, with its arguments. -/
def namedType : Parser :=
  let first := seqs [absent typeWord, typeName]
  let name := suffixed first [("nested_type_identifier", seqs [".", typeName])]
  alts [node "generic_type" (seqs [name, self .typeArguments]), name]

/-- A type that is no operand of a type operator. -/
def primaryType : Parser :=
  alts [node "parenthesized_type" (parens (self .type)), predefinedType, literalType,
    templateType self, self .objectType, tupleType self, typeQuery self,
    node "this_type" "this", namedType self, node "existential_type" "*",
    node "flow_maybe_type" (seqs ["?", self .primaryType])]

/-- A type with its operators in front and its brackets behind. -/
def operandType : Parser :=
  let sameLine := continues { afterExpression := false }
  let bracketed := suffixed (self .primaryType)
    [("array_type", seqs [sameLine, "[", "]"]),
      ("lookup_type", seqs [sameLine, brackets (self .type)])]
  alts [node "index_type_query" (seqs ["keyof", self .operandType]),
    node "readonly_type" (seqs ["readonly", self .operandType]),
    node "infer_type" (seqs ["infer", typeName, opt (seqs ["extends", self .operandType])]),
    bracketed]

/-- Types joined by a mark, with perhaps one in front. -/
def joinedType (name : Text) (mark : String) (p : Parser) : Parser :=
  let mark := operator [mark]
  alts [node name (seqs [mark, sepBy1 mark p]), node name (seqs [p, many1 (seqs [mark, p])]), p]

/-- A type. -/
def type : Parser :=
  let union := joinedType "union_type" "|" (joinedType "intersection_type" "&" (self .operandType))
  let conditional := node "conditional_type"
    (seqs [union, "extends", alts [functionType self, union], "?", self .type, ":", self .type])
  alts [functionType self, conditional, union]

/-- The arguments of a type. -/
def typeArguments : Parser :=
  node "type_arguments" (seqs [exactly "<", sepBy1 "," (self .type), opt ",", exactly ">"])

/-- The parameters of a type. -/
def typeParameters : Parser :=
  let parameter := node "type_parameter"
    (optsThen ["const", "in", "out"]
      (seqs [typeName, opt (node "constraint" (seqs [alts ["extends", ":"], self .type])),
        opt (node "default_type" (seqs ["=", self .type]))]))
  node "type_parameters" (seqs [exactly "<", sepBy1 "," parameter, opt ",", exactly ">"])

/-! ## Members -/

/-- A name that is computed. -/
def computedName : Parser := node "computed_property_name" (brackets (self (.expression .inner)))

/-- The name of a property. -/
def propertyName : Parser :=
  alts [memberName, string, numeral, computedName self]

/-- The modifiers of access. -/
def access : Parser := node "accessibility_modifier" (alts ["public", "private", "protected"])

/-- The modifier of a member that stands for an inherited one. -/
def override : Parser := node "override_modifier" "override"

/-- A member for all names of a type. -/
def indexSignature : Parser :=
  let sign := operator ["-", "+"]
  let key := node "mapped_type_clause"
    (seqs [typeName, "in", self .type, opt (seqs ["as", self .type])])
  let optional := alts [node "omitting_type_annotation" (seqs ["-", "?", ascription self]),
    node "adding_type_annotation" (seqs ["+", "?", ascription self]),
    node "opting_type_annotation" (seqs ["?", ascription self]), ascription self]
  node "index_signature"
    (optsThen ["static", sign, "readonly"]
      (seqs ["[", alts [key, seqs [identifier, ":", self .type]], "]", optional]))

/-- The head of a method. -/
def methodSignature : Parser :=
  node "method_signature"
    (optsThen [typed access, "static", typed override, "readonly", "async",
        alts ["get", "set", operator ["*"]]]
      (seqs [propertyName self, opt "?", signature self]))

/-- The type of an object. -/
def objectType : Parser :=
  let property := node "property_signature"
    (optsThen [access, "static", override, "readonly"]
      (seqs [propertyName self, opt "?", opt (ascription self)]))
  let call := node "call_signature" (signature self)
  let construct := node "construct_signature"
    (optThen "abstract"
      (seqs ["new", opt (self .typeParameters), self .parameters, opt (ascription self)]))
  let member := alts [construct, call, indexSignature self, methodSignature self, property]
  let stop := alts [",", semicolon { afterExpression := false }]
  node "object_type"
    (braces (seqs [opt (alts [",", ";"]), sepBy stop member, opt stop]))

end

end Backtick.Grammar
