import Backtick.Grammar.Markup

/-!
# Statements and declarations

A statement is read by the first of its forms that reads: those with a word of their own, then a
label, then an expression. A brace that starts a statement opens a block.
-/

namespace Backtick.Grammar

open Backtick.Grammar.Parser

section

variable (self : Rule → Parser)

/-- The end of a statement behind something that no operator could carry on. -/
def plainEnd : Parser := semicolon { afterExpression := false }

/-- The condition of a statement. -/
def condition : Parser := parenthesized self

/-- Statements, with comments in the manner of markup between them. -/
def statements (statement : Parser) : Parser :=
  many (alts [lexeme "html_comment" Lexeme.markupComment?, statement])

/-- Statements in braces. -/
def block : Parser := node "statement_block" (braces (statements (self .statement)))

/-! ## Declarations -/

/-- The end of a declaration: whether it stands behind an expression depends on the last name. -/
def declarationEnd (nodes : List Node) : Parser :=
  let valued := ((nodes.getLast?).map fun n =>
    n.children.any fun child => child.type == Text.ofString "=").getD false
  semicolon { afterExpression := valued }

/-- Declared names. -/
def declarators : Parser :=
  let one := node "variable_declarator"
    (seqs [binding self, optTyped (operator ["!"]), optTyped (ascription self),
      opt (initializer self {})])
  sepBy1 "," one

/-- A declaration of variables. -/
def variableStatement : Parser :=
  alts [node "lexical_declaration"
      (bindNodes (seqs [alts ["let", "const"], declarators self]) declarationEnd),
    node "variable_declaration" (bindNodes (seqs ["var", declarators self]) declarationEnd)]

/-- A declaration of a function. -/
def functionDeclaration : Parser :=
  let star := operator ["*"]
  let head := fun mark => seqs [optThen "async" "function", mark, identifier, signature self]
  alts [node "generator_function_declaration"
      (seqs [optThen "async" (seqs ["function", star, identifier, signature self]), self .block]),
    node "function_declaration"
      (seqs [optThen "async" (seqs ["function", identifier, signature self]), self .block]),
    typed (node "function_signature"
      (seqs [alts [head star, head nothing],
        semicolon { afterExpression := false, afterHead := true }]))]

/-- An interface. -/
def interface : Parser :=
  let extension := node "extends_type_clause" (seqs ["extends", sepBy1 "," (self .type)])
  node "interface_declaration"
    (seqs ["interface", typeName, opt (self .typeParameters), opt extension, self .objectType])

/-- A name for a type. -/
def typeAlias : Parser :=
  node "type_alias_declaration"
    (seqs ["type", typeName, opt (self .typeParameters), "=", self .type, plainEnd])

/-- An enumeration. -/
def enumeration : Parser :=
  let member := alts
    [node "enum_assignment" (seqs [propertyName self, initializer self .inner]), propertyName self]
  let body := node "enum_body" (braces (listed member))
  node "enum_declaration" (seqs [opt "const", "enum", identifier, body])

/-- A namespace. -/
def nameSpace : Parser :=
  let path := suffixed identifier [("nested_identifier", seqs [".", identifier])]
  let body := seqs [alts [string, path], opt (self .block)]
  alts [node "module" (seqs ["module", body]), node "internal_module" (seqs ["namespace", body])]

/-- Another name for an imported thing. -/
def importAlias : Parser :=
  let path := suffixed identifier [("nested_identifier", seqs [".", identifier])]
  node "import_alias" (seqs ["import", identifier, "=", path, plainEnd])

/-- A declaration that only the dialects with types have. -/
def typedDeclaration : Parser :=
  typed (alts [enumeration self, interface self, typeAlias self, nameSpace self, importAlias])

/-- A declaration. -/
def declaration : Parser :=
  alts [functionDeclaration self, classDeclaration self, typedDeclaration self,
    variableStatement self]

/-- A declaration of something that is defined elsewhere. -/
def ambient : Parser :=
  let part := seqs ["module", ".", memberName, ":", self .type, plainEnd]
  node "ambient_declaration"
    (seqs ["declare", alts [declaration self, seqs ["global", self .block], part]])

/-! ## Modules -/

/-- The module that names come from. -/
def origin : Parser := seqs ["from", string]

/-- The name of something that a module gives. -/
def exportName : Parser := alts [lexeme "identifier" Lexeme.name?, string]

/-- Names in braces. -/
def exportClause : Parser :=
  let one := node "export_specifier"
    (optThen (typed (alts ["type", "typeof"])) (seqs [exportName, opt (seqs ["as", exportName])]))
  node "export_clause" (braces (listed one))

/-- The kind of a module. -/
def moduleKind : Parser :=
  opt (node "import_attribute" (seqs [alts ["with", "assert"], self .object]))

/-- Names that a module gives. -/
def exportStatement : Parser :=
  let all := alts [node "nameSpaceexport" (seqs ["*", "as", exportName]), operator ["*"]]
  let kind := optTyped "type"
  let default' := seqs ["default",
    alts [functionDeclaration self, classDeclaration self, typed (interface self),
      seqs [self (.sequence {}), semicolon {}]]]
  let whole := alts [seqs ["=", self (.sequence {}), semicolon {}],
    seqs ["as", "namespace", identifier, plainEnd], importAlias]
  node "export_statement"
    (alts [seqs ["export", kind, all, origin, moduleKind self, plainEnd],
      seqs ["export", kind, exportClause, opt (seqs [origin, moduleKind self]), plainEnd],
      seqs [self .decorators, "export", alts [declaration self, typed (ambient self), default']],
      typed (seqs ["export", whole])])

/-- Names that are taken from a module. -/
def importStatement : Parser :=
  let all := node "nameSpaceimport" (seqs [operator ["*"], "as", identifier])
  let renamed := seqs [exportName, "as", identifier]
  let one := node "import_specifier"
    (alts [seqs [typed (alts ["type", "typeof"]), alts [renamed, identifier]], renamed, identifier])
  let named := node "named_imports" (braces (listed one))
  let clause := node "import_clause"
    (alts [all, named, seqs [identifier, opt (seqs [",", alts [all, named]])]])
  let kind := typed (alts ["type", "typeof"])
  let required := node "import_require_clause"
    (seqs [identifier, "=", "require", parens string])
  let body := alts [seqs [clause, origin], typed required]
  node "import_statement"
    (seqs ["import", alts [seqs [optThen kind body], string], moduleKind self, plainEnd])

/-! ## Statements -/

/-- A choice between two statements. -/
def ifStatement : Parser :=
  let otherwise := node "else_clause" (seqs ["else", self .statement])
  node "if_statement" (seqs ["if", condition self, self .statement, opt otherwise])

/-- A loop over the members of a value. -/
def forIn : Parser :=
  let declared := alts [seqs [alts ["let", "const"], binding self],
    seqs ["var", binding self, opt (seqs ["=", self (.operand .inner)])]]
  let target := alts [self .destructuring, place self, parenthesized self]
  let header := seqs [alts [declared, target], alts ["in", "of"], self (.sequence .inner)]
  node "for_in_statement" (seqs ["for", opt "await", parens header, self .statement])

/-- A loop with a start, a condition and a step. -/
def forStatement : Parser :=
  let empty := node "empty_statement" ";"
  let clause := alts [empty, seqs [self (.sequence .inner), ";"]]
  let start := alts [variableStatement self, clause]
  node "for_statement"
    (seqs ["for", parens (seqs [start, clause, opt (self (.sequence .inner))]), self .statement])

/-- A choice between several cases. -/
def switchStatement : Parser :=
  let statements := statements (self .statement)
  let case := alts
    [node "switch_case" (seqs ["case", self (.sequence .inner), ":", statements]),
      node "switch_default" (seqs ["default", ":", statements])]
  node "switch_statement"
    (seqs ["switch", condition self, node "switch_body" (braces (many case))])

/-- Statements whose errors are caught. -/
def tryStatement : Parser :=
  let caught := parens (seqs [binding self, optTyped (ascription self)])
  let handler := node "catch_clause" (seqs ["catch", opt caught, self .block])
  let finalizer := node "finally_clause" (seqs ["finally", self .block])
  node "try_statement" (seqs ["try", self .block, opt handler, opt finalizer])

/-- A word that may be followed on its line by a part of the statement. -/
def jump (type : Text) (word : String) (part stop : Parser) : Parser :=
  let goesOn := continues { afterExpression := false }
  node type (seqs [word, alts [seqs [goesOn, part, stop], plainEnd]])

/-- The words that only a declaration can start with. -/
def declarationWord : Parser := alts ["interface", "abstract"]

/-- An expression as a statement. -/
def expressionStatement : Parser :=
  node "expression_statement"
    (seqs [absent "\x7b", absent (typed declarationWord), self (.sequence {}), semicolon {}])

/-- A statement. -/
def statement : Parser :=
  let label := nameAs "statement_identifier"
  let body := self .statement
  alts [self .block, variableStatement self, functionDeclaration self, classDeclaration self,
    importStatement self, exportStatement self, ifStatement self, forIn self, forStatement self,
    node "while_statement" (seqs ["while", condition self, body]),
    node "do_statement"
      (seqs ["do", body, "while", condition self, opt plainEnd]),
    tryStatement self, switchStatement self,
    node "with_statement" (seqs ["with", condition self, body]),
    jump "break_statement" "break" label plainEnd,
    jump "continue_statement" "continue" label plainEnd,
    jump "return_statement" "return" (self (.sequence {})) (semicolon {}),
    node "throw_statement" (seqs ["throw", self (.sequence {}), semicolon {}]),
    node "debugger_statement" (seqs ["debugger", plainEnd]),
    node "empty_statement" ";",
    typedDeclaration self, typed (ambient self),
    node "labeled_statement" (seqs [absent (typed declarationWord), label, ":", body]),
    expressionStatement self]

end

end Backtick.Grammar
