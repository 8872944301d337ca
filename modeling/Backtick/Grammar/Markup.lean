import Backtick.Grammar.Member

/-!
# Markup

Elements with attributes and children. The text between the tags is read before blanks and
comments are, so that what looks like a comment there is text.
-/

namespace Backtick.Grammar

open Backtick.Grammar.Parser

section

variable (self : Rule → Parser)

/-- A name in markup. -/
def markupName : Parser :=
  alts [lexeme "identifier" Lexeme.markupName?, lexeme "identifier" Lexeme.name?]

/-- The name of an element. -/
def elementName : Parser :=
  let spaced := node "jsx_namespace_name" (seqs [markupName, ":", markupName])
  alts [spaced, suffixed markupName [("member_expression", seqs [".", markupName])]]

/-- An expression in braces, which may be left out. -/
def markupHole : Parser :=
  node "jsx_expression" (braces (opt (alts [self (.sequence .inner), spread self])))

/-- A quoted attribute. -/
def attributeText (quote : Char) : Parser :=
  let mark := String.singleton quote
  let part := immediate "string_fragment" fun s i =>
    let j := Lexeme.attributeText s quote i
    if i < j then some j else none
  let reference := immediate "html_character_reference" Lexeme.reference?
  node "string" (seqs [exactly mark, many (alts [part, reference]), exactly mark])

/-- An attribute. -/
def markupAttribute : Parser :=
  let name := alts [node "jsx_namespace_name" (seqs [markupName, ":", markupName]), markupName]
  let value := alts [attributeText '"', attributeText (Char.ofNat 0x27), markupHole self,
    self .element]
  alts [node "jsx_attribute" (seqs [name, opt (seqs [exactly "=", value])]), markupHole self]

/-- What stands between the tags of an element. -/
def child : Parser :=
  alts [immediate "jsx_text" Lexeme.markupText?,
    lexeme "html_character_reference" Lexeme.reference?, markupHole self, self .element]

/-- An element. -/
def element : Parser :=
  let named := seqs [elementName, optTyped (opt (self .typeArguments)), many (markupAttribute self)]
  let opening := node "jsx_opening_element" (seqs [exactly "<", opt named, exactly ">"])
  let closing := node "jsx_closing_element"
    (seqs [exactly "<", exactly "/", opt elementName, exactly ">"])
  alts [node "jsx_self_closing_element" (seqs [exactly "<", named, exactly "/", exactly ">"]),
    node "jsx_element" (seqs [opening, many (child self), closing])]

end

end Backtick.Grammar
