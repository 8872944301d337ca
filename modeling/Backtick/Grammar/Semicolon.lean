import Backtick.Grammar.Source

/-!
# Automatic semicolons

A statement may end without a semicolon at the end of the source, before a closing brace and at a
line break behind which the next token cannot carry the statement on. `Lexeme.endsStatement` says
whether it does so at a place behind a token or a comment.

The plain dialect and the typed ones differ in how they look through comments, in the closing
brace of a typed pattern and in the tokens that carry on a type.
-/

namespace Backtick

/-- The dialects of the language. Types are written in the last two, markup in the first and the
last. -/
inductive Dialect
  | plain
  | typed
  | typedMarkup
deriving DecidableEq

namespace Dialect

def hasTypes (d : Dialect) : Bool := d != .plain

def hasMarkup (d : Dialect) : Bool := d != .typed

end Dialect

/-- What precedes a place where a statement might end. -/
structure Ending where
  /-- The token before it ends an expression, which an operator could carry on. -/
  afterExpression : Bool := true
  /-- The token before it ends the head of a function, which a body could follow. -/
  afterHead : Bool := false

namespace Lexeme

/-- How a run of blanks and comments ended. -/
inductive Passage
  /-- A slash that opens no comment. -/
  | refused
  /-- A block comment on one line was the last thing read. -/
  | sameLine
  /-- Something else follows. -/
  | through
deriving DecidableEq

/-- The place behind a block comment, whose opening mark is read, or the end of the source; and
whether a line ends in it. -/
def blockRest (s : Source) : Nat → Bool → Nat → Nat × Bool
  | 0, broken, i => (i, broken)
  | n + 1, broken, i =>
    if s.code i == 0 then (i, broken)
    else if s.hasAll i ['*', '/'] then (i + 2, broken)
    else
      let c := s.code i
      blockRest s n (broken || c == 0x0A || c == 0x2028 || c == 0x2029) (i + 1)

/-- Reads blanks and comments, at most `n` of each. In the plain dialect a block comment ends the
reading when `through` is off and no slash follows it. -/
def passage (d : Dialect) (s : Source) (through : Bool) : Nat → Nat → Passage × Nat
  | 0, i => (.through, i)
  | n + 1, i =>
    let i := s.span isOpenBlank i
    if s.has i '/' then
      if s.has (i + 1) '/' then
        let isBreak := fun c =>
          c == 0 || c == 0x0A || (d == .plain && (c == 0x2028 || c == 0x2029))
        passage d s through n (s.span (fun c => !isBreak c) (i + 2))
      else if s.has (i + 1) '*' then
        let (j, broken) := blockRest s (s.size - i) false (i + 2)
        if d == .plain && !through && !s.has j '/' then
          (if broken then .through else .sameLine, j)
        else passage d s through n j
      else (.refused, i)
    else (.through, i)

/-- The word `in` or `instanceof` stands behind a place. A letter behind the word makes it another
one. -/
def isRelationWord (s : Source) (i : Nat) : Bool :=
  if s.hasAll i ['i', 'n'] then
    if isLetter (s.code (i + 2)) then
      s.hasAll (i + 2) "stanceof".toList && !isLetter (s.code (i + 10))
    else true
  else false

/-- The token behind a line break does not carry the statement on. -/
def startsAfresh (d : Dialect) (e : Ending) (s : Source) (i : Nat) : Bool :=
  let c := s.code i
  let isOneOf := fun (marks : String) => marks.toList.any fun ch => c == ch.toNat
  if isOneOf "`,:;*%><=?^|&/" then false
  else if c == 0x2E then d == .plain && isDigit (s.code (i + 1))
  else if isOneOf "[(" then d != .plain && !e.afterExpression
  else if c == 0x7B then !(d.hasTypes && e.afterHead)
  else if c == 0x2B || c == 0x2D then s.code (i + 1) == c
  else if c == 0x21 then !s.has (i + 1) '='
  else !isRelationWord s i

/-- The statement ends at a line break, the place of which is given. -/
def endsAtBreak (d : Dialect) (e : Ending) (s : Source) (i : Nat) : Bool :=
  match passage d s true (s.size - i + 1) (i + 1) with
  | (.refused, _) => false
  | (_, j) => startsAfresh d e s j

/-- The statement ends at a place, looking at `n` code points. -/
def endsFrom (d : Dialect) (e : Ending) (s : Source) : Nat → Nat → Bool
  | 0, _ => true
  | n + 1, i =>
    let c := s.code i
    let isBreak := c == 0x0A || (d == .plain && (c == 0x2028 || c == 0x2029))
    if c == 0 then true
    else if d == .plain && c == 0x2F then
      match passage d s false (s.size - i + 1) i with
      | (.refused, _) => false
      | (.through, j) =>
        let next := s.code j
        if !e.afterExpression && next != 0x2C && next != 0x3D then true
        else endsBehind n j
      | (.sameLine, j) => endsBehind n j
    else if c == 0x7D then
      if d == .plain then true
      else if s.has (s.span isOpenBlank (i + 1)) ':' then e.afterExpression
      else true
    else if isBreak then endsAtBreak d e s i
    else if isOpenBlank c then endsFrom d e s n (i + 1)
    else false
where
  /-- The same behind comments that have been looked through. -/
  endsBehind (n j : Nat) : Bool :=
    let c := s.code j
    if c == 0x7D then true
    else if c == 0x0A || c == 0x2028 || c == 0x2029 then endsAtBreak d e s j
    else if isOpenBlank c then endsFrom d e s n (j + 1)
    else false

/-- The statement ends at a place without a semicolon. -/
def endsStatement (d : Dialect) (e : Ending) (s : Source) (i : Nat) : Bool :=
  endsFrom d e s (s.size - i + 1) i

end Lexeme

end Backtick
