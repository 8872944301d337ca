import Std.Data.HashMap
import Backtick.Grammar.Semicolon
import Backtick.Tree

/-!
# Parsers over a source

A parser takes a place in the source to the nodes that it reads and the place behind them, or
fails. Choice is ordered: an alternative is tried only when those in front of it fail at the same
place. What a rule gives at a place is remembered, so that each rule reads each place once.

Every token is a leaf whose type is its text or the name of its class. Blanks and comments in front
of a token belong to no token; a comment is a node in front of it. `node` wraps what a parser reads
and leaves the comments in front of the first token outside.

## Termination

`many` reads at most as often as code points remain.
-/

namespace Backtick

namespace Grammar

/-- What is read: the source and the dialect that it is written in. -/
structure Subject where
  source : Source
  dialect : Dialect

/-- The nodes that a parser reads and the place behind them. -/
abbrev Outcome := Option (List Node × Nat)

/-- What rules have given so far, by place and rule, and the furthest place at which a token was
looked for in vain. -/
structure Memo where
  table : Std.HashMap Nat Outcome := {}
  furthest : Nat := 0

/-- A parser of the subject from a place. -/
structure Parser where
  run : Subject → Nat → StateM Memo Outcome

instance : Inhabited Parser := ⟨⟨fun _ _ => pure none⟩⟩

namespace Parser

/-- Reads nothing. -/
def nothing : Parser := ⟨fun _ i => pure (some ([], i))⟩

/-- Reads one parser's nodes after another's. -/
def andThen (p q : Parser) : Parser := ⟨fun subject i => do
  match ← p.run subject i with
  | none => return none
  | some (front, j) =>
    match ← q.run subject j with
    | none => return none
    | some (back, k) => return some (front ++ back, k)⟩

/-- Reads what the first parser reads, or else what the second one reads. -/
def orElse (p q : Parser) : Parser := ⟨fun subject i => do
  match ← p.run subject i with
  | none => q.run subject i
  | found => return found⟩

/-- The parsers one after another. -/
def seqs : List Parser → Parser
  | [] => nothing
  | [p] => p
  | p :: rest => p.andThen (seqs rest)

/-- The first of the parsers that reads. -/
def alts : List Parser → Parser
  | [] => default
  | [p] => p
  | p :: rest => p.orElse (alts rest)

/-- Reads the parser if it can. -/
def opt (p : Parser) : Parser := p.orElse nothing

/-- Reads the first parser and the second one if it can, or else the second one alone. -/
def optThen (p q : Parser) : Parser := (p.andThen q).orElse q

/-- Reads any of the parsers, each at most once and in this order, in front of the last. -/
def optsThen : List Parser → Parser → Parser
  | [], q => q
  | p :: rest, q => optThen p (optsThen rest q)

/-- Reads the parser up to `n` times, as often as it reads something. -/
def manyFor (p : Parser) (subject : Subject) : Nat → Nat → StateM Memo (List Node × Nat)
  | 0, i => pure ([], i)
  | n + 1, i => do
    match ← p.run subject i with
    | none => return ([], i)
    | some (nodes, j) =>
      if j ≤ i then return ([], i)
      else
        let (rest, k) ← manyFor p subject n j
        return (nodes ++ rest, k)

/-- Reads the parser as often as it reads something. -/
def many (p : Parser) : Parser := ⟨fun subject i =>
  some <$> manyFor p subject (subject.source.size - i) i⟩

/-- Reads the parser once or more. -/
def many1 (p : Parser) : Parser := p.andThen (many p)

/-- Reads the parser once or more with a separator in between. -/
def sepBy1 (sep p : Parser) : Parser := p.andThen (many (sep.andThen p))

/-- Reads the parser any number of times with a separator in between. -/
def sepBy (sep p : Parser) : Parser := opt (sepBy1 sep p)

/-- Reads nothing if the parser can read here. -/
def ahead (p : Parser) : Parser := ⟨fun subject i => do
  match ← p.run subject i with
  | none => return none
  | some _ => return some ([], i)⟩

/-- Reads nothing if the parser cannot read here. -/
def absent (p : Parser) : Parser := ⟨fun subject i => do
  match ← p.run subject i with
  | none => return some ([], i)
  | some _ => return none⟩

/-- Reads the parser if the dialect allows it. -/
def within (allows : Dialect → Bool) (p : Parser) : Parser := ⟨fun subject i =>
  if allows subject.dialect then p.run subject i else pure none⟩

/-- Reads the parser in the dialects that have types. -/
def typed (p : Parser) : Parser := within Dialect.hasTypes p

/-- Reads the parser if it can and the dialect has types. -/
def optTyped (p : Parser) : Parser := opt (typed p)

/-- Changes the nodes that a parser reads. -/
def mapNodes (f : List Node → List Node) (p : Parser) : Parser := ⟨fun subject i => do
  match ← p.run subject i with
  | none => return none
  | some (nodes, j) => return some (f nodes, j)⟩

/-- Goes on with a parser that depends on the nodes read. -/
def bindNodes (p : Parser) (f : List Node → Parser) : Parser := ⟨fun subject i => do
  match ← p.run subject i with
  | none => return none
  | some (front, j) =>
    match ← (f front).run subject j with
    | none => return none
    | some (back, k) => return some (front ++ back, k)⟩

/-- Remembers what a parser gives under a number below 64. -/
def remembered (number : Nat) (p : Parser) : Parser := ⟨fun subject i => do
  let key := i * 64 + number
  match (← get).table[key]? with
  | some known => return known
  | none =>
    let found ← p.run subject i
    modify fun memo => { memo with table := memo.table.insert key found }
    return found⟩

/-! ## Tokens -/

/-- The leaf for the code points from one place to another. -/
def leaf (subject : Subject) (type : Text) (i j : Nat) : Node :=
  let s := subject.source
  { type, start := s.offset i, stop := s.offset j, point := s.point i, missing := false,
    hasError := false, children := [] }

/-- Reads blanks and comments, at most `n` comments. -/
def triviaFor (subject : Subject) : Nat → Nat → List Node × Nat
  | 0, i => ([], i)
  | n + 1, i =>
    let i := subject.source.span Lexeme.isBlank i
    match Lexeme.comment? subject.source i with
    | none => ([], i)
    | some j =>
      let (rest, k) := triviaFor subject n j
      (leaf subject "comment" i j :: rest, k)

/-- The blanks and comments at any place. -/
def trivia : Parser := ⟨fun subject i =>
  let j := subject.source.span Lexeme.isBlank i
  if subject.source.has j '/' then
    (remembered 0 ⟨fun subject i =>
      pure (some (triviaFor subject (subject.source.size - i + 1) i))⟩).run
      subject j
  else pure (some ([], j))⟩

/-- Reads a lexeme that stands right here. -/
def immediate (type : Text) (lexeme : Source → Nat → Option Nat) : Parser := ⟨fun subject i => do
  match lexeme subject.source i with
  | some j => return some ([leaf subject type i j], j)
  | none =>
    modify fun memo => { memo with furthest := max memo.furthest i }
    return none⟩

/-- Reads blanks and comments and then a lexeme. -/
def lexeme (type : Text) (lexeme : Source → Nat → Option Nat) : Parser :=
  trivia.andThen (immediate type lexeme)

/-- The marks of the language, the longest of those that stand at a place being the one there. -/
def marks : List (List Char) :=
  [">>>=", "...", "===", "!==", ">>>", "<<=", ">>=", "**=", "&&=", "||=", "??=",
    "=>", "==", "!=", "<=", ">=", "&&", "||", "??", "?.", "++", "--", "+=", "-=", "*=", "/=",
    "%=", "&=", "|=", "^=", "<<", ">>", "**"].map String.toList

/-- The place behind a mark that no longer mark covers. A question mark in front of a decimal
fraction stands alone. -/
def mark? (mark : List Char) (s : Source) (i : Nat) : Option Nat :=
  if s.hasAll i mark then
    let longer := marks.any fun m =>
      mark.length < m.length && s.hasAll i m &&
        !(m == ['?', '.'] && Lexeme.isDigit (s.code (i + 2)))
    if longer || (mark == ['?', '.'] && Lexeme.isDigit (s.code (i + 2))) then none
    else some (i + mark.length)
  else none

/-- The marks that are longer than one code point and those that are operators on their own, the
longer ones first. -/
def operatorMarks : List (List Char) :=
  marks ++ ["&", "^", "|", "+", "-", "*", "/", "%", "<", ">", "=", "!", "~"].map String.toList

/-- The place behind an operator among those given, which no longer mark covers. -/
def operator? (among : List (List Char)) (s : Source) (i : Nat) : Option Nat :=
  match operatorMarks.find? (s.hasAll i) with
  | some m => if among.contains m then some (i + m.length) else none
  | none => none

/-- The place behind a word of the language, which no name goes on. -/
def word? (word : List Char) (s : Source) (i : Nat) : Option Nat :=
  if s.hasAll i word then (Lexeme.name? s i).filter (· == i + word.length) else none

/-- The word or the mark with this text. -/
def token (text : String) : Parser :=
  let chars := text.toList
  lexeme text (if chars.all Char.isAlpha then word? chars else mark? chars)

instance : Coe String Parser := ⟨token⟩

/-- One of these operators, as a leaf whose type is its text. -/
def operator (among : List String) : Parser :=
  let among := among.map String.toList
  trivia.andThen ⟨fun subject i => do
    match operator? among subject.source i with
    | some j => return some ([leaf subject (subject.source.text i j) i j], j)
    | none =>
      modify fun memo => { memo with furthest := max memo.furthest i }
      return none⟩

/-- The code points of this text, whatever follows them. -/
def exactly (text : String) : Parser :=
  let chars := text.toList
  lexeme text fun s i => if s.hasAll i chars then some (i + chars.length) else none

/-- The code points of this text right here. -/
def exactlyHere (text : String) : Parser :=
  let chars := text.toList
  immediate text fun s i => if s.hasAll i chars then some (i + chars.length) else none

/-- Reads nothing, behind all blanks and comments, at the end of the source. -/
def atEnd : Parser := trivia.andThen ⟨fun subject i => do
  if subject.source.size ≤ i then return some ([], i)
  else
    modify fun memo => { memo with furthest := max memo.furthest i }
    return none⟩

/-- Reads nothing if a token that carries a statement on may come next, at most `n` comments being
in between. -/
def continuesFor (e : Ending) (subject : Subject) : Nat → Nat → Bool
  | 0, _ => true
  | n + 1, i =>
    if Lexeme.endsStatement subject.dialect e subject.source i then false
    else
      match Lexeme.comment? subject.source (subject.source.span Lexeme.isBlank i) with
      | none => true
      | some j => continuesFor e subject n j

/-- Reads nothing where no semicolon is to be put between this place and the next token. -/
def continues (e : Ending) : Parser := ⟨fun subject i =>
  if continuesFor e subject (subject.source.size - i + 1) i then pure (some ([], i)) else pure none⟩

/-- Reads the comments in front of an automatic semicolon, at most `n` of them, or those in front
of a semicolon and the semicolon itself. -/
def semicolonFor (e : Ending) (subject : Subject) : Nat → Nat → StateM Memo Outcome
  | 0, _ => pure none
  | n + 1, i => do
    if Lexeme.endsStatement subject.dialect e subject.source i then return some ([], i)
    let j := subject.source.span Lexeme.isBlank i
    match Lexeme.comment? subject.source j with
    | some k =>
      match ← semicolonFor e subject n k with
      | none => return none
      | some (nodes, l) => return some (leaf subject "comment" j k :: nodes, l)
    | none => (token ";").run subject j

/-- The end of a statement. -/
def semicolon (e : Ending) : Parser := ⟨fun subject i =>
  semicolonFor e subject (subject.source.size - i + 1) i⟩

/-! ## Nodes -/

/-- The nodes as one node behind the comments that they start with. -/
def wrap (type : Text) (nodes : List Node) : List Node :=
  let comments := nodes.takeWhile Node.isComment
  match nodes.dropWhile Node.isComment with
  | [] => comments
  | first :: rest =>
    let last := (rest.getLast?).getD first
    comments ++ [{ type, start := first.start, stop := last.stop, point := first.point,
                   missing := false, hasError := false, children := first :: rest }]

/-- What the parser reads as one node. -/
def node (type : Text) (p : Parser) : Parser := mapNodes (wrap type) p

/-- Goes on from nodes that are read with the first suffix that reads, up to `n` times; each suffix
makes one node, of the type given with it, of all that stands in front of it and itself. -/
def suffixesFor (suffixes : List (Text × Parser)) (subject : Subject) :
    Nat → List Node → Nat → StateM Memo (List Node × Nat)
  | 0, nodes, i => pure (nodes, i)
  | n + 1, nodes, i => do
    match ← first suffixes i with
    | none => return (nodes, i)
    | some (type, more, j) => suffixesFor suffixes subject n (wrap type (nodes ++ more)) j
where
  first : List (Text × Parser) → Nat → StateM Memo (Option (Text × List Node × Nat))
    | [], _ => pure none
    | (type, p) :: rest, i => do
      match ← p.run subject i with
      | some (more, j) => return some (type, more, j)
      | none => first rest i

/-- A base and suffixes, nested to the left. -/
def suffixed (base : Parser) (suffixes : List (Text × Parser)) : Parser := ⟨fun subject i => do
  match ← base.run subject i with
  | none => return none
  | some (nodes, j) =>
    return some (← suffixesFor suffixes subject (subject.source.size - j) nodes j)⟩

/-- A base and the first of the suffixes that reads, the suffixes depending on the type of the node
that the base reads last. -/
def extended (base : Parser) (suffixes : Text → List (Text × Parser)) : Parser :=
  ⟨fun subject i => do
    match ← base.run subject i with
    | none => return none
    | some (nodes, j) =>
      let type := (nodes.getLast?.map Node.type).getD []
      return some (← suffixesFor (suffixes type) subject 1 nodes j)⟩

/-! ## Lists -/

/-- What stands in round brackets. -/
def parens (p : Parser) : Parser := seqs ["(", p, ")"]

/-- What stands in square brackets. -/
def brackets (p : Parser) : Parser := seqs ["[", p, "]"]

/-- What stands in braces. -/
def braces (p : Parser) : Parser := seqs ["\x7b", p, "\x7d"]

/-- Items with commas in between, each of which may be left out. -/
def holed (p : Parser) : Parser := seqs [opt p, many (seqs [",", opt p])]

/-- Items with commas in between and perhaps one behind the last. -/
def listed (p : Parser) : Parser := opt (seqs [sepBy1 "," p, opt ","])

end Parser

end Grammar

end Backtick
