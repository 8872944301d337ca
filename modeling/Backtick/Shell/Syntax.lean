import Backtick.Text.Utf8

/-!
# Shell scripts

A script is a row of pipelines, each of which may hang on the success or failure of the one before
it. Words are made of pieces, some of which stand for values that are known only when the script
runs. Scripts are read as bytes.

## Termination

Reading is bounded by a number of steps that grows with the script: every step takes a byte or goes
one level deeper into the grammar, of which there are few.
-/

namespace Backtick.Shell

/-- The bytes of an ASCII text. -/
def ascii (s : String) : Bytes := s.toList.map fun c => UInt8.ofNat c.toNat

/-- The byte is this character. -/
def is (c : Char) (b : UInt8) : Bool := b.toNat == c.toNat

/-- The byte is one of these characters. -/
def among (chars : String) (b : UInt8) : Bool := chars.toList.any (is · b)

/-- A line feed. -/
def isNewline (b : UInt8) : Bool := b == 0x0A

/-- A space or a tabulator. -/
def isBlank (b : UInt8) : Bool := b == 0x20 || b == 0x09

/-- An ASCII digit. -/
def isDigit (b : UInt8) : Bool := 0x30 ≤ b.toNat && b.toNat ≤ 0x39

/-- The letters of names. -/
def isNameByte (b : UInt8) : Bool :=
  isDigit b || b == 0x5F || (0x41 ≤ b.toNat && b.toNat ≤ 0x5A) ||
    (0x61 ≤ b.toNat && b.toNat ≤ 0x7A)

/-- The characters that end a word and mean something by themselves. -/
def isOperator (b : UInt8) : Bool := among ";&|<>()" b || isNewline b

/-- An apostrophe. -/
def isApostrophe (b : UInt8) : Bool := b == 0x27

/-- A double quote. -/
def isQuote (b : UInt8) : Bool := b == 0x22

/-- A backslash. -/
def isBackslash (b : UInt8) : Bool := b == 0x5C

/-- The value of a row of digits. -/
def valueOf (digits : Bytes) : Nat := digits.foldl (fun n b => 10 * n + (b.toNat - 0x30)) 0

/-- How a pipeline hangs on the one before it. -/
inductive Connective where
  | always
  | onSuccess
  | onFailure
deriving DecidableEq

/-- Where a redirection leads. -/
inductive Redirection where
  /-- to where another descriptor leads -/
  | same (descriptor : Nat)
  /-- to nowhere -/
  | closed
  /-- to or from a file -/
  | file
deriving DecidableEq

mutual

/-- A piece of a word. -/
inductive Piece where
  /-- bytes that stand for themselves -/
  | literal (b : Bytes)
  /-- the value of a parameter -/
  | parameter (name : Bytes) (quoted : Bool)
  /-- the output of a script -/
  | output (body : List Step) (quoted : Bool)

/-- A redirection of a descriptor. -/
inductive Redirect where
  | mk (descriptor : Nat) (target : Redirection) (file : List Piece)

/-- A command. -/
inductive Command where
  | simple (assignments : List (Bytes × List Piece)) (words : List (List Piece))
      (redirects : List Redirect)
  | group (isolated : Bool) (body : List Step) (redirects : List Redirect)
  | choice (test yes no : List Step)
  | loop (whileTrue : Bool) (test body : List Step)
  | each (name : Bytes) (words : List (List Piece)) (body : List Step)

/-- A pipeline of a script. -/
inductive Step where
  | mk (connective : Connective) (negated : Bool) (pipeline : List Command)

end

/-- A word. -/
abbrev Word := List Piece

/-- A script. -/
abbrev Script := List Step

namespace Script

/-- The script without the blanks and continued lines in front of it. -/
def skipBlanks : Bytes → Bytes
  | [] => []
  | b :: rest =>
    if isBlank b then skipBlanks rest
    else if isBackslash b then
      match rest with
      | n :: rest' => if isNewline n then skipBlanks rest' else b :: n :: rest'
      | [] => [b]
    else b :: rest

/-- The script without a comment in front of it. -/
def skipComment (s : Bytes) : Bytes :=
  match s with
  | b :: _ => if is '#' b then s.dropWhile (!isNewline ·) else s
  | [] => []

/-- The script without blanks, comments and line breaks in front of it, as often as `n` says. -/
def skipLines : Nat → Bytes → Bytes
  | 0, s => s
  | n + 1, s =>
    let s := skipComment (skipBlanks s)
    match s with
    | b :: rest => if isNewline b then skipLines n rest else s
    | [] => []

/-- The next word of the script is a reserved one; what follows it. -/
def reserved? (w : String) (s : Bytes) : Option Bytes :=
  let s := skipBlanks s
  let rest := s.drop (ascii w).length
  if (ascii w).isPrefixOf s && rest.head?.all (fun b => isBlank b || isOperator b) then some rest
  else none

/-- The words that end the body of a command. -/
def endsBody (s : Bytes) : Bool :=
  let closing := [0x7D].map UInt8.ofNat
  ["then", "else", "elif", "fi", "do", "done"].any (fun w => (reserved? w s).isSome) ||
    (closing.isPrefixOf (skipBlanks s)) || (skipBlanks s).head?.any (is ')')

/-- A redirection operator behind the number of a descriptor. -/
def redirection? (s : Bytes) : Option (Nat × Bool × Bytes) :=
  let digits := s.takeWhile isDigit
  let number := if digits.isEmpty then none else some (valueOf digits)
  match s.drop digits.length with
  | b :: rest =>
    if is '<' b then some (number.getD 0, rest.head?.any (is '&'), rest)
    else if is '>' b then
      let rest := if rest.head?.any (is '>') then rest.drop 1 else rest
      some (number.getD 1, rest.head?.any (is '&'), rest)
    else none
  | [] => none

/-- The name in front of an equals sign. -/
def assignment? (s : Bytes) : Option (Bytes × Bytes) :=
  let name := s.takeWhile isNameByte
  match s.drop name.length with
  | b :: rest =>
    if is '=' b && !name.isEmpty && !name.head?.any isDigit then some (name, rest) else none
  | [] => none

/-- The text of a word that is made of literals. -/
def literalText : Word → Bytes
  | [] => []
  | .literal b :: rest => b ++ literalText rest
  | _ :: rest => literalText rest

mutual

/-- What a dollar sign stands in front of. -/
def dollar (fuel : Nat) (quoted : Bool) (s : Bytes) : Option (Piece × Bytes) :=
  match fuel, s with
  | 0, _ => none
  | _, [] => some (.literal (ascii "$"), [])
  | fuel + 1, b :: rest =>
    if is '(' b then do
      let (body, rest) ← steps fuel .always rest
      match skipLines rest.length rest with
      | c :: rest => if is ')' c then some (.output body quoted, rest) else none
      | [] => none
    else if b.toNat = 0x7B then
      let name := rest.takeWhile (·.toNat ≠ 0x7D)
      if (rest.drop name.length).isEmpty || name.isEmpty then none
      else some (.parameter name quoted, rest.drop (name.length + 1))
    else if among "@*#?$!-" b || isDigit b then some (.parameter [b] quoted, rest)
    else
      let name := (b :: rest).takeWhile isNameByte
      if name.isEmpty then some (.literal (ascii "$"), b :: rest)
      else some (.parameter name quoted, (b :: rest).drop name.length)

/-- The pieces up to a closing double quote. -/
def quotedPieces (fuel : Nat) (s : Bytes) : Option (Word × Bytes) :=
  match fuel, s with
  | 0, _ => none
  | _, [] => none
  | fuel + 1, b :: rest =>
    if isQuote b then some ([], rest)
    else if isBackslash b then
      match rest with
      | [] => none
      | c :: rest => do
        let kept := isQuote c || isBackslash c || among "$" c || c.toNat = 0x60
        let (ps, rest) ← quotedPieces fuel rest
        if isNewline c then some (ps, rest)
        else some (.literal (if kept then [c] else [b, c]) :: ps, rest)
    else if is '$' b then do
      let (p, rest) ← dollar fuel true rest
      let (ps, rest) ← quotedPieces fuel rest
      some (p :: ps, rest)
    else do
      let (ps, rest) ← quotedPieces fuel rest
      some (.literal [b] :: ps, rest)

/-- The pieces of a word. -/
def pieces (fuel : Nat) (s : Bytes) : Option (Word × Bytes) :=
  match fuel, s with
  | 0, _ => none
  | _, [] => some ([], [])
  | fuel + 1, b :: rest =>
    if isBlank b || isOperator b then some ([], b :: rest)
    else if isApostrophe b then
      let inside := rest.takeWhile (!isApostrophe ·)
      match rest.drop inside.length with
      | [] => none
      | _ :: rest => do
        let (ps, rest) ← pieces fuel rest
        some (.literal inside :: ps, rest)
    else if isQuote b then do
      let (qs, rest) ← quotedPieces fuel rest
      let (ps, rest) ← pieces fuel rest
      some (.literal [] :: qs ++ ps, rest)
    else if isBackslash b then
      match rest with
      | [] => some ([.literal [b]], [])
      | c :: rest => do
        let (ps, rest) ← pieces fuel rest
        if isNewline c then some (ps, rest) else some (.literal [c] :: ps, rest)
    else if is '$' b then do
      let (p, rest) ← dollar fuel false rest
      let (ps, rest) ← pieces fuel rest
      some (p :: ps, rest)
    else do
      let (ps, rest) ← pieces fuel rest
      some (.literal [b] :: ps, rest)

/-- A redirection. -/
def redirect (fuel : Nat) (descriptor : Nat) (duplicates : Bool) (s : Bytes) :
    Option (Redirect × Bytes) :=
  match fuel with
  | 0 => none
  | fuel + 1 =>
    if duplicates then do
      let (w, rest) ← pieces fuel (s.drop 1)
      let t := literalText w
      if t == ascii "-" then some (.mk descriptor .closed [], rest)
      else if !t.isEmpty && t.all isDigit then some (.mk descriptor (.same (valueOf t)) [], rest)
      else none
    else do
      let (w, rest) ← pieces fuel (skipBlanks s)
      if w.isEmpty then none else some (.mk descriptor .file w, rest)

/-- The rest of a simple command. -/
def simple (fuel : Nat) (assignments : List (Bytes × Word)) (words : List Word)
    (redirects : List Redirect) (s : Bytes) : Option (Command × Bytes) :=
  match fuel with
  | 0 => none
  | fuel + 1 =>
    let s := skipComment (skipBlanks s)
    match redirection? s with
    | some (descriptor, duplicates, rest) => do
      let (r, rest) ← redirect fuel descriptor duplicates rest
      simple fuel assignments words (redirects ++ [r]) rest
    | none =>
      if s.head?.all isOperator then
        if words.isEmpty && assignments.isEmpty && redirects.isEmpty then none
        else some (.simple assignments words redirects, s)
      else
        match if words.isEmpty then assignment? s else none with
        | some (name, rest) => do
          let (w, rest) ← pieces fuel rest
          simple fuel (assignments ++ [(name, w)]) words redirects rest
        | none => do
          let (w, rest) ← pieces fuel s
          simple fuel assignments (words ++ [w]) redirects rest

/-- The redirections behind a compound command. -/
def redirects (fuel : Nat) (s : Bytes) : Option (List Redirect × Bytes) :=
  match fuel with
  | 0 => none
  | fuel + 1 =>
    match redirection? (skipBlanks s) with
    | some (descriptor, duplicates, rest) => do
      let (r, rest) ← redirect fuel descriptor duplicates rest
      let (rs, rest) ← redirects fuel rest
      some (r :: rs, rest)
    | none => some ([], s)

/-- The rest of a choice, behind its first word. -/
def choice (fuel : Nat) (s : Bytes) : Option (Command × Bytes) :=
  match fuel with
  | 0 => none
  | fuel + 1 => do
    let (test, rest) ← steps fuel .always s
    let rest ← reserved? "then" rest
    let (yes, rest) ← steps fuel .always rest
    match reserved? "elif" rest, reserved? "else" rest with
    | some rest, _ => do
      let (no, rest) ← choice fuel rest
      some (.choice test yes [.mk .always false [no]], rest)
    | none, some rest => do
      let (no, rest) ← steps fuel .always rest
      some (.choice test yes no, ← reserved? "fi" rest)
    | none, none => some (.choice test yes [], ← reserved? "fi" rest)

/-- The body of a loop, between its two words. -/
def body (fuel : Nat) (s : Bytes) : Option (Script × Bytes) :=
  match fuel with
  | 0 => none
  | fuel + 1 => do
    let rest ← reserved? "do" (skipLines s.length s)
    let (b, rest) ← steps fuel .always rest
    some (b, ← reserved? "done" rest)

/-- The words behind a name, up to the end of the line. -/
def wordList (fuel : Nat) (s : Bytes) : Option (List Word × Bytes) :=
  match fuel with
  | 0 => none
  | fuel + 1 =>
    let s := skipBlanks s
    match s with
    | [] => some ([], [])
    | b :: rest =>
      if is ';' b || isNewline b then some ([], rest)
      else do
        let (w, rest) ← pieces fuel s
        let (ws, rest) ← wordList fuel rest
        some (w :: ws, rest)

/-- A command. -/
def command (fuel : Nat) (s : Bytes) : Option (Command × Bytes) :=
  match fuel with
  | 0 => none
  | fuel + 1 =>
    let s := skipBlanks s
    match s with
    | [] => none
    | b :: rest =>
      if is '(' b then do
        let (inside, rest) ← steps fuel .always rest
        match skipLines rest.length rest with
        | c :: rest =>
          if is ')' c then do
            let (rs, rest) ← redirects fuel rest
            some (.group true inside rs, rest)
          else none
        | [] => none
      else if b.toNat = 0x7B && rest.head?.any (fun c => isBlank c || isNewline c) then do
        let (inside, rest) ← steps fuel .always rest
        match skipLines rest.length rest with
        | c :: rest =>
          if c.toNat = 0x7D then do
            let (rs, rest) ← redirects fuel rest
            some (.group false inside rs, rest)
          else none
        | [] => none
      else
        match reserved? "if" s, reserved? "while" s, reserved? "until" s, reserved? "for" s with
        | some rest, _, _, _ => choice fuel rest
        | _, some rest, _, _ => do
          let (test, rest) ← steps fuel .always rest
          let (b, rest) ← body fuel rest
          some (.loop true test b, rest)
        | _, _, some rest, _ => do
          let (test, rest) ← steps fuel .always rest
          let (b, rest) ← body fuel rest
          some (.loop false test b, rest)
        | _, _, _, some rest => do
          let rest := skipBlanks rest
          let name := rest.takeWhile isNameByte
          let (ws, rest) ← wordList fuel (← reserved? "in" (rest.drop name.length))
          let (b, rest) ← body fuel rest
          some (.each name ws b, rest)
        | none, none, none, none => simple fuel [] [] [] s

/-- The commands of a pipeline. -/
def pipeline (fuel : Nat) (s : Bytes) : Option (List Command × Bytes) :=
  match fuel with
  | 0 => none
  | fuel + 1 => do
    let (c, rest) ← command fuel s
    let rest := skipBlanks rest
    match rest with
    | b :: rest' =>
      if is '|' b && !rest'.head?.any (is '|') then do
        let (cs, rest) ← pipeline fuel (skipLines rest'.length rest')
        some (c :: cs, rest)
      else some ([c], rest)
    | [] => some ([c], [])

/-- The pipelines of a script, up to its end or a word that ends a body. -/
def steps (fuel : Nat) (connective : Connective) (s : Bytes) : Option (Script × Bytes) :=
  match fuel with
  | 0 => none
  | fuel + 1 =>
    let s := skipLines s.length s
    if s.isEmpty || endsBody s then if connective = .always then some ([], s) else none
    else do
      let (negated, s) :=
        match reserved? "!" s with
        | some rest => (true, rest)
        | none => (false, s)
      let (cs, rest) ← pipeline fuel s
      let step := Step.mk connective negated cs
      let rest := skipComment (skipBlanks rest)
      match rest with
      | [] => some ([step], [])
      | b :: rest' =>
        let twice := rest'.head? == some b
        if is '&' b && twice then do
          let (ss, rest) ← steps fuel .onSuccess (rest'.drop 1)
          some (step :: ss, rest)
        else if is '|' b && twice then do
          let (ss, rest) ← steps fuel .onFailure (rest'.drop 1)
          some (step :: ss, rest)
        else if is ';' b || is '&' b || isNewline b then do
          let (ss, rest) ← steps fuel .always rest'
          some (step :: ss, rest)
        else some ([step], rest)

end

/-- The script that bytes are. -/
def read? (s : Bytes) : Option Script :=
  match steps (16 * (s.length + 1)) .always s with
  | some (ss, rest) => if rest.isEmpty then some ss else none
  | none => none

end Script

end Backtick.Shell
