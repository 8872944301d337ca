import Backtick.Shell.Syntax

/-!
# Writing in scripts

How `echo` and `printf` turn their arguments into bytes: which escapes stand for which bytes, and
how the conversions of a format take up the arguments.

## Termination

Each step takes at least a byte of a format or an argument; a format is used again only when it took
up an argument.
-/

namespace Backtick.Shell

/-- What a utility does: how long it takes, its status, and what it writes. -/
structure Effect where
  output : Bytes := []
  errors : Bytes := []
  status : Nat := 0
  takes : Option Rat := some 0

namespace Printf

/-- A digit of base eight. -/
def isOctal (b : UInt8) : Bool := 0x30 ≤ b.toNat && b.toNat ≤ 0x37

/-- The byte that a few octal digits stand for. -/
def octal (digits : Bytes) : UInt8 :=
  UInt8.ofNat (digits.foldl (fun n b => 8 * n + (b.toNat - 0x30)) 0)

/-- The bytes that letters behind a backslash stand for. -/
def escapes : List (Char × Nat) :=
  [('a', 7), ('b', 8), ('f', 12), ('n', 10), ('r', 13), ('t', 9), ('v', 11), ('\\', 0x5C)]

/-- The byte that a letter behind a backslash stands for. -/
def escape? (b : UInt8) : Option UInt8 :=
  (escapes.find? fun e => is e.1 b).map fun e => UInt8.ofNat e.2

/-- At most so many octal digits at the beginning of some bytes. -/
def octalDigits (n : Nat) (s : Bytes) : Bytes := (s.take n).takeWhile isOctal

/-- The byte that a code in octal digits stands for, and what follows it. The code has a zero in
front unless `plain` says that it needs none. -/
def code? (plain : Bool) (b : UInt8) (rest : Bytes) : Option (UInt8 × Bytes) :=
  if b == 0x30 then
    let digits := octalDigits 3 rest
    some (octal digits, rest.drop digits.length)
  else if plain && isOctal b then
    let digits := octalDigits 3 (b :: rest)
    some (octal digits, rest.drop (digits.length - 1))
  else none

/-- The text of an argument with its escapes resolved, and whether the output goes on behind it. -/
def unescape (plain : Bool) (s : Bytes) : Bytes × Bool :=
  match s with
  | [] => ([], true)
  | b :: rest =>
    if isBackslash b then
      match rest with
      | [] => ([b], true)
      | c :: rest' =>
        if is 'c' c then ([], false)
        else
          match escape? c with
          | some e =>
            let (t, more) := unescape plain rest'
            (e :: t, more)
          | none =>
            match code? plain c rest' with
            | some (code, after) =>
              if _h : after.length ≤ rest'.length then
                let (t, more) := unescape plain after
                (code :: t, more)
              else ([], true)
            | none =>
              let (t, more) := unescape plain rest'
              (b :: c :: t, more)
    else
      let (t, more) := unescape plain rest
      (b :: t, more)
termination_by s.length
decreasing_by all_goals (simp only [List.length_cons] at *; omega)

/-- Some bytes joined by spaces. -/
def joined (words : List Bytes) : Bytes := List.intercalate [0x20] words

/-- What the shell echoes. -/
def echo (arguments : List Bytes) : Bytes :=
  let quiet := arguments.head? == some (ascii "-n")
  let (t, more) := unescape false (joined (if quiet then arguments.drop 1 else arguments))
  if quiet || !more then t else t ++ [0x0A]

/-- What the utility echoes, which leaves escapes alone. -/
def plainEcho (arguments : List Bytes) : Bytes :=
  if arguments.head? == some (ascii "-n") then joined (arguments.drop 1)
  else if arguments.head? == some (ascii "-e") then
    let (t, more) := unescape false (joined (arguments.drop 1))
    if more then t ++ [0x0A] else t
  else joined arguments ++ [0x0A]

/-- The integer that a text writes. -/
def int? (s : Bytes) : Option Int :=
  let s := s.dropWhile isBlank
  let sign := s.head?.any (is '-')
  let digits := if s.head?.any (among "+-") then s.drop 1 else s
  if digits.isEmpty || !digits.all isDigit then none
  else some (if sign then -(valueOf digits : Int) else valueOf digits)

/-- The digits of a number in a base. -/
def digitsOf (base : Nat) (capital : Bool) (n : Nat) : Bytes :=
  (Nat.toDigits base n).map fun c => UInt8.ofNat (if capital then c.toUpper else c).toNat

/-- The decimal form of an integer. -/
def ofInt (n : Int) : Bytes := if n < 0 then 0x2D :: digitsOf 10 false n.natAbs
  else digitsOf 10 false n.natAbs

/-- How a conversion is to be laid out. -/
structure Width where
  left : Bool := false
  zeros : Bool := false
  least : Nat := 0
  most : Option Nat := none

/-- A text in a field. -/
def Width.fit (w : Width) (numeric : Bool) (t : Bytes) : Bytes :=
  let t := if numeric then t else (w.most.map t.take).getD t
  let n := w.least - t.length
  if w.left then t ++ List.replicate n 0x20
  else if w.zeros && numeric then
    let sign := t.takeWhile (is '-')
    sign ++ List.replicate n 0x30 ++ t.drop sign.length
  else List.replicate n 0x20 ++ t

/-- The layout that stands behind a percent sign, and what follows it. -/
def width (s : Bytes) : Width × Bytes :=
  let flags := s.takeWhile (among "-0+ #")
  let s := s.drop flags.length
  let least := s.takeWhile isDigit
  let s := s.drop least.length
  let w : Width :=
    { left := flags.any (is '-'), zeros := flags.any (is '0'), least := valueOf least }
  if s.head?.any (is '.') then
    let most := (s.drop 1).takeWhile isDigit
    ({ w with most := some (valueOf most) }, s.drop (1 + most.length))
  else (w, s)

/-- A printed part, the complaint about its argument, and whether the output goes on behind it. -/
structure Part where
  text : Bytes
  bad : Bool := false
  more : Bool := true

/-- What a conversion makes of an argument; unknown conversions have none. -/
def convert? (w : Width) (conversion : UInt8) (argument : Bytes) : Option Part :=
  let number := (int? argument).getD 0
  let bad := (int? argument).isNone && !argument.isEmpty
  if is 's' conversion then some { text := w.fit false argument }
  else if is 'b' conversion then
    let (t, more) := unescape true argument
    some { text := w.fit false t, more }
  else if is 'c' conversion then some { text := w.fit false (argument.take 1) }
  else if among "diu" conversion then some { text := w.fit true (ofInt number), bad }
  else if is 'x' conversion then some { text := w.fit true (digitsOf 16 false number.toNat), bad }
  else if is 'X' conversion then some { text := w.fit true (digitsOf 16 true number.toNat), bad }
  else if is 'o' conversion then some { text := w.fit true (digitsOf 8 false number.toNat), bad }
  else none

/-- A pass over the format: the text, the arguments that are left, the bad ones, and whether the
output goes on. -/
structure Pass where
  text : Bytes := []
  left : List Bytes
  bad : List Bytes := []
  more : Bool := true

/-- A pass with a text in front. -/
def Pass.after (t : Bytes) (p : Pass) : Pass := { p with text := t ++ p.text }

/-- A pass over the format. -/
def pass (s : Bytes) (arguments : List Bytes) : Pass :=
  match s with
  | [] => { left := arguments }
  | b :: rest =>
    if isBackslash b then
      match rest with
      | [] => { text := [b], left := arguments }
      | c :: rest' =>
        match escape? c with
        | some e => (pass rest' arguments).after [e]
        | none =>
          if isOctal c then
            let digits := octalDigits 3 (c :: rest')
            (pass (rest'.drop (digits.length - 1)) arguments).after [octal digits]
          else if isQuote c then (pass rest' arguments).after [c]
          else (pass rest' arguments).after [b, c]
    else if is '%' b then
      match rest with
      | [] => { text := [b], left := arguments }
      | c :: rest' =>
        if is '%' c then (pass rest' arguments).after [b]
        else
          match width rest with
          | (_, []) => { text := b :: rest, left := arguments }
          | (w, conversion :: after') =>
            if _h : after'.length ≤ rest'.length then
              match convert? w conversion (arguments.head?.getD []) with
              | none => { text := [], left := [], bad := [[conversion]], more := false }
              | some part =>
                if part.more then
                  let p := (pass after' (arguments.drop 1)).after part.text
                  { p with bad := (if part.bad then [arguments.head?.getD []] else []) ++ p.bad }
                else { text := part.text, left := [], more := false }
            else { left := [] }
    else (pass rest arguments).after [b]
termination_by s.length
decreasing_by all_goals (simp only [List.length_cons, List.length_drop] at *; omega)

/-- Passes over the format until the arguments are used up. -/
def passes (format : Bytes) (arguments : List Bytes) : Pass :=
  let p := pass format arguments
  if _h : p.left.length < arguments.length then
    if p.left.isEmpty || !p.more then p
    else
      let q := passes format p.left
      { q.after p.text with bad := p.bad ++ q.bad }
  else p
termination_by arguments.length

/-- What `printf` does; messages begin with `who`. -/
def run (who : Bytes) (arguments : List Bytes) : Effect :=
  match arguments with
  | [] => { errors := who ++ ascii "usage: printf format [arg ...]\n", status := 2 }
  | format :: arguments =>
    let p := passes format arguments
    { output := p.text, status := if p.bad.isEmpty then 0 else 1,
      errors := p.bad.flatMap fun a => who ++ ascii "printf: " ++ a ++
        ascii ": expected numeric value\n" }

end Printf

end Backtick.Shell
