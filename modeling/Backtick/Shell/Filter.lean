import Backtick.Shell.Printf

/-!
# Text utilities

What the utilities that scripts are made of do to the text they read: translating and deleting
bytes, counting, and picking, turning round and sorting lines.
-/

namespace Backtick.Shell

/-- Lines of some bytes, each with its line feed; the last one may have none. -/
def linesOf (s : Bytes) : List Bytes :=
  s.foldr (fun b ls =>
    if isNewline b then [b] :: ls
    else match ls with
      | [] => [[b]]
      | l :: ls => (b :: l) :: ls) []

/-- The complaint of a utility. -/
def complain (who : String) (what : Bytes) : Bytes := ascii who ++ ascii ": " ++ what ++ [0x0A]

/-- The hint that follows a complaint about the use of a utility. -/
def hint (who : String) : Bytes :=
  ascii "Try " ++ [0x27] ++ ascii who ++ ascii " --help" ++ [0x27] ++
    ascii " for more information.\n"

/-- Some bytes between apostrophes. -/
def quote (s : Bytes) : Bytes := [0x27] ++ s ++ [0x27]

/-- The refusal of an argument. -/
def misuse (who : String) (what : Bytes) : Effect :=
  { errors := complain who what ++ hint who, status := 1 }

/-- The refusal of a long option. -/
def unknownOption (who : String) (option : Bytes) : Effect :=
  if (ascii "--").isPrefixOf option then
    misuse who (ascii "unrecognized option " ++ quote option)
  else misuse who (ascii "invalid option -- " ++ quote ((option.drop 1).take 1))

/-- The first argument that begins like a long option. -/
def longOption? (arguments : List Bytes) : Option Bytes :=
  arguments.find? fun a => (ascii "--").isPrefixOf a && 2 < a.length

/-! ## Translating -/

namespace Translate

/-- The bytes that the names of classes stand for. -/
def class? (name : Bytes) : Option (UInt8 → Bool) :=
  let upper (b : UInt8) := 0x41 ≤ b.toNat && b.toNat ≤ 0x5A
  let lower (b : UInt8) := 0x61 ≤ b.toNat && b.toNat ≤ 0x7A
  let space (b : UInt8) := b.toNat = 0x20 || (0x09 ≤ b.toNat && b.toNat ≤ 0x0D)
  let punctuation (b : UInt8) :=
    0x21 ≤ b.toNat && b.toNat ≤ 0x7E && !(upper b || lower b || isDigit b)
  let classes : List (String × (UInt8 → Bool)) :=
    [("upper", upper), ("lower", lower), ("digit", isDigit), ("space", space), ("blank", isBlank),
      ("alpha", fun b => upper b || lower b),
      ("alnum", fun b => upper b || lower b || isDigit b), ("punct", punctuation)]
  (classes.find? fun c => ascii c.1 == name).map (·.2)

/-- All bytes. -/
def allBytes : Bytes := (List.range 256).map UInt8.ofNat

/-- The bytes from one to another. -/
def range (a b : UInt8) : Bytes :=
  (List.range (b.toNat + 1 - a.toNat)).map fun i => UInt8.ofNat (a.toNat + i)

/-- The byte at the beginning of a set, its escape resolved, and what follows it. -/
def element? (s : Bytes) : Option (UInt8 × Bytes) :=
  match s with
  | [] => none
  | b :: rest =>
    if isBackslash b then
      match rest with
      | [] => some (b, [])
      | c :: rest' =>
        match Printf.escape? c with
        | some e => some (e, rest')
        | none =>
          if Printf.isOctal c then
            let digits := Printf.octalDigits 3 rest
            some (Printf.octal digits, rest.drop digits.length)
          else some (c, rest')
    else some (b, rest)

/-- The bytes of a set, with classes, ranges and escapes resolved. -/
def elements (s : Bytes) : Bytes :=
  let opening := ascii "[:"
  let name := (s.drop 2).takeWhile (!is ':' ·)
  let after := s.drop (name.length + 4)
  match if opening.isPrefixOf s then class? name else none with
  | some c =>
    if _h : after.length < s.length then allBytes.filter c ++ elements after else []
  | none =>
    match element? s with
    | none => []
    | some (a, rest) =>
      match rest with
      | [] => [a]
      | dash :: rest' =>
        match if is '-' dash then element? rest' else none with
        | some (b, rest'') =>
          if _h : rest''.length < s.length then range a b ++ elements rest'' else []
        | none =>
          if _h : (dash :: rest').length < s.length then a :: elements (dash :: rest') else [a]
termination_by s.length

/-- The place of the last time that a byte is in a set. -/
def lastIndex? (set : Bytes) (b : UInt8) : Option Nat :=
  (set.reverse.idxOf? b).map (set.length - 1 - ·)

/-- Every byte of a set becomes the one at the same place of another, whose last one is repeated. -/
def translate (set image : Bytes) (b : UInt8) : UInt8 :=
  match lastIndex? set b with
  | none => b
  | some i => (image[i]?).getD (image.getLast?.getD b)

/-- Rows of the same byte of a set become one. -/
def squeeze (set : Bytes) : Bytes → Bytes
  | a :: b :: rest =>
    if a == b && set.contains a then squeeze set (b :: rest) else a :: squeeze set (b :: rest)
  | s => s

/-- Runs on some input. -/
def run (arguments : List Bytes) (input : Bytes) : Effect :=
  match longOption? arguments with
  | some o => unknownOption "tr" o
  | none =>
    let isFlag (a : Bytes) := a.head?.any (is '-') && 1 < a.length
    let flags := (arguments.takeWhile isFlag).flatMap (·.drop 1)
    let sets := arguments.dropWhile isFlag
    let inverted := flags.any (among "cC")
    let deleting := flags.any (is 'd')
    let squeezing := flags.any (is 's')
    let set (s : Bytes) :=
      if inverted then allBytes.filter (!(elements s).contains ·) else elements s
    match sets with
    | [] => misuse "tr" (ascii "missing operand")
    | [a] =>
      if deleting then { output := input.filter (!(set a).contains ·) }
      else if squeezing then { output := squeeze (set a) input }
      else misuse "tr" (ascii "missing operand after " ++ quote a)
    | a :: b :: _ =>
      if deleting then
        { output := squeeze (elements b) (input.filter (!(set a).contains ·)) }
      else
        let t := input.map (translate (set a) (elements b))
        { output := if squeezing then squeeze (elements b) t else t }

end Translate

/-! ## Counting -/

/-- The number of words. -/
def countWords (s : Bytes) : Nat :=
  let space (b : UInt8) := b.toNat = 0x20 || (0x09 ≤ b.toNat && b.toNat ≤ 0x0D)
  (s.foldl (fun (n, inside) b =>
    if space b then (n, false) else (if inside then n else n + 1, true)) (0, false)).1

/-- The number of lines, words, characters or bytes. -/
def count (arguments : List Bytes) (input : Bytes) : Effect :=
  match longOption? arguments with
  | some o => unknownOption "wc" o
  | none =>
    let flags := arguments.flatMap (·.drop 1)
    let shown (c : Char) := flags.isEmpty && c != 'm' || flags.any (is c)
    let counts : List Nat :=
      (if shown 'l' then [input.countP isNewline] else []) ++
      (if shown 'w' then [countWords input] else []) ++
      (if shown 'm' then [input.countP fun b => b.toNat < 0x80 || 0xC0 ≤ b.toNat] else []) ++
      (if shown 'c' then [input.length] else [])
    let field (n : Nat) : Bytes :=
      if counts.length = 1 then Printf.digitsOf 10 false n
      else ({ least := 7 : Printf.Width }).fit true (Printf.digitsOf 10 false n)
    { output := Printf.joined (counts.map field) ++ [0x0A] }

/-! ## Lines -/

/-- How many lines or bytes are picked. -/
structure Pick where
  bytes : Bool := false
  number : Nat := 10
  /-- the number has the sign that turns its sense round -/
  signed : Bool := false

/-- What is picked according to some arguments. -/
def Pick.ofArguments : List Bytes → Pick → Pick
  | [], p => p
  | a :: rest, p =>
    let number (p : Pick) (s : Bytes) : Pick :=
      { p with number := valueOf (s.dropWhile (!isDigit ·)), signed := s.head?.any (among "+-") }
    if a == ascii "-n" || a == ascii "-c" then
      match rest with
      | [] => p
      | n :: rest => Pick.ofArguments rest (number { p with bytes := a == ascii "-c" } n)
    else if (ascii "-n").isPrefixOf a then Pick.ofArguments rest (number p (a.drop 2))
    else if (ascii "-c").isPrefixOf a then
      Pick.ofArguments rest (number { p with bytes := true } (a.drop 2))
    else if a.head?.any (is '-') then Pick.ofArguments rest (number p (a.drop 1))
    else Pick.ofArguments rest p

/-- The beginning. -/
def head (arguments : List Bytes) (input : Bytes) : Effect :=
  match longOption? arguments with
  | some o => unknownOption "head" o
  | none =>
    let p := Pick.ofArguments arguments {}
    let pick {α : Type} (l : List α) :=
      l.take (if p.signed then l.length - p.number else p.number)
    { output := if p.bytes then pick input else (pick (linesOf input)).flatten }

/-- The end. -/
def tail (arguments : List Bytes) (input : Bytes) : Effect :=
  match longOption? arguments with
  | some o => unknownOption "tail" o
  | none =>
    let p := Pick.ofArguments arguments {}
    let pick {α : Type} (l : List α) :=
      if p.signed then l.drop (p.number - 1) else l.drop (l.length - p.number)
    { output := if p.bytes then pick input else (pick (linesOf input)).flatten }

/-- A line without its line feed. -/
def chop (l : Bytes) : Bytes := if l.getLast?.any isNewline then l.dropLast else l

/-- The characters of some bytes, as rows of bytes. -/
def characters (s : Bytes) : List Bytes :=
  s.foldr (fun b cs =>
    match cs with
    | (c :: more) :: rest =>
      if 0x80 ≤ c.toNat && c.toNat < 0xC0 then (b :: c :: more) :: rest else [b] :: cs
    | _ => [[b]]) []

/-- Every line backwards. -/
def reverseLines (input : Bytes) : Bytes :=
  (linesOf input).flatMap fun l =>
    (characters (chop l)).reverse.flatten ++ if l.getLast?.any isNewline then [0x0A] else []

/-- The first of two byte strings stands in front of the second in the order of bytes. -/
def inOrder : Bytes → Bytes → Bool
  | [], _ => true
  | _ :: _, [] => false
  | a :: as, b :: bs => if a == b then inOrder as bs else a.toNat < b.toNat

/-- The lines in order. -/
def sortLines (arguments : List Bytes) (input : Bytes) : Effect :=
  match longOption? arguments with
  | some o => { errors := (unknownOption "sort" o).errors, status := 2 }
  | none =>
    let flags := arguments.flatMap (·.drop 1)
    let key (l : Bytes) : Int := (Printf.int? (l.takeWhile fun b => isDigit b || is '-' b)).getD 0
    let before (a b : Bytes) : Bool :=
      if flags.any (is 'n') && key a ≠ key b then key a < key b else inOrder a b
    let sorted := ((linesOf input).map chop).mergeSort before
    let sorted := if flags.any (is 'r') then sorted.reverse else sorted
    let sorted := if flags.any (is 'u') then sorted.eraseDups else sorted
    { output := sorted.flatMap (· ++ [0x0A]) }

/-- Neighbouring lines that are the same become one. -/
def dropRepeated : List Bytes → List Bytes
  | a :: b :: rest =>
    if chop a == chop b then dropRepeated (a :: rest) else a :: dropRepeated (b :: rest)
  | ls => ls

/-- Rows of numbers, one a line. -/
def sequence (arguments : List Bytes) : Effect :=
  match longOption? arguments with
  | some o => unknownOption "seq" o
  | none =>
    let row (first step last : Int) : Bytes :=
      if step = 0 then []
      else
        (List.range (Int.fdiv (last - first) step + 1).toNat).flatMap fun (i : Nat) =>
          Printf.ofInt (first + i * step) ++ [0x0A]
    match arguments.map Printf.int? with
    | [some last] => { output := row 1 1 last }
    | [some first, some last] => { output := row first 1 last }
    | [some first, some step, some last] => { output := row first step last }
    | _ => misuse "seq" (ascii "missing operand")

end Backtick.Shell
