import Backtick.Double
import Backtick.Shell.Filter

/-!
# Utilities

The utilities that are known by name. A utility gets arguments, a way to read files and its input,
of which it takes all or nothing.
-/

namespace Backtick.Shell

/-- How files are read. -/
abbrev Files := Bytes → Option Bytes

namespace Utility

/-- What a utility that may be given files reads, and its complaints about those that are
missing. -/
def gather (who : String) (files : Files) (names : List Bytes) (input : Bytes) : Bytes × Bytes :=
  if names.isEmpty then (input, [])
  else
    names.foldl (fun (content, errors) name =>
      if name == ascii "-" then (content ++ input, errors)
      else
        match files name with
        | some c => (content ++ c, errors)
        | none => (content, errors ++ complain who (name ++ ascii ": No such file or directory")))
      ([], [])

/-- Options in front of the names of files. -/
def isOption (a : Bytes) : Bool := a.head?.any (is '-') && 1 < a.length

/-- A filter of the files that are named, or of the input. -/
def filter (who : String) (f : Bytes → Bytes) (files : Files) (arguments : List Bytes)
    (input : Bytes) : Effect :=
  match longOption? arguments with
  | some o => unknownOption who o
  | none =>
    let (content, errors) := gather who files (arguments.filter (!isOption ·)) input
    { output := f content, errors, status := if errors.isEmpty then 0 else 1 }

/-- The seconds that a length of time has. -/
def seconds? (s : Bytes) : Option (Option Rat) :=
  let whole := s.takeWhile isDigit
  let rest := s.drop whole.length
  let decimals := if rest.head?.any (is '.') then (rest.drop 1).takeWhile isDigit else []
  let rest := if rest.head?.any (is '.') then rest.drop (1 + decimals.length) else rest
  let number : Rat := valueOf whole + (valueOf decimals : Rat) / tenTo decimals.length
  let units : List (String × Rat) := [("", 1), ("s", 1), ("m", 60), ("h", 3600), ("d", 86400)]
  if s == ascii "infinity" || s == ascii "inf" then some none
  else if whole.isEmpty && decimals.isEmpty then none
  else (units.find? fun u => ascii u.1 == rest).map fun u => some (number * u.2)

/-- Waits for the sum of some times. -/
def sleep (arguments : List Bytes) : Effect :=
  match longOption? arguments with
  | some o => unknownOption "sleep" o
  | none =>
    if arguments.isEmpty then misuse "sleep" (ascii "missing operand")
    else
      match arguments.find? fun a => (seconds? a).isNone with
      | some a => misuse "sleep" (ascii "invalid time interval " ++ quote a)
      | none =>
        { takes := arguments.foldl (fun t a =>
            match t, seconds? a with
            | some t, some (some s) => some (t + s)
            | _, _ => none) (some 0) }

/-- A comparison of integers that the utility `test` knows. -/
def comparison? (operator : Bytes) : Option (Int → Int → Bool) :=
  let operators : List (String × (Int → Int → Bool)) :=
    [("-eq", (· == ·)), ("-ne", (· != ·)), ("-lt", (· < ·)), ("-le", (· ≤ ·)), ("-gt", (· > ·)),
      ("-ge", (· ≥ ·))]
  (operators.find? fun o => ascii o.1 == operator).map (·.2)

/-- A condition on some words holds; words that are no condition have no answer. -/
def condition? (files : Files) : List Bytes → Option Bool
  | [] => some false
  | [a] => some !a.isEmpty
  | [operator, a] =>
    if operator == ascii "!" then some a.isEmpty
    else if operator == ascii "-n" then some !a.isEmpty
    else if operator == ascii "-z" then some a.isEmpty
    else if [ascii "-f", ascii "-e", ascii "-r"].contains operator then some (files a).isSome
    else if operator == ascii "-s" then some ((files a).any (!·.isEmpty))
    else none
  | [a, operator, b] =>
    if operator == ascii "=" || operator == ascii "==" then some (a == b)
    else if operator == ascii "!=" then some (a != b)
    else
      match comparison? operator, Printf.int? a, Printf.int? b with
      | some c, some m, some n => some (c m n)
      | _, _, _ => if a == ascii "!" then (condition? files [operator, b]).map (!·) else none
  | a :: rest => if a == ascii "!" then (condition? files rest).map (!·) else none

/-- Tests a condition. -/
def test (files : Files) (arguments : List Bytes) : Effect :=
  match condition? files arguments with
  | some true => {}
  | some false => { status := 1 }
  | none => { errors := ascii "test: syntax error\n", status := 2 }

/-- The names of the utilities. -/
def names : List String :=
  ["cat", "echo", "env", "false", "head", "printf", "rev", "seq", "sh", "sleep", "sort", "tac",
    "tail", "tee", "test", "tr", "true", "uniq", "wc"]

/-- Runs a utility that a name names. -/
def run? (name : Bytes) (files : Files) (arguments : List Bytes) (input : Bytes) : Option Effect :=
  let filters : List (String × (Bytes → Bytes)) :=
    [("cat", id), ("rev", reverseLines), ("tac", fun s => (linesOf s).reverse.flatten),
      ("uniq", fun s => (dropRepeated (linesOf s)).flatten)]
  let translators : List (String × (List Bytes → Bytes → Effect)) :=
    [("tr", Translate.run), ("head", head), ("tail", tail), ("sort", sortLines), ("wc", count),
      ("tee", fun _ input => { output := input })]
  let others : List (String × (List Bytes → Effect)) :=
    [("true", fun _ => {}), ("false", fun _ => { status := 1 }), ("sleep", sleep),
      ("echo", fun a => { output := Printf.plainEcho a }), ("printf", Printf.run []),
      ("seq", sequence), ("test", test files)]
  let named {α : Type} (e : String × α) := ascii e.1 == name
  match filters.find? named, translators.find? named, others.find? named with
  | some (who, f), _, _ => some (filter who f files arguments input)
  | _, some (_, f), _ => some (f arguments input)
  | _, _, some (_, f) => some (f arguments)
  | none, none, none => none

end Utility

end Backtick.Shell
