import Backtick.Log
import Backtick.Text.Printable

/-!
# Log lines

A record is written as one line: as a JSON object for machines, or as plain words for a console. In
JSON every character stands for itself but for quotes, backslashes and control characters; numbers
are written so that they read back.
-/

namespace Backtick

/-! ## JSON -/

namespace Json

/-- A quote. -/
def quote : CodePoint := .ofNat 0x22

/-- The escapes with a letter of their own. -/
def letters : List (Nat × Char) :=
  [(0x08, 'b'), (0x09, 't'), (0x0A, 'n'), (0x0C, 'f'), (0x0D, 'r'), (0x22, Char.ofNat 0x22),
    (0x5C, Char.ofNat 0x5C)]

/-- A code point in a JSON string. -/
def escape (c : CodePoint) : Text :=
  match letters.find? (·.1 == c.val) with
  | some (_, letter) => [.ofNat 0x5C, .ofChar letter]
  | none => if c.val < 0x20 then "\\u" ++ Utf8.hexDigits 4 c.val else [c]

/-- A JSON string. -/
def string (t : Text) : Text := [quote] ++ t.flatMap escape ++ [quote]

/-- A number in JSON, with names for those that JSON lacks. -/
def number : Double → Text
  | .infinite negative => if negative then "-Infinity" else "Infinity"
  | .nan => "NaN"
  | d => d.text

/-- What is shown of bytes. -/
def bytes (b : Bytes) : Text :=
  "b'" ++ b.flatMap (fun x =>
    if 0x20 ≤ x.toNat && x.toNat < 0x7F && x.toNat ≠ 0x27 && x.toNat ≠ 0x5C then
      [CodePoint.ofNat x.toNat]
    else "\\x" ++ Utf8.hexDigits 2 x.toNat) ++ "'"

/-- A scalar in JSON. -/
def scalar : Scalar → Text
  | .null => "null"
  | .bool b => if b then "true" else "false"
  | .int i => Text.ofInt i
  | .float d => number d
  | .text t => string t
  | .bytes b => string (bytes b)
  | .date iso => string iso

/-- A key of an object, which is a string in any case. -/
def key : Scalar → Text
  | .text t => string t
  | s => string (scalar s)

/-- Parts of an array or an object. -/
def joined (parts : List Text) : Text := Text.join ", " parts

mutual

/-- A value in JSON. A set is shown as a list. -/
def value : Value → Text
  | .scalar s => scalar s
  | .list items => "[" ++ joined (values items) ++ "]"
  | .map entries => [CodePoint.ofNat 0x7B] ++ joined (members entries) ++ [CodePoint.ofNat 0x7D]
  | .set items => "[" ++ joined (items.map scalar) ++ "]"

/-- Several values in JSON. -/
def values : List Value → List Text
  | [] => []
  | v :: rest => value v :: values rest

/-- The members of an object. -/
def members : Entries → List Text
  | [] => []
  | (k, v) :: rest => (key k ++ ": " ++ value v) :: members rest

end

end Json

/-! ## Lines -/

/-- How records are written. -/
inductive LogFormat where
  | console
  | json
deriving DecidableEq

namespace LogRecord

/-- A line feed. -/
def lineEnd : Text := [.ofNat 0x0A]

/-- A record as a JSON object, with the time at which it was written. -/
def jsonLine (time : Text) (r : LogRecord) : Text :=
  Json.value (Fields.value (r.entries.put "timestamp" (.text time))) ++ lineEnd

/-- A field as a console shows it: a text without blanks as it is, any other value in JSON. -/
def consoleField : Text × Value → Text
  | (name, .text t) => " " ++ name ++ "=" ++ (if t.any (·.val ≤ 0x20) then Json.string t else t)
  | (name, v) => " " ++ name ++ "=" ++ Json.value v

/-- A record for a console, with the time at which it was written. -/
def consoleLine (time : Text) (r : LogRecord) : Text :=
  time ++ " [" ++ r.level.name ++ "] " ++ r.event ++ " [" ++ r.logger ++ "]" ++
    r.fields.flatMap consoleField ++ lineEnd

/-- A record as a line. -/
def line (format : LogFormat) (time : Text) (r : LogRecord) : Text :=
  match format with
  | .console => r.consoleLine time
  | .json => r.jsonLine time

end LogRecord

end Backtick
