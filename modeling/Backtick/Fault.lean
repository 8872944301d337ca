import Backtick.Error
import Backtick.Disk.Error
import Backtick.Settings.Issue
import Backtick.Text.Utf8

/-!
# Faults

Everything that can stop an operation. Errors of a lint run are one case; the others come from
below it (text that cannot be encoded, a refused file operation, a configuration that does not
fit) and are turned into errors of the run by the stage that knows what was being done.
-/

namespace Backtick

/-- Why an operation stopped. -/
inductive Fault where
  /-- an error of the lint run -/
  | lint (e : LintError)
  /-- a formatter refused a text -/
  | formatter (message : Text)
  /-- a text has no UTF-8 form -/
  | encoding (f : Utf8.EncodeFault)
  /-- bytes are not UTF-8 -/
  | decoding (f : Utf8.DecodeFault)
  /-- the system refused an operation -/
  | system (e : SystemError)
  /-- the configuration does not fit the settings -/
  | settings (issues : List Issue)
  /-- a configuration file is no valid document -/
  | document
  /-- an argument has a value that the operation does not accept -/
  | badValue (message : Text)
  /-- an argument has a type that the operation does not accept -/
  | badType
  /-- a value lacks what the operation needs of it -/
  | missingMember
  /-- a position lies outside a sequence -/
  | badPosition
  /-- a name is not known -/
  | unknownName
  /-- a number is too large for what it is used for -/
  | oversized
  /-- an operation is declared but has no meaning -/
  | unsupported
  /-- an operation would never end -/
  | endless

/-- The message of a fault, where it has one. -/
def Fault.message? : Fault → Option Text
  | .lint e => some e.message
  | .formatter m => some m
  | .encoding f => some f.message
  | .decoding f => some f.message
  | .system e => some e.message
  | .badValue m => some m
  | .unsupported => some []
  | _ => none

end Backtick
