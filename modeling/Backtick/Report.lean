import Backtick.Number
import Backtick.Path
import Backtick.Region

/-!
# Documents and reports

A document is a text with its marked regions and, once they are formatted, the output. A report
says what was done with a file.
-/

namespace Backtick

/-- A text, its regions and its output. -/
structure Document where
  text : Text
  regions : List Region := []
  output : Option Text := none

/-- The output differs from the text. -/
def Document.changed (d : Document) : Bool :=
  match d.output with
  | some output => output != d.text
  | none => false

/-- What was done with a file. -/
structure LintReport where
  input : Path
  output : Option Path
  regions : Int
  changed : Bool
  /-- the milliseconds that it took -/
  elapsed : Number

/-- All that a report says, under names. -/
def LintReport.fields (r : LintReport) : Fields :=
  [field "ok" (.bool true), field "input_path" (.text r.input.toText),
    field "output_path" ((r.output.map fun p => .text p.toText).getD .null),
    field "regions" (.int r.regions), field "changed" (.bool r.changed),
    field "elapsed_ms" r.elapsed.roundTenth.value]

end Backtick
