import Backtick.Fault
import Backtick.Region

/-!
# Splicing

Results replace the regions of a text in one forward pass. The pass refuses regions that are not
numbered 0, 1, 2, … in order, that overlap or exceed the text, and results that do not fit the
regions one to one.

`replaceBackwards` makes the same text by replacing one region after the other from the last to
the first, where no replacement moves what is still to be replaced.
-/

namespace Backtick

/-- The text that replaces the region with the same number. -/
structure Replacement where
  index : Int
  text : Text
deriving DecidableEq

/-- Why regions and results do not line up. -/
inductive SpliceFault where
  | countMismatch (regions results : Nat)
  | outOfSequence (index : Int) (expected : Nat)
  | badRange (r : Region)
  | missingResult (index : Int)
deriving DecidableEq

/-- A splice fault as an error of the run. -/
def SpliceFault.toError : SpliceFault → LintError
  | .countMismatch regions results =>
    .splice "Result count does not match region count"
      [field "regions" (.int regions), field "results" (.int results)]
  | .outOfSequence index expected =>
    .splice "Region index out of sequence"
      [field "index" (.int index), field "expected" (.int expected)]
  | .badRange r =>
    .splice "Region overlaps or exceeds the text"
      [field "index" (.int r.index), field "start" (.int r.start), field "end" (.int r.stop)]
  | .missingResult index =>
    .splice "Missing result for region" [field "index" (.int index)]

/-- The last of the results with this number. -/
def resultFor? (results : List Replacement) (index : Int) : Option Text :=
  (results.reverse.find? (·.index == index)).map (·.text)

/-- The text from `done` on, with the regions from `position` on replaced. -/
def spliceFrom (text : Text) (results : List Replacement) :
    (position : Nat) → (done : Int) → List Region → Except SpliceFault Text
  | _, done, [] => .ok (Text.slice text done text.length)
  | position, done, r :: rest =>
    if r.index ≠ position then .error (.outOfSequence r.index position)
    else if r.start < done ∨ r.stop < r.start ∨ text.length < r.stop then .error (.badRange r)
    else
      match resultFor? results r.index with
      | none => .error (.missingResult r.index)
      | some new =>
        (spliceFrom text results (position + 1) r.stop rest).map fun tail =>
          Text.slice text done r.start ++ new ++ tail

/-- The text with each region replaced by the result with its number. -/
def splice (text : Text) (regions : List Region) (results : List Replacement) :
    Except SpliceFault Text :=
  if results.length ≠ regions.length then
    .error (.countMismatch regions.length results.length)
  else spliceFrom text results 0 0 regions

/-- The text with regions and their new texts, given in order, replaced from the last to the
first. -/
def replaceBackwards (text : Text) : List (Region × Text) → Text
  | [] => text
  | (r, new) :: rest =>
    let t := replaceBackwards text rest
    Text.slice t 0 r.start ++ new ++ Text.slice t r.stop t.length

end Backtick
