import Backtick.Value

/-!
# Errors of a lint run

Every error that a run reports has a code, a message and structured details. The constructors
of `LintError` are the causes; code, message and details are computed from the cause, so they
always agree.

What is unknown does not appear among the details: no empty reason, no empty language, no missing
line or column.
-/

namespace Backtick

/-- The codes that the command line and the logs report. -/
inductive ErrorCode where
  | inputNotFound
  | parseError
  | transformError
  | transformTimeout
  | spliceError
  | writeError
deriving DecidableEq

namespace ErrorCode

/-- All codes. -/
def all : List ErrorCode :=
  [.inputNotFound, .parseError, .transformError, .transformTimeout, .spliceError, .writeError]

/-- The name of a code in reports. -/
def name : ErrorCode → Text
  | .inputNotFound => "INPUT_NOT_FOUND"
  | .parseError => "PARSE_ERROR"
  | .transformError => "TRANSFORM_ERROR"
  | .transformTimeout => "TRANSFORM_TIMEOUT"
  | .spliceError => "SPLICE_ERROR"
  | .writeError => "WRITE_ERROR"

/-- The code with a name. -/
def ofName? (t : Text) : Option ErrorCode := all.find? (·.name == t)

/-- A code is found again by its name. -/
theorem ofName?_name (c : ErrorCode) : ofName? c.name = some c := by
  cases c <;> decide

end ErrorCode

/-- Why a lint run failed. -/
inductive LintError where
  /-- the source file is missing or cannot be read -/
  | inputNotFound (path : Text) (reason : Option Text)
  /-- the source is not valid, or its grammar is not available -/
  | parse (message : Text) (line column : Option Int) (language : Option Text)
  /-- the formatter failed on a region -/
  | transform (index start stop : Int) (reason : Text)
  /-- the formatter took too long for a region -/
  | timeout (index start stop : Int) (reason : Text)
  /-- regions and results do not line up -/
  | splice (message : Text) (details : Fields)
  /-- the output cannot be written -/
  | write (path : Text) (reason : Option Text)
  /-- an error of which only the code is known -/
  | other (code : ErrorCode) (message : Text) (details : Fields)

namespace LintError

/-- The code of an error. -/
def code : LintError → ErrorCode
  | .inputNotFound .. => .inputNotFound
  | .parse .. => .parseError
  | .transform .. => .transformError
  | .timeout .. => .transformTimeout
  | .splice .. => .spliceError
  | .write .. => .writeError
  | .other code .. => code

/-- How a region is named in messages. -/
def regionLabel (index start stop : Int) : Text :=
  "Region " ++ Text.ofInt index ++ " [" ++ Text.ofInt start ++ ":" ++ Text.ofInt stop ++ "]"

/-- The message of an error. -/
def message : LintError → Text
  | .inputNotFound path _ => "File not found: " ++ path
  | .parse message .. => message
  | .transform index start stop reason
  | .timeout index start stop reason => regionLabel index start stop ++ " failed: " ++ reason
  | .splice message _ => message
  | .write path _ => "Cannot write output: " ++ path
  | .other _ message _ => message

/-- A text under a name, if there is one and it is not empty. -/
def optionalText (name : String) : Option Text → Fields
  | some t => if t.isEmpty then [] else [field name (.text t)]
  | none => []

/-- A whole number under a name, if there is one. -/
def optionalInt (name : String) : Option Int → Fields
  | some i => [field name (.int i)]
  | none => []

/-- The details of an error. -/
def details : LintError → Fields
  | .inputNotFound path reason => field "path" (.text path) :: optionalText "reason" reason
  | .parse _ line column language =>
    optionalInt "line" line ++ optionalInt "column" column ++ optionalText "language" language
  | .transform index start stop reason
  | .timeout index start stop reason =>
    [field "index" (.int index), field "start" (.int start), field "end" (.int stop),
      field "reason" (.text reason)]
  | .splice _ details => details
  | .write path reason => field "path" (.text path) :: optionalText "reason" reason
  | .other _ _ details => details

/-- The error belongs to one region's transform. -/
def isTransform : LintError → Bool
  | .transform .. | .timeout .. => true
  | _ => false

/-- What the logs report of an error: that it is one, its code, its message and, if there are
any, its details. -/
def report (e : LintError) : Fields :=
  [field "ok" (.bool false), field "error_code" (.text e.code.name),
      field "error" (.text e.message)] ++
    (if e.details.isEmpty then [] else [field "details" (Fields.value e.details)])

end LintError

end Backtick
