import Backtick.Text.Printable

/-!
# Errors of the system

What the operating system answers when an operation on files or programs fails: a cause with its
number and wording, and the path or paths that it concerns.
-/

namespace Backtick

/-- Why the system refused an operation. -/
inductive SystemCause where
  | notPermitted
  | noEntry
  | argumentsTooLong
  | badFormat
  | accessDenied
  | busy
  | exists
  | notDirectory
  | isDirectory
  | invalidArgument
  | nameTooLong
  | notEmpty
  | linkLoop
deriving DecidableEq

namespace SystemCause

/-- The number of a cause. -/
def number : SystemCause → Nat
  | .notPermitted => 1
  | .noEntry => 2
  | .argumentsTooLong => 7
  | .badFormat => 8
  | .accessDenied => 13
  | .busy => 16
  | .exists => 17
  | .notDirectory => 20
  | .isDirectory => 21
  | .invalidArgument => 22
  | .nameTooLong => 36
  | .notEmpty => 39
  | .linkLoop => 40

/-- The wording of a cause. -/
def wording : SystemCause → Text
  | .notPermitted => "Operation not permitted"
  | .noEntry => "No such file or directory"
  | .argumentsTooLong => "Argument list too long"
  | .badFormat => "Exec format error"
  | .accessDenied => "Permission denied"
  | .busy => "Device or resource busy"
  | .exists => "File exists"
  | .notDirectory => "Not a directory"
  | .isDirectory => "Is a directory"
  | .invalidArgument => "Invalid argument"
  | .nameTooLong => "File name too long"
  | .notEmpty => "Directory not empty"
  | .linkLoop => "Too many levels of symbolic links"

end SystemCause

/-- A refused operation and the paths that it concerns. -/
structure SystemError where
  cause : SystemCause
  paths : List Text
deriving DecidableEq

/-- The message of a refused operation: number, wording and the quoted paths. -/
def SystemError.message (e : SystemError) : Text :=
  let place : Text :=
    if e.paths.isEmpty then [] else ": " ++ Text.join " -> " (e.paths.map Text.quoted)
  "[Errno " ++ Text.ofNat e.cause.number ++ "] " ++ e.cause.wording ++ place

end Backtick
