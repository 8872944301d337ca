import Backtick.Disk.Basic
import Backtick.Process
import Backtick.Shell.Run

/-!
# The programs of a disk

Besides the shell and its utilities, which are found by name, the files of a disk that may be run
are programs. They are found by a path, and their first line says what runs them.

A process that is killed is over at once here: that it can be slow to end, or leave children behind
that keep its output open, is left out.
-/

namespace Backtick

namespace Shell

/-- The time that starting and ending a process takes. -/
def startTime : Rat := 1 / 200

/-- A process before its first step. -/
def Machine.fresh (name input : Bytes) : Machine :=
  { stores := [input, [], []], channels := [(0, .store 0), (1, .store 1), (2, .store 2)], name,
    parameters := [] }

/-- How a process ran. -/
def Machine.execution (m : Machine) : Execution :=
  { takes := if m.ending = some .never then .endless else .seconds (m.clock + startTime)
    status := match m.ending with
      | some (.killed n) => -(n : Int)
      | _ => m.status
    output := m.store 1
    errors := m.store 2 }

/-- The directory of the programs that have names. -/
def programDirectory : Text := "/usr/bin/"

/-- The files of a disk as scripts read them. -/
def filesOf (d : Disk) : Files := fun name =>
  match Utf8.decode name with
  | .ok t => ((d.read (Path.ofText t)).toOption)
  | .error _ => none

/-- The most bytes of an argument. -/
def longestArgument : Nat := 131071

/-- The bytes of an argument. -/
def argumentBytes (t : Text) : Bytes := Utf8.encodeLossy t

/-- The program that a word names by itself. -/
def named? (word : Text) : Option Bytes :=
  let name := argumentBytes word
  if Utility.names.any (fun n => ascii n == name) then some name else none

/-- A file that may be run. -/
def isProgram (d : Disk) (t : Text) : Bool :=
  match d.resolve (Path.ofText t) with
  | .ok (.found _ (.file mode _)) => mode &&& 0o111 != 0
  | _ => false

/-- The file that a word names as a program. -/
def which (d : Disk) (word : Text) : Option Text :=
  if word.contains (.ofChar '/') then
    if isProgram d word || (named? (word.drop programDirectory.length)).isSome &&
        programDirectory.isPrefixOf word then some word
    else none
  else (named? word).map fun _ => programDirectory ++ word

/-- Runs a program that has a name. -/
def runNamed (d : Disk) (name : Bytes) (arguments : List Bytes) (input : Bytes) : Execution :=
  let m := Machine.fresh name input
  let files := filesOf d
  let m :=
    if name == ascii "sh" then runShell files mostSteps arguments m
    else if name == ascii "env" then runWords files mostSteps arguments m
    else (runUtility? files name arguments m).getD m
  m.execution

/-- What the first line of a script says it is run by, and with which argument. -/
def interpreter? (content : Bytes) : Option (Bytes × List Bytes) :=
  if (ascii "#!").isPrefixOf content then
    let l := ((content.drop 2).takeWhile (!isNewline ·)).dropWhile isBlank
    let file := l.takeWhile (!isBlank ·)
    let argument := (l.drop file.length).dropWhile isBlank
    some (file, if argument.isEmpty then [] else [argument])
  else none

/-- The name of the program that a file of the system is. -/
def systemProgram? (file : Bytes) : Option Bytes :=
  let directories := [ascii "/usr/bin/", ascii "/bin/"]
  (directories.find? (·.isPrefixOf file)).bind fun d =>
    let name := file.drop d.length
    if Utility.names.any (fun n => ascii n == name) then some name else none

/-- Starts a program. -/
def start (d : Disk) (file : Text) (arguments : List Text) (input : Bytes) :
    Except Fault Execution := do
  (file :: arguments).forM Disk.checkPath
  let refuse (cause : SystemCause) : Except Fault Execution := .error (.system ⟨cause, [file]⟩)
  let words := arguments.map argumentBytes
  if words.any (longestArgument < ·.length) then refuse .argumentsTooLong
  else
    match systemProgram? (argumentBytes file) with
    | some name => return runNamed d name words input
    | none =>
      match filesOf d (argumentBytes file) with
      | none => refuse .accessDenied
      | some content =>
        match interpreter? content with
        | none => refuse .badFormat
        | some (program, more) =>
          match systemProgram? program with
          | some name => return runNamed d name (more ++ argumentBytes file :: words) input
          | none => refuse .noEntry

end Shell

/-- The programs that a run on a disk finds. -/
def Programs.ofDisk (d : Disk) : Programs := { which := Shell.which d, start := Shell.start d }

end Backtick
