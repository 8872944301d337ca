import Backtick.Disk.Change

/-!
# Writing output

Output is written to a temporary file beside its destination, which then takes the destination's
place in one step. So the destination either keeps its previous state or has the complete text; it
keeps the permission bits that it had, and the temporary file is gone in either case.

Each step may fail: because the disk refuses it, or because of a fault that `Mishaps` gives it,
which stands for whatever else can go wrong.
-/

namespace Backtick

/-- The steps of writing output. -/
inductive OutputStep where
  /-- creating the temporary file -/
  | create
  /-- writing the text to it -/
  | write
  /-- closing it -/
  | close
  /-- looking at the destination -/
  | inspect
  /-- setting its permission bits -/
  | setMode
  /-- putting it in the place of the destination -/
  | replace
deriving DecidableEq

/-- The faults that befall steps from outside. -/
abbrev Mishaps := OutputStep → Option Fault

/-- Nothing goes wrong from outside. -/
def Mishaps.none : Mishaps := fun _ => .none

namespace Disk

/-- A step, unless a fault befalls it. -/
def step {α : Type} (mishaps : Mishaps) (s : OutputStep) (r : Except Fault α) : Except Fault α :=
  match mishaps s with
  | some f => .error f
  | .none => r

/-- The names that a temporary file for a destination can have. -/
def temporaryName (name : Text) (n : Nat) : Text :=
  let digits := Text.ofNat n
  let stamp := List.replicate (8 - digits.length) (CodePoint.ofChar '0') ++ digits
  "." ++ name ++ "." ++ stamp ++ ".tmp"

/-- The first name for a temporary file that is not taken in a directory. -/
def freeName? (d : Disk) (directory : Place) (name : Text) : Option Text :=
  ((List.range (d.entries.length + 1)).map (temporaryName name)).find? fun t =>
    (d.get? (directory ++ [t])).isNone

/-- The path of a temporary file beside a destination. -/
def temporaryPath (p : Path) (name : Text) : Path :=
  { p.parent with parts := p.parent.parts ++ [name] }

/-- Creates an empty temporary file beside a destination and gives its path and its place. The path
is that of the destination with another name. That the system is asked with an absolute path is left
out, which shows in the path that a refusal names and in how long a path may be. -/
def createTemporary (d : Disk) (p : Path) : Except Fault (Path × Place × Disk) := do
  let first := temporaryPath p (temporaryName p.name 0)
  checkPath first.toText
  match d.locate true p.parent with
  | .error cause => refuse first cause
  | .ok (.absent _) => refuse first .noEntry
  | .ok (.found directory _) =>
    match d.freeName? directory p.name with
    | none => refuse first .exists
    | some name =>
      let path := temporaryPath p name
      if !d.isDirectory p.parent then refuse path .notDirectory
      else if longestName < nameSize name || longestPath < nameSize path.toText then
        refuse path .nameTooLong
      else if !d.mayChange directory then refuse path .accessDenied
      else return (path, directory ++ [name], d.put (directory ++ [name]) (.file 0o600 []))

/-- The content of a text file. -/
def contentOf (t : Text) : Except Fault Bytes := (Utf8.encode t).mapError .encoding

/-- The permission bits of what stands at a destination, and those of a new file if nothing does. -/
def destinationMode (d : Disk) (p : Path) : Except Fault Nat := do
  match ← d.resolve p with
  | .found _ e => return modeOf e
  | .absent _ => refuse p .noEntry

/-- The permission bits that the output gets. -/
def outputMode (d : Disk) (mishaps : Mishaps) (p : Path) : Except Fault Nat :=
  match step mishaps .inspect (d.destinationMode p) with
  | .ok mode => .ok mode
  | .error f => if isNoEntry f then .ok (d.newMode 0o666) else .error f

/-- Puts the entry at a place into the place of a destination beside it. -/
def replaceEntry (d : Disk) (temporary : Path) (place : Place) (p : Path) (e : Entry) :
    Except Fault Disk :=
  let refusal (cause : SystemCause) : Except Fault Disk :=
    .error (.system ⟨cause, [temporary.toText, p.toText]⟩)
  if p.name.isEmpty || p.name = above then refusal .busy
  else
    let destination := parentPlace place ++ [p.name]
    match d.get? destination with
    | some (.directory _) => refusal .isDirectory
    | _ => .ok ((d.erase place).put destination e)

/-- Writes a text to the temporary file and closes it. The file is closed also where the text could
not be written, and what goes wrong with closing then comes out instead. -/
def writeContent (mishaps : Mishaps) (t : Text) : Except Fault Bytes :=
  let written := step mishaps .write (contentOf t)
  match step mishaps .close (.ok ()) with
  | .ok () => written
  | .error f => .error f

/-- The steps that follow the creation of the temporary file. -/
def finishOutput (d : Disk) (mishaps : Mishaps) (temporary : Path) (place : Place) (p : Path)
    (t : Text) : Except Fault Disk := do
  let content ← writeContent mishaps t
  let mode ← d.outputMode mishaps p
  step mishaps .setMode (.ok ())
  step mishaps .replace (d.replaceEntry temporary place p (.file mode content))

/-- The fault is a refusal of the system or a text that cannot be encoded. -/
def isOutputFault : Fault → Bool
  | .system _ | .encoding _ => true
  | _ => false

/-- The error of a failed write. Faults of other sorts are not its business. -/
def outputFault (p : Path) (f : Fault) : Fault :=
  if isOutputFault f then .lint (.write p.toText f.message?) else f

/-- Writes a text to a destination: the result, and the disk afterwards. -/
def writeOutput (d : Disk) (mishaps : Mishaps) (p : Path) (t : Text) : Except Fault Unit × Disk :=
  match step mishaps .create (d.createTemporary p) with
  | .error f => (.error (outputFault p f), d)
  | .ok (temporary, place, d') =>
    match d'.finishOutput mishaps temporary place p t with
    | .error f => (.error (outputFault p f), d'.erase place)
    | .ok d'' => (.ok (), d'')

end Disk

end Backtick
