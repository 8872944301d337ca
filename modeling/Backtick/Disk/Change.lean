import Backtick.Disk.Basic

/-!
# Changing a disk

Creating, writing, linking and removing entries. Whoever changes a directory needs the right to
write to it and to pass it; what is refused leaves the disk as it is.
-/

namespace Backtick.Disk

/-- Permission bits for a new entry, without those that the disk withholds. -/
def newMode (d : Disk) (wanted : Nat) : Nat := wanted ^^^ (wanted &&& d.umask)

/-- The directory that a place is in. -/
def parentPlace (p : Place) : Place := p.dropLast

/-- Entries may be created and removed in the directory at a place. -/
def mayChange (d : Disk) (p : Place) : Bool :=
  match d.get? p with
  | some (.directory mode) => permits mode (writeBit ||| passBit)
  | _ => false

/-- What a path leads to, where a link at its end is not followed. -/
def resolveEntry (d : Disk) (p : Path) : Except Fault Target := do
  checkPath p.toText
  (d.locate false p).mapError fun cause => .system ⟨cause, [p.toText]⟩

/-- Creates an entry at a path where none is. -/
def create (d : Disk) (p : Path) (e : Entry) : Except Fault Disk := do
  match ← d.resolveEntry p with
  | .found .. => refuse p .exists
  | .absent place =>
    if d.mayChange (parentPlace place) then return d.put place e else refuse p .accessDenied

/-- Creates a directory. -/
def makeDirectory (d : Disk) (p : Path) : Except Fault Disk :=
  d.create p (.directory (d.newMode 0o777))

/-- The path leads to a directory. -/
def isDirectory (d : Disk) (p : Path) : Bool :=
  match d.resolve p with
  | .ok (.found _ (.directory _)) => true
  | _ => false

/-- The fault is the want of an entry. -/
def isNoEntry : Fault → Bool
  | .system e => e.cause = .noEntry
  | _ => false

/-- Creates a directory with those that lead to it, as far as they are missing: so many of them at
most. -/
def makeDirectoriesWithin (d : Disk) (p : Path) : Nat → Except Fault Disk
  | 0 => d.makeDirectory p
  | depth + 1 =>
    match d.makeDirectory p with
    | .ok d' => .ok d'
    | .error f =>
      if isNoEntry f then
        match makeDirectoriesWithin d p.parent depth with
        | .error f => .error f
        | .ok d' => d'.makeDirectory p
      else if d.isDirectory p then .ok d
      else .error f

/-- Creates a directory with those that lead to it, as far as they are missing. -/
def makeDirectories (d : Disk) (p : Path) : Except Fault Disk :=
  d.makeDirectoriesWithin p (p.parts.length + 1)

/-- Writes a file: an existing one keeps its permission bits, and `change` gives its new content. -/
def writeWith (d : Disk) (p : Path) (change : Bytes → Bytes) : Except Fault Disk := do
  match ← d.resolve p with
  | .found place (.file mode content) =>
    if permits mode writeBit then return d.put place (.file mode (change content))
    else refuse p .accessDenied
  | .found .. => refuse p .isDirectory
  | .absent place =>
    if d.mayChange (parentPlace place) then
      return d.put place (.file (d.newMode 0o666) (change []))
    else refuse p .accessDenied

/-- Writes a file, over what it held. -/
def write (d : Disk) (p : Path) (content : Bytes) : Except Fault Disk :=
  d.writeWith p fun _ => content

/-- Writes behind what a file holds. -/
def append (d : Disk) (p : Path) (content : Bytes) : Except Fault Disk :=
  d.writeWith p (· ++ content)

/-- Creates a symbolic link. -/
def makeLink (d : Disk) (p : Path) (target : Text) : Except Fault Disk :=
  d.create p (.link target)

/-- Removes a file, a link or an empty directory. -/
def remove (d : Disk) (p : Path) : Except Fault Disk := do
  match ← d.resolveEntry p with
  | .absent _ => refuse p .noEntry
  | .found place e =>
    let isInside := fun (entry : Place × Entry) => entry.1 ≠ place && place.isPrefixOf entry.1
    if place.isEmpty then refuse p .busy
    else if !d.mayChange (parentPlace place) then refuse p .accessDenied
    else
      match e with
      | .directory _ => if d.entries.any isInside then refuse p .notEmpty else return d.erase place
      | _ => return d.erase place

/-- The entry with other permission bits. -/
def withMode (mode : Nat) : Entry → Entry
  | .file _ content => .file mode content
  | .directory _ => .directory mode
  | .link target => .link target

/-- Sets the permission bits of an entry. -/
def setMode (d : Disk) (p : Path) (mode : Nat) : Except Fault Disk := do
  match ← d.resolve p with
  | .found place e => return d.put place (withMode mode e)
  | .absent _ => refuse p .noEntry

end Backtick.Disk
