import Backtick.Disk.Error
import Backtick.Path
import Backtick.Text.Utf8

/-!
# Disks

A disk is a tree of directories, files and symbolic links. Every entry stands at a place, which is
the list of names that lead to it from the root; files and directories have permission bits, of
which those of the owner count.

A path is resolved from the directory that is the home of the run: name by name, through symbolic
links, of which no more than forty are followed. `get?_put` and `get?_erase` say what writing and
removing an entry does to every place.
-/

namespace Backtick

/-- The names that lead to an entry from the root. -/
abbrev Place := List Text

/-- What stands at a place. -/
inductive Entry where
  | file (mode : Nat) (content : Bytes)
  | directory (mode : Nat)
  | link (target : Text)
deriving DecidableEq

/-- A disk. -/
structure Disk where
  entries : List (Place × Entry) := []
  /-- the directory from which paths lead -/
  home : Place := []
  /-- the permission bits that new entries do not get -/
  umask : Nat := 0o022
deriving DecidableEq

/-- The bit that lets the owner read. -/
def readBit : Nat := 0o400

/-- The bit that lets the owner write. -/
def writeBit : Nat := 0o200

/-- The bit that lets the owner pass a directory or run a file. -/
def passBit : Nat := 0o100

/-- All of some permission bits are set. -/
def permits (mode bits : Nat) : Bool := mode &&& bits == bits

namespace Disk

/-- The entry at a place in a list of entries. -/
def find? (entries : List (Place × Entry)) (p : Place) : Option Entry :=
  match entries with
  | [] => none
  | (q, e) :: rest => if q = p then some e else find? rest p

/-- The entry at a place. The root is always there. -/
def get? (d : Disk) (p : Place) : Option Entry :=
  match find? d.entries p with
  | some e => some e
  | none => if p.isEmpty then some (.directory 0o755) else none

/-- Entries with another entry at a place. -/
def replace (entries : List (Place × Entry)) (p : Place) (e : Entry) : List (Place × Entry) :=
  match entries with
  | [] => [(p, e)]
  | (q, e') :: rest => if q = p then (q, e) :: rest else (q, e') :: replace rest p e

/-- The disk with another entry at a place. -/
def put (d : Disk) (p : Place) (e : Entry) : Disk := { d with entries := replace d.entries p e }

/-- The disk without an entry. -/
def erase (d : Disk) (p : Place) : Disk := { d with entries := d.entries.filter (·.1 ≠ p) }

theorem find?_replace (entries : List (Place × Entry)) (p q : Place) (e : Entry) :
    find? (replace entries p e) q = if p = q then some e else find? entries q := by
  induction entries with
  | nil => rfl
  | cons head rest ih =>
    obtain ⟨r, e'⟩ := head
    by_cases h : r = p
    · subst h
      by_cases hq : r = q <;> simp [replace, find?, hq]
    · rw [replace, if_neg h, find?, find?, ih]
      by_cases hr : r = q
      · rw [if_pos hr, if_pos hr, if_neg (fun h' => h (hr.trans h'.symm))]
      · rw [if_neg hr, if_neg hr]

theorem find?_filter (entries : List (Place × Entry)) (p q : Place) :
    find? (entries.filter (·.1 ≠ p)) q = if p = q then none else find? entries q := by
  induction entries with
  | nil => simp [find?]
  | cons head rest ih =>
    obtain ⟨r, e⟩ := head
    by_cases h : r = p
    · subst h
      rw [List.filter_cons_of_neg (by simp), ih, find?]
      by_cases hq : r = q
      · rw [if_pos hq, if_pos hq]
      · rw [if_neg hq, if_neg hq, if_neg hq]
    · rw [List.filter_cons_of_pos (by simpa using h), find?, ih, find?]
      by_cases hr : r = q
      · rw [if_pos hr, if_pos hr, if_neg (fun h' => h (hr.trans h'.symm))]
      · rw [if_neg hr, if_neg hr]

/-- An entry that is put stands at its place, and no other place is affected. -/
theorem get?_put (d : Disk) (p q : Place) (e : Entry) :
    (d.put p e).get? q = if p = q then some e else d.get? q := by
  simp only [get?, put, find?_replace]
  by_cases h : p = q
  · rw [if_pos h, if_pos h]
  · rw [if_neg h, if_neg h]

/-- An entry that is removed is gone, unless it is the root, and no other place is affected. -/
theorem get?_erase (d : Disk) (p q : Place) (hp : p ≠ []) :
    (d.erase p).get? q = if p = q then none else d.get? q := by
  simp only [get?, erase, find?_filter]
  by_cases h : p = q
  · subst h
    rw [if_pos rfl, if_pos rfl]
    cases p with
    | nil => exact absurd rfl hp
    | cons name rest => rfl
  · rw [if_neg h, if_neg h]

/-! ## Paths on a disk -/

/-- What a path leads to: an entry, or a place in a directory where none is. -/
inductive Target where
  | found (place : Place) (entry : Entry)
  | absent (place : Place)
deriving DecidableEq

/-- The name of the directory above. -/
def above : Text := [Path.dot, Path.dot]

/-- The most links that are followed. -/
def mostLinks : Nat := 40

/-- The most bytes of a name. -/
def longestName : Nat := 255

/-- The most bytes of a path. -/
def longestPath : Nat := 4095

/-- The number of bytes of a name. -/
def nameSize (name : Text) : Nat := (Utf8.encodeLossy name).length

/-- Follows names from a place to the end, or to a link that has to be followed, from where `jump`
goes on with the names that the link stands for. A link at the end is followed only when `follow`
says so. -/
def walkTo (d : Disk) (follow : Bool) (jump : Place → List Text → Except SystemCause Target)
    (here : Place) (names : List Text) : Except SystemCause Target :=
  match d.get? here with
  | none => .error .noEntry
  | some (.file mode content) =>
    if names.isEmpty then .ok (.found here (.file mode content)) else .error .notDirectory
  | some (.link target) =>
    if names.isEmpty then .ok (.found here (.link target)) else .error .notDirectory
  | some (.directory mode) =>
    match names with
    | [] => .ok (.found here (.directory mode))
    | name :: rest =>
      if !permits mode passBit then .error .accessDenied
      else if name = above then d.walkTo follow jump here.dropLast rest
      else if longestName < nameSize name then .error .nameTooLong
      else
        match d.get? (here ++ [name]) with
        | none => if rest.isEmpty then .ok (.absent (here ++ [name])) else .error .noEntry
        | some (.link target) =>
          if rest.isEmpty && !follow then .ok (.found (here ++ [name]) (.link target))
          else
            let t := Path.ofText target
            jump (if t.root.isEmpty then here else []) (t.parts ++ rest)
        | some _ => d.walkTo follow jump (here ++ [name]) rest

/-- Follows names from a place, through so many links at most. -/
def walk (d : Disk) (follow : Bool) : Nat → Place → List Text → Except SystemCause Target
  | 0 => d.walkTo follow fun _ _ => .error .linkLoop
  | links + 1 => d.walkTo follow (d.walk follow links)

/-- What a path leads to. -/
def locate (d : Disk) (follow : Bool) (p : Path) : Except SystemCause Target :=
  if longestPath < nameSize p.toText then .error .nameTooLong
  else d.walk follow mostLinks (if p.root.isEmpty then d.home else []) p.parts

/-- A text that can be given to the system as a path. Surrogates that stand for single bytes can. -/
def checkPath (t : Text) : Except Fault Unit :=
  let plain := t.map fun c => if 0xDC80 ≤ c.val && c.val ≤ 0xDCFF then CodePoint.ofChar '?' else c
  match Utf8.encode plain with
  | .error f => .error (.encoding f)
  | .ok _ =>
    if plain.any (·.val == 0) then .error (.badValue "embedded null byte") else .ok ()

/-- What a path leads to through all links, or why it leads nowhere. -/
def resolve (d : Disk) (p : Path) : Except Fault Target := do
  checkPath p.toText
  (d.locate true p).mapError fun cause => .system ⟨cause, [p.toText]⟩

/-- The refusal of an operation on a path. -/
def refuse {α : Type} (p : Path) (cause : SystemCause) : Except Fault α :=
  .error (.system ⟨cause, [p.toText]⟩)

/-! ## Reading -/

/-- The bytes of a file. -/
def read (d : Disk) (p : Path) : Except Fault Bytes := do
  match ← d.resolve p with
  | .found _ (.file mode content) =>
    if permits mode readBit then return content else refuse p .accessDenied
  | .found _ (.directory mode) =>
    refuse p (if permits mode readBit then .isDirectory else .accessDenied)
  | .found _ (.link _) => refuse p .linkLoop
  | .absent _ => refuse p .noEntry

/-- The permission bits of an entry; those of a link do not count. -/
def modeOf : Entry → Nat
  | .file mode _ | .directory mode => mode
  | .link _ => 0o777

/-- The causes that mean that nothing is there. -/
def meansAbsent (cause : SystemCause) : Bool :=
  cause = .noEntry || cause = .notDirectory || cause = .linkLoop

/-- A path leads to an entry. Only the want of permission keeps that from being known, or a name
that no entry can have. -/
def has (d : Disk) (p : Path) : Except Fault Bool :=
  match checkPath p.toText with
  | .error _ => .ok false
  | .ok _ =>
    match d.locate true p with
    | .ok (.found ..) => .ok true
    | .ok (.absent _) => .ok false
    | .error cause => if meansAbsent cause then .ok false else refuse p cause

end Disk

end Backtick
