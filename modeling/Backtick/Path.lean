import Backtick.Fault
import Backtick.Text.LowerCase

/-!
# Paths

A path is a root and its components. The components hold no slash, no empty name and no `.`; a
path with two leading slashes has a root of its own. The last component is the name, and the
suffix of a name is what follows its last dot, the dot included, where the dot is neither the
first nor the last character.
-/

namespace Backtick

/-- A path: its root (nothing, one slash or two) and its components. -/
structure Path where
  root : Text
  parts : List Text
deriving DecidableEq

namespace Path

/-- The slash. -/
def slash : CodePoint := .ofNat 0x2F

/-- The dot. -/
def dot : CodePoint := .ofNat 0x2E

/-- The components of a path text. -/
def components (t : Text) : List Text :=
  (Text.splitOn slash t).filter fun part => !part.isEmpty && part ≠ [dot]

/-- The path that a text names. -/
def ofText (t : Text) : Path :=
  let slashes := (t.takeWhile (· == slash)).length
  let root := if slashes = 2 then [slash, slash] else if slashes = 0 then [] else [slash]
  ⟨root, components t⟩

/-- The text of a path; a path without root and components is the dot. -/
def toText (p : Path) : Text :=
  let t := p.root ++ Text.join [slash] p.parts
  if t.isEmpty then [dot] else t

/-- The last component. -/
def name (p : Path) : Text := p.parts.getLast?.getD []

/-- The path without its last component. -/
def parent (p : Path) : Path := { p with parts := p.parts.dropLast }

/-- A path inside this one. -/
def join (p : Path) (t : Text) : Path :=
  let q := ofText t
  if q.root.isEmpty then { p with parts := p.parts ++ q.parts } else q

/-- A name cut in front of its suffix. -/
def splitSuffix (name : Text) : Text × Text :=
  let after := (name.reverse.takeWhile (· ≠ dot)).reverse
  let before := name.take (name.length - after.length - 1)
  if after.isEmpty || before.isEmpty || after.length = name.length then (name, [])
  else (before, dot :: after)

/-- Stem and suffix make up the name. -/
theorem splitSuffix_append (name : Text) :
    (splitSuffix name).1 ++ (splitSuffix name).2 = name := by
  unfold splitSuffix
  extract_lets after before
  split
  · simp
  · rename_i h
    simp only [Bool.or_eq_true, decide_eq_true_eq, not_or] at h
    have hsplit : name.reverse = after.reverse ++ name.reverse.dropWhile (· ≠ dot) := by
      simp only [after, List.reverse_reverse]
      exact (List.takeWhile_append_dropWhile ..).symm
    have hne : name.reverse.dropWhile (· ≠ dot) ≠ [] := by
      intro hnil
      rw [hnil, List.append_nil] at hsplit
      exact h.2 (by simpa using (congrArg List.length hsplit).symm)
    obtain ⟨c, rest, hc⟩ := List.exists_cons_of_ne_nil hne
    have hdot : c = dot := by
      have := List.head?_dropWhile_not (· ≠ dot) name.reverse
      rw [hc] at this
      simpa using this
    have hname : name = rest.reverse ++ dot :: after := by
      have := congrArg List.reverse hsplit
      rw [hc, hdot] at this
      simpa using this
    have hbefore : before = rest.reverse := by
      have hlen : name.length - after.length - 1 = rest.reverse.length := by
        rw [hname]
        simp only [List.length_append, List.length_cons, List.length_reverse]
        omega
      simp only [before, hlen]
      conv => lhs; rw [hname]
      simp
    rw [hbefore]
    exact hname.symm

/-- The suffix of the name, with its dot. -/
def suffix (p : Path) : Text := (splitSuffix p.name).2

/-- The name without its suffix. -/
def stem (p : Path) : Text := (splitSuffix p.name).1

/-- How a path is shown in messages. -/
def shown (p : Path) : Text := "PosixPath(" ++ Text.quoted p.toText ++ ")"

/-- The path with another name. A name must be one component without a slash at its end. -/
def withName (p : Path) (name : Text) : Except Fault Path :=
  if p.name.isEmpty then .error (.badValue (p.shown ++ " has an empty name"))
  else if name.isEmpty || name.getLast? = some slash || name.head? = some slash ||
      (components name).length ≠ 1 then
    .error (.badValue ("Invalid name " ++ Text.quoted name))
  else .ok { p with parts := p.parts.dropLast ++ [name] }

end Path

/-- The grammars by file suffix. -/
def grammarSuffixes : List (String × String) :=
  [(".ts", "typescript"), (".mts", "typescript"), (".cts", "typescript"), (".tsx", "tsx"),
    (".js", "javascript"), (".mjs", "javascript"), (".cjs", "javascript"), (".jsx", "javascript")]

/-- The grammar for a file: by its suffix, whatever its case, and otherwise the default. -/
def languageForPath (p : Path) (default : Text) : Text :=
  let suffix := Text.lower p.suffix
  match grammarSuffixes.find? fun (s, _) => Text.ofString s == suffix with
  | some (_, grammar) => grammar
  | none => default

/-- Where the output goes when nothing else is said: beside the input, with a text put in front of
the suffix of its name. -/
def defaultOutputPath (input : Path) (insert : Text) : Except Fault Path :=
  input.withName (input.stem ++ insert ++ input.suffix)

end Backtick
