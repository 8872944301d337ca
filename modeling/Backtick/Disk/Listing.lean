import Backtick.Disk.Basic

/-!
# Listings

What a directory holds, at any depth, in the order of the paths that lead there from it.
-/

namespace Backtick.Disk

/-- The first of two texts stands in front of the second in the order of code points. -/
def inOrder : Text → Text → Bool
  | [], _ => true
  | _ :: _, [] => false
  | a :: as, b :: bs => if a.val = b.val then inOrder as bs else a.val < b.val

/-- The entries in a directory with the texts of the paths that lead to them from there. -/
def listing (d : Disk) (directory : Place) : List (Text × Place × Entry) :=
  let inside := d.entries.filter fun e => directory.isPrefixOf e.1 && e.1 ≠ directory
  (inside.map fun (p, e) => (Text.join [Path.slash] (p.drop directory.length), p, e)).mergeSort
    fun a b => inOrder a.1 b.1

/-- A mode in four octal digits. -/
def modeText (mode : Nat) : Text :=
  (Nat.toDigits 8 (0o10000 + mode % 0o10000)).drop 1 |>.map CodePoint.ofChar

end Backtick.Disk
