import Backtick.Text

/-!
# Bytes in base 64

Four letters stand for three bytes. Characters outside of the alphabet do not count, and the
padding ends the bytes as soon as it completes a group.
-/

namespace Backtick.Yaml.Base64

/-- The value of a letter. -/
def value? (c : CodePoint) : Option Nat :=
  let n := c.val
  if 0x41 ≤ n && n ≤ 0x5A then some (n - 0x41)
  else if 0x61 ≤ n && n ≤ 0x7A then some (n - 0x61 + 26)
  else if c.isDigit then some (n - 0x30 + 52)
  else if c.is '+' then some 62
  else if c.is '/' then some 63
  else none

/-- Reads on, behind `count` letters of a group that have the value `group`, and so many paddings.
-/
def go (count group pads : Nat) : Text → Option (List UInt8)
  | [] => if count = 0 then some [] else none
  | c :: rest =>
    if c.is '=' then
      if 2 ≤ count && 4 ≤ count + pads + 1 then some []
      else go count group (if 2 ≤ count then pads + 1 else pads) rest
    else
      match value? c with
      | none => go count group pads rest
      | some v =>
        let group := 64 * group + v
        -- the bits of a group become bytes as soon as there are eight of them
        match count with
        | 0 => go 1 group 0 rest
        | 1 => (go 2 (group % 16) 0 rest).map (UInt8.ofNat (group / 16) :: ·)
        | 2 => (go 3 (group % 4) 0 rest).map (UInt8.ofNat (group / 4) :: ·)
        | _ => (go 0 0 0 rest).map (UInt8.ofNat group :: ·)

/-- The bytes that a text stands for, unless a group lacks letters. -/
def decode? (t : Text) : Option (List UInt8) := go 0 0 0 t

end Backtick.Yaml.Base64
