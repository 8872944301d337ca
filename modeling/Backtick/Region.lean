import Backtick.Text.Utf8

/-!
# Regions and offsets

A region is a numbered range of characters of a text. Trees count bytes, so their offsets have to
be converted: `OffsetReader` converts offsets one after the other and goes on from where the
last conversion ended, or from the beginning when the next offset lies in front of that.
-/

namespace Backtick

/-- The characters from `start` up to, but not including, `stop`. -/
structure Region where
  index : Int
  start : Int
  stop : Int
deriving DecidableEq

namespace Region

/-- The characters of a text that lie in a region. -/
def slice (r : Region) (t : Text) : Text := Text.slice t r.start r.stop

/-- The number of characters between the ends of a region. -/
def length (r : Region) : Int := r.stop - r.start

end Region

/-- Where the last conversion of a byte offset ended, in bytes and in characters. -/
structure OffsetReader where
  byte : Int := 0
  char : Nat := 0
deriving DecidableEq

namespace OffsetReader

/-- The reader from which the next conversion goes on: itself, or a fresh one when the offset
lies in front of it. -/
def rewound (r : OffsetReader) (offset : Int) : OffsetReader :=
  if offset < r.byte then {} else r

/-- The character offset of a byte offset, and the reader afterwards. A reader that meets bytes
that are no text stays where it was. -/
def convert (data : Bytes) (r : OffsetReader) (offset : Int) :
    Except Utf8.DecodeFault Nat × OffsetReader :=
  let r := r.rewound offset
  match Utf8.decode (Text.slice data r.byte offset) with
  | .ok t => (.ok (r.char + t.length), { byte := offset, char := r.char + t.length })
  | .error f => (.error f, r)

/-- The results of converting offsets one after the other. -/
def convertAll (data : Bytes) : OffsetReader → List Int → List (Except Utf8.DecodeFault Nat)
  | _, [] => []
  | r, offset :: rest =>
    let (result, r) := r.convert data offset
    result :: convertAll data r rest

end OffsetReader

/-- The character offset of a byte offset, counted from the beginning: the number of code points
of the bytes in front of it. -/
def charOffset (data : Bytes) (offset : Nat) : Except Utf8.DecodeFault Nat :=
  (Utf8.decode (data.take offset)).map List.length

end Backtick
