import Backtick.Text

/-!
# UTF-8

Encoding fails on surrogates only. Decoding fails at the first sequence that is not
well-formed, and the fault says which bytes are to blame: a byte that can start no sequence,
the longest well-formed beginning of a sequence that a wrong byte breaks off, or what is left
when the data ends inside a sequence.

## Termination

`decodeFrom` consumes at least the byte that it has looked at, so the rest is shorter.
-/

namespace Backtick

/-- A byte string. -/
abbrev Bytes := List UInt8

namespace Utf8

/-! ## Encoding -/

/-- The bytes of one code point; surrogates have none. -/
def encodeCodePoint (c : CodePoint) : Option Bytes :=
  let n := c.val
  let tail (shift : Nat) : UInt8 := UInt8.ofNat (0x80 + (n >>> shift) % 64)
  if n < 0x80 then some [UInt8.ofNat n]
  else if n < 0x800 then some [UInt8.ofNat (0xC0 + n / 64), tail 0]
  else if c.isSurrogate then none
  else if n < 0x10000 then some [UInt8.ofNat (0xE0 + n / 4096), tail 6, tail 0]
  else some [UInt8.ofNat (0xF0 + n / 262144), tail 12, tail 6, tail 0]

/-- Why a text has no UTF-8 form: the first run of surrogates, by position. -/
structure EncodeFault where
  first : CodePoint
  start : Nat
  stop : Nat
deriving DecidableEq

/-- The UTF-8 form of a text whose first code point has position `pos`. -/
def encodeFrom (pos : Nat) : Text → Except EncodeFault Bytes
  | [] => .ok []
  | c :: rest =>
    match encodeCodePoint c with
    | some bytes => (encodeFrom (pos + 1) rest).map (bytes ++ ·)
    | none =>
      .error ⟨c, pos, pos + 1 + (rest.takeWhile CodePoint.isSurrogate).length⟩

/-- The UTF-8 form of a text. -/
def encode (t : Text) : Except EncodeFault Bytes := encodeFrom 0 t

/-- The UTF-8 form of a text, with `?` for every surrogate. -/
def encodeLossy (t : Text) : Bytes :=
  t.flatMap fun c => (encodeCodePoint c).getD [0x3F]

/-! ## Decoding -/

/-- What is wrong with the bytes that decoding stops at. -/
inductive DecodeReason where
  | invalidStart
  | invalidContinuation
  | unexpectedEnd
deriving DecidableEq

/-- Why bytes are not UTF-8: the faulty bytes, by position. -/
structure DecodeFault where
  first : UInt8
  start : Nat
  stop : Nat
  reason : DecodeReason
deriving DecidableEq

/-- What a sequence of bytes starts with. -/
inductive Sequence where
  /-- a code point that takes `width` bytes -/
  | scalar (c : CodePoint) (width : Nat)
  /-- `width` bytes that are no code point -/
  | fault (reason : DecodeReason) (width : Nat)

/-- The bytes 0x80 to 0xBF. -/
def isContinuation (b : UInt8) : Bool := 0x80 ≤ b.toNat && b.toNat < 0xC0

/-- The bytes that may follow `lead` as second byte of a sequence of three or four: not all
continuation bytes, since neither overlong forms nor surrogates nor numbers above U+10FFFF are
well-formed. -/
def isSecond (lead b : UInt8) : Bool :=
  isContinuation b &&
    (if lead = 0xE0 then 0xA0 ≤ b.toNat
     else if lead = 0xED then b.toNat < 0xA0
     else if lead = 0xF0 then 0x90 ≤ b.toNat
     else if lead = 0xF4 then b.toNat < 0x90
     else true)

/-- The code point that starts at the byte `lead`, which `rest` follows. -/
def read (lead : UInt8) (rest : Bytes) : Sequence :=
  let n := lead.toNat
  if n < 0x80 then .scalar (.ofNat n) 1
  else if n < 0xC2 then .fault .invalidStart 1
  else if n < 0xE0 then
    match rest with
    | [] => .fault .unexpectedEnd 1
    | b :: _ =>
      if isContinuation b then .scalar (.ofNat ((n - 0xC0) * 64 + (b.toNat - 0x80))) 2
      else .fault .invalidContinuation 1
  else if n < 0xF0 then
    match rest with
    | [] => .fault .unexpectedEnd 1
    | b :: rest =>
      if !isSecond lead b then .fault .invalidContinuation 1
      else
        match rest with
        | [] => .fault .unexpectedEnd 2
        | c :: _ =>
          if isContinuation c then
            .scalar (.ofNat ((n - 0xE0) * 4096 + (b.toNat - 0x80) * 64 + (c.toNat - 0x80))) 3
          else .fault .invalidContinuation 2
  else if n < 0xF5 then
    match rest with
    | [] => .fault .unexpectedEnd 1
    | b :: rest =>
      if !isSecond lead b then .fault .invalidContinuation 1
      else
        match rest with
        | [] => .fault .unexpectedEnd 2
        | c :: rest =>
          if !isContinuation c then .fault .invalidContinuation 2
          else
            match rest with
            | [] => .fault .unexpectedEnd 3
            | d :: _ =>
              if isContinuation d then
                .scalar (.ofNat ((n - 0xF0) * 262144 + (b.toNat - 0x80) * 4096 +
                  (c.toNat - 0x80) * 64 + (d.toNat - 0x80))) 4
              else .fault .invalidContinuation 3
  else .fault .invalidStart 1

/-- The text of bytes whose first one has position `pos`. -/
def decodeFrom (pos : Nat) : Bytes → Except DecodeFault Text
  | [] => .ok []
  | lead :: rest =>
    match read lead rest with
    | .scalar c width => (decodeFrom (pos + width) (rest.drop (width - 1))).map (c :: ·)
    | .fault reason width => .error ⟨lead, pos, pos + width, reason⟩
termination_by bytes => bytes.length
decreasing_by simp only [List.length_drop, List.length_cons]; omega

/-- The text that the bytes encode. -/
def decode (b : Bytes) : Except DecodeFault Text := decodeFrom 0 b

/-- The text of bytes that are decoded block by block, behind the unfinished beginning of a
sequence. Positions in a fault count from the beginning of the block, or of what is unfinished
before it. -/
def decodeBlocks (size : Nat) (unfinished : Bytes) (b : Bytes) : Except DecodeFault Text :=
  match b with
  | [] => decode unfinished
  | lead :: rest =>
    let block := unfinished ++ lead :: rest.take size
    match decode block with
    | .ok t => (decodeBlocks size [] (rest.drop size)).map (t ++ ·)
    | .error f =>
      match f.reason, decode (block.take f.start) with
      | .unexpectedEnd, .ok t =>
        (decodeBlocks size (block.drop f.start) (rest.drop size)).map (t ++ ·)
      | _, _ => .error f
termination_by b.length
decreasing_by all_goals simp only [List.length_drop, List.length_cons]; omega

/-- The text that the bytes encode, with U+FFFD for every faulty sequence. -/
def decodeLossy : Bytes → Text
  | [] => []
  | lead :: rest =>
    match read lead rest with
    | .scalar c width => c :: decodeLossy (rest.drop (width - 1))
    | .fault _ width => .ofNat 0xFFFD :: decodeLossy (rest.drop (width - 1))
termination_by bytes => bytes.length
decreasing_by all_goals simp only [List.length_drop, List.length_cons]; omega

/-! ## Wording -/

/-- The lower-case hexadecimal digits of a number, at least `width` of them. -/
def hexDigits (width n : Nat) : Text :=
  let digits : Text := (Nat.toDigits 16 n).map CodePoint.ofChar
  List.replicate (width - digits.length) (CodePoint.ofChar '0') ++ digits

/-- The wording of a reason. -/
def DecodeReason.message : DecodeReason → Text
  | .invalidStart => "invalid start byte"
  | .invalidContinuation => "invalid continuation byte"
  | .unexpectedEnd => "unexpected end of data"

/-- The wording of a decoding fault: one byte is shown, several are named by their range. -/
def DecodeFault.message (f : DecodeFault) : Text :=
  let place : Text :=
    if f.stop = f.start + 1 then
      "byte 0x" ++ hexDigits 2 f.first.toNat ++ " in position " ++ Text.ofNat f.start
    else "bytes in position " ++ Text.ofNat f.start ++ "-" ++ Text.ofNat (f.stop - 1)
  "'utf-8' codec can't decode " ++ place ++ ": " ++ f.reason.message

/-- The wording of an encoding fault: one surrogate is shown, several are named by their
range. -/
def EncodeFault.message (f : EncodeFault) : Text :=
  let place : Text :=
    if f.stop = f.start + 1 then
      "character '\\u" ++ hexDigits 4 f.first.val ++ "' in position " ++ Text.ofNat f.start
    else "characters in position " ++ Text.ofNat f.start ++ "-" ++ Text.ofNat (f.stop - 1)
  "'utf-8' codec can't encode " ++ place ++ ": surrogates not allowed"

end Utf8

end Backtick
