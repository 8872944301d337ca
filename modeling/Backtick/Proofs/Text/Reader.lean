import Mathlib.Data.List.Forall2
import Backtick.Proofs.Text.Offset

/-!
# Readers have no memory

A reader goes on from where its last conversion ended, so it decodes the rest of the bytes only.
What stands in front of the rest is text, and bytes are decoded behind a text as they are decoded
alone: only the positions in a fault count from another byte.

* `decodeFrom_append` — decoding goes on behind a text
* `convert_outcome` — one conversion, by a reader that stands at any boundary
* `convertAll_outcomes` — conversions one after the other
-/

namespace Backtick

namespace Utf8

variable {a b : Bytes} {s : Text}

/-- The fault of the same bytes with `n` more bytes in front of them. -/
def DecodeFault.behind (n : Nat) (f : DecodeFault) : DecodeFault :=
  { f with start := n + f.start, stop := n + f.stop }

/-- The position of the first byte tells in faults only. -/
theorem decodeFrom_add (n pos : Nat) (b : Bytes) :
    decodeFrom (n + pos) b = (decodeFrom pos b).mapError (DecodeFault.behind n) := by
  induction pos, b using decodeFrom.induct with
  | case1 pos =>
    rw [decodeFrom, decodeFrom]
    rfl
  | case2 pos lead rest c width hread ih =>
    rw [decodeFrom, decodeFrom, hread]
    dsimp only
    rw [Nat.add_assoc, ih]
    cases decodeFrom (pos + width) (rest.drop (width - 1)) <;> rfl
  | case3 pos lead rest reason width hread =>
    rw [decodeFrom, decodeFrom, hread]
    show Except.error (DecodeFault.mk lead (n + pos) (n + pos + width) reason) =
      Except.error (DecodeFault.mk lead (n + pos) (n + (pos + width)) reason)
    rw [Nat.add_assoc]

/-- Decoding goes on behind bytes that spell a text. -/
theorem decodeFrom_append (ha : Spells a s) (pos : Nat) (b : Bytes) :
    decodeFrom pos (a ++ b) = (decodeFrom (pos + a.length) b).map (s ++ ·) := by
  induction ha generalizing pos with
  | nil =>
    rw [List.nil_append, List.length_nil, Nat.add_zero]
    cases decodeFrom pos b <;> rfl
  | @cons bytes rest c s hc _ ih =>
    rw [List.append_assoc, decodeFrom_of_form hc, ih, List.length_append, Nat.add_assoc]
    cases decodeFrom (pos + (bytes.length + rest.length)) b <;> rfl

/-- Bytes behind a text are decoded as they are alone, but their faults stand behind the text. -/
theorem decode_append (ha : Spells a s) (b : Bytes) :
    decode (a ++ b) = ((decode b).map (s ++ ·)).mapError (DecodeFault.behind a.length) := by
  unfold decode
  rw [decodeFrom_append ha, Nat.add_comm, decodeFrom_add]
  cases decodeFrom 0 b <;> rfl

end Utf8

open Utf8

variable {data : Bytes} {k m : Nat}

/-- Two conversions give the same number of characters, or meet the same faulty bytes. The second
one counts their positions from a byte that lies further in front, if not from the same. -/
inductive SameOutcome : Except DecodeFault Nat → Except DecodeFault Nat → Prop where
  | ok (c : Nat) : SameOutcome (.ok c) (.ok c)
  | error (f : DecodeFault) (n : Nat) : SameOutcome (.error f) (.error (f.behind n))

/-- Counting goes on from a boundary. -/
theorem charOffset_of_le {c : Nat} (h : charOffset data m = .ok c) (hmk : m ≤ k) :
    charOffset data k = ((decode ((data.take k).drop m)).map fun t => c + t.length).mapError
      (DecodeFault.behind (data.take m).length) := by
  obtain ⟨s, hs, rfl⟩ := charOffset_iff.mp h
  unfold charOffset
  rw [take_eq_append data hmk, decode_append hs, ← take_eq_append data hmk]
  cases decode ((data.take k).drop m) with
  | error f => rfl
  | ok t => exact congrArg Except.ok List.length_append

namespace OffsetReader

variable {r : OffsetReader}

/-- A fresh reader counts from the beginning. -/
theorem convert_fresh (data : Bytes) (k : Nat) :
    (({} : OffsetReader).convert data k).1 = charOffset data k := by
  have hfresh : ({} : OffsetReader).rewound k = {} := ite_self _
  have hslice : Text.slice data 0 (k : Int) = data.take k := Text.slice_natCast data 0 k
  unfold convert charOffset
  dsimp only
  rw [hfresh, hslice]
  cases decode (data.take k) with
  | error f => rfl
  | ok t => exact congrArg Except.ok (Nat.zero_add _)

/-- A conversion counts like one from the beginning, and leaves the reader at a boundary also when
it fails. -/
theorem convert_outcome (hr : r.Valid data) (k : Nat) :
    SameOutcome (r.convert data k).1 (charOffset data k) ∧ (r.convert data k).2.Valid data := by
  obtain ⟨m, hm, hmk, hchar⟩ := hr.rewound k
  have hcount := charOffset_of_le hchar hmk
  unfold convert
  dsimp only
  rw [hm, Text.slice_natCast]
  cases hd : decode ((data.take k).drop m) with
  | error f =>
    rw [hd] at hcount
    -- the reader has gone back at most
    exact ⟨hcount ▸ .error f _, m, hm, hchar⟩
  | ok t =>
    rw [hd] at hcount
    exact ⟨hcount ▸ .ok _, k, rfl, hcount⟩

/-- Conversions one after the other count like conversions from the beginning. -/
theorem convertAll_outcomes (hr : r.Valid data) (offsets : List Nat) :
    List.Forall₂ (fun k result => SameOutcome result (charOffset data k)) offsets
      (r.convertAll data (offsets.map fun k => (k : Int))) := by
  induction offsets generalizing r with
  | nil => exact .nil
  | cons k rest ih =>
    obtain ⟨hfirst, hr'⟩ := convert_outcome hr k
    exact .cons hfirst (ih hr')

/-- **A reader has no memory.** Converting any offsets in any order gives for each offset the number
of characters that the bytes in front of it spell, and a fault if these are no text: what a fresh
reader gives. Bytes in front of an offset past the end are all bytes. -/
theorem convertAll_fresh (data : Bytes) (offsets : List Nat) :
    List.Forall₂
      (fun k result =>
        (∀ t, Spells (data.take k) t → result = .ok t.length) ∧
        ((¬ ∃ t, Spells (data.take k) t) → ∃ f, result = .error f) ∧
        SameOutcome result (({} : OffsetReader).convert data k).1)
      offsets (convertAll data {} (offsets.map fun k => (k : Int))) := by
  refine (convertAll_outcomes (valid_start data) offsets).imp fun k result hsame => ?_
  refine ⟨fun t ht => ?_, fun hno => ?_, ?_⟩
  · rw [charOffset_iff.mpr ⟨t, ht, rfl⟩] at hsame
    cases hsame
    rfl
  · generalize hcount : charOffset data k = count at hsame
    cases hsame with
    | ok c =>
      obtain ⟨t, ht, -⟩ := charOffset_iff.mp hcount
      exact absurd ⟨t, ht⟩ hno
    | error f n => exact ⟨f, rfl⟩
  · rwa [convert_fresh]

/-- `é`, a byte that is no text, and `b`: offsets on both sides of the faulty byte. -/
example : (convertAll [0xC3, 0xA9, 0xFF, 0x62] {} [2, 9, 1, 0, 2]).map Except.toOption =
    [some 1, none, none, some 0, some 1] := by
  decide +kernel

end OffsetReader

end Backtick
