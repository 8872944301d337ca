import Backtick.Region
import Backtick.Proofs.Text.Utf8

/-!
# Byte offsets and characters

A byte offset is a boundary when the bytes in front of it are whole characters. Boundaries cut a
text and its bytes at the same character, so what stands between two boundaries spells the same
slice of the text.

* `OnBoundary.between` — the bytes between two boundaries, and the characters between them
* `OnBoundary.charsBefore_lt` — a character between two boundaries
* `OnBoundary.next`, `OnBoundary.previous` — a boundary on either side of a one-byte character
* `OnBoundary.one_byte` — a one-byte character between boundaries
* `OffsetReader.convert_eq` — a reader gives the number of characters in front of a boundary
-/

namespace Backtick

open Utf8

variable {data : Bytes} {text : Text} {k m : Nat}

/-- The bytes in front of the offset are whole characters. -/
def OnBoundary (data : Bytes) (k : Nat) : Prop := ∃ c, charOffset data k = .ok c

instance (data : Bytes) (k : Nat) : Decidable (OnBoundary data k) :=
  match h : charOffset data k with
  | .ok c => .isTrue ⟨c, h⟩
  | .error _ => .isFalse fun ⟨_, hc⟩ => nomatch h.symm.trans hc

/-- The number of characters in front of a byte offset; none if it is no boundary. -/
def charsBefore (data : Bytes) (k : Nat) : Nat :=
  match charOffset data k with
  | .ok c => c
  | .error _ => 0

theorem charOffset_iff {c : Nat} :
    charOffset data k = .ok c ↔ ∃ t, Spells (data.take k) t ∧ t.length = c := by
  unfold charOffset
  constructor
  · intro h
    cases ht : decode (data.take k) with
    | error f =>
      rw [ht] at h
      cases h
    | ok t =>
      rw [ht] at h
      exact ⟨t, decode_iff.mp ht, Except.ok.inj h⟩
  · rintro ⟨t, ht, rfl⟩
    rw [decode_iff.mpr ht]
    rfl

theorem charsBefore_eq {c : Nat} (h : charOffset data k = .ok c) : charsBefore data k = c := by
  unfold charsBefore
  rw [h]

/-- The bytes in front of an offset are those in front of an earlier one and those between. -/
theorem take_eq_append {α : Type} (xs : List α) (h : k ≤ m) :
    xs.take m = xs.take k ++ (xs.take m).drop k := by
  have htake : xs.take k = (xs.take m).take k := by rw [List.take_take, Nat.min_eq_left h]
  rw [htake, List.take_append_drop]

namespace OnBoundary

theorem of_spells {t : Text} (h : Spells (data.take k) t) : OnBoundary data k :=
  ⟨_, charOffset_iff.mpr ⟨t, h, rfl⟩⟩

theorem exists_spells (h : OnBoundary data k) :
    ∃ t, Spells (data.take k) t ∧ t.length = charsBefore data k := by
  obtain ⟨c, hc⟩ := h
  rw [charsBefore_eq hc]
  exact charOffset_iff.mp hc

/-- The characters in front of a boundary are spelled by the bytes in front of it. -/
theorem before (h : OnBoundary data k) (hd : Spells data text) :
    Spells (data.take k) (text.take (charsBefore data k)) ∧
      charsBefore data k ≤ text.length := by
  obtain ⟨t, ht, hlen⟩ := h.exists_spells
  rw [← List.take_append_drop k data] at hd
  obtain ⟨u, rfl, -⟩ := ht.of_append hd
  rw [← hlen, List.take_left]
  exact ⟨ht, by simp⟩

/-- What stands between two boundaries spells the characters between them. -/
theorem between (hk : OnBoundary data k) (hm : OnBoundary data m) (hkm : k ≤ m)
    (hd : Spells data text) :
    charsBefore data k ≤ charsBefore data m ∧
      Spells ((data.take m).drop k)
        ((text.take (charsBefore data m)).drop (charsBefore data k)) := by
  obtain ⟨s, hs, hslen⟩ := hk.exists_spells
  obtain ⟨hm', hle⟩ := hm.before hd
  rw [take_eq_append data hkm] at hm'
  obtain ⟨u, hu, hu'⟩ := hs.of_append hm'
  have hlen : s.length ≤ (text.take (charsBefore data m)).length := by
    rw [hu, List.length_append]
    omega
  rw [List.length_take] at hlen
  refine ⟨by omega, ?_⟩
  rw [hu, ← hslen, List.drop_left]
  exact hu'

/-- What stands behind a boundary spells the characters behind it. -/
theorem after (h : OnBoundary data k) (hd : Spells data text) :
    Spells (data.drop k) (text.drop (charsBefore data k)) := by
  obtain ⟨s, hs, hslen⟩ := h.exists_spells
  rw [← List.take_append_drop k data] at hd
  obtain ⟨u, rfl, hu⟩ := hs.of_append hd
  rw [← hslen, List.drop_left]
  exact hu

/-- More characters stand in front of a later boundary, up to the end. -/
theorem charsBefore_lt (hk : OnBoundary data k) (hm : OnBoundary data m) (hkm : k < m)
    (hinside : k < data.length) : charsBefore data k < charsBefore data m := by
  obtain ⟨s, hs, hslen⟩ := hk.exists_spells
  obtain ⟨t, ht, htlen⟩ := hm.exists_spells
  rw [take_eq_append data (Nat.le_of_lt hkm)] at ht
  obtain ⟨u, rfl, hu⟩ := hs.of_append ht
  have hne : u ≠ [] := by
    rintro rfl
    have hlength : ((data.take m).drop k).length = 0 := by
      generalize (data.take m).drop k = x at hu
      cases hu
      rfl
    rw [List.length_drop, List.length_take] at hlength
    omega
  rw [← hslen, ← htlen, List.length_append]
  have := List.length_pos_iff.mpr hne
  omega

theorem zero (data : Bytes) : OnBoundary data 0 := of_spells .nil

/-- Behind a one-byte character stands a boundary. -/
theorem next (h : OnBoundary data k) {b : UInt8} (hb : data[k]? = some b) (hone : b.toNat < 0x80) :
    OnBoundary data (k + 1) := by
  obtain ⟨t, ht, -⟩ := h.exists_spells
  refine @of_spells _ _ (t ++ [.ofNat b.toNat]) ?_
  rw [List.take_add_one, hb]
  exact ht.append (.cons (.one hone) .nil)

/-- A one-byte character behind a boundary counts as one. -/
theorem charsBefore_next (h : OnBoundary data k) {b : UInt8} (hb : data[k]? = some b)
    (hone : b.toNat < 0x80) : charsBefore data (k + 1) = charsBefore data k + 1 := by
  obtain ⟨t, ht, hlen⟩ := h.exists_spells
  refine charsBefore_eq (charOffset_iff.mpr ⟨t ++ [.ofNat b.toNat], ?_, ?_⟩)
  · rw [List.take_add_one, hb]
    exact ht.append (.cons (.one hone) .nil)
  · rw [List.length_append, hlen]
    rfl

end OnBoundary

/-- A sequence that ends with a byte of its own stands for that byte alone. -/
theorem Utf8.Form.eq_nil_of_last {bytes : Bytes} {c : CodePoint} {b : UInt8}
    (h : Form (bytes ++ [b]) c) (hone : b.toNat < 0x80) : bytes = [] := by
  generalize hx : bytes ++ [b] = x at h
  have hlast : x.getLast? = some b := by rw [← hx, List.getLast?_concat]
  have hno : ∀ d : UInt8, isContinuation d = true → d ≠ b := by
    rintro d hd rfl
    rw [isContinuation_iff] at hd
    omega
  cases h with
  | one h => simpa using congrArg List.length hx
  | two _ _ hb => exact absurd (Option.some.inj hlast) (hno _ hb)
  | three _ _ _ hc => exact absurd (Option.some.inj hlast) (hno _ hc)
  | four _ _ _ _ hd => exact absurd (Option.some.inj hlast) (hno _ hd)

/-- Text in front of a one-byte character is whole. -/
theorem Utf8.Spells.of_append_one {a : Bytes} {t : Text} {b : UInt8} (h : Spells (a ++ [b]) t)
    (hone : b.toNat < 0x80) : ∃ s, Spells a s := by
  generalize hx : a ++ [b] = x at h
  induction h generalizing a with
  | nil => cases List.append_eq_nil_iff.mp hx |>.2
  | @cons bytes rest c t hc hrest ih =>
    rcases List.eq_nil_or_concat rest with rfl | ⟨init, d, rfl⟩
    · rw [List.append_nil] at hx
      rw [← hx] at hc
      rw [hc.eq_nil_of_last hone]
      exact ⟨[], .nil⟩
    · rw [List.concat_eq_append, ← List.append_assoc] at hx
      obtain ⟨rfl, hd⟩ := List.append_inj' hx rfl
      cases hd
      obtain ⟨s, hs⟩ := ih (List.concat_eq_append ..).symm
      exact ⟨c :: s, .cons hc hs⟩

/-- In front of a one-byte character stands a boundary. -/
theorem OnBoundary.previous (h : OnBoundary data (k + 1)) {b : UInt8} (hb : data[k]? = some b)
    (hone : b.toNat < 0x80) : OnBoundary data k := by
  obtain ⟨t, ht, -⟩ := h.exists_spells
  rw [List.take_add_one, hb] at ht
  obtain ⟨s, hs⟩ := ht.of_append_one hone
  exact of_spells hs

/-- A single byte spells a text only if it is a character of its own. -/
theorem Utf8.Spells.one_byte {b : UInt8} {t : Text} (h : Spells [b] t) : b.toNat < 0x80 := by
  generalize hx : [b] = x at h
  cases h with
  | nil => cases hx
  | cons hc _ =>
    cases hc with
    | one hone =>
      cases hx
      exact hone
    | two => cases hx
    | three => cases hx
    | four => cases hx

/-- Between two boundaries with a single byte between them stands a one-byte character. -/
theorem OnBoundary.one_byte (h : OnBoundary data k) (hnext : OnBoundary data (k + 1))
    (hlt : k < data.length) : ∃ b, data[k]? = some b ∧ b.toNat < 0x80 := by
  obtain ⟨t, ht, -⟩ := h.exists_spells
  obtain ⟨u, hu, -⟩ := hnext.exists_spells
  have hbyte : data[k]? = some data[k] := List.getElem?_eq_getElem hlt
  rw [List.take_add_one, hbyte] at hu
  obtain ⟨v, -, hv⟩ := ht.of_append hu
  exact ⟨data[k], hbyte, hv.one_byte⟩

/-! ## Readers -/

theorem Text.slice_natCast {α : Type} (xs : List α) (a b : Nat) :
    Text.slice xs (a : Int) (b : Int) = (xs.take b).drop a := by
  unfold Text.slice
  rw [Text.position_of_nonneg (by omega), Text.position_of_nonneg (by omega), Int.toNat_natCast,
    Int.toNat_natCast, Nat.min_comm xs.length b, ← List.take_eq_take_min]
  by_cases ha : a ≤ xs.length
  · rw [Nat.min_eq_right ha]
  · have hle : (xs.take b).length ≤ xs.length := by
      rw [List.length_take]
      omega
    rw [List.drop_eq_nil_of_le (by omega), List.drop_eq_nil_of_le (by omega)]

namespace OffsetReader

variable {r : OffsetReader}

/-- A reader stands at a boundary and knows the number of characters in front of it. -/
def Valid (data : Bytes) (r : OffsetReader) : Prop :=
  ∃ k : Nat, r.byte = k ∧ charOffset data k = .ok r.char

theorem valid_start (data : Bytes) : Valid data {} :=
  ⟨0, rfl, charOffset_iff.mpr ⟨[], .nil, rfl⟩⟩

/-- A conversion goes on from a boundary that is not behind the offset. -/
theorem Valid.rewound (hr : r.Valid data) (k : Nat) :
    ∃ m : Nat, (r.rewound k).byte = m ∧ m ≤ k ∧ charOffset data m = .ok (r.rewound k).char := by
  unfold OffsetReader.rewound
  split
  · exact ⟨0, rfl, Nat.zero_le k, charOffset_iff.mpr ⟨[], .nil, rfl⟩⟩
  · next hlt =>
    obtain ⟨m, hm, hmc⟩ := hr
    exact ⟨m, hm, by omega, hmc⟩

/-- A reader gives the number of characters in front of a boundary, and stands there afterwards. -/
theorem convert_eq (hr : r.Valid data) (h : OnBoundary data k) :
    r.convert data k = (.ok (charsBefore data k), { byte := k, char := charsBefore data k }) ∧
      Valid data { byte := k, char := charsBefore data k } := by
  obtain ⟨t, ht, hlen⟩ := h.exists_spells
  obtain ⟨m, hm, hmk, hmc⟩ := hr.rewound k
  obtain ⟨s, hs, hslen⟩ := charOffset_iff.mp hmc
  rw [take_eq_append data hmk] at ht
  obtain ⟨u, rfl, hu⟩ := hs.of_append ht
  refine ⟨?_, k, rfl, charOffset_iff.mpr h.exists_spells⟩
  unfold convert
  dsimp only
  rw [hm, Text.slice_natCast, decode_iff.mpr hu, ← hlen, List.length_append, hslen]

/-- A reader converts boundaries only. -/
theorem onBoundary_of_convert {c : Nat} (hr : r.Valid data) (h : (r.convert data k).1 = .ok c) :
    OnBoundary data k := by
  obtain ⟨m, hm, hmk, hmc⟩ := hr.rewound k
  obtain ⟨s, hs, -⟩ := charOffset_iff.mp hmc
  unfold convert at h
  dsimp only at h
  rw [hm, Text.slice_natCast] at h
  cases hu : decode ((data.take k).drop m) with
  | error f =>
    rw [hu] at h
    cases h
  | ok u =>
    refine @OnBoundary.of_spells _ _ (s ++ u) ?_
    rw [take_eq_append data hmk]
    exact hs.append (decode_iff.mp hu)

end OffsetReader

end Backtick
