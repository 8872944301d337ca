import Backtick.Text.Utf8

/-!
# The UTF-8 round trip

The well-formed sequences of one to four bytes (`Form`) are what decoding reads and what encoding
writes. So bytes and the text that they spell (`Spells`) determine each other, and bytes can be cut
between two characters.

* `decode_iff_encode` — decoding and encoding undo each other
* `Spells.append`, `Spells.of_append` — texts are spelled piece by piece
-/

namespace Backtick

theorem CodePoint.val_ofNat {n : Nat} (h : n < 0x110000) : (CodePoint.ofNat n).val = n := by
  unfold CodePoint.ofNat CodePoint.ofNat?
  rw [dif_pos h]
  rfl

theorem CodePoint.ofNat_val (c : CodePoint) : CodePoint.ofNat c.val = c := by
  unfold CodePoint.ofNat
  rw [CodePoint.ofNat?_val]
  rfl

namespace Utf8

variable {lead : UInt8} {rest tail : Bytes} {c : CodePoint}

/-! ## One code point -/

/-- The well-formed sequences of bytes, with the code points that they stand for. -/
inductive Form : Bytes → CodePoint → Prop where
  | one {lead : UInt8} (h : lead.toNat < 0x80) : Form [lead] (.ofNat lead.toNat)
  | two {lead b : UInt8} (hlow : 0xC2 ≤ lead.toNat) (hhigh : lead.toNat < 0xE0)
      (hb : isContinuation b = true) :
      Form [lead, b] (.ofNat ((lead.toNat - 0xC0) * 64 + (b.toNat - 0x80)))
  | three {lead b c : UInt8} (hlow : 0xE0 ≤ lead.toNat) (hhigh : lead.toNat < 0xF0)
      (hb : isSecond lead b = true) (hc : isContinuation c = true) :
      Form [lead, b, c] (.ofNat ((lead.toNat - 0xE0) * 4096 + (b.toNat - 0x80) * 64 +
        (c.toNat - 0x80)))
  | four {lead b c d : UInt8} (hlow : 0xF0 ≤ lead.toNat) (hhigh : lead.toNat < 0xF5)
      (hb : isSecond lead b = true) (hc : isContinuation c = true) (hd : isContinuation d = true) :
      Form [lead, b, c, d] (.ofNat ((lead.toNat - 0xF0) * 262144 + (b.toNat - 0x80) * 4096 +
        (c.toNat - 0x80) * 64 + (d.toNat - 0x80)))

/-- What is read as a code point is a well-formed sequence. -/
theorem form_of_read {width : Nat} (h : read lead rest = .scalar c width) :
    ∃ more tail, rest = more ++ tail ∧ Form (lead :: more) c ∧ width = more.length + 1 := by
  unfold read at h
  dsimp only at h
  -- the first byte says how many follow, and each of these is checked in its turn
  split at h
  · next hn =>
    obtain ⟨rfl, rfl⟩ := Sequence.scalar.inj h
    exact ⟨[], rest, rfl, .one hn, rfl⟩
  split at h
  · cases h
  split at h
  · split at h
    · cases h
    · next b rest =>
      split at h
      · next hb =>
        obtain ⟨rfl, rfl⟩ := Sequence.scalar.inj h
        exact ⟨[b], rest, rfl, .two (by omega) (by omega) hb, rfl⟩
      · cases h
  split at h
  · split at h
    · cases h
    · next b rest =>
      split at h
      · cases h
      · next hb =>
        split at h
        · cases h
        · next d rest =>
          split at h
          · next hd =>
            obtain ⟨rfl, rfl⟩ := Sequence.scalar.inj h
            exact ⟨[b, d], rest, rfl, .three (by omega) (by omega) (by simpa using hb) hd, rfl⟩
          · cases h
  split at h
  · split at h
    · cases h
    · next b rest =>
      split at h
      · cases h
      · next hb =>
        split at h
        · cases h
        · next d rest =>
          split at h
          · cases h
          · next hd =>
            split at h
            · cases h
            · next e rest =>
              split at h
              · next he =>
                obtain ⟨rfl, rfl⟩ := Sequence.scalar.inj h
                exact ⟨[b, d, e], rest, rfl, .four (by omega) (by omega) (by simpa using hb)
                  (by simpa using hd) he, rfl⟩
              · cases h
  · cases h

/-- A well-formed sequence is read as its code point, whatever follows it. -/
theorem Form.read (h : Form (lead :: rest) c) (tail : Bytes) :
    Utf8.read lead (rest ++ tail) = .scalar c (rest.length + 1) := by
  unfold Utf8.read
  cases h with
  | one h => rw [if_pos h]; rfl
  | two hlow hhigh hb =>
    rw [if_neg (by omega), if_neg (by omega), if_pos hhigh]
    simp [hb]
  | three hlow hhigh hb hc =>
    rw [if_neg (by omega), if_neg (by omega), if_neg (by omega), if_pos hhigh]
    simp [hb, hc]
  | four hlow hhigh hb hc hd =>
    rw [if_neg (by omega), if_neg (by omega), if_neg (by omega), if_neg (by omega), if_pos hhigh]
    simp [hb, hc, hd]

/-- A byte with a known number. -/
theorem byte_eq {b : UInt8} {n : Nat} (h : b.toNat = n) : UInt8.ofNat n = b := by
  rw [← h]
  exact UInt8.ofNat_toNat

theorem isContinuation_iff {b : UInt8} :
    isContinuation b = true ↔ 0x80 ≤ b.toNat ∧ b.toNat < 0xC0 := by
  simp [isContinuation]

theorem isSecond_iff {b : UInt8} :
    isSecond lead b = true ↔ (0x80 ≤ b.toNat ∧ b.toNat < 0xC0) ∧
      (lead.toNat = 0xE0 → 0xA0 ≤ b.toNat) ∧ (lead.toNat = 0xED → b.toNat < 0xA0) ∧
      (lead.toNat = 0xF0 → 0x90 ≤ b.toNat) ∧ (lead.toNat = 0xF4 → b.toNat < 0x90) := by
  have hlead : ∀ (k : UInt8) (n : Nat), k.toNat = n → (lead = k ↔ lead.toNat = n) := by
    rintro k n rfl
    exact UInt8.toNat_inj.symm
  unfold isSecond
  rw [Bool.and_eq_true, isContinuation_iff]
  simp only [hlead 0xE0 0xE0 rfl, hlead 0xED 0xED rfl, hlead 0xF0 0xF0 rfl, hlead 0xF4 0xF4 rfl]
  refine and_congr_right fun _ => ?_
  split
  · rw [decide_eq_true_eq]
    omega
  split
  · rw [decide_eq_true_eq]
    omega
  split
  · rw [decide_eq_true_eq]
    omega
  split
  · rw [decide_eq_true_eq]
    omega
  · exact ⟨fun _ => by omega, fun _ => rfl⟩

/-- A well-formed sequence is the form of its code point. -/
theorem Form.encode {bytes : Bytes} (h : Form bytes c) : encodeCodePoint c = some bytes := by
  unfold encodeCodePoint CodePoint.isSurrogate
  dsimp only
  cases h with
  | @one lead h =>
    rw [CodePoint.val_ofNat (by omega), if_pos h, @byte_eq lead _ rfl]
  | @two lead b hlow hhigh hb =>
    rw [isContinuation_iff] at hb
    rw [CodePoint.val_ofNat (by omega), if_neg (by omega), if_pos (by omega)]
    rw [@byte_eq lead _ (by omega), @byte_eq b _ (by omega)]
  | @three lead b d hlow hhigh hb hc =>
    rw [isSecond_iff] at hb
    rw [isContinuation_iff] at hc
    rw [CodePoint.val_ofNat (by omega), if_neg (by omega), if_neg (by omega)]
    rw [if_neg (by rw [Bool.and_eq_true, decide_eq_true_eq, decide_eq_true_eq]; omega),
      if_pos (by omega)]
    rw [@byte_eq lead _ (by omega), @byte_eq b _ (by omega), @byte_eq d _ (by omega)]
  | @four lead b d e hlow hhigh hb hc hd =>
    rw [isSecond_iff] at hb
    rw [isContinuation_iff] at hc hd
    rw [CodePoint.val_ofNat (by omega), if_neg (by omega), if_neg (by omega)]
    rw [if_neg (by rw [Bool.and_eq_true, decide_eq_true_eq, decide_eq_true_eq]; omega),
      if_neg (by omega)]
    rw [@byte_eq lead _ (by omega), @byte_eq b _ (by omega), @byte_eq d _ (by omega),
      @byte_eq e _ (by omega)]

/-- The form of a code point is a well-formed sequence. -/
theorem form_of_encode {bytes : Bytes} (h : encodeCodePoint c = some bytes) : Form bytes c := by
  have hval := c.val_lt
  have hc : ∀ n, c.val = n → c = .ofNat n := by
    rintro n rfl
    exact c.ofNat_val.symm
  -- the numbers that are written fit into bytes, so they can be read off again
  have hbyte : ∀ n, n < 256 → ∃ b : UInt8, UInt8.ofNat n = b ∧ b.toNat = n :=
    fun n hn => ⟨_, rfl, UInt8.toNat_ofNat_of_lt' hn⟩
  unfold encodeCodePoint CodePoint.isSurrogate at h
  dsimp only at h
  split at h
  · obtain ⟨lead, hlead, hn⟩ := hbyte c.val (by omega)
    rw [hlead] at h
    cases h
    rw [hc lead.toNat hn.symm]
    exact .one (by omega)
  split at h
  · obtain ⟨lead, hlead, hn⟩ := hbyte (0xC0 + c.val / 64) (by omega)
    obtain ⟨b, hb, hn1⟩ := hbyte (0x80 + (c.val >>> 0) % 64) (by omega)
    rw [hlead, hb] at h
    cases h
    rw [hc ((lead.toNat - 0xC0) * 64 + (b.toNat - 0x80)) (by omega)]
    refine .two (by omega) (by omega) ?_
    rw [isContinuation_iff]
    omega
  split at h
  · cases h
  · next hsurrogate =>
    rw [Bool.and_eq_true, decide_eq_true_eq, decide_eq_true_eq] at hsurrogate
    split at h
    · obtain ⟨lead, hlead, hn⟩ := hbyte (0xE0 + c.val / 4096) (by omega)
      obtain ⟨b, hb, hn1⟩ := hbyte (0x80 + (c.val >>> 6) % 64) (by omega)
      obtain ⟨d, hd, hn2⟩ := hbyte (0x80 + (c.val >>> 0) % 64) (by omega)
      rw [hlead, hb, hd] at h
      cases h
      rw [hc ((lead.toNat - 0xE0) * 4096 + (b.toNat - 0x80) * 64 + (d.toNat - 0x80)) (by omega)]
      refine .three (by omega) (by omega) ?_ ?_
      · rw [isSecond_iff]
        omega
      · rw [isContinuation_iff]
        omega
    · obtain ⟨lead, hlead, hn⟩ := hbyte (0xF0 + c.val / 262144) (by omega)
      obtain ⟨b, hb, hn1⟩ := hbyte (0x80 + (c.val >>> 12) % 64) (by omega)
      obtain ⟨d, hd, hn2⟩ := hbyte (0x80 + (c.val >>> 6) % 64) (by omega)
      obtain ⟨e, he, hn3⟩ := hbyte (0x80 + (c.val >>> 0) % 64) (by omega)
      rw [hlead, hb, hd, he] at h
      cases h
      rw [hc ((lead.toNat - 0xF0) * 262144 + (b.toNat - 0x80) * 4096 + (d.toNat - 0x80) * 64 +
        (e.toNat - 0x80)) (by omega)]
      refine .four (by omega) (by omega) ?_ ?_ ?_
      · rw [isSecond_iff]
        omega
      · rw [isContinuation_iff]
        omega
      · rw [isContinuation_iff]
        omega

/-! ## Texts -/

/-- The bytes spell the text: a well-formed sequence for each code point. -/
inductive Spells : Bytes → Text → Prop where
  | nil : Spells [] []
  | cons {bytes rest : Bytes} {c : CodePoint} {t : Text} (hc : Form bytes c) (h : Spells rest t) :
      Spells (bytes ++ rest) (c :: t)

variable {a b : Bytes} {s t u : Text} {pos : Nat}

theorem Form.ne_nil {bytes : Bytes} (h : Form bytes c) : bytes ≠ [] := by
  cases h <;> exact List.cons_ne_nil _ _

/-- A text is encoded as the bytes that spell it. -/
theorem encodeFrom_iff : encodeFrom pos t = .ok b ↔ Spells b t := by
  constructor
  · intro h
    induction t generalizing pos b with
    | nil =>
      cases h
      exact .nil
    | cons c t ih =>
      unfold encodeFrom at h
      split at h
      · next bytes hc =>
        cases ht : encodeFrom (pos + 1) t with
        | error f =>
          rw [ht] at h
          cases h
        | ok rest =>
          rw [ht] at h
          cases h
          exact .cons (form_of_encode hc) (ih ht)
      · cases h
  · intro h
    induction h generalizing pos with
    | nil => rfl
    | cons hc _ ih =>
      unfold encodeFrom
      rw [hc.encode]
      show (encodeFrom (pos + 1) _).map _ = _
      rw [ih]
      rfl

/-- A well-formed sequence in front of bytes is decoded by itself. -/
theorem decodeFrom_of_form {bytes : Bytes} (h : Form bytes c) (rest : Bytes) :
    decodeFrom pos (bytes ++ rest) =
      (decodeFrom (pos + bytes.length) rest).map (c :: ·) := by
  obtain ⟨lead, more, rfl⟩ := List.exists_cons_of_ne_nil h.ne_nil
  rw [List.cons_append, decodeFrom, h.read rest, List.length_cons]
  show (decodeFrom _ ((more ++ rest).drop more.length)).map _ = _
  rw [List.drop_left]

/-- Bytes are decoded as the text that they spell. -/
theorem decodeFrom_iff : decodeFrom pos b = .ok t ↔ Spells b t := by
  constructor
  · intro h
    -- what follows the first sequence is shorter
    induction hn : b.length using Nat.strongRecOn generalizing b pos t with
    | ind n ih =>
      cases b with
      | nil =>
        rw [decodeFrom] at h
        cases h
        exact .nil
      | cons lead rest =>
        cases hread : Utf8.read lead rest with
        | fault reason width =>
          rw [decodeFrom, hread] at h
          cases h
        | scalar c width =>
          obtain ⟨more, tail, rfl, hc, -⟩ := form_of_read hread
          rw [← List.cons_append, decodeFrom_of_form hc] at h
          cases htail : decodeFrom (pos + (lead :: more).length) tail with
          | error f =>
            rw [htail] at h
            cases h
          | ok t =>
            rw [htail] at h
            cases h
            refine .cons hc (ih tail.length ?_ htail rfl)
            simp only [List.length_cons, List.length_append] at hn
            omega
  · intro h
    induction h generalizing pos with
    | nil => rw [decodeFrom]
    | cons hc _ ih =>
      rw [decodeFrom_of_form hc, ih]
      rfl

theorem encode_iff : encode t = .ok b ↔ Spells b t := encodeFrom_iff

theorem decode_iff : decode b = .ok t ↔ Spells b t := decodeFrom_iff

namespace Spells

theorem append (ha : Spells a s) (hb : Spells b t) : Spells (a ++ b) (s ++ t) := by
  induction ha with
  | nil => exact hb
  | cons hc _ ih =>
    rw [List.append_assoc]
    exact .cons hc ih

/-- Bytes spell one text at most. -/
theorem text_unique (h : Spells b s) (h' : Spells b t) : s = t := by
  rw [← decode_iff] at h h'
  rw [h] at h'
  exact Except.ok.inj h'

/-- A text is spelled in one way at most. -/
theorem bytes_unique (h : Spells a t) (h' : Spells b t) : a = b := by
  rw [← encode_iff] at h h'
  rw [h] at h'
  exact Except.ok.inj h'

/-- What follows bytes that spell a text spells the rest of the whole text. -/
theorem of_append (ha : Spells a s) (h : Spells (a ++ b) u) : ∃ t, u = s ++ t ∧ Spells b t := by
  induction ha generalizing u with
  | nil => exact ⟨u, rfl, h⟩
  | @cons bytes rest c s hc _ ih =>
    rw [← decode_iff, decode, List.append_assoc, decodeFrom_of_form hc] at h
    cases hrest : decodeFrom (0 + bytes.length) (rest ++ b) with
    | error f =>
      rw [hrest] at h
      cases h
    | ok v =>
      rw [hrest] at h
      cases h
      obtain ⟨t, rfl, ht⟩ := ih (decodeFrom_iff.mp hrest)
      exact ⟨t, rfl, ht⟩

end Spells

/-- **Round trip.** Bytes are decoded as a text exactly when the text is encoded as the bytes. -/
theorem decode_iff_encode : decode b = .ok t ↔ encode t = .ok b :=
  decode_iff.trans encode_iff.symm

end Utf8

end Backtick
