import Backtick.Proofs.Text.Basic
import Backtick.Settings.Overlay

/-!
# What the text of a variable is taken for

A text that spells a truth value, in any case, is that truth value. One that has a point and is a
number is that number, one that is a whole number is that, and any other text stays what it is. A
whole number is looked for only where there is no point; that makes no difference, because what is
read as a whole number has none.

* `Taken` — the values that a text is taken for, with their conditions
* `taken_iff` — there is one for every text, and `coerce` gives it
-/

namespace Backtick

/-! ## Whole numbers have no point -/

namespace Numeral

variable {c : CodePoint} {t digits : Text}

theorem mem_normalize (hc : c.val < 0x80) (h : c ∈ t) : c ∈ normalize t :=
  List.mem_map.2 ⟨c, h, if_pos hc⟩

theorem mem_sign (hc : c.is '-' = false ∧ c.is '+' = false) (h : c ∈ t) : c ∈ (sign t).2 := by
  cases t with
  | nil => cases h
  | cons d rest =>
    have hrest (hd : c ≠ d) : c ∈ rest := (List.mem_cons.1 h).resolve_left hd
    rw [sign]
    split
    next hd => exact hrest (by rintro rfl; simp [hc.1] at hd)
    next =>
      split
      next hd => exact hrest (by rintro rfl; simp [hc.2] at hd)
      next => exact h

theorem mem_dropUnderscores_go {before : Option CodePoint} (hc : c.is '_' = false) (h : c ∈ t)
    (hd : dropUnderscores.go before t = some digits) : c ∈ digits := by
  induction t generalizing before digits with
  | nil => cases h
  | cons d rest ih =>
    rw [dropUnderscores.go.eq_def] at hd
    dsimp only at hd
    split at hd
    next hmark =>
      have hrest : c ∈ rest := (List.mem_cons.1 h).resolve_left (by rintro rfl; simp [hc] at hmark)
      split at hd
      · split at hd
        · exact ih hrest hd
        · cases hd
      · cases hd
    next =>
      obtain ⟨l, hl, rfl⟩ := Option.map_eq_some_iff.1 hd
      rcases List.mem_cons.1 h with rfl | h
      · exact List.mem_cons_self
      · exact List.mem_cons_of_mem d (ih h hl)

theorem mem_dropUnderscores (hc : c.is '_' = false) (h : c ∈ t)
    (hd : dropUnderscores t = some digits) : c ∈ digits :=
  mem_dropUnderscores_go hc h hd

/-- A text with a point is no whole number. -/
theorem int?_eq_none_of_point (h : CodePoint.ofNat 0x2E ∈ t) : int? t = none := by
  have hrest := mem_sign ⟨by decide, by decide⟩
    (Text.mem_trim (p := isPadding) (by decide) (mem_normalize (by decide) h))
  rw [int?]
  dsimp only
  split
  next digits hd =>
    refine if_pos ?_
    have hall : digits.all CodePoint.isDigit = false :=
      List.all_eq_false.2 ⟨_, mem_dropUnderscores (by decide) hrest hd, by decide⟩
    simp [hall]
  next => rfl

end Numeral

namespace Overlay

variable {t : Text} {v w : Scalar}

/-- The word for a truth value. -/
def word (b : Bool) : Text := if b then "true" else "false"

/-- What separates a number from its fraction. -/
def point : CodePoint := .ofNat 0x2E

/-- The value that a text is taken for. -/
inductive Taken (t : Text) : Scalar → Prop
  | bool (b : Bool) (h : Text.lower t = word b) : Taken t (.bool b)
  | float {d : Double} (hword : ∀ b, Text.lower t ≠ word b) (hpoint : point ∈ t)
      (hd : Numeral.double? t = some d) : Taken t (.float d)
  | int {i : Int} (hword : ∀ b, Text.lower t ≠ word b)
      (hfloat : point ∈ t → Numeral.double? t = none) (hi : Numeral.int? t = some i) :
    Taken t (.int i)
  | text (hword : ∀ b, Text.lower t ≠ word b) (hfloat : point ∈ t → Numeral.double? t = none)
      (hint : Numeral.int? t = none) : Taken t (.text t)

theorem taken_coerce (t : Text) : Taken t (coerce t) := by
  rw [coerce]
  split
  next h => exact .bool true (eq_of_beq h)
  next htrue =>
  split
  next h => exact .bool false (eq_of_beq h)
  next hfalse =>
  have hword (b : Bool) : Text.lower t ≠ word b := by
    cases b
    · exact fun h => hfalse (beq_iff_eq.2 h)
    · exact fun h => htrue (beq_iff_eq.2 h)
  split
  next hpoint =>
    have hmem : point ∈ t := List.contains_iff_mem.1 hpoint
    split
    next d hd => exact .float hword hmem hd
    next hd => exact .text hword (fun _ => hd) (Numeral.int?_eq_none_of_point hmem)
  next hpoint =>
    have hmem : point ∉ t := fun h => hpoint (List.contains_iff_mem.2 h)
    split
    next i hi => exact .int hword (fun h => absurd h hmem) hi
    next hi => exact .text hword (fun h => absurd h hmem) hi

theorem word_inj {b b' : Bool} (h : word b = word b') : b = b' := by
  cases b <;> cases b' <;> first | rfl | cases h

/-- A text is taken for one value only. -/
theorem Taken.unique (h : Taken t v) (h' : Taken t w) : v = w := by
  cases h <;> cases h' <;> grind [word_inj]

theorem taken_iff : Taken t v ↔ coerce t = v :=
  ⟨fun h => (taken_coerce t).unique h, fun h => h ▸ taken_coerce t⟩

end Overlay

end Backtick
