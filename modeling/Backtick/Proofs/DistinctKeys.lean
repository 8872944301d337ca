import Backtick.Value
import Mathlib.Data.List.Nodup

/-!
# Maps with distinct keys

In entries with distinct keys the place of an entry does not matter: the value of a key is that of
the only entry that has it. Putting a value keeps the keys distinct.
-/

namespace Backtick

namespace Entries

variable {es : Entries} {k k' : Scalar} {v : Value}

/-! ## Keys -/

/-- The identities of the keys, in order. -/
def keys (es : Entries) : List KeyIdentity := es.map (·.1.identity)

@[simp] theorem keys_nil : keys [] = [] := rfl

@[simp] theorem keys_cons (e : Scalar × Value) (es : Entries) :
    keys (e :: es) = e.1.identity :: keys es := rfl

/-- No two entries have the same key. -/
def Distinct (es : Entries) : Prop := (keys es).Nodup

@[simp] theorem distinct_nil : Distinct [] := List.nodup_nil

theorem distinct_cons {e : Scalar × Value} :
    Distinct (e :: es) ↔ e.1.identity ∉ keys es ∧ Distinct es := List.nodup_cons

/-- Two forms of a key have the same value. -/
theorem get?_congr (es : Entries) (h : k.identity = k'.identity) : es.get? k = es.get? k' := by
  induction es with
  | nil => rfl
  | cons e rest ih => rw [get?, get?, Scalar.same, Scalar.same, h, ih]

theorem get?_eq_none_iff : es.get? k = none ↔ k.identity ∉ keys es := by
  induction es with
  | nil => simp [get?]
  | cons e rest ih =>
    rw [get?, keys_cons, List.mem_cons, not_or]
    by_cases h : e.1.same k = true
    · simp [h, (Scalar.same_iff.1 h).symm]
    · have hne : k.identity ≠ e.1.identity := fun heq => h (Scalar.same_iff.2 heq.symm)
      simp [h, hne, ih]

theorem mem_of_get? (h : es.get? k = some v) : ∃ e ∈ es, e.2 = v := by
  induction es with
  | nil => cases h
  | cons e rest ih =>
    rw [get?] at h
    split at h
    · exact ⟨e, List.mem_cons_self, Option.some.inj h⟩
    · obtain ⟨e', he', hv⟩ := ih h
      exact ⟨e', List.mem_cons_of_mem e he', hv⟩

/-! ## Putting -/

/-- A new key comes last, and a key that is there stays where it is. -/
theorem keys_put (es : Entries) (k : Scalar) (v : Value) :
    keys (es.put k v) = if k.identity ∈ keys es then keys es else keys es ++ [k.identity] := by
  induction es with
  | nil => simp [put]
  | cons e rest ih =>
    by_cases h : e.1.same k = true
    · simp [put, h, (Scalar.same_iff.1 h).symm]
    · have hne : k.identity ≠ e.1.identity := fun heq => h (Scalar.same_iff.2 heq.symm)
      rw [put, if_neg h, keys_cons, ih, keys_cons]
      by_cases hm : k.identity ∈ keys rest <;> simp [hm, hne]

theorem Distinct.put (h : Distinct es) (k : Scalar) (v : Value) :
    Distinct (Entries.put es k v) := by
  rw [Distinct, keys_put]
  split
  next => exact h
  next hk => simpa using List.Nodup.concat hk h

/-- Putting brings in no other value than the one put. -/
theorem mem_put {e : Scalar × Value} (h : e ∈ es.put k v) : e.2 = v ∨ ∃ e' ∈ es, e'.2 = e.2 := by
  induction es with
  | nil => simp_all [put]
  | cons e' rest ih =>
    rw [put] at h
    split at h
    · rcases List.mem_cons.1 h with rfl | h
      · exact .inl rfl
      · exact .inr ⟨e, List.mem_cons_of_mem e' h, rfl⟩
    · rcases List.mem_cons.1 h with rfl | h
      · exact .inr ⟨_, List.mem_cons_self, rfl⟩
      · rcases ih h with heq | ⟨e₀, h₀, heq⟩
        · exact .inl heq
        · exact .inr ⟨e₀, List.mem_cons_of_mem e' h₀, heq⟩

end Entries

/-! ## Maps within maps -/

/-- Every map in a value has distinct keys. -/
inductive Value.DistinctKeys : Value → Prop
  | scalar (s : Scalar) : DistinctKeys (.scalar s)
  | list {items : List Value} (h : ∀ v ∈ items, DistinctKeys v) : DistinctKeys (.list items)
  | map {es : Entries} (h : es.Distinct) (hv : ∀ e ∈ es, DistinctKeys e.2) : DistinctKeys (.map es)
  | set (items : List Scalar) : DistinctKeys (.set items)

namespace Value.DistinctKeys

variable {es : Entries} {k : Scalar} {v : Value}

theorem distinct (h : DistinctKeys (.map es)) : es.Distinct := by
  cases h with
  | map h _ => exact h

theorem of_get? (h : DistinctKeys (.map es)) (hk : es.get? k = some v) : DistinctKeys v := by
  cases h with
  | map _ hv =>
    obtain ⟨e, he, rfl⟩ := Entries.mem_of_get? hk
    exact hv e he

theorem put (h : DistinctKeys (.map es)) (hv : DistinctKeys v) (k : Scalar) :
    DistinctKeys (.map (Entries.put es k v)) := by
  cases h with
  | map hd hes =>
    refine .map (hd.put k v) fun e he => ?_
    rcases Entries.mem_put he with heq | ⟨e', he', heq⟩
    · exact heq ▸ hv
    · exact heq ▸ hes e' he'

end Value.DistinctKeys

end Backtick
