import Backtick.Proofs.DistinctKeys
import Backtick.Proofs.Outcome
import Backtick.Settings.Merge

/-!
# What is in a value with shared maps

The numbers of maps say which of them are the same; the value alone depends on them only when
something is written. To look up, to put a member into members at hand and to merge means the same
with numbers and without.

A map of a value stands in a *place*, which is filled by it. What stands elsewhere is what the value
has when the place is left empty: a write to a map that does not stand elsewhere changes only what
fills the place (`write_map_put`).
-/

namespace Backtick

namespace Linked

variable {v x : Linked} {ms : Members} {k : Scalar} {n m : Nat}

/-! ## Values -/

@[simp] theorem value_map (n : Nat) (ms : Members) : (map n ms).value = .map (entries ms) := rfl

@[simp] theorem value_scalar (s : Scalar) : (scalar s).value = .scalar s := rfl

theorem values_eq_map (vs : List Linked) : values vs = vs.map value := by
  induction vs with
  | nil => rfl
  | cons v rest ih => rw [values, ih, List.map_cons]

@[simp] theorem get?_entries (ms : Members) (k : Scalar) :
    Entries.get? (entries ms) k = (ms.get? k).map value := by
  induction ms with
  | nil => rfl
  | cons m rest ih =>
    rw [entries, Entries.get?, Members.get?, ih]
    split <;> rfl

@[simp] theorem entries_put (ms : Members) (k : Scalar) (v : Linked) :
    entries (ms.put k v) = Entries.put (entries ms) k v.value := by
  induction ms with
  | nil => rfl
  | cons m rest ih =>
    rw [entries, Entries.put, Members.put]
    split
    · rfl
    · rw [entries, ih]

theorem get?_put (ms : Members) (k k' : Scalar) (v : Linked) :
    (ms.put k v).get? k' = if k.same k' then some v else ms.get? k' := by
  induction ms with
  | nil => simp [Members.put, Members.get?]
  | cons m rest ih =>
    by_cases h : m.1.same k = true
    · have hk : m.1.same k' = k.same k' := by simp [Scalar.same, Scalar.same_iff.1 h]
      rw [Members.put, if_pos h, Members.get?, Members.get?, hk]
      split <;> rfl
    · rw [Members.put, if_neg h, Members.get?, Members.get?, ih]
      by_cases hm : m.1.same k' = true
      · have hk : ¬k.same k' = true := fun hk =>
          h (Scalar.same_iff.2 ((Scalar.same_iff.1 hm).trans (Scalar.same_iff.1 hk).symm))
        rw [if_pos hm, if_neg hk, if_pos hm]
      · rw [if_neg hm, if_neg hm]

/-! ## Other numbers -/

mutual

@[simp] theorem value_shift (d : Nat) : ∀ v : Linked, (v.shift d).value = v.value
  | .scalar _ | .set _ => rfl
  | .list items => congrArg Value.list (values_shiftAll d items)
  | .map _ ms => congrArg Value.map (entries_shiftMembers d ms)

theorem values_shiftAll (d : Nat) : ∀ vs : List Linked, values (shiftAll d vs) = values vs
  | [] => rfl
  | v :: rest => by rw [shiftAll, values, values, value_shift d v, values_shiftAll d rest]

theorem entries_shiftMembers (d : Nat) : ∀ ms : Members, entries (shiftMembers d ms) = entries ms
  | [] => rfl
  | (k, v) :: rest => by
    rw [shiftMembers, entries, entries, value_shift d v, entries_shiftMembers d rest]

end

mutual

theorem value_number (next : Nat) : ∀ v : Value, (number next v).1.value = v
  | .scalar _ | .set _ => rfl
  | .list items => congrArg Value.list (values_numberAll next items)
  | .map es => congrArg Value.map (entries_numberEntries (next + 1) es)

theorem values_numberAll (next : Nat) : ∀ vs : List Value, values (numberAll next vs).1 = vs
  | [] => rfl
  | v :: rest => by rw [numberAll, values, value_number, values_numberAll]

theorem entries_numberEntries (next : Nat) :
    ∀ es : Entries, entries (numberEntries next es).1 = es
  | [] => rfl
  | (k, v) :: rest => by rw [numberEntries, entries, value_number, entries_numberEntries]

end

@[simp] theorem value_ofValue (v : Value) : (ofValue v).value = v := value_number 0 v

mutual

theorem numbers_number (next : Nat) :
    ∀ v : Value, ∃ c, (number next v).2 = next + c ∧ (number next v).1.numbers = List.range' next c
  | .scalar _ | .set _ => ⟨0, rfl, rfl⟩
  | .list items => numbers_numberAll next items
  | .map es => by
    obtain ⟨c, hlast, hnumbers⟩ := numbers_numberEntries (next + 1) es
    refine ⟨c + 1, ?_, ?_⟩
    · rw [number, hlast]
      omega
    · rw [number, numbers, hnumbers, List.range'_succ]

theorem numbers_numberAll (next : Nat) : ∀ vs : List Value, ∃ c,
    (numberAll next vs).2 = next + c ∧ numbersOf (numberAll next vs).1 = List.range' next c
  | [] => ⟨0, rfl, rfl⟩
  | v :: rest => by
    obtain ⟨c, hnext, hv⟩ := numbers_number next v
    obtain ⟨c', hlast, hrest⟩ := numbers_numberAll (next + c) rest
    refine ⟨c + c', ?_, ?_⟩
    · show (numberAll (number next v).2 rest).2 = _
      rw [hnext, hlast, Nat.add_assoc]
    · show (number next v).1.numbers ++ numbersOf (numberAll (number next v).2 rest).1 = _
      rw [hnext, hv, hrest, List.range'_append_1]

theorem numbers_numberEntries (next : Nat) : ∀ es : Entries, ∃ c,
    (numberEntries next es).2 = next + c ∧ numbersIn (numberEntries next es).1 = List.range' next c
  | [] => ⟨0, rfl, rfl⟩
  | (k, v) :: rest => by
    obtain ⟨c, hnext, hv⟩ := numbers_number next v
    obtain ⟨c', hlast, hrest⟩ := numbers_numberEntries (next + c) rest
    refine ⟨c + c', ?_, ?_⟩
    · show (numberEntries (number next v).2 rest).2 = _
      rw [hnext, hlast, Nat.add_assoc]
    · show (number next v).1.numbers ++ numbersIn (numberEntries (number next v).2 rest).1 = _
      rw [hnext, hv, hrest, List.range'_append_1]

end

/-- No two maps of a value without numbers are the same. -/
theorem nodup_numbers_ofValue (v : Value) : (ofValue v).numbers.Nodup := by
  obtain ⟨c, -, hnumbers⟩ := numbers_number 0 v
  rw [ofValue, hnumbers]
  exact List.nodup_range'

/-! ## Merging -/

mutual

theorem entries_mergeMembers (next : Nat) (base : Members) :
    ∀ ms : Members,
      entries (mergeMembers next base ms).1 = Entries.merge (entries base) (entries ms)
  | [] => rfl
  | (k, v) :: rest => by
    rw [mergeMembers, entries, Entries.merge, get?_entries, ← value_layOver next (base.get? k) v,
      ← entries_put]
    exact entries_mergeMembers _ _ rest

theorem value_layOver (next : Nat) (below : Option Linked) :
    ∀ v : Linked, (layOver next below v).1.value = Value.overlay (below.map value) v.value
  | .scalar _ | .set _ => rfl
  | .list _ => rfl
  | .map n ms => by
    match below with
    | none => rfl
    | some (.map _ base) => exact congrArg Value.map (entries_mergeMembers (next + 1) base ms)
    | some (.scalar _) | some (.list _) | some (.set _) => rfl

end

theorem values_mergeIntoList (next : Nat) (items : List Linked) (ms : Members) :
    (mergeIntoList next items ms).map values =
      Backtick.mergeIntoList (values items) (entries ms) := by
  induction ms generalizing next items with
  | nil => rfl
  | cons m rest ih =>
    rw [mergeIntoList, entries, Backtick.mergeIntoList, values_eq_map, List.length_map]
    cases listIndex? items.length m.1 with
    | error f => rfl
    | ok i =>
      have hany : (items.map value).any (Value.isKey m.1) =
          items.any fun item => item.value.isKey m.1 := List.any_map
      have hbelow :
          (if (items.map value).any (Value.isKey m.1) then (items.map value)[i]? else none) =
          Option.map value
            (if items.any fun item => item.value.isKey m.1 then items[i]? else none) := by
        rw [hany, List.getElem?_map]
        split <;> rfl
      dsimp only
      rw [ih, hbelow, ← value_layOver next, values_eq_map, List.map_set]

/-- Merging means the same with numbers and without. -/
theorem merge_value (base override : Linked) :
    (merge base override).map value = Value.merge base.value override.value := by
  cases base with
  | map n b =>
    cases override with
    | map m o =>
      exact congrArg (Except.ok ∘ Value.map)
        (entries_mergeMembers (max (map n b).fresh (map m o).fresh + 1) b o)
    | _ => rfl
  | list items =>
    cases override with
    | map m o =>
      have h := values_mergeIntoList (max (list items).fresh (map m o).fresh) items o
      rw [merge, value, value, Value.merge, ← h]
      cases mergeIntoList _ items o <;> rfl
    | _ => rfl
  | set items =>
    cases override with
    | map m o =>
      cases o with
      | nil => rfl
      | cons e rest => rfl
    | _ => rfl
  | scalar s => cases override <;> rfl

/-! ## The places of maps -/

mutual

/-- To write to a map that a value does not have changes nothing. -/
theorem write_of_notMem : ∀ v : Linked, n ∉ v.numbers → write n k x v = v
  | .scalar _, _ | .set _, _ => rfl
  | .list items, h => congrArg list (writeAll_of_notMem items h)
  | .map m ms, h => by
    rw [numbers, List.mem_cons, not_or] at h
    rw [write, writeMembers_of_notMem ms h.2, if_neg (Ne.symm h.1)]

theorem writeAll_of_notMem : ∀ vs : List Linked, n ∉ numbersOf vs → writeAll n k x vs = vs
  | [], _ => rfl
  | v :: rest, h => by
    rw [numbersOf, List.mem_append, not_or] at h
    rw [writeAll, write_of_notMem v h.1, writeAll_of_notMem rest h.2]

theorem writeMembers_of_notMem : ∀ ms : Members, n ∉ numbersIn ms → writeMembers n k x ms = ms
  | [], _ => rfl
  | (k', v) :: rest, h => by
    rw [numbersIn, List.mem_append, not_or] at h
    rw [writeMembers, write_of_notMem v h.1, writeMembers_of_notMem rest h.2]

end

/-- What fills a place that is left empty. -/
def hole : Linked := .scalar .null

theorem put_of_get? (h : ms.get? k = some v) : ms.put k v = ms := by
  induction ms with
  | nil => cases h
  | cons m rest ih =>
    rw [Members.get?] at h
    rw [Members.put]
    split at h
    next hk => rw [if_pos hk, ← Option.some.inj h]
    next hk => rw [if_neg hk, ih h]

theorem count_numbersIn_put (ms : Members) (k : Scalar) (v : Linked) (n : Nat) :
    (numbersIn (ms.put k v)).count n =
      (numbersIn (ms.put k hole)).count n + v.numbers.count n := by
  induction ms with
  | nil => simp [Members.put, numbersIn, hole, numbers]
  | cons m rest ih =>
    rw [Members.put, Members.put]
    split
    · simp only [numbersIn, hole, numbers, List.nil_append, List.count_append]
      omega
    · simp only [numbersIn, List.count_append, ih]
      omega

theorem count_numbersIn_put_hole_le (ms : Members) (k : Scalar) (n : Nat) :
    (numbersIn (ms.put k hole)).count n ≤ (numbersIn ms).count n := by
  induction ms with
  | nil => simp [Members.put, numbersIn, hole, numbers]
  | cons m rest ih =>
    rw [Members.put]
    split
    · simp only [numbersIn, hole, numbers, List.nil_append, List.count_append]
      omega
    · simp only [numbersIn, List.count_append]
      omega

/-- A write to a map that stands nowhere but in a place changes what fills that place. -/
theorem write_map_put {k' : Scalar} (h : n ∉ (map m (ms.put k hole)).numbers) (v : Linked) :
    write n k' x (map m (ms.put k v)) = map m (ms.put k (write n k' x v)) := by
  rw [numbers, List.mem_cons, not_or] at h
  rw [write, if_neg (Ne.symm h.1)]
  refine congrArg (map m) ?_
  have hms := h.2
  clear h
  induction ms with
  | nil => rfl
  | cons e rest ih =>
    rw [Members.put] at hms
    rw [Members.put, Members.put]
    split at hms
    next hk =>
      rw [numbersIn, List.mem_append, not_or] at hms
      rw [if_pos hk, if_pos hk, writeMembers, writeMembers_of_notMem rest hms.2]
    next hk =>
      rw [numbersIn, List.mem_append, not_or] at hms
      rw [if_neg hk, if_neg hk, writeMembers, write_of_notMem _ hms.1, ih hms.2]

theorem lt_fresh (h : n ∈ v.numbers) : n < v.fresh :=
  Nat.lt_succ_of_le (List.le_max?_getD_of_mem h)

end Linked

end Backtick
