import Backtick.Proofs.Linked
import Backtick.Proofs.Settings.Overlay

/-!
# Overrides of maps that stand in one place only

A variable changes the map to which its path leads, wherever that map stands. As long as every map
on the way stands in one place only (`Unshared`), that is the same as to build the configuration
anew with the value at its path (`assignFrom_eq_rebuild`), and maps that stood in one place go on to
do so (`Unshared.assign`). So the overrides of an environment then are assignments to the entries of
the configuration, one after another (`value_applyTo`).
-/

namespace Backtick

open Overlay

namespace Linked

variable {ms : Members} {k : Text} {w : Linked} {p q : List Text} {n m j next : Nat} {s : Scalar}

/-! ## The way along a path -/

/-- The numbers of the maps on the way along a path, without what stands at its end. -/
def way : Linked → List Text → List Nat
  | .map n ms, k :: rest =>
    n :: match Members.get? ms (.text k) with
      | some v => way v rest
      | none => []
  | _, _ => []

/-- Every map on the way along a path stands in one place only. -/
def Unshared (v : Linked) (p : List Text) : Prop := ∀ n ∈ v.way p, v.numbers.count n = 1

instance (v : Linked) (p : List Text) : Decidable (Unshared v p) :=
  inferInstanceAs (Decidable (∀ n ∈ v.way p, v.numbers.count n = 1))

theorem way_map_of_get? (h : ms.get? (.text k) = some w) (p : List Text) :
    way (.map n ms) (k :: p) = n :: way w p := by
  rw [way, h]

theorem way_map_of_none (h : ms.get? (.text k) = none) (p : List Text) :
    way (.map n ms) (k :: p) = [n] := by
  rw [way, h]

theorem way_empty (n : Nat) (p : List Text) : ∀ j ∈ way (.map n []) p, j = n := by
  cases p with
  | nil => simp [way]
  | cons k rest => rw [way_map_of_none rfl]; simp

theorem count_numbers_map (n : Nat) (ms : Members) (k : Scalar) (v : Linked) (j : Nat) :
    (map n (ms.put k v)).numbers.count j =
      (map n (ms.put k hole)).numbers.count j + v.numbers.count j := by
  simp only [numbers, List.count_cons, count_numbersIn_put ms k v]
  omega

/-- What is found under a key stands in the place of that key. -/
theorem count_numbers_of_get? (h : ms.get? (.text k) = some w) (n j : Nat) :
    (map n ms).numbers.count j =
      (map n (ms.put (.text k) hole)).numbers.count j + w.numbers.count j := by
  have hput := count_numbers_map n ms (.text k) w j
  rwa [put_of_get? h] at hput

theorem count_numbers_hole_le (n : Nat) (ms : Members) (k : Scalar) (j : Nat) :
    (map n (ms.put k hole)).numbers.count j ≤ (map n ms).numbers.count j := by
  simp only [numbers, List.count_cons]
  exact Nat.add_le_add_right (count_numbersIn_put_hole_le ms k j) _

theorem mem_numbers_of_mem_way {v : Linked} (h : j ∈ way v p) : j ∈ v.numbers := by
  induction p generalizing v with
  | nil => cases v <;> cases h
  | cons k rest ih =>
    cases v with
    | map n ms =>
      cases hk : Members.get? ms (.text k) with
      | none =>
        rw [way_map_of_none hk] at h
        exact List.mem_singleton.1 h ▸ List.mem_cons_self
      | some w =>
        rw [way_map_of_get? hk] at h
        rcases List.mem_cons.1 h with rfl | h
        · exact List.mem_cons_self
        · have hpos := List.count_pos_iff.2 (ih h)
          have hcount := count_numbers_of_get? hk n j
          exact List.count_pos_iff.1 (by omega)
    | _ => cases h

/-- Where no two maps are the same, none stands in two places. -/
theorem unshared_of_nodup {v : Linked} (h : v.numbers.Nodup) (p : List Text) : Unshared v p :=
  fun _ hj => List.count_eq_one_of_mem h (mem_numbers_of_mem_way hj)

/-- What is on the way behind a key stands there once, and not anywhere else. -/
theorem Unshared.count_of_get? (h : Unshared (.map n ms) (k :: p))
    (hk : ms.get? (.text k) = some w) (hj : j ∈ way w p) :
    w.numbers.count j = 1 ∧ (map n (ms.put (.text k) hole)).numbers.count j = 0 := by
  have hone := h j (by rw [way_map_of_get? hk]; exact List.mem_cons_of_mem n hj)
  have hpos := List.count_pos_iff.2 (mem_numbers_of_mem_way hj)
  have hcount := count_numbers_of_get? hk n j
  omega

theorem Unshared.notMem_hole (h : Unshared (.map n ms) (k :: p))
    (hk : ms.get? (.text k) = some w) (hj : j ∈ way w p) :
    j ∉ (map n (ms.put (.text k) hole)).numbers :=
  List.count_eq_zero.1 (h.count_of_get? hk hj).2

theorem Unshared.of_get? (h : Unshared (.map n ms) (k :: p)) (hk : ms.get? (.text k) = some w) :
    Unshared w p :=
  fun _ hj => (h.count_of_get? hk hj).1

theorem unshared_empty (n : Nat) (p : List Text) : Unshared (.map n []) p := by
  intro j hj
  rw [way_empty n p j hj]
  simp [numbers, numbersIn]

/-! ## Building anew -/

/-- A map with a value at a path, built anew along the path. Maps that are made on the way are
numbered from one number on. -/
def rebuild (next n : Nat) (ms : Members) (s : Scalar) : List Text → Linked
  | [] => .map n ms
  | [k] => .map n (ms.put (.text k) (.scalar s))
  | k :: k' :: rest =>
    .map n (ms.put (.text k) (match ms.get? (.text k) with
      | some (.map m inner) => rebuild next m inner s (k' :: rest)
      | _ => rebuild (next + 1) next [] s (k' :: rest)))

/-- What a path finds under a key before its end: a map, in which it goes on, or something else, for
which a map has to be made. -/
inductive Found (ms : Members) (k : Text) : Prop where
  | map (m : Nat) (inner : Members) (h : ms.get? (.text k) = some (.map m inner))
  | other (h : ∀ m inner, ms.get? (.text k) ≠ some (.map m inner))

theorem found (ms : Members) (k : Text) : Found ms k := by
  by_cases h : ∃ m inner, ms.get? (.text k) = some (.map m inner)
  · obtain ⟨m, inner, h⟩ := h
    exact .map m inner h
  · exact .other fun m inner hk => h ⟨m, inner, hk⟩

section steps

variable {inner : Members} {c : Linked}

theorem rebuild_of_map (h : ms.get? (.text k) = some (.map m inner)) (hp : p ≠ []) :
    rebuild next n ms s (k :: p) = .map n (ms.put (.text k) (rebuild next m inner s p)) := by
  obtain ⟨k', rest, rfl⟩ := List.exists_cons_of_ne_nil hp
  rw [rebuild, h]

theorem rebuild_of_other (h : ∀ m inner, ms.get? (.text k) ≠ some (.map m inner)) (hp : p ≠ []) :
    rebuild next n ms s (k :: p) =
      .map n (ms.put (.text k) (rebuild (next + 1) next [] s p)) := by
  obtain ⟨k', rest, rfl⟩ := List.exists_cons_of_ne_nil hp
  rw [rebuild]
  split
  next m inner hk => exact absurd hk (h m inner)
  next => rfl

theorem assignFrom_of_map (h : ms.get? (.text k) = some (.map m inner)) (hp : p ≠ []) :
    assignFrom next n ms s (k :: p) c = assignFrom next m inner s p c := by
  obtain ⟨k', rest, rfl⟩ := List.exists_cons_of_ne_nil hp
  rw [assignFrom, h]

theorem assignFrom_of_other (h : ∀ m inner, ms.get? (.text k) ≠ some (.map m inner))
    (hp : p ≠ []) :
    assignFrom next n ms s (k :: p) c =
      assignFrom (next + 1) next [] s p (write n (.text k) (.map next []) c) := by
  obtain ⟨k', rest, rfl⟩ := List.exists_cons_of_ne_nil hp
  rw [assignFrom]
  split
  next m inner hk => exact absurd hk (h m inner)
  next => rfl

end steps

/-- An assignment that goes on from maps which stand nowhere but in a place changes what fills that
place. -/
theorem assignFrom_map_put {n' : Nat} {ms' : Members} {k' : Scalar}
    (hway : ∀ j ∈ way (.map n ms) p, j ∉ (map n' (ms'.put k' hole)).numbers)
    (hnext : ∀ j, next ≤ j → j ∉ (map n' (ms'.put k' hole)).numbers) (c : Linked) :
    assignFrom next n ms s p (.map n' (ms'.put k' c)) =
      .map n' (ms'.put k' (assignFrom next n ms s p c)) := by
  induction p generalizing next n ms c with
  | nil => rfl
  | cons k rest ih =>
    have hn : n ∉ (map n' (ms'.put k' hole)).numbers := hway n List.mem_cons_self
    by_cases hrest : rest = []
    · subst hrest
      exact write_map_put hn c
    · cases found ms k with
      | map m inner hk =>
        rw [assignFrom_of_map hk hrest, assignFrom_of_map hk hrest]
        refine ih (fun j hj => hway j ?_) hnext c
        rw [way_map_of_get? hk]
        exact List.mem_cons_of_mem n hj
      | other hk =>
        rw [assignFrom_of_other hk hrest, assignFrom_of_other hk hrest, write_map_put hn]
        refine ih (fun j hj => ?_) (fun j hj => hnext j (Nat.le_of_succ_le hj)) _
        exact way_empty next rest j hj ▸ hnext next (Nat.le_refl next)

/-- Where every map on the way stands in one place only, an assignment builds the map anew. -/
theorem assignFrom_eq_rebuild (h : Unshared (.map n ms) p)
    (hnext : ∀ j ∈ (map n ms).numbers, j < next) :
    assignFrom next n ms s p (.map n ms) = rebuild next n ms s p := by
  induction p generalizing next n ms with
  | nil => rfl
  | cons k rest ih =>
    have hn : n ∉ numbersIn ms := by
      have hone := h n List.mem_cons_self
      rw [numbers, List.count_cons_self] at hone
      exact List.count_eq_zero.1 (by omega)
    have hwrite (x : Linked) : write n (.text k) x (.map n ms) = .map n (ms.put (.text k) x) := by
      rw [write, if_pos rfl, writeMembers_of_notMem ms hn]
    -- numbers that are not in use do not stand elsewhere
    have hfresh (j : Nat) (hj : next ≤ j) : j ∉ (map n (ms.put (.text k) hole)).numbers := by
      intro hmem
      have hpos := List.count_pos_iff.2 hmem
      have hle := count_numbers_hole_le n ms (.text k) j
      have := hnext j (List.count_pos_iff.1 (by omega))
      omega
    by_cases hrest : rest = []
    · subst hrest
      exact hwrite (.scalar s)
    · cases found ms k with
      | map m inner hk =>
        rw [assignFrom_of_map hk hrest, rebuild_of_map hk hrest]
        have hlocal := @assignFrom_map_put inner rest m next s n ms (.text k)
          (fun j hj => h.notMem_hole hk hj) hfresh (.map m inner)
        rw [put_of_get? hk] at hlocal
        rw [hlocal, ih (h.of_get? hk) fun j hj => hnext j ?_]
        have hpos := List.count_pos_iff.2 hj
        have hcount := count_numbers_of_get? hk n j
        exact List.count_pos_iff.1 (by omega)
      | other hk =>
        rw [assignFrom_of_other hk hrest, rebuild_of_other hk hrest, hwrite]
        have hlocal := @assignFrom_map_put [] rest next (next + 1) s n ms (.text k)
          (fun j hj => way_empty next rest j hj ▸ hfresh next (Nat.le_refl next))
          (fun j hj => hfresh j (Nat.le_of_succ_le hj)) (.map next [])
        rw [hlocal, ih (unshared_empty next rest) fun j hj => ?_]
        simp only [numbers, numbersIn, List.mem_singleton] at hj
        omega

/-! ## What is built -/

theorem value_rebuild (next n : Nat) (ms : Members) (s : Scalar) (p : List Text) :
    (rebuild next n ms s p).value = .map (assignIn (entries ms) (.scalar s) p) := by
  induction p generalizing next n ms with
  | nil => rfl
  | cons k rest ih =>
    by_cases hrest : rest = []
    · subst hrest
      simp [rebuild, assignIn]
    · rw [assignIn_cons _ _ _ hrest, mapUnder]
      cases found ms k with
      | map m inner hk => simp [rebuild_of_map hk hrest, ih, hk]
      | other hk =>
        rw [rebuild_of_other hk hrest, value_map, entries_put, ih, get?_entries]
        split
        next es hes =>
          obtain ⟨v, hv, heq⟩ := Option.map_eq_some_iff.1 hes
          cases v with
          | map m inner => exact absurd hv (hk m inner)
          | _ => cases heq
        next => rfl

/-- What is built has every map in no more places than before, and a new one in one at most. -/
theorem count_numbers_rebuild_le (next n : Nat) (ms : Members) (s : Scalar) (p : List Text)
    (j : Nat) :
    (rebuild next n ms s p).numbers.count j ≤
      (map n ms).numbers.count j + if next ≤ j then 1 else 0 := by
  induction p generalizing next n ms with
  | nil => exact Nat.le_add_right _ _
  | cons k rest ih =>
    have hle := count_numbers_hole_le n ms (.text k) j
    by_cases hrest : rest = []
    · subst hrest
      rw [rebuild, count_numbers_map]
      simp only [numbers, List.count_nil] at hle ⊢
      omega
    · cases found ms k with
      | map m inner hk =>
        have hcount := count_numbers_of_get? hk n j
        have hinner := ih next m inner
        rw [rebuild_of_map hk hrest, count_numbers_map]
        omega
      | other hk =>
        have hnew := ih (next + 1) next []
        rw [rebuild_of_other hk hrest, count_numbers_map]
        simp only [numbers, numbersIn, List.count_singleton, beq_iff_eq] at hnew hle ⊢
        split at hnew <;> split at hnew <;> split <;> omega

theorem mem_way_put {x : Linked} (h : j ∈ way (.map n (ms.put (.text k) x)) q) :
    j ∈ way (.map n ms) q ∨ ∃ q', q = k :: q' ∧ j ∈ way x q' := by
  cases q with
  | nil => cases h
  | cons k' q' =>
    rw [way, get?_put] at h
    rw [way]
    by_cases hk : (Scalar.text k).same (.text k') = true
    · rw [if_pos hk] at h
      cases (same_text_iff k _).1 hk
      rcases List.mem_cons.1 h with rfl | h
      · exact .inl List.mem_cons_self
      · exact .inr ⟨q', rfl, h⟩
    · rw [if_neg hk] at h
      exact .inl h

/-- The way along a path leads through no other maps than before, apart from new ones. -/
theorem mem_way_rebuild (h : j ∈ way (rebuild next n ms s p) q) :
    j ∈ way (.map n ms) q ∨ next ≤ j := by
  induction p generalizing next n ms q with
  | nil => exact .inl h
  | cons k rest ih =>
    by_cases hrest : rest = []
    · subst hrest
      rcases mem_way_put h with h | ⟨q', -, h⟩
      · exact .inl h
      · cases q' <;> cases h
    · cases found ms k with
      | map m inner hk =>
        rw [rebuild_of_map hk hrest] at h
        rcases mem_way_put h with hold | ⟨q', rfl, hx⟩
        · exact .inl hold
        · refine (ih hx).imp_left fun hinner => ?_
          rw [way_map_of_get? hk]
          exact List.mem_cons_of_mem n hinner
      | other hk =>
        rw [rebuild_of_other hk hrest] at h
        rcases mem_way_put h with h | ⟨q', -, h⟩
        · exact .inl h
        · rcases ih h with h | h
          · exact .inr (way_empty next q' j h ▸ Nat.le_refl next)
          · exact .inr (Nat.le_of_succ_le h)

/-! ## Overrides -/

/-- The next assignment finds what it would have found before, in one place only. -/
theorem Unshared.rebuild (h : Unshared (.map n ms) q)
    (hnext : ∀ j ∈ (map n ms).numbers, j < next) : Unshared (rebuild next n ms s p) q := by
  intro j hj
  have hpos := List.count_pos_iff.2 (mem_numbers_of_mem_way hj)
  have hle := count_numbers_rebuild_le next n ms s p j
  rcases mem_way_rebuild hj with hold | hnew
  · have hone := h j hold
    have hlt := hnext j (mem_numbers_of_mem_way hold)
    rw [if_neg (Nat.not_le.2 hlt)] at hle
    omega
  · have hzero : (map n ms).numbers.count j = 0 :=
      List.count_eq_zero.2 fun hmem => Nat.not_lt.2 hnew (hnext j hmem)
    rw [if_pos hnew] at hle
    omega

theorem exists_rebuild (next n : Nat) (ms : Members) (s : Scalar) (p : List Text) :
    ∃ ms', rebuild next n ms s p = .map n ms' := by
  match p with
  | [] | [_] | _ :: _ :: _ => exact ⟨_, rfl⟩

/-- Overrides by variables that do not lead into a map which stands in another place as well are
assignments to the entries of the configuration. -/
theorem value_foldl_assign {overrides : List (List Text × Scalar)}
    (h : ∀ a ∈ overrides, Unshared (.map n ms) a.1) :
    (overrides.foldl assign (.map n ms)).value =
      .map (applyEntries (entries ms) overrides) := by
  induction overrides generalizing n ms with
  | nil => rfl
  | cons a rest ih =>
    obtain ⟨ha, hrest⟩ := List.forall_mem_cons.1 h
    have hnext : ∀ j ∈ (map n ms).numbers, j < (map n ms).fresh := fun j hj => lt_fresh hj
    have hassign : assign (.map n ms) a = rebuild (map n ms).fresh n ms a.2 a.1 :=
      assignFrom_eq_rebuild ha hnext
    obtain ⟨ms', hms'⟩ := exists_rebuild (map n ms).fresh n ms a.2 a.1
    have hvalue : Value.map (entries ms') = .map (assignIn (entries ms) (.scalar a.2) a.1) := by
      rw [← value_map n, ← hms', value_rebuild]
    rw [List.foldl_cons, hassign, hms', ih fun b hb => hms' ▸ (hrest b hb).rebuild hnext,
      Value.map.inj hvalue]
    rfl

end Linked

namespace Overlay

variable {env : Environment} {n : Nat} {ms : Members}

theorem applyTo_map (env : Environment) (n : Nat) (ms : Members) :
    applyTo env (.map n ms) = .ok ((assignments env).foldl assign (.map n ms)) := rfl

/-- What the overrides of an environment make of a configuration, if no variable leads into a map
that stands in another place as well. -/
theorem value_applyTo (h : ∀ a ∈ assignments env, Linked.Unshared (.map n ms) a.1) :
    (applyTo env (.map n ms)).map (·.value) =
      .ok (.map (applyEntries (Linked.entries ms) (assignments env))) := by
  rw [applyTo_map]
  exact congrArg Except.ok (Linked.value_foldl_assign h)

/-- The overrides of an environment over a configuration in which no two maps are the same. -/
theorem apply_map (env : Environment) (es : Entries) :
    apply env (.map es) = .ok (.map (applyEntries es (assignments env))) := by
  have hvalue := Linked.value_ofValue (.map es)
  have hnodup := Linked.nodup_numbers_ofValue (.map es)
  rw [apply]
  cases h : Linked.ofValue (.map es) with
  | map n ms =>
    rw [h] at hvalue hnodup
    rw [value_applyTo fun a _ => Linked.unshared_of_nodup hnodup a.1, Value.map.inj hvalue]
  | _ => rw [h] at hvalue; cases hvalue

end Overlay

end Backtick
