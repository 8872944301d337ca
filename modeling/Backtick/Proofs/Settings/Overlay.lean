import Backtick.Proofs.Alike
import Backtick.Proofs.Text.Basic
import Backtick.Settings.Overlay

/-!
# Paths through a configuration, and assignments to them

A path leads from map to map, so what stands at a path says something about every shorter one. A
value that is assigned to a path is found there, and a path that is apart from it, so that neither
leads through the other, keeps what it had, also where a value had to give way to a map.

Of assignments to paths that are apart from one another, all hold in the end
(`lookup?_applyEntries_of_mem`).

The assignments here are to entries without numbers, where no two maps are the same. That is what
the environment's overrides amount to as long as no variable leads into a map that stands in another
place as well (`value_applyTo` in `Backtick.Proofs.Settings.Sharing`).
-/

namespace Backtick.Overlay

variable {es : Entries} {k : Text} {v x : Value} {p q : List Text}

/-! ## Paths -/

@[simp] theorem lookup?_nil (v : Value) : lookup? v [] = some v := by
  cases v <;> rfl

@[simp] theorem lookup?_map_cons (es : Entries) (k : Text) (rest : List Text) :
    lookup? (.map es) (k :: rest) = (es.get? (.text k)).bind (lookup? · rest) := rfl

/-- The names along a path as keys. -/
def keysOf (p : List Text) : List Scalar := p.map .text

theorem keysOf_append (p q : List Text) : keysOf (p ++ q) = keysOf p ++ keysOf q :=
  List.map_append

/-- Names are followed as keys are. -/
theorem lookup?_eq_follow? (v : Value) (p : List Text) : lookup? v p = v.follow? (keysOf p) := by
  induction p generalizing v with
  | nil => simp [keysOf]
  | cons k rest ih =>
    cases v with
    | map es =>
      rw [lookup?_map_cons]
      exact congrArg _ (funext ih)
    | _ => rfl

theorem keysOf_prefix_iff : keysOf p <+: keysOf q ↔ p <+: q := by
  refine ⟨fun h => ?_, fun h => h.map _⟩
  obtain ⟨q', hq', heq⟩ := List.prefix_map_iff.1 h
  exact List.map_injective_iff.2 (fun _ _ => Scalar.text.inj) heq ▸ hq'

/-- Where a path leads to something, every shorter one leads to a map. -/
theorem isMap_of_lookup?_append (hq : q ≠ []) (h : lookup? v (p ++ q) = some x) :
    ∃ y, lookup? v p = some y ∧ y.isMap = true := by
  rw [lookup?_eq_follow?, keysOf_append] at h
  rw [lookup?_eq_follow?]
  exact Value.isMap_of_follow?_append (by simpa [keysOf] using hq) h

/-- Neither path leads through the other. -/
def Apart (p q : List Text) : Prop := ¬p <+: q ∧ ¬q <+: p

theorem Apart.symm (h : Apart p q) : Apart q p := ⟨h.2, h.1⟩

/-! ## One assignment -/

/-- The entries with a value put at a path. Maps are made on the way where none stand. -/
def assignIn (entries : Entries) (value : Value) : List Text → Entries
  | [] => entries
  | [k] => entries.put (.text k) value
  | k :: rest =>
    let inner := match entries.get? (.text k) with
      | some (.map inner) => inner
      | _ => []
    entries.put (.text k) (.map (assignIn inner value rest))

/-- A text is the same key as no other scalar. -/
theorem same_text_iff (k : Text) (k' : Scalar) : (Scalar.text k).same k' = true ↔ k' = .text k := by
  rw [Scalar.same_iff]
  cases k' with
  | text t => simp [Scalar.identity, eq_comm]
  | float d =>
    have hne : KeyIdentity.text k ≠ (Scalar.float d).identity := by
      cases d with
      | finite negative m e =>
        simp only [Scalar.identity]
        cases (Double.finite negative m e).toRat? <;> exact nofun
      | _ => exact nofun
    exact ⟨fun h => absurd h hne, nofun⟩
  | _ => simp [Scalar.identity]

@[simp] theorem get?_put_text (es : Entries) (k k' : Text) (v : Value) :
    Entries.get? (Entries.put es (.text k) v) (.text k') =
      if k = k' then some v else es.get? (.text k') := by
  simp [Entries.get?_put, Scalar.identity]

/-- The map that stands under a key, or an empty one. -/
def mapUnder (es : Entries) (k : Text) : Entries :=
  match es.get? (.text k) with
  | some (.map inner) => inner
  | _ => []

theorem assignIn_cons (es : Entries) (v : Value) (k : Text) (hp : p ≠ []) :
    assignIn es v (k :: p) = Entries.put es (.text k) (.map (assignIn (mapUnder es k) v p)) := by
  obtain ⟨k', rest, rfl⟩ := List.exists_cons_of_ne_nil hp
  rfl

/-- Going on from a key leads to the same as going on from the map under it. -/
theorem follow?_mapUnder (es : Entries) (k : Text) {q : List Scalar} (hq : q ≠ []) :
    Value.follow? (.map (mapUnder es k)) q = Value.follow? (.map es) (.text k :: q) := by
  obtain ⟨k', rest, rfl⟩ := List.exists_cons_of_ne_nil hq
  rw [Value.follow?_map_cons es, mapUnder]
  split
  next inner h => rw [h, Option.bind_some]
  next hmap =>
    have hnone : Value.follow? (.map []) (k' :: rest) = none := rfl
    rw [hnone]
    cases h : es.get? (.text k) with
    | none => rfl
    | some y =>
      cases y with
      | map inner => exact absurd h (hmap inner)
      | _ => rfl

theorem lookup?_assignIn (es : Entries) (v : Value) (hp : p ≠ []) :
    lookup? (.map (assignIn es v p)) p = some v := by
  induction p generalizing es with
  | nil => exact absurd rfl hp
  | cons k rest ih =>
    by_cases hrest : rest = []
    · subst hrest
      simp [assignIn]
    · rw [assignIn_cons es v k hrest, lookup?_map_cons, get?_put_text, if_pos rfl]
      exact ih _ hrest

/-- What stands apart from the path of an assignment stays as it is. -/
theorem follow?_assignIn_of_apart (es : Entries) (v : Value) {q : List Scalar}
    (h₁ : ¬keysOf p <+: q) (h₂ : ¬q <+: keysOf p) :
    Value.follow? (.map (assignIn es v p)) q = Value.follow? (.map es) q := by
  induction p generalizing es q with
  | nil => exact absurd List.nil_prefix h₁
  | cons k rest ih =>
    have hq : q ≠ [] := by
      rintro rfl
      exact h₂ List.nil_prefix
    obtain ⟨k', q', rfl⟩ := List.exists_cons_of_ne_nil hq
    -- where the first keys differ, whatever is put under one of them does not matter
    have hother (y : Value) (hk : k' ≠ .text k) :
        Value.follow? (.map (Entries.put es (.text k) y)) (k' :: q') =
          Value.follow? (.map es) (k' :: q') := by
      rw [Value.follow?_map_cons, Entries.get?_put, if_neg ((same_text_iff k k').not.2 hk)]
      rfl
    by_cases hrest : rest = []
    · subst hrest
      refine hother v fun hk => h₁ ?_
      rw [hk]
      exact List.cons_prefix_cons.2 ⟨rfl, List.nil_prefix⟩
    · rw [assignIn_cons es v k hrest]
      by_cases hk : k' = .text k
      · subst hk
        have h₁' : ¬keysOf rest <+: q' := fun h => h₁ (List.cons_prefix_cons.2 ⟨rfl, h⟩)
        have h₂' : ¬q' <+: keysOf rest := fun h => h₂ (List.cons_prefix_cons.2 ⟨rfl, h⟩)
        have hq' : q' ≠ [] := by
          rintro rfl
          exact h₂' List.nil_prefix
        rw [Value.follow?_map_cons, Entries.get?_put, if_pos ((same_text_iff k _).2 rfl),
          Option.bind_some, ih _ h₁' h₂', follow?_mapUnder es k hq']
      · exact hother _ hk

/-! ## All assignments -/

variable {overrides : List (List Text × Scalar)} {s : Scalar}

/-- The entries with all overrides put in place. -/
def applyEntries (entries : Entries) (overrides : List (List Text × Scalar)) : Entries :=
  overrides.foldl (fun es a => assignIn es (.scalar a.2) a.1) entries

/-- What stands apart from the paths of all assignments stays as it is. -/
theorem follow?_applyEntries_of_apart (es : Entries) {q : List Scalar}
    (h : ∀ a ∈ overrides, ¬keysOf a.1 <+: q ∧ ¬q <+: keysOf a.1) :
    Value.follow? (.map (applyEntries es overrides)) q = Value.follow? (.map es) q := by
  induction overrides generalizing es with
  | nil => rfl
  | cons a rest ih =>
    obtain ⟨h₁, h₂⟩ := h a List.mem_cons_self
    have hrest := ih (assignIn es (.scalar a.2) a.1) fun b hb => h b (List.mem_cons_of_mem a hb)
    exact hrest.trans (follow?_assignIn_of_apart es _ h₁ h₂)

theorem lookup?_applyEntries_of_apart (es : Entries) (h : ∀ a ∈ overrides, Apart a.1 q) :
    lookup? (.map (applyEntries es overrides)) q = lookup? (.map es) q := by
  rw [lookup?_eq_follow?, lookup?_eq_follow?]
  exact follow?_applyEntries_of_apart es fun a ha =>
    ⟨keysOf_prefix_iff.not.2 (h a ha).1, keysOf_prefix_iff.not.2 (h a ha).2⟩

/-- Among assignments to paths that are apart from one another, none undoes another. -/
theorem lookup?_applyEntries_of_mem (es : Entries)
    (h : overrides.Pairwise fun a b => Apart a.1 b.1) (hne : p ≠ []) (hp : (p, s) ∈ overrides) :
    lookup? (.map (applyEntries es overrides)) p = some (.scalar s) := by
  induction overrides generalizing es with
  | nil => cases hp
  | cons a rest ih =>
    obtain ⟨ha, hrest⟩ := List.pairwise_cons.1 h
    rcases List.mem_cons.1 hp with rfl | hp
    · have := lookup?_applyEntries_of_apart (assignIn es (.scalar s) p) fun b hb =>
        (ha b hb).symm
      exact this.trans (lookup?_assignIn es _ hne)
    · exact ih (assignIn es (.scalar a.2) a.1) hrest hp

/-! ## The variables -/

theorem path?_ne_nil {name : Text} (h : path? name = some p) : p ≠ [] := by
  rw [path?] at h
  split at h
  · exact Option.some.inj h ▸ Text.splitOnPair_ne_nil _ _
  · cases h

/-- What the variable that overrides the setting at a path makes of it. -/
def overriding? (env : Environment) (p : List Text) : Option Value :=
  (env.find? fun x => path? x.1 = some p).map fun x => .scalar (coerce x.2)

theorem mem_assignments {env : Environment} :
    (p, s) ∈ assignments env ↔ ∃ x ∈ env, path? x.1 = some p ∧ coerce x.2 = s := by
  simp [assignments]

theorem mem_assignments_of_overriding? {env : Environment} (h : overriding? env p = some v) :
    ∃ s, v = .scalar s ∧ (p, s) ∈ assignments env := by
  obtain ⟨x, hx, rfl⟩ := Option.map_eq_some_iff.1 h
  have hpath : path? x.1 = some p := by simpa using List.find?_some hx
  exact ⟨_, rfl, mem_assignments.2 ⟨x, List.mem_of_find?_eq_some hx, hpath, rfl⟩⟩

theorem ne_of_overriding?_eq_none {env : Environment} (h : overriding? env p = none)
    {a : List Text × Scalar} (ha : a ∈ assignments env) : a.1 ≠ p := by
  rintro rfl
  obtain ⟨x, hx, hp, -⟩ := mem_assignments.1 ha
  have := List.find?_eq_none.1 (Option.map_eq_none_iff.1 h) x hx
  exact this (by simpa using hp)

end Backtick.Overlay
