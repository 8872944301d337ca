import Backtick.Proofs.Settings.Overlay
import Backtick.Settings.Merge

/-!
# What a merged configuration has at a path

A key of a merged map has what the map on top has for it, laid over what the map below has for it.
Along a path this goes on as long as the one on top has maps on the way: there, the merged
configuration has what the one on top has, and what the one below has where the one on top has
nothing (`lookup?_merge`).
-/

namespace Backtick

namespace Value

variable {v : Value}

theorem overlay_of_not_map (below : Option Value) (h : v.isMap = false) : overlay below v = v := by
  cases v with
  | map => cases h
  | _ => rfl

theorem overlay_of_below {below : Option Value} (h : ∀ base, below ≠ some (.map base)) (v : Value) :
    overlay below v = v := by
  cases v with
  | map es =>
    rw [overlay.eq_def]
    dsimp only
    split
    next base => exact absurd rfl (h base)
    next => rfl
  | _ => rfl

@[simp] theorem overlay_none (v : Value) : overlay none v = v :=
  overlay_of_below (by simp) v

@[simp] theorem isMap_overlay (below : Option Value) (v : Value) :
    (overlay below v).isMap = v.isMap := by
  cases v with
  | map es =>
    rw [overlay.eq_def]
    dsimp only
    split <;> rfl
  | _ => rfl

end Value

/-- A merged map has for a key what the map on top has, laid over what the one below has. -/
theorem Entries.get?_merge {base upper : Entries} (h : upper.Distinct) (k : Scalar) :
    Entries.get? (Entries.merge base upper) k =
      match Entries.get? upper k with
      | some v => some (Value.overlay (Entries.get? base k) v)
      | none => Entries.get? base k := by
  induction upper generalizing base with
  | nil => rfl
  | cons e rest ih =>
    obtain ⟨hk, hrest⟩ := Entries.distinct_cons.1 h
    rw [Entries.merge, ih hrest, Entries.get?_put, Entries.get?]
    by_cases hs : e.1.same k = true
    · -- no later entry has the key
      have hnone : Entries.get? rest k = none :=
        Entries.get?_eq_none_iff.2 ((Scalar.same_iff.1 hs) ▸ hk)
      simp [hs, hnone, Entries.get?_congr base (Scalar.same_iff.1 hs)]
    · simp [hs]

namespace Overlay

variable {v : Value} {p : List Text}

/-- Wherever the way along a path leads before its end, a map stands. -/
def Passable (v : Value) (p : List Text) : Prop :=
  ∀ q, q <+: p → q ≠ p → ∀ x, lookup? v q = some x → x.isMap = true

theorem Passable.of_get? {es : Entries} {k : Text} (h : Passable (.map es) (k :: p))
    (hv : es.get? (.text k) = some v) : Passable v p := by
  intro q hq hne x hx
  refine h (k :: q) (List.cons_prefix_cons.2 ⟨rfl, hq⟩) (fun heq => hne (List.cons.inj heq).2) x ?_
  rw [lookup?_map_cons, hv]
  exact hx

/-- What an overlaid value has at a path, where the one on top has maps on the way. -/
theorem lookup?_overlay (hd : v.DistinctKeys) (hp : Passable v p) (below : Option Value) :
    lookup? (Value.overlay below v) p =
      match lookup? v p with
      | some x => some (Value.overlay (below.bind (lookup? · p)) x)
      | none => below.bind (lookup? · p) := by
  induction p generalizing v below with
  | nil => simp
  | cons k rest ih =>
    have hmap : v.isMap = true := hp [] List.nil_prefix nofun v (lookup?_nil v)
    cases v with
    | map upper =>
      by_cases hbelow : ∃ base, below = some (.map base)
      · obtain ⟨base, rfl⟩ := hbelow
        show lookup? (.map (Entries.merge base upper)) (k :: rest) = _
        rw [lookup?_map_cons, lookup?_map_cons, Entries.get?_merge hd.distinct]
        cases hk : Entries.get? upper (.text k) with
        | none => rfl
        | some x => exact ih (hd.of_get? hk) (hp.of_get? hk) _
      · -- below is no map, so it has nothing to add
        have hbelow : ∀ base, below ≠ some (.map base) := fun base h => hbelow ⟨base, h⟩
        have hnone : below.bind (lookup? · (k :: rest)) = none := by
          match below with
          | none => rfl
          | some (.map base) => exact absurd rfl (hbelow base)
          | some (.scalar _) | some (.list _) | some (.set _) => rfl
        rw [Value.overlay_of_below hbelow, hnone]
        cases lookup? (.map upper) (k :: rest) with
        | none => rfl
        | some x => exact (congrArg some (Value.overlay_none x)).symm
    | _ => cases hmap

/-- What a merged configuration has at a path, where the one on top has maps on the way. -/
theorem lookup?_merge {base upper : Entries} (hd : (Value.map upper).DistinctKeys)
    (hp : Passable (.map upper) p) :
    lookup? (.map (Entries.merge base upper)) p =
      match lookup? (.map upper) p with
      | some x => some (Value.overlay (lookup? (.map base) p) x)
      | none => lookup? (.map base) p :=
  lookup?_overlay hd hp (some (.map base))

end Overlay

end Backtick
