import Backtick.Proofs.DistinctKeys

/-!
# Configurations as maps

A configuration is a map of maps, and the order of its keys says nothing. So two of them are the
same when every path of keys leads to the same in both: to nothing, to a map, or to one value that
is no map.

* `Value.follow?` — what a path of keys leads to
* `Value.sight` — what is seen there without a look at the entries of a map
* `Value.Alike` — the same is seen along every path
-/

namespace Backtick

/-- What a value is, apart from the entries of a map. -/
inductive Outline where
  | map
  | leaf (v : Value)

namespace Value

variable {v w : Value} {es : Entries} {o : Option Value} {k : Scalar} {p q : List Scalar}

/-! ## Following a path -/

/-- The value to which a path of keys leads. -/
def follow? (v : Value) : List Scalar → Option Value
  | [] => some v
  | k :: rest =>
    match v with
    | .map es => (Entries.get? es k).bind (follow? · rest)
    | _ => none

@[simp] theorem follow?_nil (v : Value) : follow? v [] = some v := by
  cases v <;> rfl

@[simp] theorem follow?_map_cons (es : Entries) (k : Scalar) (p : List Scalar) :
    follow? (.map es) (k :: p) = (es.get? k).bind (follow? · p) := rfl

theorem follow?_cons_of_not_map (h : v.isMap = false) (k : Scalar) (p : List Scalar) :
    follow? v (k :: p) = none := by
  cases v with
  | map => cases h
  | _ => rfl

/-- A path goes on from where its first part leads to. -/
theorem follow?_append (v : Value) (p q : List Scalar) :
    follow? v (p ++ q) = (follow? v p).bind (follow? · q) := by
  induction p generalizing v with
  | nil => simp
  | cons k rest ih =>
    cases v with
    | map es =>
      rw [List.cons_append, follow?_map_cons, follow?_map_cons, Option.bind_assoc]
      exact congrArg _ (funext fun x => ih x)
    | _ => rfl

/-- Where a path leads to something, every shorter one leads to a map. -/
theorem isMap_of_follow?_append (hq : q ≠ []) (h : follow? v (p ++ q) = some w) :
    ∃ x, follow? v p = some x ∧ x.isMap = true := by
  rw [follow?_append] at h
  obtain ⟨x, hx, hw⟩ := Option.bind_eq_some_iff.1 h
  refine ⟨x, hx, ?_⟩
  by_contra hmap
  obtain ⟨k, rest, rfl⟩ := List.exists_cons_of_ne_nil hq
  rw [follow?_cons_of_not_map (by simpa using hmap)] at hw
  cases hw

/-! ## What is seen along a path -/

/-- The outline of a value. -/
def outline : Value → Outline
  | .map _ => .map
  | v => .leaf v

/-- What is seen at the end of a path, from a place where a value may stand. -/
def sight (o : Option Value) (p : List Scalar) : Option Outline :=
  (o.bind (follow? · p)).map outline

@[simp] theorem sight_none (p : List Scalar) : sight none p = none := rfl

@[simp] theorem sight_nil (v : Value) : sight (some v) [] = some v.outline := by
  simp [sight]

@[simp] theorem sight_map_cons (es : Entries) (k : Scalar) (p : List Scalar) :
    sight (some (.map es)) (k :: p) = sight (es.get? k) p := rfl

theorem sight_cons_of_not_map (h : v.isMap = false) (k : Scalar) (p : List Scalar) :
    sight (some v) (k :: p) = none := by
  simp [sight, follow?_cons_of_not_map h]

theorem outline_of_not_map (h : v.isMap = false) : v.outline = .leaf v := by
  cases v with
  | map => cases h
  | _ => rfl

theorem outline_eq_leaf (h : v.outline = .leaf w) : v = w ∧ v.isMap = false := by
  cases v with
  | map => cases h
  | _ => cases h; exact ⟨rfl, rfl⟩

/-- Behind the end of a path the same is seen as from the value to which it leads. -/
theorem sight_append_of_follow? (h : follow? v p = some w) (q : List Scalar) :
    sight (some v) (p ++ q) = sight (some w) q := by
  rw [sight, sight, Option.bind_some, follow?_append, h]

/-- Where a path leads to something, a map is seen on the way. -/
theorem sight_of_follow?_append (hq : q ≠ []) (h : follow? v (p ++ q) = some w) :
    sight (some v) p = some .map := by
  obtain ⟨x, hx, hmap⟩ := isMap_of_follow?_append hq h
  rw [sight, Option.bind_some, hx]
  cases x with
  | map => rfl
  | _ => cases hmap

/-- What can stand in a place: nothing, a value that is no map, or a map. -/
inductive Shape : Option Value → Prop where
  | none : Shape none
  | leaf (v : Value) (h : v.isMap = false) : Shape (some v)
  | map (es : Entries) : Shape (some (.map es))

theorem shape (o : Option Value) : Shape o := by
  cases o with
  | none => exact .none
  | some v =>
    cases v with
    | map es => exact .map es
    | _ => exact .leaf _ rfl

theorem eq_none_of_sight (h : sight o = sight none) : o = none := by
  cases o with
  | none => rfl
  | some v =>
    have hnil := congrFun h []
    simp at hnil

theorem ne_none_of_sight {o' : Option Value} (h : sight o' = sight o) (ho : o' ≠ none) :
    o ≠ none := by
  rintro rfl
  exact ho (eq_none_of_sight h)

/-- A value that is no map is known by its sight. -/
theorem eq_leaf_of_sight (hv : v.isMap = false) (h : sight o = sight (some v)) : o = some v := by
  have hnil := congrFun h []
  cases o with
  | none => simp at hnil
  | some w =>
    rw [sight_nil, sight_nil, outline_of_not_map hv, Option.some.injEq] at hnil
    rw [(outline_eq_leaf hnil).1]

/-- A map is known by its sight, up to the sights of its values. -/
theorem eq_map_of_sight (h : sight o = sight (some (.map es))) :
    ∃ es' : Entries, o = some (.map es') ∧ ∀ k, sight (es'.get? k) = sight (es.get? k) := by
  cases shape o with
  | none => exact absurd (congrFun h []) (by simp)
  | leaf v hv =>
    have hnil := congrFun h []
    rw [sight_nil, sight_nil, outline_of_not_map hv] at hnil
    cases hnil
  | map es' => exact ⟨es', rfl, fun k => funext fun p => congrFun h (k :: p)⟩

/-- To see the same along every path, it is enough that two places that are related look alike or
hold maps whose values are related, key by key. -/
theorem sight_eq_of_related {R : Option Value → Option Value → Prop}
    (hR : ∀ a b, R a b → sight a = sight b ∨
      ∃ es es' : Entries, a = some (.map es) ∧ b = some (.map es') ∧
        ∀ k, R (es.get? k) (es'.get? k))
    {a b : Option Value} (h : R a b) : sight a = sight b := by
  funext p
  induction p generalizing a b with
  | nil =>
    rcases hR a b h with heq | ⟨es, es', rfl, rfl, -⟩
    · exact congrFun heq []
    · rfl
  | cons k rest ih =>
    rcases hR a b h with heq | ⟨es, es', rfl, rfl, hk⟩
    · exact congrFun heq (k :: rest)
    · exact ih (hk k)

/-! ## Values that are alike -/

/-- The same is seen along every path. -/
def Alike (v w : Value) : Prop := ∀ p, sight (some v) p = sight (some w) p

theorem alike_iff : Alike v w ↔ sight (some v) = sight (some w) := funext_iff.symm

end Value

end Backtick
