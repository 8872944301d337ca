import Backtick.Proofs.Settings.Merge

/-!
# The laws of merging

Merging is associative as far as no path leads to a map below, to something else in the middle and
to a map on top: there the middle hides the map below from the one on top, unless these two are
merged first. Merging a configuration with itself changes nothing, and neither does merging an empty
one. That the same override can be merged again, and the result over its own base, follows.

The laws are about places where a value may stand (`overlaid`), so that a key that is missing is a
case like the others. Each is shown along a path, which leads from the places of two maps to those
of a key.

* `Value.sight_overlaid_self`, `Value.sight_overlaid_assoc` — the laws
* `Value.sight_overlaid_congr` — merging does not look at the order of keys
* `merge_laws` — the laws for maps
-/

namespace Backtick

namespace Value

variable {v : Value} {a b c a' b' : Option Value}

/-! ## Values over values -/

/-- What stands in a place after merging, where there was something below and on top, or nothing. -/
def overlaid (below above : Option Value) : Option Value :=
  match above with
  | some v => some (overlay below v)
  | none => below

@[simp] theorem overlaid_none_right (a : Option Value) : overlaid a none = a := rfl

@[simp] theorem overlaid_none_left (b : Option Value) : overlaid none b = b := by
  cases b with
  | none => rfl
  | some v => exact congrArg some (overlay_none v)

/-- A value that is no map hides what is below. -/
theorem overlaid_leaf (a : Option Value) (hv : v.isMap = false) : overlaid a (some v) = some v :=
  congrArg some (overlay_of_not_map a hv)

/-- A map stays as it is over a value that is none. -/
theorem overlaid_over_leaf (hv : v.isMap = false) (es : Entries) :
    overlaid (some v) (some (.map es)) = some (.map es) := by
  refine congrArg some (overlay_of_below (fun base h => ?_) _)
  cases h
  cases hv

theorem overlaid_maps (base upper : Entries) :
    overlaid (some (.map base)) (some (.map upper)) = some (.map (Entries.merge base upper)) := rfl

end Value

/-- A key of a merged map has what the two maps have for it, one over the other. -/
theorem Entries.get?_merge_eq {base upper : Entries} (h : upper.Distinct) (k : Scalar) :
    Entries.get? (Entries.merge base upper) k =
      Value.overlaid (Entries.get? base k) (Entries.get? upper k) :=
  Entries.get?_merge h k

/-! ## Distinct keys -/

namespace Value

/-- Merging keeps the keys of maps distinct. -/
theorem DistinctKeys.overlay (h : v.DistinctKeys) :
    ∀ {below : Option Value}, (∀ w ∈ below, DistinctKeys w) →
      (Value.overlay below v).DistinctKeys := by
  induction h with
  | scalar s => exact fun _ => .scalar s
  | list h => exact fun _ => .list h
  | set items => exact fun _ => .set items
  | @map es hd hv ih =>
    intro below hbelow
    have hmerge : ∀ {upper base : Entries}, (∀ e ∈ upper, e ∈ es) → (Value.map base).DistinctKeys →
        (Value.map (Entries.merge base upper)).DistinctKeys := by
      intro upper
      induction upper with
      | nil => exact fun _ hbase => hbase
      | cons e rest ih' =>
        intro base hsub hbase
        rw [Entries.merge]
        refine ih' (fun x hx => hsub x (List.mem_cons_of_mem e hx)) (hbase.put ?_ e.1)
        exact ih e (hsub e List.mem_cons_self) fun w hw => hbase.of_get? hw
    cases shape below with
    | none => rw [overlay_none]; exact .map hd hv
    | leaf w hw =>
      rw [overlay_of_below (fun base h => by cases h; cases hw)]
      exact .map hd hv
    | map base => exact hmerge (fun e he => he) (hbelow _ rfl)

theorem DistinctKeys.overlaid (ha : ∀ w ∈ a, DistinctKeys w) (hb : ∀ w ∈ b, DistinctKeys w) :
    ∀ w ∈ Value.overlaid a b, DistinctKeys w := by
  cases b with
  | none => exact ha
  | some v =>
    intro w hw
    cases hw
    exact (hb v rfl).overlay ha

/-- The values of a map have distinct keys when the map has. -/
theorem DistinctKeys.values {es : Entries} (h : (Value.map es).DistinctKeys) (k : Scalar) :
    ∀ w ∈ es.get? k, w.DistinctKeys :=
  fun _ hw => h.of_get? hw

theorem DistinctKeys.merge {base upper : Entries} (hb : (Value.map base).DistinctKeys)
    (hu : (Value.map upper).DistinctKeys) : (Value.map (Entries.merge base upper)).DistinctKeys :=
  have hbelow : ∀ w ∈ some (Value.map base), w.DistinctKeys := by simpa using hb
  hu.overlay hbelow

/-! ## The laws -/

/-- A value over itself. -/
theorem sight_overlaid_self (ha : ∀ w ∈ a, DistinctKeys w) : sight (overlaid a a) = sight a := by
  refine sight_eq_of_related
    (R := fun x y => ∃ a, (∀ w ∈ a, DistinctKeys w) ∧ x = overlaid a a ∧ y = a) ?_ ⟨a, ha, rfl, rfl⟩
  rintro _ b ⟨a, hb, rfl, rfl⟩
  cases shape b with
  | none => exact Or.inl rfl
  | leaf v hv => exact Or.inl (by rw [overlaid_leaf _ hv])
  | map es =>
    have hes := hb _ rfl
    exact Or.inr ⟨_, _, overlaid_maps es es, rfl, fun k =>
      ⟨es.get? k, hes.values k, Entries.get?_merge_eq hes.distinct k, rfl⟩⟩

/-- Merging does not look at the order of keys. -/
theorem sight_overlaid_congr (hb : ∀ w ∈ b, DistinctKeys w) (hb' : ∀ w ∈ b', DistinctKeys w)
    (ha : sight a = sight a') (hbb : sight b = sight b') :
    sight (overlaid a b) = sight (overlaid a' b') := by
  refine sight_eq_of_related
    (R := fun x y => ∃ a b a' b', (∀ w ∈ b, DistinctKeys w) ∧ (∀ w ∈ b', DistinctKeys w) ∧
      sight a = sight a' ∧ sight b = sight b' ∧ x = overlaid a b ∧ y = overlaid a' b')
    ?_ ⟨a, b, a', b', hb, hb', ha, hbb, rfl, rfl⟩
  rintro _ _ ⟨a, b, a', b', hb, hb', ha, hbb, rfl, rfl⟩
  cases shape b with
  | none =>
    rw [eq_none_of_sight hbb.symm]
    exact Or.inl ha
  | leaf v hv =>
    rw [eq_leaf_of_sight hv hbb.symm, overlaid_leaf a hv, overlaid_leaf a' hv]
    exact Or.inl rfl
  | map upper =>
    obtain ⟨upper', rfl, hupper⟩ := eq_map_of_sight hbb.symm
    cases shape a with
    | none =>
      rw [eq_none_of_sight ha.symm, overlaid_none_left, overlaid_none_left]
      exact Or.inl hbb
    | leaf v hv =>
      rw [eq_leaf_of_sight hv ha.symm, overlaid_over_leaf hv, overlaid_over_leaf hv]
      exact Or.inl hbb
    | map base =>
      obtain ⟨base', rfl, hbase⟩ := eq_map_of_sight ha.symm
      have hd := hb _ rfl
      have hd' := hb' _ rfl
      exact Or.inr ⟨_, _, overlaid_maps base upper, overlaid_maps base' upper', fun k =>
        ⟨_, _, _, _, hd.values k, hd'.values k, (hbase k).symm, (hupper k).symm,
          Entries.get?_merge_eq hd.distinct k, Entries.get?_merge_eq hd'.distinct k⟩⟩

/-- A path leads to a map at the first place, to a value that is none at the second, and to a map
again at the third. -/
def Conflict (a b c : Option Value) : Prop :=
  ∃ p v, sight a p = some .map ∧ sight b p = some (.leaf v) ∧ sight c p = some .map

/-- Three places that are merged in either order hold the same, but for three maps, and for a map
that is hidden from another one. -/
theorem overlaid_assoc_or (a b c : Option Value) :
    overlaid (overlaid a b) c = overlaid a (overlaid b c) ∨
      (∃ ea eb ec : Entries, a = some (.map ea) ∧ b = some (.map eb) ∧ c = some (.map ec)) ∨
      ∃ (ea : Entries) (v : Value) (ec : Entries), v.isMap = false ∧
        a = some (.map ea) ∧ b = some v ∧ c = some (.map ec) := by
  cases shape c with
  | none => exact Or.inl rfl
  | leaf v hv => exact Or.inl (by rw [overlaid_leaf _ hv, overlaid_leaf b hv, overlaid_leaf a hv])
  | map ec =>
    cases shape b with
    | none => exact Or.inl (by rw [overlaid_none_right, overlaid_none_left])
    | leaf v hv =>
      rw [overlaid_leaf a hv, overlaid_over_leaf hv]
      cases shape a with
      | none => exact Or.inl (by rw [overlaid_none_left])
      | leaf w hw => exact Or.inl (by rw [overlaid_over_leaf hw])
      | map ea => exact Or.inr (Or.inr ⟨ea, v, ec, hv, rfl, rfl, rfl⟩)
    | map eb =>
      cases shape a with
      | none => exact Or.inl (by rw [overlaid_none_left, overlaid_none_left])
      | leaf w hw =>
        refine Or.inl ?_
        rw [overlaid_over_leaf hw, overlaid_maps, overlaid_over_leaf hw]
      | map ea => exact Or.inr (Or.inl ⟨ea, eb, ec, rfl, rfl, rfl⟩)

/-- Three values over each other. -/
theorem sight_overlaid_assoc (hb : ∀ w ∈ b, DistinctKeys w) (hc : ∀ w ∈ c, DistinctKeys w)
    (h : ¬Conflict a b c) :
    sight (overlaid (overlaid a b) c) = sight (overlaid a (overlaid b c)) := by
  refine sight_eq_of_related
    (R := fun x y => ∃ a b c, (∀ w ∈ b, DistinctKeys w) ∧ (∀ w ∈ c, DistinctKeys w) ∧
      ¬Conflict a b c ∧ x = overlaid (overlaid a b) c ∧ y = overlaid a (overlaid b c))
    ?_ ⟨a, b, c, hb, hc, h, rfl, rfl⟩
  rintro _ _ ⟨a, b, c, hb, hc, h, rfl, rfl⟩
  rcases overlaid_assoc_or a b c with heq | ⟨ea, eb, ec, rfl, rfl, rfl⟩ |
    ⟨ea, v, ec, hv, rfl, rfl, rfl⟩
  · exact Or.inl (congrArg sight heq)
  · have hdb := hb _ rfl
    have hdc := hc _ rfl
    refine Or.inr ⟨_, _, rfl, rfl, fun k =>
      ⟨ea.get? k, eb.get? k, ec.get? k, hdb.values k, hdc.values k, ?_, ?_, ?_⟩⟩
    · rintro ⟨p, v, hk⟩
      exact h ⟨k :: p, v, hk⟩
    · rw [Entries.get?_merge_eq hdc.distinct, Entries.get?_merge_eq hdb.distinct]
    · rw [Entries.get?_merge_eq (hdb.merge hdc).distinct, Entries.get?_merge_eq hdc.distinct]
  · refine absurd ⟨[], v, rfl, ?_, rfl⟩ h
    rw [sight_nil, outline_of_not_map hv]

/-- A value that is merged again, and one that is merged over its own base. -/
theorem sight_overlaid_again (ha : ∀ w ∈ a, DistinctKeys w) (hb : ∀ w ∈ b, DistinctKeys w) :
    sight (overlaid (overlaid a b) b) = sight (overlaid a b) ∧
      sight (overlaid a (overlaid a b)) = sight (overlaid a b) := by
  have hbb : ¬Conflict a b b := by
    rintro ⟨p, v, -, hleaf, hmap⟩
    rw [hleaf] at hmap
    cases hmap
  have haa : ¬Conflict a a b := by
    rintro ⟨p, v, hmap, hleaf, -⟩
    rw [hmap] at hleaf
    cases hleaf
  constructor
  · calc sight (overlaid (overlaid a b) b)
      _ = sight (overlaid a (overlaid b b)) := sight_overlaid_assoc hb hb hbb
      _ = sight (overlaid a b) :=
        sight_overlaid_congr (DistinctKeys.overlaid hb hb) hb rfl (sight_overlaid_self hb)
  · calc sight (overlaid a (overlaid a b))
      _ = sight (overlaid (overlaid a a) b) := (sight_overlaid_assoc ha hb haa).symm
      _ = sight (overlaid a b) := sight_overlaid_congr hb hb (sight_overlaid_self ha) rfl

end Value

/-- Maps can be merged in any grouping, unless a path leads to a map in the first, to something else
in the second and to a map in the third. An empty map changes nothing, nor does a map that is merged
with itself, again, or over its own base. -/
theorem merge_laws {a b c : Entries} (ha : (Value.map a).DistinctKeys)
    (hb : (Value.map b).DistinctKeys) (hc : (Value.map c).DistinctKeys) :
    Value.merge (.map a) (.map b) = .ok (.map (Entries.merge a b)) ∧
      Value.Alike (.map (Entries.merge a [])) (.map a) ∧
      Value.Alike (.map (Entries.merge [] a)) (.map a) ∧
      Value.Alike (.map (Entries.merge a a)) (.map a) ∧
      Value.Alike (.map (Entries.merge (Entries.merge a b) b)) (.map (Entries.merge a b)) ∧
      Value.Alike (.map (Entries.merge a (Entries.merge a b))) (.map (Entries.merge a b)) ∧
      (¬Value.Conflict (some (.map a)) (some (.map b)) (some (.map c)) →
        Value.Alike (.map (Entries.merge (Entries.merge a b) c))
          (.map (Entries.merge a (Entries.merge b c)))) := by
  have ha' : ∀ w ∈ some (Value.map a), w.DistinctKeys := by simpa using ha
  have hb' : ∀ w ∈ some (Value.map b), w.DistinctKeys := by simpa using hb
  have hc' : ∀ w ∈ some (Value.map c), w.DistinctKeys := by simpa using hc
  have hleft : Value.Alike (.map (Entries.merge [] a)) (.map a) := by
    rintro (_ | ⟨k, p⟩)
    · rfl
    · rw [Value.sight_map_cons, Value.sight_map_cons, Entries.get?_merge_eq ha.distinct]
      exact congrFun (congrArg Value.sight (Value.overlaid_none_left _)) p
  obtain ⟨hagain, hown⟩ := Value.sight_overlaid_again ha' hb'
  refine ⟨rfl, fun _ => rfl, hleft, Value.alike_iff.2 (Value.sight_overlaid_self ha'),
    Value.alike_iff.2 hagain, Value.alike_iff.2 hown, fun h => ?_⟩
  exact Value.alike_iff.2 (Value.sight_overlaid_assoc hb' hc' h)

/-- A configuration whose locator section is no map, one that sets it, and one on top. -/
theorem merge_laws_locator :
    let a : Entries := [(.text "locator", .text "html")]
    let b : Entries := [(.text "locator", .map [(.text "marker", .text "sql")])]
    let c : Entries := [(.text "locator", .map [(.text "marker", .text "css")])]
    ((Value.map a).DistinctKeys ∧ (Value.map b).DistinctKeys ∧ (Value.map c).DistinctKeys) ∧
      ¬Value.Conflict (some (.map a)) (some (.map b)) (some (.map c)) ∧
      Value.Alike (.map (Entries.merge (Entries.merge a b) b)) (.map (Entries.merge a b)) ∧
      Value.Alike (.map (Entries.merge (Entries.merge a b) c))
        (.map (Entries.merge a (Entries.merge b c))) := by
  intro a b c
  have hone {k : Scalar} {v : Value} (hv : v.DistinctKeys) : (Value.map [(k, v)]).DistinctKeys :=
    .map (by simp [Entries.Distinct]) (by simpa using hv)
  have ha : (Value.map a).DistinctKeys := hone (.scalar _)
  have hb : (Value.map b).DistinctKeys := hone (hone (.scalar _))
  have hc : (Value.map c).DistinctKeys := hone (hone (.scalar _))
  have hfree : ¬Value.Conflict (some (.map a)) (some (.map b)) (some (.map c)) := by
    rintro ⟨p, v, hmap, hleaf, -⟩
    cases p with
    | nil => cases hleaf
    | cons k rest =>
      -- no path that leads on from the first configuration leads to a map
      rw [Value.sight_map_cons, Entries.get?] at hmap
      split at hmap
      · cases rest with
        | nil => cases hmap
        | cons k' rest =>
          rw [Value.sight_cons_of_not_map rfl] at hmap
          cases hmap
      · cases hmap
  obtain ⟨-, -, -, -, hagain, -, hassoc⟩ := merge_laws ha hb hc
  exact ⟨⟨ha, hb, hc⟩, hfree, hagain, hassoc hfree⟩

/-- A value in the middle hides what is below it only while it stands there itself. -/
example :
    let a : Entries := [(.text "x", .map [(.text "k", .int 1)])]
    let b : Entries := [(.text "x", .int 2)]
    let c : Entries := [(.text "x", .map [(.text "l", .int 3)])]
    Entries.merge (Entries.merge a b) c = [(.text "x", .map [(.text "l", .int 3)])] ∧
      Entries.merge a (Entries.merge b c) =
        [(.text "x", .map [(.text "k", .int 1), (.text "l", .int 3)])] :=
  ⟨rfl, rfl⟩

end Backtick
