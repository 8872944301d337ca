import Backtick.Proofs.Settings.Coercion
import Backtick.Proofs.Settings.Sharing
import Mathlib.Data.List.Pairwise

/-!
# The environment over a configuration

The variables of an environment are laid over a configuration one after another. An assignment
changes what is seen along a path only where its own place is on the way, at the end or behind it
(`sightOver`). Two places that are apart are not both on the way to one path, so the order of
assignments to places that are apart does not matter.

* `sight_applyEntries` — what is seen in a configuration under assignments
* `apply_paths` — every variable holds at its path, the rest stays, and the order does not matter
-/

namespace Backtick.Overlay

variable {es : Entries} {p : List Text} {v : Value} {q : List Scalar}
variable {overrides overrides' : List (List Text × Scalar)} {env : Environment}

/-! ## What is seen under an assignment -/

open Classical in
/-- What is seen along a path under an assignment, over what was seen before. -/
noncomputable def sightOver (seen : List Scalar → Option Outline) (a : List Text × Scalar)
    (q : List Scalar) : Option Outline :=
  if keysOf a.1 <+: q then Value.sight (some (.scalar a.2)) (q.drop a.1.length)
  else if q <+: keysOf a.1 then some .map
  else seen q

theorem sight_assignIn (es : Entries) (s : Scalar) (hp : p ≠ []) :
    Value.sight (some (.map (assignIn es (.scalar s) p))) =
      sightOver (Value.sight (some (.map es))) (p, s) := by
  have hend : Value.follow? (.map (assignIn es (.scalar s) p)) (keysOf p) = some (.scalar s) :=
    (lookup?_eq_follow? _ p).symm.trans (lookup?_assignIn es (.scalar s) hp)
  funext q
  rw [sightOver]
  split
  next h =>
    obtain ⟨rest, rfl⟩ := h
    rw [Value.sight_append_of_follow? hend, List.drop_left' (by simp [keysOf])]
  next h =>
    split
    next h' =>
      obtain ⟨rest, hrest⟩ := h'
      have hne : rest ≠ [] := by
        rintro rfl
        rw [List.append_nil] at hrest
        exact h (hrest ▸ List.prefix_rfl)
      exact Value.sight_of_follow?_append hne (hrest ▸ hend)
    next h' => exact congrArg (Option.map Value.outline) (follow?_assignIn_of_apart es _ h h')

/-- Of two places that are apart, only one can be on the way. -/
theorem sightOver_comm {a b : List Text × Scalar} (h : Apart a.1 b.1)
    (seen : List Scalar → Option Outline) :
    sightOver (sightOver seen a) b = sightOver (sightOver seen b) a := by
  funext q
  have hab : ¬keysOf a.1 <+: keysOf b.1 := keysOf_prefix_iff.not.2 h.1
  have hba : ¬keysOf b.1 <+: keysOf a.1 := keysOf_prefix_iff.not.2 h.2
  rw [sightOver, sightOver, sightOver, sightOver]
  by_cases ha : keysOf a.1 <+: q
  · have hb : ¬keysOf b.1 <+: q := fun hb =>
      (List.prefix_or_prefix_of_prefix ha hb).elim hab hba
    rw [if_pos ha, if_neg hb, if_neg fun hq => hab (ha.trans hq), if_pos ha]
  · rw [if_neg ha, if_neg ha]
    by_cases hb : keysOf b.1 <+: q
    · rw [if_pos hb, if_pos hb, if_neg fun hq => hba (hb.trans hq)]
    · rw [if_neg hb, if_neg hb]
      split <;> split <;> rfl

/-- What is seen in a configuration under assignments. -/
theorem sight_applyEntries (es : Entries) (h : ∀ a ∈ overrides, a.1 ≠ []) :
    Value.sight (some (.map (applyEntries es overrides))) =
      overrides.foldl sightOver (Value.sight (some (.map es))) := by
  induction overrides generalizing es with
  | nil => rfl
  | cons a rest ih =>
    have hrest := ih (assignIn es (.scalar a.2) a.1) fun b hb => h b (List.mem_cons_of_mem a hb)
    rw [sight_assignIn es a.2 (h a List.mem_cons_self)] at hrest
    exact hrest

/-- The order of assignments to places that are apart does not matter. -/
theorem alike_applyEntries_of_perm (es : Entries) (hne : ∀ a ∈ overrides, a.1 ≠ [])
    (hapart : overrides.Pairwise fun a b => Apart a.1 b.1) (hperm : overrides.Perm overrides') :
    Value.Alike (.map (applyEntries es overrides)) (.map (applyEntries es overrides')) := by
  rw [Value.alike_iff, sight_applyEntries es hne,
    sight_applyEntries es fun a ha => hne a (hperm.mem_iff.2 ha)]
  refine hperm.foldl_eq' (fun a ha b hb seen => ?_) _
  by_cases hab : a = b
  · rw [hab]
  · have : Std.Symm fun a b : List Text × Scalar => Apart a.1 b.1 := ⟨fun _ _ h => h.symm⟩
    exact sightOver_comm (hapart.forall ha hb hab) seen

theorem foldl_sightOver {a : List Text × Scalar} (h : ∀ b ∈ overrides, Apart b.1 a.1)
    (seen : List Scalar → Option Outline) :
    overrides.foldl sightOver (sightOver seen a) =
      sightOver (overrides.foldl sightOver seen) a := by
  induction overrides generalizing seen with
  | nil => rfl
  | cons b rest ih =>
    rw [List.foldl_cons, List.foldl_cons, ← sightOver_comm (h b List.mem_cons_self)]
    exact ih (fun c hc => h c (List.mem_cons_of_mem b hc)) _

/-- An assignment holds in the end as if it came last, if all later ones are apart from it. -/
theorem sight_applyEntries_insert (es : Entries) {before after : List (List Text × Scalar)}
    {a : List Text × Scalar} (hne : ∀ b ∈ before ++ a :: after, b.1 ≠ [])
    (hafter : ∀ b ∈ after, Apart b.1 a.1) :
    Value.sight (some (.map (applyEntries es (before ++ a :: after)))) =
      sightOver (Value.sight (some (.map (applyEntries es (before ++ after))))) a := by
  have hne' : ∀ b ∈ before ++ after, b.1 ≠ [] := fun b hb =>
    hne b (List.mem_append.2 ((List.mem_append.1 hb).imp_right (List.mem_cons_of_mem a)))
  rw [sight_applyEntries es hne, sight_applyEntries es hne', List.foldl_append, List.foldl_append,
    List.foldl_cons, foldl_sightOver hafter]

/-! ## The variables -/

/-- The underscore. -/
def mark : CodePoint := .ofNat 0x5F

/-- A variable with this name overrides a setting. -/
def Qualifies (name : Text) : Prop := namePrefix <+: name ∧ [mark, mark] <:+: name

/-- The path of the setting that a name stands for. -/
def pathOf (name : Text) : List Text :=
  Text.splitOnPair mark (Text.lower (name.drop namePrefix.length))

/-- The paths of the overriding variables are apart from one another. -/
def Separate (env : Environment) : Prop :=
  env.Pairwise fun x y => Qualifies x.1 → Qualifies y.1 → Apart (pathOf x.1) (pathOf y.1)

theorem path?_eq_some_iff {name : Text} :
    path? name = some p ↔ Qualifies name ∧ pathOf name = p := by
  rw [path?]
  split
  next h =>
    rw [Bool.and_eq_true, List.isPrefixOf_iff_prefix, Text.occursIn_iff] at h
    exact ⟨fun hp => ⟨h, Option.some.inj hp⟩, fun hp => congrArg some hp.2⟩
  next h =>
    rw [Bool.and_eq_true, List.isPrefixOf_iff_prefix, Text.occursIn_iff] at h
    exact iff_of_false (Option.some_ne_none p).symm fun hp => h hp.1

theorem path?_of_not_qualifies {name : Text} (h : ¬Qualifies name) : path? name = none :=
  Option.eq_none_iff_forall_ne_some.2 fun _ hp => h (path?_eq_some_iff.1 hp).1

theorem Separate.pairwise (h : Separate env) :
    (assignments env).Pairwise fun a b => Apart a.1 b.1 := by
  refine List.pairwise_filterMap.2 (h.imp fun hxy a ha b hb => ?_)
  obtain ⟨p, hp, rfl⟩ := Option.map_eq_some_iff.1 ha
  obtain ⟨q, hq, rfl⟩ := Option.map_eq_some_iff.1 hb
  obtain ⟨hx, rfl⟩ := path?_eq_some_iff.1 hp
  obtain ⟨hy, rfl⟩ := path?_eq_some_iff.1 hq
  exact hxy hx hy

theorem ne_nil_of_mem_assignments {a : List Text × Scalar} (ha : a ∈ assignments env) :
    a.1 ≠ [] := by
  obtain ⟨x, -, hp, -⟩ := mem_assignments.1 ha
  exact path?_ne_nil hp

/-- No variable leads into a map that stands in another place as well. -/
def LeadsClear (env : Environment) (config : Linked) : Prop :=
  ∀ x ∈ env, Qualifies x.1 → config.Unshared (pathOf x.1)

theorem LeadsClear.unshared {config : Linked} (h : LeadsClear env config) :
    ∀ a ∈ assignments env, config.Unshared a.1 := by
  intro a ha
  obtain ⟨x, hx, hp, -⟩ := mem_assignments.1 ha
  obtain ⟨hq, hpath⟩ := path?_eq_some_iff.1 hp
  exact hpath ▸ h x hx hq

/-- Under an environment whose variables set places that are apart and lead into no map that stands
in another place as well, each of these places has what the variable's text is taken for. All that
is apart from them stays as it was, variables that do not qualify count for nothing, and the order
of the variables does not matter. -/
theorem apply_paths (h : Separate env) {n : Nat} {ms : Members}
    (hclear : LeadsClear env (.map n ms)) :
    ∃ config, applyTo env (.map n ms) = .ok config ∧
      (∀ x ∈ env, Qualifies x.1 →
        ∃ s, Taken x.2 s ∧ lookup? config.value (pathOf x.1) = some (.scalar s)) ∧
      (∀ q : List Scalar,
        (∀ x ∈ env, Qualifies x.1 → ¬keysOf (pathOf x.1) <+: q ∧ ¬q <+: keysOf (pathOf x.1)) →
          config.value.follow? q = (Linked.map n ms).value.follow? q) ∧
      (∀ before x after, env = before ++ x :: after → ¬Qualifies x.1 →
        applyTo (before ++ after) (.map n ms) = .ok config) ∧
      ∀ env', env.Perm env' →
        ∃ config', applyTo env' (.map n ms) = .ok config' ∧
          Value.Alike config'.value config.value := by
  have hvalue := Linked.value_foldl_assign hclear.unshared
  refine ⟨_, applyTo_map env n ms, ?_, ?_, ?_, ?_⟩
  · intro x hx hq
    have hp := path?_eq_some_iff.2 ⟨hq, rfl⟩
    rw [hvalue]
    exact ⟨coerce x.2, taken_coerce x.2, lookup?_applyEntries_of_mem _ h.pairwise
      (path?_ne_nil hp) (mem_assignments.2 ⟨x, hx, hp, rfl⟩)⟩
  · intro q hq
    rw [hvalue]
    refine follow?_applyEntries_of_apart _ fun a ha => ?_
    obtain ⟨x, hx, hp, -⟩ := mem_assignments.1 ha
    obtain ⟨hname, hpath⟩ := path?_eq_some_iff.1 hp
    exact hpath ▸ hq x hx hname
  · rintro before x after rfl hx
    have hnone : assignments (before ++ x :: after) = assignments (before ++ after) := by
      simp [assignments, path?_of_not_qualifies hx]
    rw [hnone, applyTo_map]
  · intro env' hperm
    have hp : (assignments env).Perm (assignments env') := hperm.filterMap _
    have hclear' : LeadsClear env' (.map n ms) := fun x hx => hclear x (hperm.mem_iff.2 hx)
    refine ⟨_, applyTo_map env' n ms, fun q => ?_⟩
    rw [hvalue, Linked.value_foldl_assign hclear'.unshared]
    exact (alike_applyEntries_of_perm _ (fun a => ne_nil_of_mem_assignments) h.pairwise hp q).symm

/-- Two variables for a section that is no map yet, and one that does not qualify. -/
def formatterEnvironment : Environment :=
  [("TSXLINT_FORMATTER__MAX_CONCURRENCY", "3"), ("HOME", "/root"),
    ("TSXLINT_FORMATTER__PARSER", "css")]

/-- A configuration with a text in the place of a section, and one map in two other places. -/
def formatterText : Members :=
  [(.text "formatter", .scalar (.text "css")), (.text "output", .map 2 []),
    (.text "general", .map 2 [])]

theorem apply_paths_formatter :
    Separate formatterEnvironment ∧ LeadsClear formatterEnvironment (.map 1 formatterText) ∧
      ∃ config, applyTo formatterEnvironment (.map 1 formatterText) = .ok config ∧
        lookup? config.value ["formatter", "max_concurrency"] = some (.int 3) ∧
        lookup? config.value ["formatter", "parser"] = some (.text "css") ∧
        config.value.follow? [.text "output"] = some (.map []) ∧
        applyTo (formatterEnvironment.eraseIdx 1) (.map 1 formatterText) = .ok config := by
  have hseparate : Separate formatterEnvironment := by
    unfold Separate Qualifies Apart
    decide +kernel
  have hclear : LeadsClear formatterEnvironment (.map 1 formatterText) := by
    unfold LeadsClear Qualifies
    decide +kernel
  obtain ⟨config, happly, hpaths, hframe, hskip, -⟩ := apply_paths hseparate hclear
  have htaken (x : Text × Text) (hx : x ∈ formatterEnvironment) (hq : Qualifies x.1) :
      lookup? config.value (pathOf x.1) = some (.scalar (coerce x.2)) := by
    obtain ⟨s, hs, hlookup⟩ := hpaths x hx hq
    rw [hlookup, taken_iff.1 hs]
  have houtput : ∀ x ∈ formatterEnvironment, Qualifies x.1 →
      ¬keysOf (pathOf x.1) <+: [.text "output"] ∧ ¬[.text "output"] <+: keysOf (pathOf x.1) := by
    unfold Qualifies
    decide +kernel
  refine ⟨hseparate, hclear, config, happly, ?_, ?_, hframe _ houtput, ?_⟩
  · exact htaken ("TSXLINT_FORMATTER__MAX_CONCURRENCY", "3") (by decide +kernel)
      (by unfold Qualifies; decide +kernel)
  · exact htaken ("TSXLINT_FORMATTER__PARSER", "css") (by decide +kernel)
      (by unfold Qualifies; decide +kernel)
  · exact hskip [("TSXLINT_FORMATTER__MAX_CONCURRENCY", "3")] ("HOME", "/root")
      [("TSXLINT_FORMATTER__PARSER", "css")] rfl (by unfold Qualifies; decide +kernel)

/-- A variable that leads into the general section. -/
def generalEnvironment : Environment := [("TSXLINT_GENERAL__MARKER", "zzz")]

/-- A configuration in which one map is both the locator section and the general one. -/
def sharedSections : Linked :=
  let marked : Members := [(.text "marker", .scalar (.text "a"))]
  .map 1 [(.text "locator", .map 2 marked), (.text "general", .map 2 marked)]

/-- What a variable puts into a map is there under every path that leads to this map, also under one
that is apart from the variable's own. -/
theorem apply_paths_shared :
    Separate generalEnvironment ∧
      (∀ x ∈ generalEnvironment, Qualifies x.1 → Apart (pathOf x.1) ["locator", "marker"]) ∧
      lookup? sharedSections.value ["locator", "marker"] = some (.text "a") ∧
      ∃ config, applyTo generalEnvironment sharedSections = .ok config ∧
        lookup? config.value ["locator", "marker"] = some (.text "zzz") := by
  have hapart : ∀ x ∈ generalEnvironment,
      Qualifies x.1 → Apart (pathOf x.1) ["locator", "marker"] := by
    unfold Qualifies Apart
    decide +kernel
  have hassignments : assignments generalEnvironment =
      [((["general", "marker"] : List Text), Scalar.text "zzz")] := by
    decide +kernel
  refine ⟨List.pairwise_singleton _ _, hapart, rfl, _, applyTo_map _ _ _, ?_⟩
  rw [hassignments]
  rfl

end Backtick.Overlay
