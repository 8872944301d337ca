import Backtick.Options
import Backtick.Proofs.Settings.Environment
import Backtick.Proofs.Settings.Field
import Backtick.Proofs.Settings.Merge
import Backtick.Proofs.Yaml.DistinctKeys
import Backtick.Settings.Load

/-!
# Which layer a setting comes from

The settings of a run are put together from five layers: the defaults, the shared document, the
local one, the environment and the command line. Each layer is joined to the others in a way of its
own, but what comes out is the same for every field: it has the value of the uppermost layer that
says something about that field, and nothing that any layer says about other fields matters
(`load_precedence`).

That needs variables that change one place only. Where a document has one map in two sections, a
variable for a field of one section changes the other section as well (`load_precedence_shared`).
-/

namespace Backtick

open Overlay

namespace Settings

variable {d : Disk} {env : Environment} {shared own config : Linked} {s : Settings}
variable {n : Nat} {ms : Members}

/-! ## The documents -/

theorem readDocument_distinctKeys {p : Path} {v : Linked} (h : readDocument d p = .ok v) :
    v.value.DistinctKeys := by
  have hempty : (Value.map []).DistinctKeys := .map Entries.distinct_nil (by simp)
  obtain ⟨there, _, h⟩ := bind_eq_ok.1 h
  split at h
  · obtain ⟨b, _, h⟩ := bind_eq_ok.1 h
    obtain ⟨t, _, h⟩ := bind_eq_ok.1 h
    obtain ⟨v', hv', rfl⟩ := map_eq_ok.1 h
    split
    · exact hempty
    · exact Yaml.read_distinctKeys hv'
  · cases h
    exact hempty

theorem merge_eq_ok_map {below above : Value} {es : Entries}
    (h : below.merge above = .ok (.map es)) :
    ∃ base upper, below = .map base ∧ above = .map upper ∧ es = Entries.merge base upper := by
  rw [Value.merge.eq_def] at h
  split at h
  next base upper => exact ⟨base, upper, rfl, rfl, by cases h; rfl⟩
  next =>
    obtain ⟨items, _, heq⟩ := map_eq_ok.1 h
    cases heq
  next => split at h <;> cases h
  next => cases h

/-- What documents that are maps make up. -/
theorem mergeDocuments_eq_ok_map (h : mergeDocuments shared own = .ok (.map n ms)) :
    ∃ base upper, shared.value = .map base ∧ own.value = .map upper ∧
      Linked.entries ms = Entries.merge base upper := by
  refine merge_eq_ok_map ?_
  rw [← Linked.value_shift shared.fresh own, ← Linked.merge_value]
  exact map_eq_ok.2 ⟨_, h, rfl⟩

/-- Only a map that is overridden is a map afterwards. -/
theorem applyTo_eq_ok_map {c : Linked} {es : Entries} (h : applyTo env config = .ok c)
    (hc : c.value = .map es) : ∃ n ms, config = .map n ms := by
  cases config with
  | map n ms => exact ⟨n, ms, rfl⟩
  | _ =>
    rw [applyTo.eq_def] at h
    split at h
    next heq => cases heq
    next => cases h; cases hc
    next => cases h
    next => cases h

/-- Settings come out only of a map, with the overrides over its entries. -/
theorem combine_eq_ok (hclear : LeadsClear env config) (h : combine config env = .ok s) :
    ∃ n ms, config = .map n ms ∧
      ofValue (.map (applyEntries (Linked.entries ms) (assignments env))) = .ok s := by
  obtain ⟨c, hc, hs⟩ := bind_eq_ok.1 h
  obtain ⟨es, hes, -⟩ := ofValue_eq_ok hs
  obtain ⟨n, ms, rfl⟩ := applyTo_eq_ok_map hc hes
  have hvalue := value_applyTo hclear.unshared
  rw [hc] at hvalue
  refine ⟨n, ms, rfl, ?_⟩
  rw [← Except.ok.inj hvalue]
  exact hs

theorem load_eq_combine (hconfig : documents d (directory env) = .ok config) :
    load d env = combine config env := by
  rw [load, hconfig]
  rfl

theorem documents_eq_mergeDocuments {p : Path}
    (hshared : readDocument d (p.join sharedName) = .ok shared)
    (hown : readDocument d (p.join localName) = .ok own) :
    documents d p = mergeDocuments shared own := by
  rw [documents, hshared, hown]
  rfl

/-! ## Paths of fields -/

theorem Field.prefix_path {f : Field} {q : List Text} (h : q <+: f.path) :
    q = [] ∨ q = [Text.ofString f.group] ∨ q = f.path := by
  rcases List.prefix_cons_iff.1 h with rfl | ⟨t, rfl, ht⟩
  · exact .inl rfl
  · rcases List.prefix_cons_iff.1 ht with rfl | ⟨t', rfl, ht'⟩
    · exact .inr (.inl rfl)
    · exact .inr (.inr (List.prefix_nil.1 ht' ▸ rfl))

/-- The way to a field is free where its section is a map, if it is there. -/
theorem Field.passable_path {f : Field} {upper : Entries}
    (h : ∀ v, lookup? (.map upper) [Text.ofString f.group] = some v → v.isMap = true) :
    Passable (.map upper) f.path := by
  intro q hq hne x hx
  rcases Field.prefix_path hq with rfl | rfl | rfl
  · cases hx
    rfl
  · exact h x hx
  · exact absurd rfl hne

/-- Where settings come out, an assignment that is not to a field does not touch it: one to its
section would leave no map there, and one below it would leave a map. -/
theorem apart_of_ofValue {config : Entries} {overrides : List (List Text × Scalar)}
    (h : ofValue (.map (applyEntries config overrides)) = .ok s)
    (hapart : overrides.Pairwise fun a b => Apart a.1 b.1)
    {a : List Text × Scalar} (ha : a ∈ overrides) (hne : a.1 ≠ []) {f : Field}
    (hf : a.1 ≠ f.path) : Apart a.1 f.path := by
  have hfound := lookup?_applyEntries_of_mem config hapart hne ha
  constructor
  · intro hprefix
    rcases Field.prefix_path hprefix with hnil | hgroup | hpath
    · exact hne hnil
    · -- what is assigned to the section of the field is no map
      cases ofValue_section h f (hgroup ▸ hfound)
    · exact hf hpath
  · -- the path goes on from the field, which then would hold a map
    rintro ⟨q, hq⟩
    have hqne : q ≠ [] := by
      rintro rfl
      exact hf (by rw [← hq, List.append_nil])
    rw [← hq] at hfound
    obtain ⟨y, hy, hymap⟩ := isMap_of_lookup?_append hqne hfound
    have hread := ofValue_field h f
    rw [hy] at hread
    cases y with
    | map es => exact f.read_map es _ hread
    | _ => cases hymap

/-! ## All layers -/

/-- What a command line gives for a field: a marker or a parser that is not empty, and any limit of
time, also none. -/
def Field.given (o : Options) : (f : Field) → Option f.Content
  | .marker => o.marker.filter (!·.isEmpty)
  | .parser => o.parser.filter (!·.isEmpty)
  | .timeoutSeconds => o.timeout
  | _ => none

theorem get_override (s : Settings) (o : Options) (f : Field) :
    f.get (s.override o.overrides) = (f.given o).getD (f.get s) := by
  obtain ⟨_, _, _, marker, _, parser, timeout, _, _⟩ := o
  cases f
  case marker =>
    cases marker with
    | none => rfl
    | some t => cases t <;> rfl
  case parser =>
    cases parser with
    | none => rfl
    | some t => cases t <;> rfl
  all_goals rfl

/-- What stands at the path of a field in the whole configuration. -/
theorem lookup?_layers {base upper : Entries} (hd : (Value.map upper).DistinctKeys)
    (hapart : (assignments env).Pairwise fun a b => Apart a.1 b.1)
    (h : ofValue (.map (applyEntries (Entries.merge base upper) (assignments env))) = .ok s)
    {f : Field}
    (hsection : ∀ v, lookup? (.map upper) [Text.ofString f.group] = some v → v.isMap = true) :
    lookup? (.map (applyEntries (Entries.merge base upper) (assignments env))) f.path =
      (overriding? env f.path).or
        ((lookup? (.map upper) f.path).or (lookup? (.map base) f.path)) := by
  cases hvar : overriding? env f.path with
  | some v =>
    obtain ⟨c, rfl, hmem⟩ := mem_assignments_of_overriding? hvar
    exact lookup?_applyEntries_of_mem _ hapart nofun hmem
  | none =>
    have hfree : ∀ a ∈ assignments env, Apart a.1 f.path := by
      intro a ha
      exact apart_of_ofValue h hapart ha (ne_nil_of_mem_assignments ha)
        (ne_of_overriding?_eq_none hvar ha)
    have hread := ofValue_field h f
    rw [lookup?_applyEntries_of_apart _ hfree, lookup?_merge hd (Field.passable_path hsection)]
      at hread ⊢
    cases hown : lookup? (.map upper) f.path with
    | none => rfl
    | some v =>
      rw [hown] at hread
      dsimp only at hread ⊢
      -- a field holds no map, so that nothing of the layer below shows through
      have hmap : v.isMap = false := by
        rw [← Value.isMap_overlay (lookup? (.map base) f.path) v]
        cases hv : Value.overlay (lookup? (.map base) f.path) v with
        | map es => exact absurd (hv ▸ hread) (f.read_map es _)
        | _ => rfl
      exact congrArg some (Value.overlay_of_not_map _ hmap)

/-- Whatever a configuration has for a section is a map. -/
def SectionsAreMaps (v : Value) : Prop :=
  ∀ f : Field, ∀ x, lookup? v [Text.ofString f.group] = some x → x.isMap = true

/-- The sections by name. -/
theorem sectionsAreMaps_of_all {v : Value}
    (h : ["general", "locator", "formatter", "output"].all fun group : String =>
      (lookup? v [Text.ofString group]).all (·.isMap)) : SectionsAreMaps v := by
  intro f x hx
  have hgroup := List.all_eq_true.1 h f.group (by cases f <;> decide)
  rw [hx] at hgroup
  exact hgroup

/-- Every field has the value of the uppermost layer that says something about it: the command
line, the environment, the local document, the shared one, or its default. -/
theorem load_precedence (o : Options)
    (hshared : readDocument d ((directory env).join sharedName) = .ok shared)
    (hown : readDocument d ((directory env).join localName) = .ok own)
    (hsections : SectionsAreMaps own.value)
    (hapart : (assignments env).Pairwise fun a b => Apart a.1 b.1)
    (hconfig : documents d (directory env) = .ok config) (hclear : LeadsClear env config)
    (h : load d env = .ok s) (f : Field) :
    match f.given o with
    | some v => f.get (s.override o.overrides) = v
    | none =>
      f.readOrDefault
          ((overriding? env f.path).or
            ((lookup? own.value f.path).or (lookup? shared.value f.path))) =
        .ok (f.get (s.override o.overrides)) := by
  rw [load_eq_combine hconfig] at h
  obtain ⟨n, ms, rfl, hsettings⟩ := combine_eq_ok hclear h
  rw [documents_eq_mergeDocuments hshared hown] at hconfig
  obtain ⟨base, upper, hbase, hupper, hms⟩ := mergeDocuments_eq_ok_map hconfig
  have hd := readDocument_distinctKeys hown
  rw [hms] at hsettings
  rw [hbase, hupper]
  rw [hupper] at hd hsections
  have hread := ofValue_field hsettings f
  rw [lookup?_layers hd hapart hsettings (hsections f)] at hread
  rw [get_override]
  cases f.given o with
  | some v => rfl
  | none => exact hread

/-- A directory with both documents, which disagree on the marker. The shared one has one map in two
places. -/
def layeredDisk : Disk :=
  { entries :=
      [(["config"], .directory 0o755),
        (["config", sharedName],
          .file 0o644 (Utf8.encodeLossy <|
            "locator:\n  marker: html\n  default_language: tsx\n" ++
            ("general: &g {log_level: DEBUG}\nlocal: *g\n" : Text))),
        (["config", localName], .file 0o644 (Utf8.encodeLossy "locator:\n  marker: sql\n"))] }

/-- An environment that overrides two settings. -/
def layeredEnvironment : Environment :=
  [("TSXLINT_OUTPUT__SUFFIX", ".out"), ("TSXLINT_FORMATTER__PARSER", "css")]

/-- A command line with an empty marker, a parser, and no limit. -/
def layeredOptions : Options :=
  { input := .ofText "a.ts", marker := some [], parser := some "babel",
    timeout := some (.zero false) }

/-- What the documents and the environment make up. -/
def layeredSettings : Settings :=
  { general := { logLevel := "DEBUG" }
    locator := { marker := "sql", defaultLanguage := "tsx" }
    formatter := { parser := "css" }
    output := { suffix := ".out" } }

theorem load_layered : load layeredDisk layeredEnvironment = .ok layeredSettings :=
  toOption_eq_some.1 (by decide +kernel)

theorem load_precedence_layered :
    ∃ shared own config,
      readDocument layeredDisk ((directory layeredEnvironment).join sharedName) = .ok shared ∧
        readDocument layeredDisk ((directory layeredEnvironment).join localName) = .ok own ∧
        SectionsAreMaps own.value ∧
        ((assignments layeredEnvironment).Pairwise fun a b => Apart a.1 b.1) ∧
        documents layeredDisk (directory layeredEnvironment) = .ok config ∧
        LeadsClear layeredEnvironment config ∧
        load layeredDisk layeredEnvironment = .ok layeredSettings ∧
        ∀ f : Field,
          match f.given layeredOptions with
          | some v => f.get (layeredSettings.override layeredOptions.overrides) = v
          | none =>
            f.readOrDefault
                ((overriding? layeredEnvironment f.path).or
                  ((lookup? own.value f.path).or (lookup? shared.value f.path))) =
              .ok (f.get (layeredSettings.override layeredOptions.overrides)) := by
  obtain ⟨config, hconfig, -⟩ := bind_eq_ok.1 load_layered
  obtain ⟨shared, hshared, h⟩ := bind_eq_ok.1 hconfig
  obtain ⟨own, hown, -⟩ := bind_eq_ok.1 h
  have hsections : SectionsAreMaps own.value := by
    have hall : ∀ own ∈ (readDocument layeredDisk
        ((directory layeredEnvironment).join localName)).toOption,
        ["general", "locator", "formatter", "output"].all fun group : String =>
          (lookup? own.value [Text.ofString group]).all (·.isMap) := by decide +kernel
    exact sectionsAreMaps_of_all (hall own (toOption_eq_some.2 hown))
  have hapart : (assignments layeredEnvironment).Pairwise fun a b => Apart a.1 b.1 := by
    unfold Apart
    decide +kernel
  have hclear : LeadsClear layeredEnvironment config := by
    have hall : ∀ c ∈ (documents layeredDisk (directory layeredEnvironment)).toOption,
        LeadsClear layeredEnvironment c := by
      unfold LeadsClear Qualifies
      decide +kernel
    exact hall config (toOption_eq_some.2 hconfig)
  exact ⟨shared, own, config, hshared, hown, hsections, hapart, hconfig, hclear, load_layered,
    load_precedence layeredOptions hshared hown hsections hapart hconfig hclear load_layered⟩

/-- A directory with one document, in which the general section is the locator section. -/
def sharedDisk : Disk :=
  { entries :=
      [(["config"], .directory 0o755),
        (["config", sharedName],
          .file 0o644 (Utf8.encodeLossy "locator: &l {marker: a}\ngeneral: *l\n"))] }

/-- A variable for the general section changes the marker, which no variable is for. -/
theorem load_precedence_shared :
    ∃ shared own,
      readDocument sharedDisk ((directory generalEnvironment).join sharedName) = .ok shared ∧
        readDocument sharedDisk ((directory generalEnvironment).join localName) = .ok own ∧
        SectionsAreMaps shared.value ∧ SectionsAreMaps own.value ∧
        ((assignments generalEnvironment).Pairwise fun a b => Apart a.1 b.1) ∧
        Field.marker.readOrDefault
            ((overriding? generalEnvironment Field.marker.path).or
              ((lookup? own.value Field.marker.path).or
                (lookup? shared.value Field.marker.path))) = .ok ("a" : Text) ∧
        load sharedDisk generalEnvironment = .ok { locator := { marker := "zzz" } } := by
  have hload : load sharedDisk generalEnvironment = .ok { locator := { marker := "zzz" } } :=
    toOption_eq_some.1 (by decide +kernel)
  obtain ⟨config, hconfig, -⟩ := bind_eq_ok.1 hload
  obtain ⟨shared, hshared, h⟩ := bind_eq_ok.1 hconfig
  obtain ⟨own, hown, -⟩ := bind_eq_ok.1 h
  have hall : ∀ shared ∈ (readDocument sharedDisk
      ((directory generalEnvironment).join sharedName)).toOption,
      ∀ own ∈ (readDocument sharedDisk ((directory generalEnvironment).join localName)).toOption,
        ([shared, own].all fun c =>
          ["general", "locator", "formatter", "output"].all fun group : String =>
            (lookup? c.value [Text.ofString group]).all (·.isMap)) ∧
          ((overriding? generalEnvironment Field.marker.path).or
              ((lookup? own.value Field.marker.path).or
                (lookup? shared.value Field.marker.path))).map SettingsReader.text =
            some (.ok ("a" : Text)) := by
    decide +kernel
  obtain ⟨hmaps, hmarker⟩ := hall shared (toOption_eq_some.2 hshared) own (toOption_eq_some.2 hown)
  rw [List.all_eq_true] at hmaps
  obtain ⟨v, hv, hread⟩ := Option.map_eq_some_iff.1 hmarker
  refine ⟨shared, own, hshared, hown, sectionsAreMaps_of_all (hmaps shared (by simp)),
    sectionsAreMaps_of_all (hmaps own (by simp)), List.pairwise_singleton _ _, ?_, hload⟩
  rw [hv]
  exact hread

end Settings

end Backtick
