import Backtick.Proofs.Settings.Environment
import Backtick.Proofs.Settings.Precedence
import Backtick.Proofs.Settings.Reading

/-!
# Texts from the environment

What a variable is taken for does not depend on the setting that it is for. A setting that wants a
text gets one only where the variable spells no truth value and no number, and then it gets exactly
that text; otherwise the settings are refused, for that setting and no other reason.

* `SettingsReader.settings_but` — how settings change with one of their texts
* `load_textField` — what a variable for a text does
-/

namespace Backtick

open Value (sight)

/-! ## The settings that are texts -/

namespace Settings

/-- The name of the variable that overrides a field. -/
def Field.variableName (f : Field) : Text :=
  Overlay.namePrefix ++ (f.group : Text).map CodePoint.upperAscii ++ [Overlay.mark, Overlay.mark] ++
    (f.key : Text).map CodePoint.upperAscii

theorem Field.path?_variableName (f : Field) : Overlay.path? f.variableName = some f.path := by
  cases f <;> decide +kernel

/-- The settings that are texts, apart from the general ones. -/
inductive TextField where
  | marker | defaultLanguage | parser | suffix

namespace TextField

/-- The field that it is. -/
def field : TextField → Field
  | marker => .marker
  | defaultLanguage => .defaultLanguage
  | parser => .parser
  | suffix => .suffix

/-- The text that it has in some settings. -/
def get (s : Settings) : TextField → Text
  | marker => s.locator.marker
  | defaultLanguage => s.locator.defaultLanguage
  | parser => s.formatter.parser
  | suffix => s.output.suffix

/-- Some settings with another text for it. -/
def put (s : Settings) (t : Text) : TextField → Settings
  | marker => { s with locator := { s.locator with marker := t } }
  | defaultLanguage => { s with locator := { s.locator with defaultLanguage := t } }
  | parser => { s with formatter := { s.formatter with parser := t } }
  | suffix => { s with output := { s.output with suffix := t } }

end TextField

end Settings

namespace SettingsReader

open Settings (TextField)
open Entries (AlikeBut)

variable {es es' inner : Entries} {s : Settings}

/-- How settings change with one of their texts. -/
theorem settings_but (f : TextField) (hs : settings es = .ok s)
    (hgroup : AlikeBut (.text f.field.group) es es')
    (hinner : es'.get? (.text f.field.group) = some (.map inner))
    (hkey : AlikeBut (.text f.field.key) (Overlay.mapUnder es f.field.group) inner)
    {r : Reading Text} (hr : get inner f.field.key text (f.get {}) = r) :
    settings es' = (Reading.below (.key f.field.group) r).map (f.put s ·) := by
  simp only [settings, map_eq_ok, Prod.exists, Reading.and_eq_ok] at hs
  obtain ⟨_, _, _, _, ⟨hgeneral, hlocator, hformatter, houtput⟩, rfl⟩ := hs
  cases f
  case marker =>
    have hown : get es' "locator" (sectionOf locator) {} = Reading.below (.key "locator") _ :=
      (get_sectionOf_map hinner).trans
        (congrArg _ ((marker_but hkey (read_mapUnder rfl hlocator)).trans (congrArg _ hr)))
    simp only [settings, section_but hgroup general_congr hgeneral, hown,
      section_but hgroup formatter_congr hformatter, section_but hgroup output_congr houtput]
    cases r <;> rfl
  case defaultLanguage =>
    have hown : get es' "locator" (sectionOf locator) {} = Reading.below (.key "locator") _ :=
      (get_sectionOf_map hinner).trans
        (congrArg _ ((language_but hkey (read_mapUnder rfl hlocator)).trans (congrArg _ hr)))
    simp only [settings, section_but hgroup general_congr hgeneral, hown,
      section_but hgroup formatter_congr hformatter, section_but hgroup output_congr houtput]
    cases r <;> rfl
  case parser =>
    have hown : get es' "formatter" (sectionOf formatter) {} = Reading.below (.key "formatter") _ :=
      (get_sectionOf_map hinner).trans
        (congrArg _ ((parser_but hkey (read_mapUnder rfl hformatter)).trans (congrArg _ hr)))
    simp only [settings, section_but hgroup general_congr hgeneral, hown,
      section_but hgroup locator_congr hlocator, section_but hgroup output_congr houtput]
    cases r <;> rfl
  case suffix =>
    have hown : get es' "output" (sectionOf output) {} = Reading.below (.key "output") _ :=
      (get_sectionOf_map hinner).trans
        (congrArg _ ((suffix_but hkey (read_mapUnder rfl houtput)).trans (congrArg _ hr)))
    simp only [settings, section_but hgroup general_congr hgeneral, hown,
      section_but hgroup locator_congr hlocator, section_but hgroup formatter_congr hformatter]
    cases r <;> rfl

end SettingsReader

namespace Settings

open Overlay
open Entries (AlikeBut)

variable {d : Disk} {config : Linked} {es es' : Entries} {s : Settings} {v : Value} {t : Text}
variable {before after : Environment}

/-! ## A configuration with another value for a text -/

/-- One configuration has a value at a path, and apart from it what another one has. -/
structure Placed (p : List Text) (v : Value) (es es' : Entries) : Prop where
  there : lookup? (.map es') p = some v
  apart : ∀ q, ¬keysOf p <+: q → ¬q <+: keysOf p →
    sight (some (.map es')) q = sight (some (.map es)) q

theorem Placed.alikeBut {g k : Text} (h : Placed [g, k] v es es') :
    AlikeBut (.text g) es es' := by
  intro k' hk
  funext q
  refine h.apart (k' :: q) (fun hp => ?_) (fun hp => ?_)
  · exact hk (List.cons_prefix_cons.1 hp).1.symm
  · exact hk (List.cons_prefix_cons.1 hp).1

theorem Placed.inner {g k : Text} (h : Placed [g, k] v es es') :
    ∃ inner, es'.get? (.text g) = some (.map inner) ∧ Entries.get? inner (.text k) = some v ∧
      AlikeBut (.text k) (mapUnder es g) inner := by
  have hthere := h.there
  rw [lookup?_map_cons] at hthere
  obtain ⟨x, hx, hv⟩ := Option.bind_eq_some_iff.1 hthere
  cases x with
  | map inner =>
    refine ⟨inner, hx, ?_, fun k' hk => ?_⟩
    · obtain ⟨y, hy, hv⟩ := Option.bind_eq_some_iff.1 hv
      rw [lookup?_nil] at hv
      rw [hy, Option.some.inj hv]
    · funext q
      have hseen := h.apart (.text g :: k' :: q) (fun hp => ?_) (fun hp => ?_)
      · rw [Value.sight_map_cons, hx] at hseen
        refine hseen.trans (congrArg (Option.map Value.outline) ?_)
        exact (follow?_mapUnder es g (List.cons_ne_nil k' q)).symm
      · exact hk (List.cons_prefix_cons.1 (List.cons_prefix_cons.1 hp).2).1.symm
      · exact hk (List.cons_prefix_cons.1 (List.cons_prefix_cons.1 hp).2).1
  | _ => cases hv

/-- A configuration with another value for a text: what the reader of texts makes of the value
counts, and nothing else. -/
theorem ofValue_placed (f : TextField) (hs : ofValue (.map es) = .ok s)
    (h : Placed f.field.path v es es') :
    (∀ t, SettingsReader.text v = .ok t → ofValue (.map es') = .ok (f.put s t)) ∧
      ∀ kind, SettingsReader.text v = Reading.fail kind →
        ofValue (.map es') =
          .error (.settings [⟨[.key f.field.group, .key f.field.key], kind⟩]) := by
  obtain ⟨inner, hinner, hv, hkey⟩ := h.inner
  obtain ⟨_, ⟨⟩, hsettings⟩ := ofValue_eq_ok hs
  have htexts : ∀ k, es'.get? k ≠ none → ∃ t, k = .text t := by
    intro k hk
    by_cases hgroup : k = .text f.field.group
    · exact ⟨_, hgroup⟩
    · exact texts_of_ofValue hs k (Value.ne_none_of_sight (h.alikeBut k hgroup) hk)
  have hget (r : Reading Text) (hr : SettingsReader.text v = r) :
      SettingsReader.get inner f.field.key SettingsReader.text (f.get {}) =
        r.below (.key f.field.key) := by
    rw [SettingsReader.get, hv, ← hr]
  constructor
  · intro t ht
    rw [ofValue_map htexts,
      SettingsReader.settings_but f hsettings h.alikeBut hinner hkey (hget _ ht)]
    rfl
  · intro kind hkind
    rw [ofValue_map htexts,
      SettingsReader.settings_but f hsettings h.alikeBut hinner hkey (hget _ hkind)]
    exact congrArg (Except.error ∘ Fault.settings) (List.mergeSort_singleton _)

/-! ## The variable of a text -/

/-- An assignment to a place that no later one touches. -/
theorem placed_insert (entries : Entries) {earlier later : List (List Text × Scalar)}
    {p : List Text} {c : Scalar} (hne : ∀ b ∈ earlier ++ (p, c) :: later, b.1 ≠ [])
    (hlater : ∀ b ∈ later, Apart b.1 p) :
    Placed p (.scalar c) (applyEntries entries (earlier ++ later))
      (applyEntries entries (earlier ++ (p, c) :: later)) where
  there := by
    have hlast : applyEntries entries (earlier ++ (p, c) :: later) =
        applyEntries (assignIn (applyEntries entries earlier) (.scalar c) p) later := by
      rw [applyEntries, List.foldl_append]
      rfl
    rw [hlast, lookup?_applyEntries_of_apart _ hlater]
    exact lookup?_assignIn _ _ (hne (p, c) (by simp))
  apart q hq hq' := by
    rw [sight_applyEntries_insert entries hne hlater, sightOver, if_neg hq, if_neg hq']

theorem Placed.replace {p : List Text} {v' : Value} {es'' : Entries} (h : Placed p v es es')
    (h' : Placed p v' es es'') : Placed p v' es' es'' where
  there := h'.there
  apart q hq hq' := (h'.apart q hq hq').trans (h.apart q hq hq').symm

/-- Settings that are loaded where no variable leads into a map which stands in another place. -/
theorem load_eq_ofValue {env : Environment} {n : Nat} {ms : Members}
    (hconfig : documents d (directory env) = .ok (.map n ms))
    (hclear : LeadsClear env (.map n ms)) :
    load d env = ofValue (.map (applyEntries (Linked.entries ms) (assignments env))) := by
  obtain ⟨c, hc, hvalue⟩ := map_eq_ok.1 (value_applyTo hclear.unshared)
  rw [load_eq_combine hconfig, combine, hc, ← hvalue]
  rfl

/-- A variable for a field does not move the documents. -/
theorem directory_insert (f : Field) (before after : Environment) (t : Text) :
    directory (before ++ (f.variableName, t) :: after) = directory (before ++ after) := by
  have hname : f.variableName ≠ directoryVariable := by
    intro h
    have hnone : path? directoryVariable = none := by decide +kernel
    have hpath := f.path?_variableName
    rw [h, hnone] at hpath
    cases hpath
  simp [directory, Environment.get?, List.find?_append, hname]

theorem assignments_insert (f : Field) (before after : Environment) (t : Text) :
    assignments (before ++ (f.variableName, t) :: after) =
      assignments before ++ (f.path, coerce t) :: assignments after := by
  simp [assignments, f.path?_variableName]

/-- Where variables lead depends on their names only. -/
theorem leadsClear_insert {name : Text} (t₀ : Text)
    (h : LeadsClear (before ++ (name, t) :: after) config) :
    LeadsClear (before ++ after) config ∧ LeadsClear (before ++ (name, t₀) :: after) config := by
  have hname := h (name, t) (by simp)
  have hrest (x : Text × Text) (hx : x ∈ before ++ after) :=
    h x (List.mem_append.2 ((List.mem_append.1 hx).imp_right (List.mem_cons_of_mem _)))
  refine ⟨hrest, fun x hx => ?_⟩
  rcases List.mem_append.1 hx with hx | hx
  · exact hrest x (List.mem_append_left after hx)
  · rcases List.mem_cons.1 hx with rfl | hx
    · exact hname
    · exact hrest x (List.mem_append_right before hx)

/-- With a variable that no later one touches, the settings are those of a configuration with its
value in the place of a field, over a configuration that makes up the settings without it or with
another text for it. -/
theorem exists_placed (f : Field) (t : Text)
    (hafter : ∀ x ∈ after, Qualifies x.1 → Apart (pathOf x.1) f.path)
    (hconfig : documents d (directory (before ++ after)) = .ok config)
    (hclear : LeadsClear (before ++ (f.variableName, t) :: after) config)
    (h : load d (before ++ after) = .ok s ∨
      ∃ t₀, load d (before ++ (f.variableName, t₀) :: after) = .ok s) :
    ∃ es es', ofValue (.map es) = .ok s ∧ Placed f.path (.scalar (coerce t)) es es' ∧
      load d (before ++ (f.variableName, t) :: after) = ofValue (.map es') := by
  have hinsert (t : Text) : documents d (directory (before ++ (f.variableName, t) :: after)) =
      .ok config := directory_insert f before after t ▸ hconfig
  have hclear' (t₀ : Text) := leadsClear_insert t₀ hclear
  have hplaced (entries : Entries) (t : Text) :
      Placed f.path (.scalar (coerce t)) (applyEntries entries (assignments (before ++ after)))
        (applyEntries entries (assignments (before ++ (f.variableName, t) :: after))) := by
    have hsplit : assignments (before ++ after) = assignments before ++ assignments after :=
      List.filterMap_append
    rw [hsplit, assignments_insert]
    refine placed_insert entries (fun b hb => ?_) fun b hb => ?_
    · rw [← assignments_insert] at hb
      exact ne_nil_of_mem_assignments hb
    · obtain ⟨x, hx, hp, -⟩ := mem_assignments.1 hb
      obtain ⟨hq, hpath⟩ := path?_eq_some_iff.1 hp
      exact hpath ▸ hafter x hx hq
  rcases h with hload | ⟨t₀, hload⟩
  · have hcombine := load_eq_combine hconfig ▸ hload
    obtain ⟨n, ms, rfl, hs⟩ := combine_eq_ok (hclear' t).1 hcombine
    exact ⟨_, _, hs, hplaced _ t, load_eq_ofValue (hinsert t) hclear⟩
  · have hcombine := load_eq_combine (hinsert t₀) ▸ hload
    obtain ⟨n, ms, rfl, hs⟩ := combine_eq_ok (hclear' t₀).2 hcombine
    exact ⟨_, _, hs, (hplaced _ t₀).replace (hplaced _ t), load_eq_ofValue (hinsert t) hclear⟩

/-- A variable for a text, which no later variable touches, sets exactly its text if that is what
the text is taken for. Otherwise the settings are refused, because no text stands there. No variable
may lead into a map that stands in another place of the configuration as well. -/
theorem load_textField (f : TextField) (t : Text)
    (hafter : ∀ x ∈ after, Qualifies x.1 → Apart (pathOf x.1) f.field.path)
    (hconfig : documents d (directory (before ++ after)) = .ok config)
    (hclear : LeadsClear (before ++ (f.field.variableName, t) :: after) config)
    (h : load d (before ++ after) = .ok s ∨
      ∃ t₀, load d (before ++ (f.field.variableName, t₀) :: after) = .ok s) :
    (Taken t (.text t) →
        load d (before ++ (f.field.variableName, t) :: after) = .ok (f.put s t)) ∧
      (¬Taken t (.text t) →
        load d (before ++ (f.field.variableName, t) :: after) =
          .error (.settings [⟨[.key f.field.group, .key f.field.key], .notText⟩])) := by
  obtain ⟨es, es', hs, hplaced, hload⟩ := exists_placed f.field t hafter hconfig hclear h
  obtain ⟨hok, hfail⟩ := ofValue_placed f hs hplaced
  rw [hload]
  constructor
  · intro htaken
    refine hok t ?_
    rw [taken_iff.1 htaken]
    rfl
  · intro hother
    refine hfail .notText ?_
    have hcoerce := taken_coerce t
    generalize coerce t = c at hcoerce
    cases hcoerce with
    | text hword hfloat hint => exact absurd (.text hword hfloat hint) hother
    | _ => rfl

theorem Field.variableName_marker : Field.marker.variableName = "TSXLINT_LOCATOR__MARKER" := by
  decide +kernel

theorem load_textField_marker :
    ∃ config, documents layeredDisk (directory layeredEnvironment) = .ok config ∧
      (∀ t, LeadsClear (("TSXLINT_LOCATOR__MARKER", t) :: layeredEnvironment) config) ∧
      (∀ x ∈ layeredEnvironment, Qualifies x.1 → Apart (pathOf x.1) Field.marker.path) ∧
      load layeredDisk layeredEnvironment = .ok layeredSettings ∧
      load layeredDisk (("TSXLINT_LOCATOR__MARKER", " 1.x ") :: layeredEnvironment) =
        .ok (TextField.marker.put layeredSettings " 1.x ") ∧
      load layeredDisk (("TSXLINT_LOCATOR__MARKER", "TRUE") :: layeredEnvironment) =
        .error (.settings [⟨[.key "locator", .key "marker"], .notText⟩]) := by
  obtain ⟨config, hconfig, -⟩ := bind_eq_ok.1 load_layered
  have hclear (t : Text) :
      LeadsClear (("TSXLINT_LOCATOR__MARKER", t) :: layeredEnvironment) config := by
    have hall : ∀ c ∈ (documents layeredDisk (directory layeredEnvironment)).toOption,
        LeadsClear (("TSXLINT_LOCATOR__MARKER", []) :: layeredEnvironment) c := by
      unfold LeadsClear Qualifies
      decide +kernel
    exact (@leadsClear_insert _ _ [] _ _ t (hall config (toOption_eq_some.2 hconfig))).2
  have hafter : ∀ x ∈ layeredEnvironment,
      Qualifies x.1 → Apart (pathOf x.1) Field.marker.path := by
    unfold Qualifies Apart
    decide +kernel
  have htext : Taken " 1.x " (.text " 1.x ") :=
    .text (by decide +kernel) (by decide +kernel) (by decide +kernel)
  have hbool : ¬Taken "TRUE" (.text "TRUE") := by
    intro h
    cases h with
    | text hword => exact hword true (by decide +kernel)
  have hvariable (t : Text) := @load_textField _ _ _ [] _ .marker t hafter hconfig
    (Field.variableName_marker ▸ hclear t) (.inl load_layered)
  rw [TextField.field, Field.variableName_marker] at hvariable
  exact ⟨config, hconfig, hclear, hafter, load_layered, (hvariable " 1.x ").1 htext,
    (hvariable "TRUE").2 hbool⟩

/-- A marker of digits is refused, though nothing else is wrong with the settings. -/
theorem load_marker_digits :
    load {} [] = .ok {} ∧
      load {} [("TSXLINT_LOCATOR__MARKER", "123")] =
        .error (.settings [⟨[.key "locator", .key "marker"], .notText⟩]) := by
  have hload : load {} [] = .ok {} := toOption_eq_some.1 (by decide +kernel)
  obtain ⟨config, hconfig, -⟩ := bind_eq_ok.1 hload
  have hall : ∀ c ∈ (documents {} (directory [])).toOption,
      LeadsClear [("TSXLINT_LOCATOR__MARKER", "123")] c := by
    unfold LeadsClear Qualifies
    decide +kernel
  have hcoerce : coerce "123" = .int 123 :=
    taken_iff.1 (.int (by decide +kernel) (by decide +kernel) (by decide +kernel))
  obtain ⟨es, es', hs, hplaced, hset⟩ :=
    @exists_placed _ _ _ [] [] .marker "123" (by simp) hconfig
      (Field.variableName_marker ▸ hall config (toOption_eq_some.2 hconfig)) (.inl hload)
  rw [Field.variableName_marker] at hset
  rw [hcoerce] at hplaced
  exact ⟨hload, hset.trans ((ofValue_placed .marker hs hplaced).2 .notText rfl)⟩

end Settings

end Backtick
