import Backtick.Proofs.Settings.Field

/-!
# Settings are read from what is seen of a configuration

The order of keys says nothing about a configuration, and neither does what stands inside a map
where a setting wants none. So maps that are alike are read alike (`ofValue_alike`), and of maps
that differ in one key only the fields under that key can be read differently.

* `only_eq_ok_iff` — what it is that no unknown key stands in a section
* `marker_but` and its like — how a section changes with one of its texts
* `ofValue_alike` — the settings of configurations that are alike
-/

namespace Backtick

open Value (sight)

/-! ## Maps that differ in one key -/

namespace Entries

variable {es es' : Entries} {k : Scalar}

/-- Two maps have the same for every key. -/
def Alike (es es' : Entries) : Prop := ∀ k, sight (es'.get? k) = sight (es.get? k)

/-- Two maps have the same for every key but one. -/
def AlikeBut (k : Scalar) (es es' : Entries) : Prop :=
  ∀ k', k' ≠ k → sight (es'.get? k') = sight (es.get? k')

theorem get?_ne_none_of_mem {e : Scalar × Value} (h : e ∈ es) : es.get? e.1 ≠ none := by
  rw [Ne, get?_eq_none_iff, not_not]
  exact List.mem_map.2 ⟨e, h, rfl⟩

/-- What holds of all keys, where only texts count, holds of all keys that have a value. -/
theorem forall_keys_iff {P : Scalar → Prop} (hP : ∀ k, P k → ∃ t, k = .text t) :
    (∀ e ∈ es, P e.1) ↔ ∀ k, es.get? k ≠ none → P k := by
  refine ⟨fun h k hk => ?_, fun h e he => h e.1 (get?_ne_none_of_mem he)⟩
  rw [Ne, get?_eq_none_iff, not_not] at hk
  obtain ⟨e, he, heq⟩ := List.mem_map.1 hk
  obtain ⟨t, ht⟩ := hP _ (h e he)
  have hsame : k = .text t := (Overlay.same_text_iff t k).1 (Scalar.same_iff.2 (ht ▸ heq))
  exact hsame ▸ ht ▸ h e he

end Entries

/-! ## Reading maps that differ in one key -/

namespace SettingsReader

open Entries (AlikeBut)

variable {α : Type} {es es' : Entries} {name : String} {d x : α}

/-- A field that wants no map is read from what is seen of it. -/
theorem get_congr {read : Value → Reading α} (hread : ∀ es es', read (.map es) = read (.map es'))
    (h : sight (es'.get? (.text name)) = sight (es.get? (.text name))) :
    get es' name read d = get es name read d := by
  rw [get, get]
  generalize es.get? (.text name) = o at h
  cases Value.shape o with
  | none => rw [Value.eq_none_of_sight h]
  | leaf v hv => rw [Value.eq_leaf_of_sight hv h]
  | map inner =>
    obtain ⟨inner', hinner, -⟩ := Value.eq_map_of_sight h
    rw [hinner]
    exact congrArg (Reading.below _) (hread inner' inner)

/-- Only known keys have a value. -/
theorem only_eq_ok_iff {known : List String} :
    only es known = .ok () ↔ ∀ k, es.get? k ≠ none → ∃ name ∈ known, k = .text name := by
  have hend (issues : List Issue) :
      (if issues.isEmpty then .ok () else .error issues : Reading Unit) = .ok () ↔ issues = [] := by
    cases issues <;> simp
  rw [← Entries.forall_keys_iff fun k ⟨name, _, hk⟩ => ⟨name, hk⟩]
  refine (hend _).trans (List.filterMap_eq_nil_iff.trans (forall₂_congr fun e _ => ?_))
  obtain ⟨k, v⟩ := e
  cases k with
  | text t => simp [@eq_comm Text t]
  | _ => simp

theorem only_but {known : List String} (h : AlikeBut (.text name) es es') (hname : name ∈ known)
    (ho : only es known = .ok ()) : only es' known = .ok () := by
  rw [only_eq_ok_iff] at ho ⊢
  intro k hk
  by_cases heq : k = .text name
  · exact ⟨name, hname, heq⟩
  · exact ho k (Value.ne_none_of_sight (h k heq) hk)

/-- A field other than the one in which two maps differ. -/
theorem get_but {key : String} {read : Value → Reading α} (h : AlikeBut (.text key) es es')
    (hx : get es name read d = .ok x)
    (hne : Text.ofString name ≠ Text.ofString key := by decide)
    (hread : ∀ es es', read (.map es) = read (.map es') := by exact fun _ _ => rfl) :
    get es' name read d = .ok x :=
  (get_congr hread (h _ fun heq => hne (Scalar.text.inj heq))).trans hx

/-! ### Sections -/

theorem marker_but {x : LocatorSettings} (h : AlikeBut (.text "marker") es es')
    (hx : locator es = .ok x) :
    locator es' = (get es' "marker" text "tsx").map fun t => { x with marker := t } := by
  simp only [locator, map_eq_ok, Prod.exists, Reading.and_eq_ok] at hx
  obtain ⟨_, _, _, _, ⟨_, hnodes, hlanguage, honly⟩, rfl⟩ := hx
  simp only [locator, get_but h hnodes, get_but h hlanguage, only_but h (by decide) honly]
  cases get es' "marker" text _ <;> rfl

theorem language_but {x : LocatorSettings} (h : AlikeBut (.text "default_language") es es')
    (hx : locator es = .ok x) :
    locator es' =
      (get es' "default_language" text "typescript").map fun t =>
        { x with defaultLanguage := t } := by
  simp only [locator, map_eq_ok, Prod.exists, Reading.and_eq_ok] at hx
  obtain ⟨_, _, _, _, ⟨hmarker, hnodes, _, honly⟩, rfl⟩ := hx
  simp only [locator, get_but h hmarker, get_but h hnodes, only_but h (by decide) honly]
  cases get es' "default_language" text _ <;> rfl

theorem parser_but {x : FormatterSettings} (h : AlikeBut (.text "parser") es es')
    (hx : formatter es = .ok x) :
    formatter es' = (get es' "parser" text "typescript").map fun t => { x with parser := t } := by
  simp only [formatter, map_eq_ok, Prod.exists, Reading.and_eq_ok] at hx
  obtain ⟨_, _, _, _, _, _, ⟨hcommand, _, htimeout, hcount, hjitter, honly⟩, rfl⟩ := hx
  simp only [formatter, get_but h hcommand, get_but h htimeout, get_but h hcount,
    get_but h hjitter, only_but h (by decide) honly]
  cases get es' "parser" text _ <;> rfl

theorem suffix_but {x : OutputSettings} (h : AlikeBut (.text "suffix") es es')
    (hx : output es = .ok x) :
    output es' = (get es' "suffix" text "-linted").map fun t => { x with suffix := t } := by
  simp only [output, map_eq_ok, Prod.exists, Reading.and_eq_ok] at hx
  obtain ⟨_, _, ⟨_, honly⟩, rfl⟩ := hx
  simp only [output, only_but h (by decide) honly]
  cases get es' "suffix" text _ <;> rfl

/-- A section is read from what is seen of it, if its reader goes by what is seen. -/
theorem get_sectionOf_congr {read : Entries → Reading α}
    (hread : ∀ {es es' : Entries}, Entries.Alike es es' → read es = .ok x → read es' = .ok x)
    (h : sight (es'.get? (.text name)) = sight (es.get? (.text name)))
    (hx : get es name (sectionOf read) d = .ok x) : get es' name (sectionOf read) d = .ok x := by
  rw [get_sectionOf_eq_ok] at hx ⊢
  rcases hx with ⟨hnone, hd⟩ | ⟨inner, hinner, hx⟩
  · rw [hnone] at h
    exact .inl ⟨Value.eq_none_of_sight h, hd⟩
  · rw [hinner] at h
    obtain ⟨inner', hinner', hseen⟩ := Value.eq_map_of_sight h
    exact .inr ⟨inner', hinner', hread hseen hx⟩

/-- A section other than the one in which two maps differ. -/
theorem section_but {key : String} {read : Entries → Reading α} (h : AlikeBut (.text key) es es')
    (hread : ∀ {es es' : Entries}, Entries.Alike es es' → read es = .ok x → read es' = .ok x)
    (hx : get es name (sectionOf read) d = .ok x)
    (hne : Text.ofString name ≠ Text.ofString key := by decide) :
    get es' name (sectionOf read) d = .ok x :=
  get_sectionOf_congr hread (h _ fun heq => hne (Scalar.text.inj heq)) hx

/-- A section that is there. -/
theorem get_sectionOf_map {read : Entries → Reading α} {inner : Entries}
    (h : es.get? (.text name) = some (.map inner)) :
    get es name (sectionOf read) d = Reading.below (.key name) (read inner) := by
  rw [get, h]
  rfl

/-- A section that is not there is read as an empty one. -/
theorem read_mapUnder {read : Entries → Reading α} (hd : read [] = .ok d)
    (hx : get es name (sectionOf read) d = .ok x) :
    read (Overlay.mapUnder es name) = .ok x := by
  rcases get_sectionOf_eq_ok.1 hx with ⟨hnone, rfl⟩ | ⟨inner, hinner, hx⟩
  · rw [Overlay.mapUnder, hnone]
    exact hd
  · rw [Overlay.mapUnder, hinner]
    exact hx

/-! ### The settings -/

/-- A field in maps that are alike. -/
theorem get_alike {read : Value → Reading α} (h : Entries.Alike es es')
    (hx : get es name read d = .ok x)
    (hread : ∀ es es', read (.map es) = read (.map es') := by exact fun _ _ => rfl) :
    get es' name read d = .ok x :=
  (get_congr hread (h _)).trans hx

theorem only_alike {known : List String} (h : Entries.Alike es es')
    (hx : only es known = .ok ()) : only es' known = .ok () := by
  rw [only_eq_ok_iff] at hx ⊢
  exact fun k hk => hx k (Value.ne_none_of_sight (h k) hk)

theorem general_congr {x : GeneralSettings} (h : Entries.Alike es es')
    (hx : general es = .ok x) : general es' = .ok x := by
  simp only [general, map_eq_ok, Prod.exists, Reading.and_eq_ok] at hx ⊢
  obtain ⟨_, _, _, _, _, ⟨hname, hversion, hlevel, hlogs, hfile⟩, rfl⟩ := hx
  exact ⟨_, _, _, _, _, ⟨get_alike h hname, get_alike h hversion, get_alike h hlevel,
    get_alike h hlogs, get_alike h hfile⟩, rfl⟩

theorem locator_congr {x : LocatorSettings} (h : Entries.Alike es es')
    (hx : locator es = .ok x) : locator es' = .ok x := by
  simp only [locator, map_eq_ok, Prod.exists, Reading.and_eq_ok] at hx ⊢
  obtain ⟨_, _, _, _, ⟨hmarker, hnodes, hlanguage, honly⟩, rfl⟩ := hx
  exact ⟨_, _, _, _, ⟨get_alike h hmarker, get_alike h hnodes, get_alike h hlanguage,
    only_alike h honly⟩, rfl⟩

theorem formatter_congr {x : FormatterSettings} (h : Entries.Alike es es')
    (hx : formatter es = .ok x) : formatter es' = .ok x := by
  simp only [formatter, map_eq_ok, Prod.exists, Reading.and_eq_ok] at hx ⊢
  obtain ⟨_, _, _, _, _, _, ⟨hcommand, hparser, htimeout, hcount, hjitter, honly⟩, rfl⟩ := hx
  exact ⟨_, _, _, _, _, _, ⟨get_alike h hcommand, get_alike h hparser, get_alike h htimeout,
    get_alike h hcount, get_alike h hjitter, only_alike h honly⟩, rfl⟩

theorem output_congr {x : OutputSettings} (h : Entries.Alike es es')
    (hx : output es = .ok x) : output es' = .ok x := by
  simp only [output, map_eq_ok, Prod.exists, Reading.and_eq_ok] at hx ⊢
  obtain ⟨_, _, ⟨hsuffix, honly⟩, rfl⟩ := hx
  exact ⟨_, _, ⟨get_alike h hsuffix, only_alike h honly⟩, rfl⟩

/-- The settings of maps that are alike. -/
theorem settings_congr {s : Settings} (h : Entries.Alike es es')
    (hs : settings es = .ok s) : settings es' = .ok s := by
  simp only [settings, map_eq_ok, Prod.exists, Reading.and_eq_ok] at hs ⊢
  obtain ⟨_, _, _, _, ⟨hgeneral, hlocator, hformatter, houtput⟩, rfl⟩ := hs
  exact ⟨_, _, _, _, ⟨get_sectionOf_congr general_congr (h _) hgeneral,
    get_sectionOf_congr locator_congr (h _) hlocator,
    get_sectionOf_congr formatter_congr (h _) hformatter,
    get_sectionOf_congr output_congr (h _) houtput⟩, rfl⟩

end SettingsReader

/-! ## Whole configurations -/

namespace Settings

variable {es es' : Entries} {s : Settings}

theorem all_texts_iff :
    (es.all fun (k, _) => match k with | .text _ => true | _ => false) = true ↔
      ∀ k, es.get? k ≠ none → ∃ t, k = .text t := by
  rw [List.all_eq_true, ← Entries.forall_keys_iff fun _ h => h]
  refine forall₂_congr fun e _ => ?_
  obtain ⟨k, v⟩ := e
  cases k <;> simp

/-- Where all keys are texts, the settings are what the sections make up. -/
theorem ofValue_map (h : ∀ k, es.get? k ≠ none → ∃ t, k = .text t) :
    ofValue (.map es) =
      (SettingsReader.settings es).mapError fun issues =>
        .settings (issues.mergeSort Issue.le) := by
  refine (if_pos (all_texts_iff.2 h)).trans ?_
  cases SettingsReader.settings es <;> rfl

theorem texts_of_ofValue (h : ofValue (.map es) = .ok s) :
    ∀ k, es.get? k ≠ none → ∃ t, k = .text t := by
  rw [ofValue.eq_def] at h
  dsimp only at h
  split at h
  next hall => exact all_texts_iff.1 hall
  next => cases h

/-- Configurations that are alike make up the same settings. -/
theorem ofValue_alike (h : Value.Alike (.map es) (.map es')) (hs : ofValue (.map es) = .ok s) :
    ofValue (.map es') = .ok s := by
  have hseen : Entries.Alike es es' := fun k => funext fun p => (h (k :: p)).symm
  obtain ⟨_, ⟨⟩, hsettings⟩ := ofValue_eq_ok hs
  have htexts : ∀ k, es'.get? k ≠ none → ∃ t, k = .text t := fun k hk =>
    texts_of_ofValue hs k (Value.ne_none_of_sight (hseen k) hk)
  rw [ofValue_map htexts, SettingsReader.settings_congr hseen hsettings]
  rfl

end Settings

end Backtick
