import Backtick.Proofs.Outcome
import Backtick.Proofs.Settings.Overlay
import Backtick.Settings

/-!
# The fields of the settings

Every field has a path in a configuration, a reader and a default. Where a configuration gives
settings, each of their fields is what its reader makes of the value at its path, or its default
where nothing stands there (`ofValue_field`); nothing else of the configuration counts for it.
-/

namespace Backtick

namespace Reading

variable {α β : Type} {r : Reading α} {x : α}

@[simp] theorem below_eq_ok {step : Step} : below step r = .ok x ↔ r = .ok x := mapError_eq_ok

theorem and_eq_ok {r' : Reading β} {y : β} : r.and r' = .ok (x, y) ↔ r = .ok x ∧ r' = .ok y := by
  cases r <;> cases r' <;> simp [Reading.and]

end Reading

namespace Settings

/-- The fields. -/
inductive Field where
  | projectName | version | logLevel | jsonLogs | logFile
  | marker | nodeTypes | defaultLanguage
  | command | parser | timeoutSeconds | maxConcurrency | jitterMaxSeconds
  | suffix

namespace Field

/-- The name of the section that a field is in. -/
def group : Field → String
  | projectName | version | logLevel | jsonLogs | logFile => "general"
  | marker | nodeTypes | defaultLanguage => "locator"
  | command | parser | timeoutSeconds | maxConcurrency | jitterMaxSeconds => "formatter"
  | suffix => "output"

/-- The name of a field in its section. -/
def key : Field → String
  | projectName => "project_name"
  | version => "version"
  | logLevel => "log_level"
  | jsonLogs => "json_logs"
  | logFile => "log_file"
  | marker => "marker"
  | nodeTypes => "node_types"
  | defaultLanguage => "default_language"
  | command => "command"
  | parser => "parser"
  | timeoutSeconds => "timeout_seconds"
  | maxConcurrency => "max_concurrency"
  | jitterMaxSeconds => "jitter_max_seconds"
  | suffix => "suffix"

/-- Where a field stands in a configuration. -/
def path (f : Field) : List Text := [f.group, f.key]

/-- What a field holds. -/
def Content : Field → Type
  | projectName | version | logLevel | marker | defaultLanguage | parser | suffix => Text
  | logFile => Option Text
  | jsonLogs => Bool
  | nodeTypes | command => List Text
  | timeoutSeconds | jitterMaxSeconds => Double
  | maxConcurrency => Int

/-- What a field holds in some settings. -/
def get (s : Settings) : (f : Field) → f.Content
  | projectName => s.general.projectName
  | version => s.general.version
  | logLevel => s.general.logLevel
  | jsonLogs => s.general.jsonLogs
  | logFile => s.general.logFile
  | marker => s.locator.marker
  | nodeTypes => s.locator.nodeTypes
  | defaultLanguage => s.locator.defaultLanguage
  | command => s.formatter.command
  | parser => s.formatter.parser
  | timeoutSeconds => s.formatter.timeoutSeconds
  | maxConcurrency => s.formatter.maxConcurrency
  | jitterMaxSeconds => s.formatter.jitterMaxSeconds
  | suffix => s.output.suffix

/-- What a field makes of a value. -/
def read : (f : Field) → Value → Reading f.Content
  | projectName | version | logLevel | marker | defaultLanguage | parser | suffix =>
    SettingsReader.text
  | logFile => SettingsReader.optionalText
  | jsonLogs => SettingsReader.bool
  | nodeTypes | command => SettingsReader.texts
  | timeoutSeconds | jitterMaxSeconds => SettingsReader.float
  | maxConcurrency => SettingsReader.int

/-- What a field makes of a value, or of there being none. -/
def readOrDefault (f : Field) : Option Value → Reading f.Content
  | some v => f.read v
  | none => .ok (f.get {})

/-- The fields determine the settings. -/
theorem ext {s s' : Settings} (h : ∀ f, get s f = get s' f) : s = s' := by
  obtain ⟨⟨_, _, _, _, _⟩, ⟨_, _, _⟩, ⟨_, _, _, _, _⟩, ⟨_⟩⟩ := s
  obtain ⟨⟨_, _, _, _, _⟩, ⟨_, _, _⟩, ⟨_, _, _, _, _⟩, ⟨_⟩⟩ := s'
  simp only [Settings.mk.injEq, GeneralSettings.mk.injEq, LocatorSettings.mk.injEq,
    FormatterSettings.mk.injEq, OutputSettings.mk.injEq]
  exact ⟨⟨h projectName, h version, h logLevel, h jsonLogs, h logFile⟩,
    ⟨h marker, h nodeTypes, h defaultLanguage⟩,
    ⟨h command, h parser, h timeoutSeconds, h maxConcurrency, h jitterMaxSeconds⟩, h suffix⟩

/-- No field holds a map. -/
theorem read_map (f : Field) (es : Entries) (x : f.Content) : f.read (.map es) ≠ .ok x := by
  cases f <;> exact nofun

end Field

end Settings

/-! ## Reading a configuration -/

namespace SettingsReader

variable {α : Type} {es : Entries} {name : String} {d x : α}

theorem get_eq_ok {read : Value → Reading α} :
    get es name read d = .ok x ↔
      (es.get? (.text name) = none ∧ d = x) ∨
        ∃ v, es.get? (.text name) = some v ∧ read v = .ok x := by
  rw [get]
  split <;> simp [*]

/-- A section is absent, or it is a map that its reader takes. -/
theorem get_sectionOf_eq_ok {read : Entries → Reading α} :
    get es name (sectionOf read) d = .ok x ↔
      (es.get? (.text name) = none ∧ d = x) ∨
        ∃ inner, es.get? (.text name) = some (.map inner) ∧ read inner = .ok x := by
  rw [get_eq_ok]
  refine or_congr_right ⟨?_, fun ⟨inner, hv, hx⟩ => ⟨.map inner, hv, hx⟩⟩
  rintro ⟨v, hv, hx⟩
  cases v with
  | map inner => exact ⟨inner, hv, hx⟩
  | _ => cases hx

/-- The section of a field is absent, or it is a map from which the field is read. -/
theorem settings_field {s : Settings} (h : settings es = .ok s) (f : Settings.Field) :
    (es.get? (.text f.group) = none ∧ f.get {} = f.get s) ∨
      ∃ inner, es.get? (.text f.group) = some (.map inner) ∧
        get inner f.key f.read (f.get {}) = .ok (f.get s) := by
  simp only [settings, map_eq_ok, Prod.exists, Reading.and_eq_ok] at h
  obtain ⟨g, l, m, o, ⟨hg, hl, hm, ho⟩, rfl⟩ := h
  cases f
  case projectName | version | logLevel | jsonLogs | logFile =>
    refine (get_sectionOf_eq_ok.1 hg).imp (fun ⟨hnone, hd⟩ => ⟨hnone, hd ▸ rfl⟩)
      fun ⟨inner, hinner, hread⟩ => ⟨inner, hinner, ?_⟩
    simp only [general, map_eq_ok, Prod.exists, Reading.and_eq_ok] at hread
    obtain ⟨_, _, _, _, _, ⟨h1, h2, h3, h4, h5⟩, rfl⟩ := hread
    assumption
  case marker | nodeTypes | defaultLanguage =>
    refine (get_sectionOf_eq_ok.1 hl).imp (fun ⟨hnone, hd⟩ => ⟨hnone, hd ▸ rfl⟩)
      fun ⟨inner, hinner, hread⟩ => ⟨inner, hinner, ?_⟩
    simp only [locator, map_eq_ok, Prod.exists, Reading.and_eq_ok] at hread
    obtain ⟨_, _, _, _, ⟨h1, h2, h3, _⟩, rfl⟩ := hread
    assumption
  case command | parser | timeoutSeconds | maxConcurrency | jitterMaxSeconds =>
    refine (get_sectionOf_eq_ok.1 hm).imp (fun ⟨hnone, hd⟩ => ⟨hnone, hd ▸ rfl⟩)
      fun ⟨inner, hinner, hread⟩ => ⟨inner, hinner, ?_⟩
    simp only [formatter, map_eq_ok, Prod.exists, Reading.and_eq_ok] at hread
    obtain ⟨_, _, _, _, _, _, ⟨h1, h2, h3, h4, h5, _⟩, rfl⟩ := hread
    assumption
  case suffix =>
    refine (get_sectionOf_eq_ok.1 ho).imp (fun ⟨hnone, hd⟩ => ⟨hnone, hd ▸ rfl⟩)
      fun ⟨inner, hinner, hread⟩ => ⟨inner, hinner, ?_⟩
    simp only [output, map_eq_ok, Prod.exists, Reading.and_eq_ok] at hread
    obtain ⟨_, _, ⟨h1, _⟩, rfl⟩ := hread
    assumption

end SettingsReader

namespace Settings

variable {config : Value} {s : Settings}

theorem ofValue_eq_ok (h : ofValue config = .ok s) :
    ∃ es, config = .map es ∧ SettingsReader.settings es = .ok s := by
  rw [ofValue.eq_def] at h
  split at h
  · split at h
    · split at h
      next es _ _ _ hs =>
        cases h
        exact ⟨es, rfl, hs⟩
      · cases h
    · cases h
  · cases h

/-- A field is what its reader makes of the value at its path, or its default. -/
theorem ofValue_field (h : ofValue config = .ok s) (f : Field) :
    f.readOrDefault (Overlay.lookup? config f.path) = .ok (f.get s) := by
  obtain ⟨es, rfl, hs⟩ := ofValue_eq_ok h
  rw [Field.path, Overlay.lookup?_map_cons]
  rcases SettingsReader.settings_field hs f with ⟨hnone, hd⟩ | ⟨inner, hinner, hget⟩
  · rw [hnone]
    exact congrArg Except.ok hd
  · rw [hinner, Option.bind_some, Overlay.lookup?_map_cons]
    rcases SettingsReader.get_eq_ok.1 hget with ⟨hnone, hd⟩ | ⟨v, hv, hread⟩
    · rw [hnone]
      exact congrArg Except.ok hd
    · rw [hv]
      exact hread

/-- Where a configuration gives settings, its sections are maps. -/
theorem ofValue_section (h : ofValue config = .ok s) (f : Field) {v : Value}
    (hv : Overlay.lookup? config [Text.ofString f.group] = some v) : v.isMap = true := by
  obtain ⟨es, rfl, hs⟩ := ofValue_eq_ok h
  rw [Overlay.lookup?_map_cons] at hv
  rcases SettingsReader.settings_field hs f with ⟨hnone, _⟩ | ⟨inner, hinner, _⟩
  · rw [hnone] at hv
    cases hv
  · rw [hinner] at hv
    cases hv
    rfl

end Settings

end Backtick
