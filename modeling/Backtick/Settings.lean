import Backtick.Fault
import Backtick.Numeral

/-!
# Settings

The settings have four sections with typed fields and defaults. A configuration value is read
field by field: a field that is absent gets its default, a text that spells a number or a truth
value is taken as one where a setting wants one, and everything that does not fit is collected,
so that all issues of a configuration are reported together.

The sections other than the general one know all their keys; a key beyond them is an issue.
-/

namespace Backtick

/-- General settings. -/
structure GeneralSettings where
  projectName : Text := "tsxlint"
  version : Text := "0.1.0"
  logLevel : Text := "INFO"
  jsonLogs : Bool := false
  logFile : Option Text := none
deriving DecidableEq

/-- How marked literals are located. -/
structure LocatorSettings where
  marker : Text := "tsx"
  nodeTypes : List Text := ["template_string"]
  defaultLanguage : Text := "typescript"
deriving DecidableEq

/-- How regions are formatted. -/
structure FormatterSettings where
  command : List Text := ["npx", "--no-install", "prettier"]
  parser : Text := "typescript"
  timeoutSeconds : Double := .ofInt 30
  maxConcurrency : Int := 8
  jitterMaxSeconds : Double := .zero false
deriving DecidableEq

/-- Where output goes. -/
structure OutputSettings where
  suffix : Text := "-linted"
deriving DecidableEq

/-- All settings. -/
structure Settings where
  general : GeneralSettings := {}
  locator : LocatorSettings := {}
  formatter : FormatterSettings := {}
  output : OutputSettings := {}
deriving DecidableEq

/-- The result of reading a value: what was read, or every issue with it. -/
abbrev Reading (α : Type) := Except (List Issue) α

namespace Reading

/-- A single issue at the value itself. -/
def fail {α : Type} (kind : IssueKind) : Reading α := .error [⟨[], kind⟩]

/-- A reading whose issues stand below a step. -/
def below {α : Type} (step : Step) (r : Reading α) : Reading α :=
  r.mapError fun issues => issues.map fun i => { i with path := step :: i.path }

/-- Two readings together, with the issues of both. -/
def and {α β : Type} (a : Reading α) (b : Reading β) : Reading (α × β) :=
  match a, b with
  | .ok x, .ok y => .ok (x, y)
  | .error e, .error e' => .error (e ++ e')
  | .error e, .ok _ => .error e
  | .ok _, .error e => .error e

/-- Readings in a row, with the issues of all. -/
def all {α : Type} : List (Reading α) → Reading (List α)
  | [] => .ok []
  | r :: rest => (and r (all rest)).map fun (x, xs) => x :: xs

end Reading

/-! ## Fields -/

namespace SettingsReader

/-- A text, also as UTF-8 bytes. -/
def text : Value → Reading Text
  | .text t => .ok t
  | .scalar (.bytes b) =>
    match Utf8.decode b with
    | .ok t => .ok t
    | .error _ => Reading.fail .badEncoding
  | _ => Reading.fail .notText

/-- The truth value that a text spells. -/
def spelledBool? (t : Text) : Option Bool :=
  let low := t.map CodePoint.lowerAscii
  let among (words : List String) : Bool := words.any fun w => Text.ofString w == low
  if among ["0", "off", "f", "false", "n", "no"] then some false
  else if among ["1", "on", "t", "true", "y", "yes"] then some true
  else none

/-- A truth value, also as a word or as 0 or 1. -/
def bool (v : Value) : Reading Bool :=
  let spelled (t : Text) : Reading Bool :=
    match spelledBool? t with
    | some b => .ok b
    | none => Reading.fail .unreadableBool
  let number (i : Int) : Reading Bool :=
    if i = 0 then .ok false else if i = 1 then .ok true else Reading.fail .unreadableBool
  match v with
  | .bool b => .ok b
  | .text t => spelled t
  | .scalar (.bytes b) =>
    match Utf8.decode b with
    | .ok t => spelled t
    | .error _ => Reading.fail .unreadableBool
  | .int i => if i.natAbs < twoTo 63 then number i else Reading.fail .notBool
  | .float d =>
    match d.toInt? with
    | some i => if i.natAbs ≤ twoTo 63 then number i else Reading.fail .notBool
    | none => Reading.fail .notBool
  | _ => Reading.fail .notBool

/-- A whole number, also as a text or as a number without a fraction. -/
def int (v : Value) : Reading Int :=
  let spelled (t : Text) : Reading Int :=
    match Numeral.Strict.int t with
    | .ok i => .ok i
    | .error .notAnInt => Reading.fail .unreadableInt
    | .error .tooLong => Reading.fail .oversizedInt
  match v with
  | .int i => .ok i
  | .bool b => .ok (if b then 1 else 0)
  | .text t => spelled t
  | .scalar (.bytes b) =>
    match Utf8.decode b with
    | .ok t => spelled t
    | .error _ => Reading.fail .unreadableInt
  | .float d =>
    match d with
    | .finite .. =>
      match d.toInt? with
      | some i =>
        if i < -(twoTo 63 : Int) ∨ (twoTo 63 : Int) < i then Reading.fail .oversizedInt
        else .ok (min i (twoTo 63 - 1))
      | none => Reading.fail .fractionalInt
    | _ => Reading.fail .notFinite
  | _ => Reading.fail .notInt

/-- A number, also as a text or as a truth value. -/
def float (v : Value) : Reading Double :=
  let spelled (t : Text) : Reading Double :=
    match Numeral.Strict.double? t with
    | some d => .ok d
    | none => Reading.fail .unreadableFloat
  match v with
  | .float d => .ok d
  | .int i =>
    match Double.ofInt i with
    | .infinite _ => Reading.fail .notFloat
    | d => .ok d
  | .bool b => .ok (.ofInt (if b then 1 else 0))
  | .text t => spelled t
  | .scalar (.bytes b) =>
    match Utf8.decode b with
    | .ok t => spelled t
    | .error _ => Reading.fail .unreadableFloat
  | _ => Reading.fail .notFloat

/-- A list of texts. -/
def texts (v : Value) : Reading (List Text) :=
  let read (items : List Value) : Reading (List Text) :=
    Reading.all (items.zipIdx.map fun (item, i) => Reading.below (.index i) (text item))
  match v with
  | .list items => read items
  | .set items => read (items.map .scalar)
  | _ => Reading.fail .notList

/-- A text or nothing. -/
def optionalText : Value → Reading (Option Text)
  | .null => .ok none
  | v => (text v).map some

/-- The field with a name: read, or its default if the section does not have it. -/
def get {α : Type} (entries : Entries) (name : String) (read : Value → Reading α) (default : α) :
    Reading α :=
  match entries.get? (.text name) with
  | some v => Reading.below (.key name) (read v)
  | none => .ok default

/-! ## Sections -/

/-- How a key is named in the path of an issue. -/
def keyStep : Scalar → Step
  | .text t => .key t
  | .int i => .index i
  | .bool b => .index (if b then 1 else 0)
  | .float d => .key d.text
  | .null => .key "None"
  | .bytes b => .key (Utf8.decodeLossy b)
  | .date iso => .key iso

/-- No key stands beside the known ones. -/
def only (entries : Entries) (known : List String) : Reading Unit :=
  let issues := entries.filterMap fun (k, _) =>
    match k with
    | .text t =>
      if known.any fun name => Text.ofString name == t then none
      else some (⟨[.key t], .unknownKey⟩ : Issue)
    | k => some ⟨[keyStep k], .keyNotText⟩
  if issues.isEmpty then .ok () else .error issues

/-- The general section. -/
def general (e : Entries) : Reading GeneralSettings :=
  let d : GeneralSettings := {}
  ((get e "project_name" text d.projectName).and <|
    (get e "version" text d.version).and <|
    (get e "log_level" text d.logLevel).and <|
    (get e "json_logs" bool d.jsonLogs).and
    (get e "log_file" optionalText d.logFile)).map
  fun (projectName, version, logLevel, jsonLogs, logFile) =>
    { projectName, version, logLevel, jsonLogs, logFile }

/-- The locator section. -/
def locator (e : Entries) : Reading LocatorSettings :=
  let d : LocatorSettings := {}
  ((get e "marker" text d.marker).and <|
    (get e "node_types" texts d.nodeTypes).and <|
    (get e "default_language" text d.defaultLanguage).and
    (only e ["marker", "node_types", "default_language"])).map
  fun (marker, nodeTypes, defaultLanguage, _) => { marker, nodeTypes, defaultLanguage }

/-- The formatter section. -/
def formatter (e : Entries) : Reading FormatterSettings :=
  let d : FormatterSettings := {}
  ((get e "command" texts d.command).and <|
    (get e "parser" text d.parser).and <|
    (get e "timeout_seconds" float d.timeoutSeconds).and <|
    (get e "max_concurrency" int d.maxConcurrency).and <|
    (get e "jitter_max_seconds" float d.jitterMaxSeconds).and
    (only e ["command", "parser", "timeout_seconds", "max_concurrency", "jitter_max_seconds"])).map
  fun (command, parser, timeoutSeconds, maxConcurrency, jitterMaxSeconds, _) =>
    { command, parser, timeoutSeconds, maxConcurrency, jitterMaxSeconds }

/-- The output section. -/
def output (e : Entries) : Reading OutputSettings :=
  let d : OutputSettings := {}
  ((get e "suffix" text d.suffix).and (only e ["suffix"])).map fun (suffix, _) => { suffix }

/-- A section, which has to be a map. -/
def sectionOf {α : Type} (read : Entries → Reading α) : Value → Reading α
  | .map entries => read entries
  | _ => Reading.fail .notSection

/-- All sections. -/
def settings (e : Entries) : Reading Settings :=
  ((get e "general" (sectionOf general) {}).and <|
    (get e "locator" (sectionOf locator) {}).and <|
    (get e "formatter" (sectionOf formatter) {}).and
    (get e "output" (sectionOf output) {})).map
  fun (general, locator, formatter, output) => { general, locator, formatter, output }

end SettingsReader

/-- The settings that a configuration gives. Its keys have to be texts, and keys that name no
section are passed over. -/
def Settings.ofValue (config : Value) : Except Fault Settings :=
  match config with
  | .map entries =>
    if entries.all fun (k, _) => match k with | .text _ => true | _ => false then
      match SettingsReader.settings entries with
      | .ok s => .ok s
      | .error issues => .error (.settings (issues.mergeSort Issue.le))
    else .error .badType
  | _ => .error .badType

/-- The settings of the formatter alone. -/
def FormatterSettings.ofEntries (entries : Entries) : Except Fault FormatterSettings :=
  match SettingsReader.formatter entries with
  | .ok s => .ok s
  | .error issues => .error (.settings (issues.mergeSort Issue.le))

/-- What a command line overrides in the settings. -/
structure Overrides where
  marker : Option Text := none
  parser : Option Text := none
  timeout : Option Double := none

/-- The settings with a command line's overrides. An empty marker or parser overrides nothing. -/
def Settings.override (s : Settings) (o : Overrides) : Settings :=
  let given (t : Option Text) (otherwise : Text) : Text :=
    match t with
    | some t => if t.isEmpty then otherwise else t
    | none => otherwise
  { s with
    locator := { s.locator with marker := given o.marker s.locator.marker }
    formatter := { s.formatter with
      parser := given o.parser s.formatter.parser
      timeoutSeconds := o.timeout.getD s.formatter.timeoutSeconds } }

end Backtick
