import Backtick.Settings

/-!
# Settings as values

Settings as the configuration that spells them out in full: every field of every section, under the
key by which it is read.
-/

namespace Backtick

/-- A list of texts. -/
def textList (ts : List Text) : Value := .list (ts.map .text)

/-- General settings as a section. -/
def GeneralSettings.value (s : GeneralSettings) : Value :=
  Fields.value
    [field "project_name" (.text s.projectName), field "version" (.text s.version),
      field "log_level" (.text s.logLevel), field "json_logs" (.bool s.jsonLogs),
      field "log_file" ((s.logFile.map .text).getD .null)]

/-- Locator settings as a section. -/
def LocatorSettings.value (s : LocatorSettings) : Value :=
  Fields.value
    [field "marker" (.text s.marker), field "node_types" (textList s.nodeTypes),
      field "default_language" (.text s.defaultLanguage)]

/-- Formatter settings as a section. -/
def FormatterSettings.value (s : FormatterSettings) : Value :=
  Fields.value
    [field "command" (textList s.command), field "parser" (.text s.parser),
      field "timeout_seconds" (.float s.timeoutSeconds),
      field "max_concurrency" (.int s.maxConcurrency),
      field "jitter_max_seconds" (.float s.jitterMaxSeconds)]

/-- Output settings as a section. -/
def OutputSettings.value (s : OutputSettings) : Value :=
  Fields.value [field "suffix" (.text s.suffix)]

/-- All settings as a configuration. -/
def Settings.value (s : Settings) : Value :=
  Fields.value
    [field "general" s.general.value, field "locator" s.locator.value,
      field "formatter" s.formatter.value, field "output" s.output.value]

end Backtick
