import Backtick.Locate
import Backtick.Parse
import Backtick.Report
import Backtick.Settings
import Backtick.Transform

/-!
# Linting a text

A text is parsed, its marked literals are located and formatted, and the results are spliced into
it. A text without marked literals is its own output, and no formatter is called for it.
-/

namespace Backtick

/-- How a text was linted: the document, what happened to the calls, and the log. -/
structure LintRun where
  result : Except Fault Document
  job : Option Transform.Job := none
  trace : List Transform.Event := []
  log : List LogRecord := []

namespace Lint

/-- The record of a search for marked literals. -/
def locatedRecord (marker : Text) (regions : List Region) : LogRecord :=
  { logger := "tsxlint.locator", level := .debug, event := "Traversal done",
    fields := [field "regions" (.int regions.length), field "marker" (.text marker)] }

/-- The record of a text without marked literals. -/
def nothingRecord (marker : Text) : LogRecord :=
  { logger := "tsxlint.pipeline", level := .info, event := "No marked template literals detected",
    fields := [field "marker" (.text marker)] }

/-- What the settings look for. -/
def query (s : Settings) : Query :=
  { marker := s.locator.marker, types := s.locator.nodeTypes }

/-- The language of a text: the one given unless it is empty, or else the default. -/
def languageOf (s : Settings) (given : Option Text) : Text :=
  match given with
  | some t => if t.isEmpty then s.locator.defaultLanguage else t
  | none => s.locator.defaultLanguage

/-- The marked literals of a text. -/
def regionsOf (grammars : Grammars) (s : Settings) (language text : Text) :
    Except Fault (List Region) :=
  match parseText grammars language text with
  | .error f => .error f
  | .ok root => locate (query s) text root

/-- Formats regions and splices the results into the text. -/
def formatRegions (f : Formatter) (s : Settings) (text : Text) (regions : List Region) : LintRun :=
  let job : Transform.Job :=
    { text, regions, formatter := f, timeout := some (.real s.formatter.timeoutSeconds) }
  let run := transformRegions job (some s.formatter.maxConcurrency)
  let result : Except Fault Document :=
    match run.result with
    | .error f => .error f
    | .ok results =>
      match splice text regions results with
      | .error f => .error (.lint f.toError)
      | .ok output => .ok { text, regions, output := some output }
  { result, job := some job, trace := run.trace, log := run.log }

end Lint

/-- Lints a text. -/
def lintText (grammars : Grammars) (f : Formatter) (s : Settings) (language : Option Text)
    (text : Text) : LintRun :=
  match Lint.regionsOf grammars s (Lint.languageOf s language) text with
  | .error f => { result := .error f }
  | .ok regions =>
    let located := Lint.locatedRecord s.locator.marker regions
    if regions.isEmpty then
      { result := .ok { text, output := some text },
        log := [located, Lint.nothingRecord s.locator.marker] }
    else
      let run := Lint.formatRegions f s text regions
      { run with log := located :: run.log }

end Backtick
