import Backtick.Numeral
import Backtick.Path
import Backtick.Settings
import Backtick.Text.Printable

/-!
# Command line options

The arguments of a command line are words of four sorts: the separator `--`, flags, unknown flags
and plain words. A flag is recognised by its full spelling, by an unambiguous beginning of a long
spelling, or as one of several short flags in one word. Every word after the separator is plain,
and so is a word that could only be a number or that holds a blank.

The first plain word that no flag takes is the input. Words that nothing takes are reported
together, but only when nothing else is wrong.

## Termination

Every round takes at least one word, so `takeAll` makes no more rounds than there are words;
inside a word of short flags every step takes a character.
-/

namespace Backtick

/-- The flags. -/
inductive Flag where
  | help
  | output
  | inplace
  | marker
  | language
  | parser
  | timeout
  | logLevel
  | jsonLogs
deriving DecidableEq

namespace Flag

/-- All spellings, in the order in which they are searched. -/
def spellings : List (Text × Flag) :=
  [("-h", .help), ("--help", .help), ("--output", .output), ("-o", .output),
    ("--inplace", .inplace), ("-i", .inplace), ("--marker", .marker), ("--language", .language),
    ("--parser", .parser), ("--timeout", .timeout), ("--log-level", .logLevel),
    ("--json-logs", .jsonLogs)]

/-- The flag with a spelling. -/
def ofSpelling? (t : Text) : Option Flag :=
  (spellings.find? (·.1 == t)).map (·.2)

/-- How messages name a flag: by its spellings in the order in which they were declared. -/
def shown : Flag → Text
  | .help => "-h/--help"
  | .output => "--output/-o"
  | .inplace => "--inplace/-i"
  | .marker => "--marker"
  | .language => "--language"
  | .parser => "--parser"
  | .timeout => "--timeout"
  | .logLevel => "--log-level"
  | .jsonLogs => "--json-logs"

/-- The flag wants a value. -/
def takesValue : Flag → Bool
  | .help | .inplace | .jsonLogs => false
  | _ => true

end Flag

/-- Why a command line is not accepted. -/
inductive UsageFault where
  | ambiguous (word : Text) (matching : List Text)
  | missingValue (flag : Flag)
  | unwantedValue (flag : Flag) (value : Text)
  | badNumber (flag : Flag) (value : Text)
  | badChoice (flag : Flag) (value : Text) (choices : List Text)
  | missingInput
  | unknownWords (words : List Text)
deriving DecidableEq

/-- The wording of a usage fault. -/
def UsageFault.message : UsageFault → Text
  | .ambiguous word matching =>
    "ambiguous option: " ++ word ++ " could match " ++ Text.join ", " matching
  | .missingValue flag => "argument " ++ flag.shown ++ ": expected one argument"
  | .unwantedValue flag value =>
    "argument " ++ flag.shown ++ ": ignored explicit argument " ++ Text.quoted value
  | .badNumber flag value =>
    "argument " ++ flag.shown ++ ": invalid float value: " ++ Text.quoted value
  | .badChoice flag value choices =>
    "argument " ++ flag.shown ++ ": invalid choice: " ++ Text.quoted value ++
      " (choose from " ++ Text.join ", " (choices.map Text.quoted) ++ ")"
  | .missingInput => "the following arguments are required: input"
  | .unknownWords words => "unrecognized arguments: " ++ Text.join " " words

/-- A value that stands in the same word as its flag. -/
structure Attached where
  /-- an equals sign stands between -/
  afterSign : Bool
  value : Text

/-- What a word is. -/
inductive Word where
  | separator
  | plain
  | unknown
  | flag (f : Flag) (short : Bool) (attached : Option Attached)

namespace Word

/-- The dash. -/
def dash : CodePoint := .ofNat 0x2D

/-- The equals sign. -/
def equals : CodePoint := .ofNat 0x3D

/-- The word spells a negative number: a dash, digits and at most one dot, which a digit
follows. -/
def isNegativeNumber (word : Text) : Bool :=
  let isDigit (c : CodePoint) : Bool := (Text.digitValue? c).isSome
  let body := if word.getLast? = some (.ofNat 0x0A) then word.dropLast else word
  match body with
  | [] => false
  | c :: rest =>
    c == dash &&
      (match rest.dropWhile isDigit with
        | [] => !rest.isEmpty
        | d :: fraction => d == Path.dot && !fraction.isEmpty && fraction.all isDigit)

/-- The text in front of the first equals sign, and what follows it. -/
def cutAtSign (word : Text) : Text × Option Attached :=
  let before := word.takeWhile (· ≠ equals)
  if before.length = word.length then (word, none)
  else (before, some ⟨true, word.drop (before.length + 1)⟩)

/-- The flags that a word with a leading dash may stand for, each with its spelling. -/
def candidates (word : Text) : List (Text × Word) :=
  if [dash, dash].isPrefixOf word then
    let (start, attached) := cutAtSign word
    Flag.spellings.filterMap fun (spelling, f) =>
      if start.isPrefixOf spelling then some (spelling, .flag f false attached) else none
  else
    Flag.spellings.filterMap fun (spelling, f) =>
      if spelling == word.take 2 then
        some (spelling, .flag f true (some ⟨false, word.drop 2⟩))
      else if word.isPrefixOf spelling then some (spelling, .flag f false none)
      else none

/-- What a word in front of the separator is. -/
def ofText (word : Text) : Except UsageFault Word :=
  if word.head? ≠ some dash then .ok .plain
  else
    match Flag.ofSpelling? word with
    | some f => .ok (.flag f (word.length = 2) none)
    | none =>
      if word.length = 1 then .ok .plain
      else
        let (start, attached) := cutAtSign word
        match attached, Flag.ofSpelling? start with
        | some a, some f => .ok (.flag f (start.length = 2) (some a))
        | _, _ =>
          match candidates word with
          | [(_, w)] => .ok w
          | [] =>
            if isNegativeNumber word || word.contains (.ofNat 0x20) then .ok .plain
            else .ok .unknown
          | several => .error (.ambiguous word (several.map (·.1)))

/-- The words of a command line with their sorts. -/
def classify : List Text → Except UsageFault (List (Text × Word))
  | [] => .ok []
  | word :: rest =>
    if word == [dash, dash] then .ok ((word, .separator) :: rest.map (·, .plain))
    else do
      let w ← ofText word
      let ws ← classify rest
      return (word, w) :: ws

/-- The word is the separator. -/
def isSeparator : Word → Bool
  | .separator => true
  | _ => false

/-- The word is a flag, known or not. -/
def isFlag : Word → Bool
  | .flag .. | .unknown => true
  | _ => false

end Word

/-- What a command line asks for. -/
structure Options where
  input : Path
  output : Option Path := none
  inplace : Bool := false
  marker : Option Text := none
  language : Option Text := none
  parser : Option Text := none
  timeout : Option Double := none
  logLevel : Option Text := none
  jsonLogs : Bool := false

/-- All that a command line says, under names. -/
def Options.fields (o : Options) : Fields :=
  let text (t : Option Text) : Value := (t.map .text).getD .null
  [field "input" (.text o.input.toText), field "output" (text (o.output.map Path.toText)),
    field "inplace" (.bool o.inplace), field "marker" (text o.marker),
    field "language" (text o.language), field "parser" (text o.parser),
    field "timeout" ((o.timeout.map .float).getD .null), field "log_level" (text o.logLevel),
    field "json_logs" (.bool o.jsonLogs)]

/-- What the command line overrides in the settings. -/
def Options.overrides (o : Options) : Overrides :=
  { marker := o.marker, parser := o.parser, timeout := o.timeout }

/-- Why the words of a command line lead to no options. -/
inductive Refusal where
  /-- help was asked for -/
  | help
  /-- the usage is wrong -/
  | usage (f : UsageFault)

namespace Options

/-- The grammars to choose from. -/
def languageChoices : List Text := ["typescript", "tsx", "javascript"]

/-- The log levels to choose from. -/
def levelChoices : List Text := ["DEBUG", "INFO", "WARNING", "ERROR"]

/-- The options read so far: the input may still be missing, and some words are not taken. -/
structure Draft where
  found : Bool := false
  options : Options := { input := ⟨[], []⟩ }
  unknown : List Text := []

/-- A value that has to be one of the choices. -/
def choose (f : Flag) (choices : List Text) (value : Text) : Except Refusal Text :=
  if choices.contains value then .ok value else .error (.usage (.badChoice f value choices))

/-- The options with a flag applied. -/
def applyFlag (o : Options) (f : Flag) (value : Text) : Except Refusal Options :=
  match f with
  | .help => .error .help
  | .output => .ok { o with output := some (.ofText value) }
  | .inplace => .ok { o with inplace := true }
  | .marker => .ok { o with marker := some value }
  | .language => (choose f languageChoices value).map fun v => { o with language := some v }
  | .parser => .ok { o with parser := some value }
  | .timeout =>
    match Numeral.double? value with
    | some d => .ok { o with timeout := some d }
    | none => .error (.usage (.badNumber f value))
  | .logLevel => (choose f levelChoices value).map fun v => { o with logLevel := some v }
  | .jsonLogs => .ok { o with jsonLogs := true }

/-- The options with several flags applied in order. -/
def applyFlags (o : Options) : List (Flag × Text) → Except Refusal Options
  | [] => .ok o
  | (f, value) :: rest =>
    match applyFlag o f value with
    | .ok o => applyFlags o rest
    | .error e => .error e

/-- The flags in a word whose first flag is followed by `value`: a flag that wants a value takes
it, and otherwise it holds further short flags. The second part is what is no flag. -/
def unfold (short : Bool) (f : Flag) (afterSign : Bool) (value : Text) :
    Except UsageFault (List (Flag × Option Text) × List Text) :=
  if f.takesValue then .ok ([(f, some value)], [])
  else if !short || afterSign then .error (.unwantedValue f value)
  else
    match value with
    | [] => .error (.unwantedValue f value)
    | c :: rest =>
      if c == Word.dash then .error (.unwantedValue f value)
      else
        match Flag.ofSpelling? [Word.dash, c], rest with
        | none, _ => .ok ([(f, none)], [Word.dash :: value])
        | some f', [] => .ok ([(f, none), (f', none)], [])
        | some f', d :: tail =>
          let inner := if d == Word.equals then unfold short f' true tail
            else unfold short f' false (d :: tail)
          inner.map fun (flags, left) => ((f, none) :: flags, left)

/-- The values of a word's flags: the last flag that wants a value and has none takes the next
word, which has to be plain. -/
def supply (flags : List (Flag × Option Text)) (rest : List (Text × Word)) :
    Except UsageFault (List (Flag × Text) × List (Text × Word)) :=
  match flags with
  | [] => .ok ([], rest)
  | (f, value) :: flags =>
    match f.takesValue, value, rest with
    | true, none, (word, .plain) :: rest =>
      (supply flags rest).map fun (fs, rest) => ((f, word) :: fs, rest)
    | true, none, _ => .error (.missingValue f)
    | _, value, rest =>
      (supply flags rest).map fun (fs, rest) => ((f, value.getD []) :: fs, rest)

/-- Takes the input from the front of the words if it is still missing and a plain word stands
there, perhaps beside the separator. -/
def takeInput (d : Draft) (words : List (Text × Word)) : Draft × List (Text × Word) :=
  if d.found then (d, words)
  else
    match words.dropWhile (·.2.isSeparator) with
    | (word, .plain) :: rest =>
      ({ d with found := true, options := { d.options with input := .ofText word } },
        rest.dropWhile (·.2.isSeparator))
    | _ => (d, words)

/-- Takes one flag with its values from the front of the words. -/
def takeFlag (d : Draft) (word : Text) (w : Word) (rest : List (Text × Word)) :
    Except Refusal (Draft × List (Text × Word)) :=
  match w with
  | .flag f short attached =>
    let unfolded : Except UsageFault (List (Flag × Option Text) × List Text) :=
      match attached with
      | some a => unfold short f a.afterSign a.value
      | none => .ok ([(f, none)], [])
    match unfolded with
    | .error e => .error (.usage e)
    | .ok (flags, left) =>
      match supply flags rest with
      | .error e => .error (.usage e)
      | .ok (flags, rest) =>
        (applyFlags d.options flags).map fun options =>
          ({ d with options, unknown := d.unknown ++ left }, rest)
  | _ => .ok ({ d with unknown := d.unknown ++ [word] }, rest)

/-- Takes words until none is left; at most `fuel` rounds. -/
def takeAll : Nat → Draft → List (Text × Word) → Except Refusal Draft
  | 0, d, _ => .ok d
  | fuel + 1, d, words =>
    if words.any (·.2.isFlag) then
      match words with
      | [] => .ok d
      | (word, w) :: rest =>
        if w.isFlag then
          match takeFlag d word w rest with
          | .ok (d, rest) => takeAll fuel d rest
          | .error e => .error e
        else
          let (d', rest') := takeInput d words
          if rest'.length < words.length then takeAll fuel d' rest'
          else
            let skipped := words.takeWhile (!·.2.isFlag)
            takeAll fuel { d with unknown := d.unknown ++ skipped.map (·.1) }
              (words.drop skipped.length)
    else
      let (d, rest) := takeInput d words
      .ok { d with unknown := d.unknown ++ rest.map (·.1) }

/-- The options that a command line asks for. Every round takes a word, so as many rounds as
words, and one for what follows the last flag, are enough. -/
def ofArguments (arguments : List Text) : Except Refusal Options :=
  match Word.classify arguments with
  | .error e => .error (.usage e)
  | .ok words =>
    match takeAll (words.length + 1) {} words with
    | .error e => .error e
    | .ok d =>
      if !d.found then .error (.usage .missingInput)
      else if !d.unknown.isEmpty then .error (.usage (.unknownWords d.unknown))
      else .ok d.options

/-! ## What is printed -/

/-- Lines with their ends. -/
def lines (ls : List String) : Text := ls.flatMap fun l => Text.ofString l ++ [.ofNat 0x0A]

/-- The usage. -/
def usage : Text := lines
  ["usage: tsxlint [-h] [--output OUTPUT] [--inplace] [--marker MARKER]",
    "               [--language \x7btypescript,tsx,javascript\x7d] [--parser PARSER]",
    "               [--timeout TIMEOUT] [--log-level \x7bDEBUG,INFO,WARNING,ERROR\x7d]",
    "               [--json-logs]",
    "               input"]

/-- The help. -/
def help : Text := usage ++ lines
  ["",
    "Format marked template literals with an external formatter",
    "",
    "positional arguments:",
    "  input                 Source file with marked template literals",
    "",
    "options:",
    "  -h, --help            show this help message and exit",
    "  --output OUTPUT, -o OUTPUT",
    "                        Output file (default: <name>-linted<ext> beside the",
    "                        input)",
    "  --inplace, -i         Replace the input file",
    "  --marker MARKER       Comment token marking literals (default: tsx)",
    "  --language \x7btypescript,tsx,javascript\x7d",
    "                        Grammar for the input file (default: from file",
    "                        extension)",
    "  --parser PARSER       Formatter parser/dialect (default: typescript)",
    "  --timeout TIMEOUT     Per-region formatter timeout in seconds (0 = no limit)",
    "  --log-level \x7bDEBUG,INFO,WARNING,ERROR\x7d",
    "                        Log level (default: from settings)",
    "  --json-logs           Emit JSON log lines",
    "",
    "Examples:",
    "    # Write exhibitA-linted.ts next to the input",
    "    tsxlint exhibitA.ts",
    "",
    "    # Write to a different file",
    "    tsxlint exhibitA.ts --output formatted.ts",
    "",
    "    # Replace the input file (atomically)",
    "    tsxlint exhibitA.ts --inplace",
    "",
    "    # Use a different marker and a per-region timeout",
    "    tsxlint app.ts --marker html --timeout 10",
    "        "]

end Options

namespace Refusal

/-- The exit status. -/
def status : Refusal → Int
  | .help => 0
  | .usage _ => 2

/-- What is printed on standard output. -/
def output : Refusal → Text
  | .help => Options.help
  | .usage _ => []

/-- What is printed on standard error. -/
def errorOutput : Refusal → Text
  | .help => []
  | .usage f => Options.usage ++ ("tsxlint: error: " : Text) ++ f.message ++ [CodePoint.ofNat 0x0A]

end Refusal

end Backtick
