import Backtick.LintFile
import Backtick.Proofs.Disk.Output

/-!
# Runs are all or nothing

A run goes through its stages one after the other: it finds its destination, chooses a formatter,
reads, parses, locates, formats, splices and writes. Only the last stage touches the disk, and it
either fails and leaves the disk as it was, or puts a file at the destination and changes nothing
else. The formatter is called only for a text that was read and parsed.

* `lintFile_cases` — a run stops before linting, or is a run of `lintAndWrite`
* `lintAndWrite_cases` — what the stages from linting on do to the disk
* `lintFile_of_error`, `lintFile_of_ok` — what a whole run does to the disk
-/

namespace Backtick

variable {tools : Tools} {mishaps : Mishaps} {elapsed : Number} {j : FileJob} {d : Disk}

/-- What happened to the formatter's calls. A run that lints no text makes none. -/
def FileRun.trace (r : FileRun) : List Transform.Event :=
  match r.lint with
  | some run => run.trace
  | none => []

namespace FileJob

/-- The tree of the input, or why there is none: it cannot be read, or it cannot be parsed. -/
def parsed (tools : Tools) (j : FileJob) (d : Disk) : Except Fault Node :=
  (readSource d j.input).bind fun text =>
    parseText tools.grammars (Lint.languageOf j.settings (some j.chosenLanguage)) text

variable {p : Path} {f : Formatter} {text : Text}

/-- A text that cannot be linted is not written. -/
theorem lintAndWrite_of_error {e : Fault}
    (h : (lintText tools.grammars f j.settings (some j.chosenLanguage) text).result = .error e) :
    (j.lintAndWrite tools mishaps elapsed p f d text).result = .error e ∧
      (j.lintAndWrite tools mishaps elapsed p f d text).disk = d := by
  unfold lintAndWrite
  simp only [h, and_self]

/-- A text that was linted is written, and the report is given when that succeeds. -/
theorem lintAndWrite_of_ok {doc : Document}
    (h : (lintText tools.grammars f j.settings (some j.chosenLanguage) text).result = .ok doc) :
    (j.lintAndWrite tools mishaps elapsed p f d text).result =
        (d.writeOutput mishaps p (doc.output.getD text)).1.map
          (fun _ => j.reportOf p elapsed doc) ∧
      (j.lintAndWrite tools mishaps elapsed p f d text).disk =
        (d.writeOutput mishaps p (doc.output.getD text)).2 := by
  unfold lintAndWrite
  simp only [h]
  rcases d.writeOutput mishaps p (doc.output.getD text) with ⟨e | u, d'⟩
  · exact ⟨rfl, rfl⟩
  · exact ⟨rfl, rfl⟩

/-- Linting and writing fail without a change of the disk, or put the output at its destination. -/
theorem lintAndWrite_cases (tools : Tools) (mishaps : Mishaps) (elapsed : Number) (j : FileJob)
    (p : Path) (f : Formatter) (d : Disk) (text : Text) :
    (∃ e, (j.lintAndWrite tools mishaps elapsed p f d text).result = .error e ∧
      (j.lintAndWrite tools mishaps elapsed p f d text).disk = d) ∨
    ∃ doc place content mode,
      (lintText tools.grammars f j.settings (some j.chosenLanguage) text).result = .ok doc ∧
      (j.lintAndWrite tools mishaps elapsed p f d text).result =
        .ok (j.reportOf p elapsed doc) ∧
      d.entryPlace? p = some place ∧ (p.name ≠ [] ∧ p.name ≠ Disk.above) ∧
      Utf8.encode (doc.output.getD text) = .ok content ∧
      (j.lintAndWrite tools mishaps elapsed p f d text).disk =
        d.put place (.file mode content) := by
  cases hlint : (lintText tools.grammars f j.settings (some j.chosenLanguage) text).result with
  | error e =>
    obtain ⟨hresult, hdisk⟩ := @lintAndWrite_of_error tools mishaps elapsed j d p f text e hlint
    exact Or.inl ⟨e, hresult, hdisk⟩
  | ok doc =>
    obtain ⟨hresult, hdisk⟩ := @lintAndWrite_of_ok tools mishaps elapsed j d p f text doc hlint
    cases hwrite : (d.writeOutput mishaps p (doc.output.getD text)).1 with
    | error e =>
      rw [hwrite] at hresult
      exact Or.inl ⟨e, hresult, hdisk.trans (Disk.writeOutput_of_error hwrite)⟩
    | ok u =>
      rw [hwrite] at hresult
      obtain ⟨place, content, mode, hplace, hname, hcontent, hput⟩ := Disk.writeOutput_of_ok hwrite
      exact Or.inr
        ⟨doc, place, content, mode, rfl, hresult, hplace, hname, hcontent, hdisk.trans hput⟩

end FileJob

/-- A run finds its destination, its formatter and its text, and lints the text if there is all of
them. -/
theorem lintFile_eq (tools : Tools) (mishaps : Mishaps) (elapsed : Number) (j : FileJob)
    (d : Disk) :
    lintFile tools mishaps elapsed j d =
      match (do
        let p ← j.destination
        let f ← j.chosenFormatter tools.programs
        let text ← readSource d j.input
        return (p, f, text) : Except Fault (Path × Formatter × Text)) with
      | .error e => { result := .error e, disk := d }
      | .ok (p, f, text) =>
        { j.lintAndWrite tools mishaps elapsed p f d text with
          log := (j.lintAndWrite tools mishaps elapsed p f d text).log.map
            (LogRecord.within j.context) } := by
  unfold lintFile lintFileIn LogContext.during FileJob.process
  cases j.destination with
  | error e => rfl
  | ok p =>
    cases j.chosenFormatter tools.programs with
    | error e => rfl
    | ok f =>
      dsimp only [bind, Except.bind, pure, Except.pure]
      cases readSource d j.input with
      | error e => rfl
      | ok text => rfl

/-- A run stops before it lints a text, or it lints the input's text and writes the output. -/
theorem lintFile_cases (tools : Tools) (mishaps : Mishaps) (elapsed : Number) (j : FileJob)
    (d : Disk) :
    (∃ e, lintFile tools mishaps elapsed j d = { result := .error e, disk := d }) ∨
    ∃ p f text, j.destination = .ok p ∧ readSource d j.input = .ok text ∧
      j.chosenFormatter tools.programs = .ok f ∧
      lintFile tools mishaps elapsed j d =
        { j.lintAndWrite tools mishaps elapsed p f d text with
          log := (j.lintAndWrite tools mishaps elapsed p f d text).log.map
            (LogRecord.within j.context) } := by
  rw [lintFile_eq]
  cases hp : j.destination with
  | error e => exact Or.inl ⟨e, rfl⟩
  | ok p =>
    cases hf : j.chosenFormatter tools.programs with
    | error e => exact Or.inl ⟨e, rfl⟩
    | ok f =>
      cases htext : readSource d j.input with
      | error e => exact Or.inl ⟨e, rfl⟩
      | ok text => exact Or.inr ⟨p, f, text, rfl, rfl, rfl, rfl⟩

/-- A run that fails leaves the disk as it was. -/
theorem lintFile_of_error {e : Fault}
    (h : (lintFile tools mishaps elapsed j d).result = .error e) :
    (lintFile tools mishaps elapsed j d).disk = d := by
  rcases lintFile_cases tools mishaps elapsed j d with ⟨e', hrun⟩ | ⟨p, f, text, -, -, -, hrun⟩
  · rw [hrun]
  · rw [hrun] at h ⊢
    rcases j.lintAndWrite_cases tools mishaps elapsed p f d text with
      ⟨-, -, hdisk⟩ | ⟨doc, -, -, -, -, hok, -⟩
    · exact hdisk
    · dsimp only at h
      rw [hok] at h
      cases h

/-- A run that succeeds went through all stages, and put the output at its destination. -/
theorem lintFile_of_ok {report : LintReport}
    (h : (lintFile tools mishaps elapsed j d).result = .ok report) :
    ∃ p f text doc place content mode,
      j.destination = .ok p ∧ j.chosenFormatter tools.programs = .ok f ∧
      readSource d j.input = .ok text ∧
      (lintText tools.grammars f j.settings (some j.chosenLanguage) text).result = .ok doc ∧
      report = j.reportOf p elapsed doc ∧
      d.entryPlace? p = some place ∧ (p.name ≠ [] ∧ p.name ≠ Disk.above) ∧
      Utf8.encode (doc.output.getD text) = .ok content ∧
      (lintFile tools mishaps elapsed j d).disk = d.put place (.file mode content) := by
  rcases lintFile_cases tools mishaps elapsed j d with
    ⟨e, hrun⟩ | ⟨p, f, text, hp, htext, hchosen, hrun⟩
  · rw [hrun] at h
    cases h
  · rw [hrun] at h ⊢
    dsimp only at h ⊢
    rcases j.lintAndWrite_cases tools mishaps elapsed p f d text with
      ⟨e, herror, -⟩ | ⟨doc, place, content, mode, hdoc, hok, hplace, hname, hcontent, hdisk⟩
    · rw [herror] at h
      cases h
    · rw [hok] at h
      cases h
      exact ⟨p, f, text, doc, place, content, mode, hp, hchosen, htext, hdoc, rfl, hplace, hname,
        hcontent, hdisk⟩

/-- A text that cannot be parsed is not formatted. -/
theorem lintText_of_parse_error {grammars : Grammars} {s : Settings} {language : Option Text}
    {text : Text} {e : Fault}
    (h : parseText grammars (Lint.languageOf s language) text = .error e) (f : Formatter) :
    lintText grammars f s language text = { result := .error e } := by
  unfold lintText Lint.regionsOf
  rw [h]

/-- A run whose input cannot be read or parsed is fixed without the formatter, and makes no call. -/
theorem lintAndWrite_of_unparsed {text : Text} {e : Fault} (htext : readSource d j.input = .ok text)
    (h : j.parsed tools d = .error e) (p : Path) (f : Formatter) :
    j.lintAndWrite tools mishaps elapsed p f d text =
      { result := .error e, disk := d, lint := some { result := .error e } } := by
  have hparse : parseText tools.grammars
      (Lint.languageOf j.settings (some j.chosenLanguage)) text = .error e := by
    unfold FileJob.parsed at h
    rw [htext] at h
    exact h
  unfold FileJob.lintAndWrite
  rw [lintText_of_parse_error hparse f]

/-- A run whose input cannot be read or parsed makes no call. -/
theorem lintFile_trace_of_unparsed {e : Fault} (h : j.parsed tools d = .error e) :
    (lintFile tools mishaps elapsed j d).trace = [] := by
  rcases lintFile_cases tools mishaps elapsed j d with ⟨e', hrun⟩ | ⟨p, f, text, -, htext, -, hrun⟩
  · rw [hrun]
    rfl
  · rw [hrun, lintAndWrite_of_unparsed htext h]
    rfl

/-- A run whose input cannot be read or parsed is the same with any formatter. -/
theorem lintFile_formatter_of_unparsed {e : Fault} (h : j.parsed tools d = .error e)
    (f g : Formatter) :
    lintFile tools mishaps elapsed { j with formatter := some f } d =
      lintFile tools mishaps elapsed { j with formatter := some g } d := by
  -- nothing in front of the formatter's first call depends on it
  have hdestination : ∀ f, FileJob.destination { j with formatter := some f } = j.destination :=
    fun _ => rfl
  have hchosen : ∀ f,
      FileJob.chosenFormatter tools.programs { j with formatter := some f } = .ok f := fun _ => rfl
  have hparsed : ∀ f, FileJob.parsed tools { j with formatter := some f } d = .error e := fun _ => h
  rw [lintFile_eq, lintFile_eq, hdestination, hdestination, hchosen, hchosen]
  cases j.destination with
  | error e => rfl
  | ok p =>
    cases htext : readSource d j.input with
    | error e => rfl
    | ok text =>
      have hrun : ∀ f, FileJob.lintAndWrite tools mishaps elapsed { j with formatter := some f }
          p f d text = { result := .error e, disk := d, lint := some { result := .error e } } := by
        intro f
        refine lintAndWrite_of_unparsed ?_ (hparsed f) p f
        exact htext
      dsimp only [bind, Except.bind, pure, Except.pure]
      rw [hrun, hrun]
      rfl

/-- **All-or-nothing runs.** A run that fails leaves the disk as it was. When its input could not be
read or parsed, the formatter was not called, and no formatter would have made a difference. A run
that succeeds changes only the entry at its destination. -/
theorem lintFile_all_or_nothing (tools : Tools) (mishaps : Mishaps) (elapsed : Number)
    (j : FileJob) (d : Disk) :
    (∀ e, (lintFile tools mishaps elapsed j d).result = .error e →
      (lintFile tools mishaps elapsed j d).disk = d) ∧
    (∀ e, j.parsed tools d = .error e →
      (lintFile tools mishaps elapsed j d).trace = [] ∧
      ∀ f g, lintFile tools mishaps elapsed { j with formatter := some f } d =
        lintFile tools mishaps elapsed { j with formatter := some g } d) ∧
    (∀ report, (lintFile tools mishaps elapsed j d).result = .ok report →
      ∃ p place, j.destination = .ok p ∧ report.output = some p ∧ d.entryPlace? p = some place ∧
        (∀ q, q ≠ place →
          (lintFile tools mishaps elapsed j d).disk.get? q = d.get? q) ∧
        (lintFile tools mishaps elapsed j d).disk.home = d.home ∧
        (lintFile tools mishaps elapsed j d).disk.umask = d.umask) := by
  refine ⟨fun e herror => lintFile_of_error herror,
    fun e h => ⟨lintFile_trace_of_unparsed h, lintFile_formatter_of_unparsed h⟩, ?_⟩
  intro report hreport
  obtain ⟨p, f, text, doc, place, content, mode, hp, -, -, -, rfl, hplace, -, -, hdisk⟩ :=
    lintFile_of_ok hreport
  refine ⟨p, place, hp, rfl, hplace, ?_, ?_, ?_⟩
  · intro q hq
    rw [hdisk, Disk.get?_put, if_neg (Ne.symm hq)]
  · rw [hdisk]
    rfl
  · rw [hdisk]
    rfl

/-- Every text parses to a tree of one node, and there are no programs. -/
def bareTools : Tools where
  grammars := fun _ => .ok fun _ => default
  programs := { which := fun _ => none, start := fun _ _ _ => .error .unsupported }

/-- The file `a` is to be linted to `b`. -/
def bareJob : FileJob where
  input := .ofText "a"
  output := some (.ofText "b")
  formatter := some (.unsupported "f")

/-- The file `a`, and an earlier output. -/
def bareDisk : Disk :=
  { entries := [(["a"], .file 0o644 [0x78]), (["b"], .file 0o600 [0x79])] }

/-- The output cannot be put in its place. -/
def bareMishaps : Mishaps := fun s => if s = .replace then some (.system ⟨.busy, []⟩) else none

/-- A run whose output cannot be put in the place of an earlier one keeps that one, and a run that
succeeds keeps its input. -/
theorem lintFile_bare :
    (∃ e, (lintFile bareTools bareMishaps (.whole 0) bareJob bareDisk).result = .error e) ∧
      (lintFile bareTools bareMishaps (.whole 0) bareJob bareDisk).disk = bareDisk ∧
      (lintFile bareTools .none (.whole 0) bareJob bareDisk).disk.get? ["a"] =
        bareDisk.get? ["a"] ∧
      (lintFile bareTools .none (.whole 0) bareJob bareDisk).disk.get? ["b"] =
        some (.file 0o600 [0x78]) := by
  obtain ⟨hfailed, -, -⟩ :=
    lintFile_all_or_nothing bareTools bareMishaps (.whole 0) bareJob bareDisk
  obtain ⟨-, -, hok⟩ := lintFile_all_or_nothing bareTools .none (.whole 0) bareJob bareDisk
  have herror : (lintFile bareTools bareMishaps (.whole 0) bareJob bareDisk).result.toOption =
      none := by decide +kernel
  have hsome : (lintFile bareTools .none (.whole 0) bareJob bareDisk).result.toOption.isSome := by
    decide +kernel
  have hwritten : (lintFile bareTools .none (.whole 0) bareJob bareDisk).disk.get? ["b"] =
      some (.file 0o600 [0x78]) := by decide +kernel
  obtain ⟨e, he⟩ : ∃ e,
      (lintFile bareTools bareMishaps (.whole 0) bareJob bareDisk).result = .error e := by
    cases h : (lintFile bareTools bareMishaps (.whole 0) bareJob bareDisk).result with
    | error e => exact ⟨e, rfl⟩
    | ok report =>
      rw [h] at herror
      cases herror
  refine ⟨⟨e, he⟩, hfailed e he, ?_, hwritten⟩
  cases hresult : (lintFile bareTools .none (.whole 0) bareJob bareDisk).result with
  | error e =>
    rw [hresult] at hsome
    cases hsome
  | ok report =>
    obtain ⟨p, place, hp, -, hplace, hkept, -⟩ := hok report hresult
    cases hp
    have hb : bareDisk.entryPlace? (.ofText "b") = some [Text.ofString "b"] := by decide +kernel
    rw [hb] at hplace
    cases hplace
    exact hkept ["a"] (by decide)

end Backtick
