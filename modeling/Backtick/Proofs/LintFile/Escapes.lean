import Backtick.CommandLine
import Backtick.Proofs.Disk.Faults
import Backtick.Proofs.Lint
import Backtick.Proofs.LintFile
import Backtick.Proofs.Transform.Failure

/-!
# Which faults come out of linting a file

Every stage of a run turns the faults that it knows of into errors of the run. Six things fall
through: an input from whose name no output follows, settings without a command, paths with which
the system cannot be asked, a tree that cuts a character, and a limit on the number of calls below
zero. `FileJob.Escapes` lists them, and `lintFile_foreign_iff` says that nothing else comes out of a
run but a report or an error of the run.

* `readSource_foreign_iff`, `lintText_foreign_iff` — what comes out of the stages
* `lintFile_foreign_iff` — what comes out of a run
* `CommandLine.lint_of_no_escape` — how a command line ends otherwise
-/

namespace Backtick

open Utf8 Transform

/-- The fault is no error of the run. -/
def Fault.Foreign (f : Fault) : Prop := ∀ e, f ≠ .lint e

variable {tools : Tools} {mishaps : Mishaps} {elapsed : Number} {j : FileJob} {d : Disk} {f : Fault}

/-! ## Before linting -/

/-- Where the output goes is no business of a run's errors. -/
theorem destination_foreign (h : j.destination = .error f) : f.Foreign := by
  unfold FileJob.destination defaultOutputPath Path.withName at h
  split at h
  · cases h
  · split at h
    · cases h
      exact nofun
    · split at h
      · cases h
        exact nofun
      · cases h

theorem chosenFormatter_foreign (h : j.chosenFormatter tools.programs = .error f) : f.Foreign := by
  unfold FileJob.chosenFormatter FileJob.formatterOf at h
  split at h
  · cases h
  · split at h
    · cases h
      exact nofun
    · cases h

theorem Disk.checkPath_foreign {t : Text} (h : checkPath t = .error f) : f.Foreign := by
  rcases checkPath_error h with ⟨e, rfl⟩ | ⟨rfl, -⟩
  · exact nofun
  · exact nofun

theorem Disk.read_of_checkPath {p : Path} (h : checkPath p.toText = .error f) :
    d.read p = .error f := by
  unfold read resolve
  rw [h]
  rfl

/-- Reading fails by refusals of the system, once it is asked. -/
theorem Disk.read_error {p : Path} (h : d.read p = .error f) :
    checkPath p.toText = .error f ∨ ∃ e, f = .system e := by
  cases hcheck : checkPath p.toText with
  | error g =>
    rw [read_of_checkPath hcheck] at h
    exact .inl (congrArg Except.error (Except.error.inj h))
  | ok u =>
    refine .inr ?_
    unfold read resolve at h
    rw [hcheck] at h
    cases hlocate : d.locate true p with
    | error cause =>
      rw [hlocate] at h
      cases h
      exact ⟨_, rfl⟩
    | ok target =>
      rw [hlocate] at h
      cases target with
      | absent place =>
        cases h
        exact ⟨_, rfl⟩
      | found place entry =>
        cases entry with
        | file mode content =>
          change (if permits mode readBit then .ok content else refuse p .accessDenied) = _ at h
          split at h
          · cases h
          · cases h
            exact ⟨_, rfl⟩
        | directory mode =>
          cases h
          exact ⟨_, rfl⟩
        | link target =>
          cases h
          exact ⟨_, rfl⟩

/-- A source that cannot be read makes an error of the run, unless the system cannot be asked for
it. -/
theorem readSource_foreign_iff {p : Path} (hf : f.Foreign) :
    readSource d p = .error f ↔ Disk.checkPath p.toText = .error f := by
  unfold readSource
  constructor
  · intro h
    cases hread : d.read p with
    | error g =>
      rw [hread] at h
      have hfault : sourceFault p g = f := Except.error.inj h
      rcases Disk.read_error hread with hcheck | ⟨e, rfl⟩
      · rcases Disk.checkPath_error hcheck with ⟨e, rfl⟩ | ⟨rfl, -⟩
        · exact hfault ▸ hcheck
        · exact hfault ▸ hcheck
      · exact absurd hfault.symm (hf _)
    | ok b =>
      rw [hread] at h
      cases hdecode : decode b with
      | error e =>
        have hfault : sourceFault p (.decoding e) = f := by
          simpa [Except.bind, hdecode, Except.mapError] using h
        exact absurd hfault.symm (hf _)
      | ok t => simp [Except.bind, hdecode, Except.mapError] at h
  · intro h
    rw [Disk.read_of_checkPath h]
    rcases Disk.checkPath_error h with ⟨e, rfl⟩ | ⟨rfl, -⟩
    · rfl
    · rfl

theorem spells_of_readSource {p : Path} {text : Text} (h : readSource d p = .ok text) :
    ∃ source, Spells source text := by
  obtain ⟨b, -, hb⟩ := bind_eq_ok.1 (mapError_eq_ok.1 h)
  exact ⟨b, decode_iff.1 (mapError_eq_ok.1 hb)⟩

/-! ## Linting -/

variable {grammars : Grammars} {g : Formatter} {s : Settings} {language text : Text}
  {source : Bytes} {root : Node}

theorem parseText_lint_of_error (hg : grammars language ≠ .error .misused)
    (hs : Spells source text) (h : parseText grammars language text = .error f) :
    ∃ e, f = .lint e := by
  unfold parseText at h
  split at h
  next fault hfault =>
    cases h
    cases fault with
    | unknown => exact ⟨_, rfl⟩
    | broken reason => exact ⟨_, rfl⟩
    | misused => exact absurd hfault hg
  next =>
    rw [encode_iff.2 hs] at h
    dsimp only at h
    split at h
    · cases h
    · cases h
      exact ⟨_, rfl⟩

theorem locate_foreign {q : Query} (h : locate q text root = .error f) : f.Foreign := by
  unfold locate at h
  split at h
  · cases h
    exact nofun
  · split at h
    · cases h
    · cases h
      exact nofun

/-- Formatting and splicing fail with errors of the run, unless the limit on the number of calls is
below zero. -/
theorem formatRegions_foreign_iff {regions : List Region} (hne : regions ≠ [])
    (hindex : regions.map (·.index) = (List.range regions.length).map fun i : Nat => (i : Int))
    (hcalls : ∀ n t, (g.call n t).duration ≠ .endless) (hf : f.Foreign) :
    (Lint.formatRegions g s text regions).result = .error f ↔
      s.formatter.maxConcurrency < 0 ∧ f = .badValue limitMessage := by
  rw [formatRegions_result]
  by_cases hk : s.formatter.maxConcurrency < 0
  · rw [transformRegions_of_negative hne hk]
    constructor
    · intro h
      exact ⟨hk, (Except.error.inj h).symm⟩
    · rintro ⟨-, rfl⟩
      rfl
  · -- with any other limit, calls and splicing fail with errors of the run only
    refine ⟨fun h => ?_, fun h => absurd h.1 hk⟩
    exfalso
    have hk' : ∀ n, some s.formatter.maxConcurrency = some n → 0 ≤ n := by
      rintro n ⟨⟩
      exact not_lt.1 hk
    rcases bind_eq_error.1 h with hresult | ⟨results, -, hsplice⟩
    · obtain ⟨e, rfl⟩ := transformRegions_lint_of_error (.of_eq hindex) hk' hcalls hresult
      exact hf e rfl
    · cases hout : splice text regions results with
      | error e =>
        rw [hout] at hsplice
        exact hf _ (Except.error.inj hsplice).symm
      | ok output =>
        rw [hout] at hsplice
        cases hsplice

/-- Linting a text fails with errors of the run, unless its tree cuts a character, or it has marked
literals and the limit on the number of calls is below zero. -/
theorem lintText_foreign_iff {given : Option Text}
    (hg : grammars (Lint.languageOf s given) ≠ .error .misused) (hs : Spells source text)
    (hcalls : ∀ n t, (g.call n t).duration ≠ .endless) (hf : f.Foreign) :
    (lintText grammars g s given text).result = .error f ↔
      ∃ root, parseText grammars (Lint.languageOf s given) text = .ok root ∧
        (locate (Lint.query s) text root = .error f ∨
          ∃ regions, locate (Lint.query s) text root = .ok regions ∧ regions ≠ [] ∧
            s.formatter.maxConcurrency < 0 ∧ f = .badValue limitMessage) := by
  unfold lintText Lint.regionsOf
  cases hparse : parseText grammars (Lint.languageOf s given) text with
  | error f' =>
    constructor
    · intro h
      obtain ⟨e, rfl⟩ := parseText_lint_of_error hg hs hparse
      exact absurd (Except.error.inj h).symm (hf e)
    · rintro ⟨_, ⟨⟩, -⟩
  | ok root =>
    dsimp only
    cases hlocate : locate (Lint.query s) text root with
    | error f' =>
      constructor
      · intro h
        cases h
        exact ⟨root, rfl, .inl hlocate⟩
      · rintro ⟨_, ⟨⟩, h | ⟨_, h, -⟩⟩
        · cases hlocate.symm.trans h
          rfl
        · rw [hlocate] at h
          cases h
    | ok regions =>
      dsimp only
      by_cases hne : regions = []
      · subst hne
        constructor
        · intro h
          cases h
        · rintro ⟨_, ⟨⟩, h | ⟨regions, h, hne, -⟩⟩
          · rw [hlocate] at h
            cases h
          · rw [hlocate] at h
            cases h
            exact absurd rfl hne
      · rw [if_neg (by simpa using hne)]
        refine (formatRegions_foreign_iff hne (locate_index hlocate) hcalls hf).trans ?_
        constructor
        · rintro ⟨hk, rfl⟩
          exact ⟨root, rfl, .inr ⟨regions, hlocate, hne, hk, rfl⟩⟩
        · rintro ⟨_, ⟨⟩, h | ⟨_, -, -, hk, hmessage⟩⟩
          · rw [hlocate] at h
            cases h
          · exact ⟨hk, hmessage⟩

/-! ## Runs -/

/-- The ways in which a fault that is no error of the run comes out of linting a file. -/
inductive FileJob.Escapes (tools : Tools) (mishaps : Mishaps) (j : FileJob) (d : Disk) :
    Fault → Prop
  /-- no name for the output follows from the input's name and the suffix of the settings -/
  | destination {f : Fault} (h : j.destination = .error f) : Escapes tools mishaps j d f
  /-- the settings have no command -/
  | formatter {p : Path} {f : Fault} (hp : j.destination = .ok p)
      (h : j.chosenFormatter tools.programs = .error f) : Escapes tools mishaps j d f
  /-- the system cannot be asked for the input -/
  | input {p : Path} {g : Formatter} {f : Fault} (hp : j.destination = .ok p)
      (hg : j.chosenFormatter tools.programs = .ok g)
      (h : Disk.checkPath j.input.toText = .error f) : Escapes tools mishaps j d f
  /-- a node of the tree starts or ends within a character -/
  | offset {p : Path} {g : Formatter} {text : Text} {root : Node} {f : Fault}
      (hp : j.destination = .ok p) (hg : j.chosenFormatter tools.programs = .ok g)
      (htext : readSource d j.input = .ok text) (hroot : j.parsed tools d = .ok root)
      (h : locate (Lint.query j.settings) text root = .error f) : Escapes tools mishaps j d f
  /-- there are marked literals, and the limit on the number of calls is below zero -/
  | limit {p : Path} {g : Formatter} {text : Text} {root : Node} {regions : List Region}
      (hp : j.destination = .ok p) (hg : j.chosenFormatter tools.programs = .ok g)
      (htext : readSource d j.input = .ok text) (hroot : j.parsed tools d = .ok root)
      (hregions : locate (Lint.query j.settings) text root = .ok regions) (hne : regions ≠ [])
      (h : j.settings.formatter.maxConcurrency < 0) :
      Escapes tools mishaps j d (.badValue limitMessage)
  /-- the text was linted, and the system cannot be asked to create the temporary file -/
  | output {p : Path} {g : Formatter} {text : Text} {doc : Document}
      (hp : j.destination = .ok p) (hg : j.chosenFormatter tools.programs = .ok g)
      (htext : readSource d j.input = .ok text)
      (hdoc : (lintText tools.grammars g j.settings (some j.chosenLanguage) text).result = .ok doc)
      (hcreate : mishaps .create = none)
      (h : Disk.checkPath (Disk.temporaryPath p (Disk.temporaryName p.name 0)).toText =
        .error (.badValue Disk.nullMessage)) :
      Escapes tools mishaps j d (.badValue Disk.nullMessage)

/-- None of them gives an error of the run. -/
theorem FileJob.Escapes.foreign (h : j.Escapes tools mishaps d f) : f.Foreign := by
  cases h with
  | destination hp => exact destination_foreign hp
  | formatter _ hg => exact chosenFormatter_foreign hg
  | input _ _ hcheck => exact Disk.checkPath_foreign hcheck
  | offset _ _ _ _ hlocate => exact locate_foreign hlocate
  | limit => exact nofun
  | output => exact nofun

/-- A run goes through its stages one after the other. -/
theorem lintFile_result (tools : Tools) (mishaps : Mishaps) (elapsed : Number) (j : FileJob)
    (d : Disk) :
    (lintFile tools mishaps elapsed j d).result =
      (do
        let p ← j.destination
        let g ← j.chosenFormatter tools.programs
        let text ← readSource d j.input
        (j.lintAndWrite tools mishaps elapsed p g d text).result) := by
  rw [lintFile_eq]
  cases j.destination with
  | error f => rfl
  | ok p =>
    cases j.chosenFormatter tools.programs with
    | error f => rfl
    | ok g =>
      cases readSource d j.input with
      | error f => rfl
      | ok text => rfl

theorem lintAndWrite_eq_error {p : Path} :
    (j.lintAndWrite tools mishaps elapsed p g d text).result = .error f ↔
      (lintText tools.grammars g j.settings (some j.chosenLanguage) text).result = .error f ∨
        ∃ doc,
          (lintText tools.grammars g j.settings (some j.chosenLanguage) text).result = .ok doc ∧
          (d.writeOutput mishaps p (doc.output.getD text)).1 = .error f := by
  cases hlint : (lintText tools.grammars g j.settings (some j.chosenLanguage) text).result with
  | error f' =>
    rw [(FileJob.lintAndWrite_of_error hlint).1]
    simp
  | ok doc =>
    rw [(FileJob.lintAndWrite_of_ok hlint).1]
    cases hwrite : (d.writeOutput mishaps p (doc.output.getD text)).1 <;>
      simp [Except.map, hwrite]

theorem parsed_of_readSource (h : readSource d j.input = .ok text) :
    j.parsed tools d =
      parseText tools.grammars (Lint.languageOf j.settings (some j.chosenLanguage)) text := by
  unfold FileJob.parsed
  rw [h]
  rfl

section

variable
  (hgrammar : tools.grammars (Lint.languageOf j.settings (some j.chosenLanguage)) ≠ .error .misused)
  (hcalls : ∀ g, j.chosenFormatter tools.programs = .ok g → ∀ n t, (g.call n t).duration ≠ .endless)
  (hmishaps : mishaps.Refuse)

include hgrammar hcalls hmishaps

theorem escapes_of_lintFile (hf : f.Foreign)
    (h : (lintFile tools mishaps elapsed j d).result = .error f) :
    j.Escapes tools mishaps d f := by
  rw [lintFile_result] at h
  simp only [bind_eq_error] at h
  rcases h with hp | ⟨p, hp, hg | ⟨g, hg, htext | ⟨text, htext, h⟩⟩⟩
  · exact .destination hp
  · exact .formatter hp hg
  · exact .input hp hg ((readSource_foreign_iff hf).1 htext)
  · obtain ⟨source, hs⟩ := spells_of_readSource htext
    rcases lintAndWrite_eq_error.1 h with hlint | ⟨doc, hdoc, hwrite⟩
    · obtain ⟨root, hroot, hlocate | ⟨regions, hregions, hne, hk, rfl⟩⟩ :=
        (lintText_foreign_iff hgrammar hs (hcalls g hg) hf).1 hlint
      · exact .offset hp hg htext ((parsed_of_readSource htext).trans hroot) hlocate
      · exact .limit hp hg htext ((parsed_of_readSource htext).trans hroot) hregions hne hk
    · obtain ⟨hcreate, rfl, hcheck⟩ := (Disk.writeOutput_foreign_iff hmishaps hf).1 hwrite
      exact .output hp hg htext hdoc hcreate hcheck

theorem lintFile_of_escapes (h : j.Escapes tools mishaps d f) :
    (lintFile tools mishaps elapsed j d).result = .error f := by
  have hf := h.foreign
  rw [lintFile_result]
  simp only [bind_eq_error]
  cases h with
  | destination hp => exact .inl hp
  | formatter hp hg => exact .inr ⟨_, hp, .inl hg⟩
  | input hp hg hcheck =>
    exact .inr ⟨_, hp, .inr ⟨_, hg, .inl ((readSource_foreign_iff hf).2 hcheck)⟩⟩
  | offset hp hg htext hroot hlocate =>
    obtain ⟨source, hs⟩ := spells_of_readSource htext
    have hlint := (lintText_foreign_iff hgrammar hs (hcalls _ hg) hf).2
      ⟨_, (parsed_of_readSource htext).symm.trans hroot, .inl hlocate⟩
    exact .inr ⟨_, hp, .inr ⟨_, hg, .inr ⟨_, htext, lintAndWrite_eq_error.2 (.inl hlint)⟩⟩⟩
  | limit hp hg htext hroot hregions hne hk =>
    obtain ⟨source, hs⟩ := spells_of_readSource htext
    have hlint := (lintText_foreign_iff hgrammar hs (hcalls _ hg) hf).2
      ⟨_, (parsed_of_readSource htext).symm.trans hroot, .inr ⟨_, hregions, hne, hk, rfl⟩⟩
    exact .inr ⟨_, hp, .inr ⟨_, hg, .inr ⟨_, htext, lintAndWrite_eq_error.2 (.inl hlint)⟩⟩⟩
  | output hp hg htext hdoc hcreate hcheck =>
    refine .inr ⟨_, hp, .inr ⟨_, hg, .inr ⟨_, htext,
      lintAndWrite_eq_error.2 (.inr ⟨_, hdoc, ?_⟩)⟩⟩⟩
    exact (Disk.writeOutput_foreign_iff hmishaps hf).2 ⟨hcreate, rfl, hcheck⟩

end

/-- A command line whose run lets nothing else out ends with status 0, or with status 1 and a
message about the error. -/
theorem CommandLine.lint_of_no_escape {o : Options} {setup : LogSetup}
    (hg : FileJob.formatterOf tools.programs s.formatter = .ok g)
    (hgrammar : tools.grammars (Lint.languageOf s (some (job o s g).chosenLanguage)) ≠
      .error .misused)
    (hcalls : ∀ n t, (g.call n t).duration ≠ .endless)
    (hnone : ∀ f, ¬(job o s g).Escapes tools .none d f) :
    (∃ r, (lint tools elapsed o s setup d).1.ending = .status 0 ∧
      (lint tools elapsed o s setup d).1.errorOutput = doneMessage r) ∨
    ∃ e, (lint tools elapsed o s setup d).1.ending = .status 1 ∧
      (lint tools elapsed o s setup d).1.errorOutput = errorMessage e := by
  unfold lint
  rw [hg]
  dsimp only
  cases hresult : (lintFile tools .none elapsed (job o s g) d).result with
  | ok r => exact .inl ⟨r, rfl, rfl⟩
  | error f =>
    by_cases hf : f.Foreign
    · refine absurd (escapes_of_lintFile hgrammar ?_ Mishaps.none_refuse hf hresult) (hnone f)
      rintro _ ⟨⟩
      exact hcalls
    · obtain ⟨e, he⟩ := not_forall.1 hf
      rw [not_not] at he
      subst he
      exact .inr ⟨e, rfl, rfl⟩

/-- **What comes out of a run.** When the grammar's loader answers, every call of the formatter
ends, and nothing but refusals of the system befalls the write, a run gives a report or an error of
the run, and other faults exactly in the listed ways. -/
theorem lintFile_foreign_iff
    (hgrammar : tools.grammars (Lint.languageOf j.settings (some j.chosenLanguage)) ≠
      .error .misused)
    (hcalls : ∀ g, j.chosenFormatter tools.programs = .ok g →
      ∀ n t, (g.call n t).duration ≠ .endless)
    (hmishaps : mishaps.Refuse) (hf : f.Foreign) :
    (lintFile tools mishaps elapsed j d).result = .error f ↔ j.Escapes tools mishaps d f :=
  ⟨escapes_of_lintFile hgrammar hcalls hmishaps hf, lintFile_of_escapes hgrammar hcalls hmishaps⟩

/-- The working directory is to be linted, and no destination is given. -/
def unnamedJob : FileJob := { bareJob with input := .ofText ".", output := none }

theorem unnamedJob_destination :
    unnamedJob.destination = .error (.badValue "PosixPath('.') has an empty name") := by
  have hname : (Path.ofText ".").name.isEmpty = true := by decide
  have hmessage : (Path.ofText ".").shown ++ Text.ofString " has an empty name" =
      "PosixPath('.') has an empty name" := by decide +kernel
  unfold FileJob.destination unnamedJob defaultOutputPath Path.withName
  dsimp only
  rw [if_pos hname, hmessage]

/-- The fault of a path without a name comes out of a run as it is. -/
theorem lintFile_unnamed :
    (lintFile bareTools .none (.whole 0) unnamedJob bareDisk).result =
        .error (.badValue "PosixPath('.') has an empty name") ∧
      ∀ e, (lintFile bareTools .none (.whole 0) unnamedJob bareDisk).result ≠ .error (.lint e) := by
  have hresult : (lintFile bareTools .none (.whole 0) unnamedJob bareDisk).result =
      .error (.badValue "PosixPath('.') has an empty name") := by
    rw [lintFile_result, unnamedJob_destination]
    rfl
  refine ⟨hresult, fun e h => ?_⟩
  rw [hresult] at h
  cases h

/-- Among the listed ways, it is the first. -/
theorem lintFile_unnamed_escapes :
    (lintFile bareTools .none (.whole 0) unnamedJob bareDisk).result =
        .error (.badValue "PosixPath('.') has an empty name") ↔
      unnamedJob.Escapes bareTools .none bareDisk
        (.badValue "PosixPath('.') has an empty name") := by
  refine lintFile_foreign_iff ?_ ?_ Mishaps.none_refuse nofun
  · intro h
    cases h
  · intro g hg n t
    cases hg
    exact nofun

end Backtick
