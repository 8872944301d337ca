import Backtick.Proofs.Disk.Faults
import Backtick.Proofs.Disk.Walk

/-!
# Writes under faults

Each step of a write can fail: it meets a fault of its own, or one befalls it from outside. The
first step that fails decides how the write ends, and the disk is then what it was. Closing counts
as earlier than writing, because the file is closed whether it could be written or not. A write in
which no step fails leaves the text's bytes at its destination, with the bits that stood there.

The permission bits are those that the destination has beside the temporary file. This file stands
where nothing was and has a longer name, so it does not come between a path and what it leads to.

* `writeOutput_eq_error_iff` — a write fails as the first of its steps that fails
* `outputMode_of_file`, `outputMode_of_absent` — the permission bits of the output
* `writeOutput_atomic` — both endings of a write
-/

namespace Backtick

/-- The place of a step in the order in which steps that fail decide how a write ends. -/
def OutputStep.rank : OutputStep → Nat
  | .create => 0
  | .close => 1
  | .write => 2
  | .inspect => 3
  | .setMode => 4
  | .replace => 5

theorem OutputStep.rank_create_lt {s : OutputStep} (h : s ≠ .create) :
    OutputStep.create.rank < s.rank := by
  cases s with
  | create => exact absurd rfl h
  | _ => decide

namespace Disk

variable {d d' : Disk} {mishaps : Mishaps} {p temporary : Path} {place directory : Place} {t : Text}
  {s : OutputStep} {f g : Fault} {α : Type}

/-! ## Steps that fail -/

/-- The faults that the steps of a write meet of their own. Those behind the creation of the
temporary file work beside it. -/
inductive OwnFault (d : Disk) (p : Path) (t : Text) : OutputStep → Fault → Prop where
  | create {f : Fault} (h : d.createTemporary p = .error f) : OwnFault d p t .create f
  | write {e : Utf8.EncodeFault} (h : Utf8.encode t = .error e) :
      OwnFault d p t .write (.encoding e)
  | inspect {temporary : Path} {place : Place} {d' : Disk} {f : Fault}
      (hcreate : d.createTemporary p = .ok (temporary, place, d'))
      (h : d'.destinationMode p = .error f) : OwnFault d p t .inspect f
  | replace {temporary : Path} {place : Place} {d' : Disk} {e : Entry} {f : Fault}
      (hcreate : d.createTemporary p = .ok (temporary, place, d'))
      (h : d'.replaceEntry temporary place p e = .error f) : OwnFault d p t .replace f

/-- A step of a write fails. That nothing stands at the destination is no failure. -/
structure StepFails (d : Disk) (mishaps : Mishaps) (p : Path) (t : Text) (s : OutputStep)
    (f : Fault) : Prop where
  cause : mishaps s = some f ∨ mishaps s = none ∧ OwnFault d p t s f
  excuse : s = .inspect → isNoEntry f = false

/-- A step of a write fails, and no step that would decide in its place does. -/
structure FailsFirst (d : Disk) (mishaps : Mishaps) (p : Path) (t : Text) (s : OutputStep)
    (f : Fault) : Prop where
  fails : StepFails d mishaps p t s f
  first : ∀ s' f', s'.rank < s.rank → ¬ StepFails d mishaps p t s' f'

/-- How a write ends that a fault stops: the system's refusals and texts without a UTF-8 form become
errors of the run, and other faults come out as they are. -/
inductive Reported (p : Path) : Fault → Fault → Prop where
  | refused (e : SystemError) : Reported p (.system e) (.lint (.write p.toText (some e.message)))
  | unencodable (e : Utf8.EncodeFault) :
      Reported p (.encoding e) (.lint (.write p.toText (some e.message)))
  | foreign {f : Fault} (hsystem : ∀ e, f ≠ .system e) (hencoding : ∀ e, f ≠ .encoding e) :
      Reported p f f

theorem reported_iff : Reported p f g ↔ g = outputFault p f := by
  constructor
  · intro h
    cases h with
    | refused e => rfl
    | unencodable e => rfl
    | foreign hsystem hencoding =>
      unfold outputFault isOutputFault
      cases f with
      | system e => exact absurd rfl (hsystem e)
      | encoding e => exact absurd rfl (hencoding e)
      | _ => rfl
  · rintro rfl
    cases f with
    | system e => exact .refused e
    | encoding e => exact .unencodable e
    | _ => exact .foreign nofun nofun

theorem step_eq_error {r : Except Fault α} :
    step mishaps s r = .error f ↔ mishaps s = some f ∨ mishaps s = none ∧ r = .error f := by
  unfold step
  cases mishaps s <;> simp

theorem exists_ok_of_no_error {r : Except Fault α} (h : ∀ f, r ≠ .error f) : ∃ a, r = .ok a := by
  cases r with
  | error f => exact absurd rfl (h f)
  | ok a => exact ⟨a, rfl⟩

/-! ## Step by step -/

theorem stepFails_create :
    StepFails d mishaps p t .create f ↔ step mishaps .create (d.createTemporary p) = .error f := by
  rw [step_eq_error]
  constructor
  · rintro ⟨h | ⟨hnone, hown⟩, -⟩
    · exact Or.inl h
    · cases hown with
      | create h => exact Or.inr ⟨hnone, h⟩
  · rintro (h | ⟨hnone, h⟩)
    · exact ⟨Or.inl h, nofun⟩
    · exact ⟨Or.inr ⟨hnone, .create h⟩, nofun⟩

theorem contentOf_eq_error :
    contentOf t = .error f ↔ ∃ e, Utf8.encode t = .error e ∧ f = .encoding e := by
  unfold contentOf
  cases Utf8.encode t with
  | error e =>
    constructor
    · rintro ⟨⟩
      exact ⟨e, rfl, rfl⟩
    · rintro ⟨_, ⟨⟩, rfl⟩
      rfl
  | ok b =>
    constructor
    · rintro ⟨⟩
    · rintro ⟨_, ⟨⟩, -⟩

theorem stepFails_write :
    StepFails d mishaps p t .write f ↔ step mishaps .write (contentOf t) = .error f := by
  rw [step_eq_error, contentOf_eq_error]
  constructor
  · rintro ⟨h | ⟨hnone, hown⟩, -⟩
    · exact Or.inl h
    · cases hown with
      | write h => exact Or.inr ⟨hnone, _, h, rfl⟩
  · rintro (h | ⟨hnone, e, h, rfl⟩)
    · exact ⟨Or.inl h, nofun⟩
    · exact ⟨Or.inr ⟨hnone, .write h⟩, nofun⟩

/-- Some steps fail for reasons from outside only. -/
theorem stepFails_of_no_own (hown : ∀ f, ¬ OwnFault d p t s f) (hs : s ≠ .inspect) :
    StepFails d mishaps p t s f ↔ step mishaps s (.ok () : Except Fault Unit) = .error f := by
  rw [step_eq_error]
  constructor
  · rintro ⟨h | ⟨-, h⟩, -⟩
    · exact Or.inl h
    · exact absurd h (hown f)
  · rintro (h | ⟨-, ⟨⟩⟩)
    exact ⟨Or.inl h, fun hinspect => absurd hinspect hs⟩

theorem stepFails_close : StepFails d mishaps p t .close f ↔
    step mishaps .close (.ok () : Except Fault Unit) = .error f :=
  stepFails_of_no_own nofun nofun

theorem stepFails_setMode : StepFails d mishaps p t .setMode f ↔
    step mishaps .setMode (.ok () : Except Fault Unit) = .error f :=
  stepFails_of_no_own nofun nofun

theorem outputMode_eq_error : d.outputMode mishaps p = .error f ↔
    step mishaps .inspect (d.destinationMode p) = .error f ∧ isNoEntry f = false := by
  unfold outputMode
  cases hstep : step mishaps .inspect (d.destinationMode p) with
  | ok mode => simp
  | error g =>
    dsimp only
    cases hg : isNoEntry g with
    | true =>
      constructor
      · rintro ⟨⟩
      · rintro ⟨⟨⟩, hf⟩
        rw [hg] at hf
        cases hf
    | false =>
      constructor
      · rintro ⟨⟩
        exact ⟨rfl, hg⟩
      · rintro ⟨⟨⟩, -⟩
        rfl

theorem stepFails_inspect (hcreate : d.createTemporary p = .ok (temporary, place, d')) :
    StepFails d mishaps p t .inspect f ↔ d'.outputMode mishaps p = .error f := by
  rw [outputMode_eq_error, step_eq_error]
  constructor
  · rintro ⟨h | ⟨hnone, hown⟩, hexcuse⟩
    · exact ⟨Or.inl h, hexcuse rfl⟩
    · cases hown with
      | inspect hcreate' h =>
        rw [hcreate] at hcreate'
        cases hcreate'
        exact ⟨Or.inr ⟨hnone, h⟩, hexcuse rfl⟩
  · rintro ⟨h | ⟨hnone, h⟩, hexcuse⟩
    · exact ⟨Or.inl h, fun _ => hexcuse⟩
    · exact ⟨Or.inr ⟨hnone, .inspect hcreate h⟩, fun _ => hexcuse⟩

/-- Whether a file can take its destination's place does not depend on the file. -/
theorem replaceEntry_error_congr {e : Entry} (e' : Entry)
    (h : d.replaceEntry temporary place p e = .error f) :
    d.replaceEntry temporary place p e' = .error f := by
  unfold replaceEntry at h ⊢
  dsimp only at h ⊢
  split
  · next hname =>
    rw [if_pos hname] at h
    exact h
  · next hname =>
    rw [if_neg hname] at h
    split at h
    · exact h
    · cases h

theorem stepFails_replace (hcreate : d.createTemporary p = .ok (temporary, place, d')) (e : Entry) :
    StepFails d mishaps p t .replace f ↔
      step mishaps .replace (d'.replaceEntry temporary place p e) = .error f := by
  rw [step_eq_error]
  constructor
  · rintro ⟨h | ⟨hnone, hown⟩, -⟩
    · exact Or.inl h
    · cases hown with
      | replace hcreate' h =>
        rw [hcreate] at hcreate'
        cases hcreate'
        exact Or.inr ⟨hnone, replaceEntry_error_congr e h⟩
  · rintro (h | ⟨hnone, h⟩)
    · exact ⟨Or.inl h, nofun⟩
    · exact ⟨Or.inr ⟨hnone, .replace hcreate h⟩, nofun⟩

/-- What is written to the temporary file fails as closing does, or else as writing does. -/
theorem writeContent_eq_error : writeContent mishaps t = .error f ↔
    step mishaps .close (.ok () : Except Fault Unit) = .error f ∨
      (step mishaps .close (.ok () : Except Fault Unit) = .ok () ∧
        step mishaps .write (contentOf t) = .error f) := by
  unfold writeContent
  cases step mishaps .close (.ok () : Except Fault Unit) with
  | ok u => simp
  | error g => simp

/-- The steps behind the creation of the temporary file fail as the first of them that fails. -/
theorem finishOutput_of_failsFirst (hcreate : d.createTemporary p = .ok (temporary, place, d'))
    (h : FailsFirst d mishaps p t s f) (hs : s ≠ .create) :
    d'.finishOutput mishaps temporary place p t = .error f := by
  -- what a step in front of the failing one gives
  have hok : ∀ {β : Type} {s' : OutputStep} {r : Except Fault β}, s'.rank < s.rank →
      (∀ f, StepFails d mishaps p t s' f ↔ r = .error f) → ∃ b, r = .ok b := by
    intro β s' r hrank hiff
    exact exists_ok_of_no_error fun f' hf' => h.first s' f' hrank ((hiff f').mpr hf')
  have hcontent (hrank : OutputStep.write.rank < s.rank) :
      ∃ content, writeContent mishaps t = .ok content := by
    obtain ⟨_, hclose⟩ := hok (Nat.lt_trans (by decide) hrank) fun _ => stepFails_close
    obtain ⟨content, hwrite⟩ := hok hrank fun _ => stepFails_write
    refine ⟨content, ?_⟩
    rw [writeContent, hclose, hwrite]
  unfold finishOutput
  cases s with
  | create => exact absurd rfl hs
  | close =>
    rw [writeContent_eq_error.mpr (.inl (stepFails_close.mp h.fails))]
    rfl
  | write =>
    obtain ⟨_, hclose⟩ := hok (by decide) fun _ => stepFails_close
    rw [writeContent_eq_error.mpr (.inr ⟨hclose, stepFails_write.mp h.fails⟩)]
    rfl
  | inspect =>
    obtain ⟨content, hcontent⟩ := hcontent (by decide)
    rw [hcontent, (stepFails_inspect hcreate).mp h.fails]
    rfl
  | setMode =>
    obtain ⟨content, hcontent⟩ := hcontent (by decide)
    obtain ⟨mode, hinspect⟩ := hok (by decide) fun _ => stepFails_inspect hcreate
    rw [hcontent, hinspect, stepFails_setMode.mp h.fails]
    rfl
  | replace =>
    obtain ⟨content, hcontent⟩ := hcontent (by decide)
    obtain ⟨mode, hinspect⟩ := hok (by decide) fun _ => stepFails_inspect hcreate
    obtain ⟨_, hset⟩ := hok (by decide) fun _ => stepFails_setMode
    rw [hcontent, hinspect, hset]
    exact (stepFails_replace hcreate (.file mode content)).mp h.fails

/-- The steps behind the creation of the temporary file fail as one of them does. -/
theorem stepFails_of_finishOutput (hcreate : d.createTemporary p = .ok (temporary, place, d'))
    (h : d'.finishOutput mishaps temporary place p t = .error f) :
    ∃ s, StepFails d mishaps p t s f := by
  unfold finishOutput at h
  rcases bind_eq_error.mp h with h | ⟨content, -, h⟩
  · rcases writeContent_eq_error.mp h with h | ⟨-, h⟩
    · exact ⟨_, stepFails_close.mpr h⟩
    · exact ⟨_, stepFails_write.mpr h⟩
  rcases bind_eq_error.mp h with h | ⟨mode, -, h⟩
  · exact ⟨_, (stepFails_inspect hcreate).mpr h⟩
  rcases bind_eq_error.mp h with h | ⟨_, -, h⟩
  · exact ⟨_, stepFails_setMode.mpr h⟩
  · exact ⟨_, (stepFails_replace hcreate _).mpr h⟩

/-- If a step fails, one fails first. -/
theorem StepFails.exists_first (h : StepFails d mishaps p t s f) :
    ∃ s f, FailsFirst d mishaps p t s f := by
  induction hn : s.rank using Nat.strongRecOn generalizing s f with
  | ind n ih =>
    by_cases hearlier : ∃ s' f', s'.rank < s.rank ∧ StepFails d mishaps p t s' f'
    · obtain ⟨s', f', hrank, hfails⟩ := hearlier
      exact ih s'.rank (hn ▸ hrank) hfails rfl
    · exact ⟨s, f, h, fun s' f' hrank hfails => hearlier ⟨s', f', hrank, hfails⟩⟩

theorem writeOutput_of_failsFirst (h : FailsFirst d mishaps p t s f) :
    (d.writeOutput mishaps p t).1 = .error (outputFault p f) := by
  unfold writeOutput
  by_cases hs : s = .create
  · subst hs
    rw [stepFails_create.mp h.fails]
  · have hok : ∀ f', step mishaps .create (d.createTemporary p) ≠ .error f' := fun f' hf' =>
      h.first .create f' (OutputStep.rank_create_lt hs) (stepFails_create.mpr hf')
    obtain ⟨⟨temporary, place, d'⟩, hcreate⟩ := exists_ok_of_no_error hok
    rw [hcreate]
    dsimp only
    rw [finishOutput_of_failsFirst (step_of_ok hcreate) h hs]

/-- A write fails as the first of its steps that fails. -/
theorem writeOutput_eq_error_iff : (d.writeOutput mishaps p t).1 = .error g ↔
    ∃ s f, FailsFirst d mishaps p t s f ∧ Reported p f g := by
  constructor
  · intro h
    have hfails : ∃ s f, StepFails d mishaps p t s f := by
      unfold writeOutput at h
      split at h
      · next f hcreate => exact ⟨_, f, stepFails_create.mpr hcreate⟩
      · next temporary place d' hcreate =>
        split at h
        · next f hfinish =>
          obtain ⟨s, hs⟩ := stepFails_of_finishOutput (step_of_ok hcreate) hfinish
          exact ⟨s, f, hs⟩
        · cases h
    obtain ⟨s, f, hsf⟩ := hfails
    obtain ⟨s, f, hfirst⟩ := hsf.exists_first
    rw [writeOutput_of_failsFirst hfirst] at h
    exact ⟨s, f, hfirst, reported_iff.mpr (Except.error.inj h).symm⟩
  · rintro ⟨s, f, hfirst, hreported⟩
    rw [writeOutput_of_failsFirst hfirst, reported_iff.mp hreported]

/-! ## Permission bits -/

theorem temporaryName_ne (name : Text) (n : Nat) : temporaryName name n ≠ name := by
  intro h
  have hlength := congrArg List.length h
  unfold temporaryName at hlength
  simp only [List.length_append] at hlength
  have hdot : List.length ("." : Text) = 1 := rfl
  omega

/-- A path that leads to an entry leads there also when another one was put where nothing was. -/
theorem locate_put {e : Entry} {q : Place} (e' : Entry) (habsent : d.get? place = none)
    (h : d.locate true p = .ok (.found q e)) :
    (d.put place e').locate true p = .ok (.found q e) := by
  unfold locate at h ⊢
  split
  · next hlong =>
    rw [if_pos hlong] at h
    cases h
  · next hlong =>
    rw [if_neg hlong] at h
    exact walk_put e' habsent h

/-- A path leads through the directory that its parent leads to. -/
theorem locate_through {mode : Nat}
    (hparent : d.locate true p.parent = .ok (.found directory (.directory mode)))
    (hname : p.name ≠ []) : d.get? directory = some (.directory mode) ∧
      (d.locate true p = .error .nameTooLong ∨
        ∃ links, d.locate true p = d.walk true links directory [p.name]) := by
  unfold locate at hparent ⊢
  split at hparent
  · cases hparent
  obtain ⟨hdirectory, links, hwalk⟩ := walk_append hparent [p.name]
  refine ⟨hdirectory, ?_⟩
  split
  · exact Or.inl rfl
  · refine Or.inr ⟨links, ?_⟩
    rw [parts_concat hname]
    exact hwalk

/-- What a path leads to is what stands in the directory that its parent leads to, if that is no
link. -/
theorem locate_cases {mode : Nat}
    (hparent : d.locate true p.parent = .ok (.found directory (.directory mode)))
    (hname : p.name ≠ [] ∧ p.name ≠ above)
    (hlink : ∀ target, d.get? (directory ++ [p.name]) ≠ some (.link target)) :
    d.locate true p = .ok (d.targetAt (directory ++ [p.name])) ∨
      ∃ cause, (cause = .accessDenied ∨ cause = .nameTooLong) ∧
        d.locate true p = .error cause := by
  obtain ⟨hdirectory, hlong | ⟨links, hlinks⟩⟩ := locate_through hparent hname.1
  · exact Or.inr ⟨_, Or.inr rfl, hlong⟩
  · rw [hlinks]
    rcases walk_name links hdirectory hname.2 hlink with h | h | h
    · exact Or.inr ⟨_, Or.inl rfl, h⟩
    · exact Or.inr ⟨_, Or.inr rfl, h⟩
    · exact Or.inl h

theorem isNoEntry_of_checkPath (h : checkPath t = .error f) : isNoEntry f = false := by
  rcases checkPath_error h with ⟨e, rfl⟩ | ⟨rfl, -⟩
  · rfl
  · rfl

/-- The bits of a destination are those of the file that stands there, unless looking fails. -/
theorem destinationMode_of_file {m mode : Nat} {b : Bytes}
    (hparent : d.locate true p.parent = .ok (.found directory (.directory mode)))
    (hname : p.name ≠ [] ∧ p.name ≠ above)
    (hfile : d.get? (directory ++ [p.name]) = some (.file m b)) :
    d.destinationMode p = .ok m ∨
      ∃ f, isNoEntry f = false ∧ d.destinationMode p = .error f := by
  unfold destinationMode resolve
  cases hcheck : checkPath p.toText with
  | error f => exact Or.inr ⟨f, isNoEntry_of_checkPath hcheck, rfl⟩
  | ok u =>
    rcases locate_cases hparent hname (by simp [hfile]) with h | ⟨cause, hcause, h⟩
    · rw [h, targetAt, hfile]
      exact Or.inl rfl
    · rw [h]
      refine Or.inr ⟨_, ?_, rfl⟩
      rcases hcause with rfl | rfl
      · rfl
      · rfl

theorem destinationMode_of_absent {m mode : Nat}
    (hparent : d.locate true p.parent = .ok (.found directory (.directory mode)))
    (hname : p.name ≠ [] ∧ p.name ≠ above) (habsent : d.get? (directory ++ [p.name]) = none) :
    d.destinationMode p ≠ .ok m := by
  intro hmode
  obtain ⟨target, hresolve, hmode⟩ := bind_eq_ok.mp hmode
  have hlocate := locate_of_resolve hresolve
  rcases locate_cases hparent hname (by simp [habsent]) with h | ⟨cause, -, h⟩
  · rw [h, targetAt, habsent] at hlocate
    cases hlocate
    cases hmode
  · rw [h] at hlocate
    cases hlocate

theorem outputMode_eq_ok {mode : Nat} (h : d.outputMode mishaps p = .ok mode) :
    step mishaps .inspect (d.destinationMode p) = .ok mode ∨
      mode = d.newMode 0o666 ∧ ∃ f, isNoEntry f = true ∧
        step mishaps .inspect (d.destinationMode p) = .error f := by
  unfold outputMode at h
  cases hstep : step mishaps .inspect (d.destinationMode p) with
  | ok mode' =>
    rw [hstep] at h
    cases h
    exact Or.inl rfl
  | error f =>
    rw [hstep] at h
    dsimp only at h
    split at h
    · next hf =>
      cases h
      exact Or.inr ⟨rfl, f, hf, rfl⟩
    · cases h

/-- The output gets the bits of the file that it replaces, unless a fault says there is none. -/
theorem outputMode_of_file {m mode mode' : Nat} {b : Bytes}
    (hparent : d.locate true p.parent = .ok (.found directory (.directory mode')))
    (hname : p.name ≠ [] ∧ p.name ≠ above)
    (hfile : d.get? (directory ++ [p.name]) = some (.file m b))
    (hinspect : ∀ f, mishaps .inspect = some f → isNoEntry f = false)
    (h : d.outputMode mishaps p = .ok mode) : mode = m := by
  rcases outputMode_eq_ok h with h | ⟨-, f, hf, h⟩
  · rcases destinationMode_of_file hparent hname hfile with hmode | ⟨g, -, hmode⟩
    · rw [hmode] at h
      exact (Except.ok.inj (step_of_ok h)).symm
    · have herror := step_of_ok h
      rw [hmode] at herror
      cases herror
  · -- nothing said that no entry is there
    rcases step_eq_error.mp h with hm | ⟨-, herror⟩
    · rw [hinspect f hm] at hf
      cases hf
    · rcases destinationMode_of_file hparent hname hfile with hmode | ⟨g, hg, hmode⟩
      · rw [hmode] at herror
        cases herror
      · rw [hmode] at herror
        cases herror
        rw [hg] at hf
        cases hf

/-- The output gets the bits of a new file where nothing was. -/
theorem outputMode_of_absent {mode mode' : Nat}
    (hparent : d.locate true p.parent = .ok (.found directory (.directory mode')))
    (hname : p.name ≠ [] ∧ p.name ≠ above) (habsent : d.get? (directory ++ [p.name]) = none)
    (h : d.outputMode mishaps p = .ok mode) : mode = d.newMode 0o666 := by
  rcases outputMode_eq_ok h with h | ⟨hmode, -⟩
  · exact absurd (step_of_ok h) (destinationMode_of_absent hparent hname habsent)
  · exact hmode

theorem outputMode_of_mishap {mode : Nat} (hm : mishaps .inspect = some f)
    (h : d.outputMode mishaps p = .ok mode) : mode = d.newMode 0o666 := by
  rcases outputMode_eq_ok h with h | ⟨hmode, -⟩
  · unfold step at h
    rw [hm] at h
    cases h
  · exact hmode

/-- The bits that the disk withholds are not among those of a new entry. -/
theorem testBit_newMode (d : Disk) (wanted i : Nat) :
    (d.newMode wanted).testBit i = (wanted.testBit i && !d.umask.testBit i) := by
  unfold newMode
  rw [Nat.testBit_xor, Nat.testBit_and]
  cases wanted.testBit i <;> cases d.umask.testBit i <;> rfl

/-! ## Both endings -/

/-- A step finds text without a UTF-8 form only in the text that is written and in paths. -/
theorem OwnFault.encoding {e : Utf8.EncodeFault} (h : OwnFault d p t s (.encoding e)) :
    Utf8.encode t = .error e ∨ checkPath p.toText = .error (.encoding e) ∨
      checkPath (temporaryPath p (temporaryName p.name 0)).toText = .error (.encoding e) := by
  cases h with
  | create h =>
    refine Or.inr (Or.inr ?_)
    rcases bind_eq_error.mp h with h | ⟨_, -, h⟩
    · exact h
    · -- what follows is refused by the system, if at all
      split at h
      · cases h
      · cases h
      · split at h
        · cases h
        dsimp only at h
        split at h
        · cases h
        split at h
        · cases h
        split at h
        · cases h
        · cases h
  | write h => exact Or.inl h
  | inspect _ h =>
    refine Or.inr (Or.inl ?_)
    rcases bind_eq_error.mp h with h | ⟨target, -, h⟩
    · rcases bind_eq_error.mp h with h | ⟨_, -, h⟩
      · exact h
      · cases hlocate : Disk.locate _ true p with
        | error cause => rw [hlocate] at h; cases h
        | ok target => rw [hlocate] at h; cases h
    · cases target with
      | found place entry => cases h
      | absent place => cases h
  | replace _ h =>
    unfold replaceEntry at h
    dsimp only at h
    split at h
    · cases h
    · split at h
      · cases h
      · cases h

/-- **Writes are atomic.** A write fails exactly when a step fails, as the first that does, where
closing goes in front of writing: the system's refusals and texts and paths without a UTF-8 form
become errors of the run, other faults come out as they are. The disk is then what it was. A write
that succeeds puts a file at its destination, where no directory is, and changes nothing else. The
file holds the text's bytes, and it has the bits of the file that it replaces. If nothing was there,
or if a fault says so, it has those that the disk grants to a new file. -/
theorem writeOutput_atomic (d : Disk) (mishaps : Mishaps) (p : Path) (t : Text) :
    (∀ g, (d.writeOutput mishaps p t).1 = .error g ↔
      ∃ s f, FailsFirst d mishaps p t s f ∧ Reported p f g) ∧
    (∀ s e, OwnFault d p t s (.encoding e) →
      Utf8.encode t = .error e ∨ checkPath p.toText = .error (.encoding e) ∨
        checkPath (temporaryPath p (temporaryName p.name 0)).toText = .error (.encoding e)) ∧
    (∀ g, (d.writeOutput mishaps p t).1 = .error g → (d.writeOutput mishaps p t).2 = d) ∧
    ((d.writeOutput mishaps p t).1 = .ok () → ∃ place content mode,
      d.entryPlace? p = some place ∧ Utf8.encode t = .ok content ∧
      (d.writeOutput mishaps p t).2 = d.put place (.file mode content) ∧
      (∀ m, d.get? place ≠ some (.directory m)) ∧
      (mishaps .inspect = none → ∀ m b, d.get? place = some (.file m b) → mode = m) ∧
      (d.get? place = none ∨ mishaps .inspect ≠ none →
        ∀ i, mode.testBit i = (Nat.testBit 0o666 i && !d.umask.testBit i))) := by
  refine ⟨fun g => writeOutput_eq_error_iff, fun s e => OwnFault.encoding,
    fun g => writeOutput_of_error, fun h => ?_⟩
  obtain ⟨directory, _, n, content, mode, hparent, habsent, hname, hcontent, hmode, hdirectory,
    hdisk⟩ := writeOutput_stages h
  have hbeside := locate_put (.file 0o600 []) habsent hparent
  -- the temporary file is not what stands at the destination
  have hother (q : Option Entry) (hq : d.get? (directory ++ [p.name]) = q) :
      (d.put (directory ++ [temporaryName p.name n]) (.file 0o600 [])).get?
        (directory ++ [p.name]) = q := by
    rw [get?_put, if_neg, hq]
    intro heq
    exact temporaryName_ne p.name n (List.singleton_inj.mp (List.append_cancel_left heq))
  refine ⟨directory ++ [p.name], content, mode, ?_, hcontent, hdisk, ?_, ?_, ?_⟩
  · unfold entryPlace?
    rw [hparent]
  · exact fun m hm => hdirectory m (hother _ hm)
  · intro hinspect m b hfile
    refine outputMode_of_file hbeside hname (hother _ hfile) ?_ hmode
    rw [hinspect]
    exact nofun
  · intro hnew i
    have hbits : mode = (d.put (directory ++ [temporaryName p.name n])
        (.file 0o600 [])).newMode 0o666 := by
      rcases hnew with hnone | hmishap
      · exact outputMode_of_absent hbeside hname (hother _ hnone) hmode
      · obtain ⟨f, hf⟩ := Option.ne_none_iff_exists'.mp hmishap
        exact outputMode_of_mishap hf hmode
    rw [hbits, testBit_newMode]
    rfl

/-- A fault that says that nothing is there costs a file its bits. -/
example :
    let mishaps : Mishaps := fun s => if s = .inspect then some (.system ⟨.noEntry, []⟩) else none
    ({ entries := [(["a"], .file 0o600 [])] } : Disk).writeOutput mishaps ⟨[Path.slash], ["a"]⟩ [] =
      (.ok (), { entries := [(["a"], .file 0o644 [])] }) := by
  rfl

/-- A name without a UTF-8 form stops a write before its text is looked at. What is no refusal of
the system, and not about the text, becomes an error of the run all the same. -/
theorem writeOutput_nameless :
    ¬ ((∃ reason, (({} : Disk).writeOutput .none ⟨[Path.slash], [[.ofNat 0xD800]]⟩ "x").1 =
          .error (.lint (.write [Path.slash, .ofNat 0xD800] reason))) ↔
        (∃ s e, FailsFirst {} .none ⟨[Path.slash], [[.ofNat 0xD800]]⟩ "x" s (.system e)) ∨
          ¬ ∃ b, Utf8.encode "x" = .ok b) := by
  have hcreate : ({} : Disk).createTemporary ⟨[Path.slash], [[.ofNat 0xD800]]⟩ =
      .error (.encoding ⟨.ofNat 0xD800, 2, 3⟩) := by rfl
  have hfails : StepFails {} .none ⟨[Path.slash], [[.ofNat 0xD800]]⟩ "x" .create
      (.encoding ⟨.ofNat 0xD800, 2, 3⟩) := ⟨Or.inr ⟨rfl, .create hcreate⟩, nofun⟩
  intro hiff
  rcases hiff.mp ⟨_, writeOutput_of_failsFirst ⟨hfails, nofun⟩⟩ with ⟨s, e, hfirst⟩ | hencode
  · by_cases hs : s = .create
    · subst hs
      have hsystem := stepFails_create.mp hfirst.fails
      rw [hcreate] at hsystem
      cases hsystem
    · exact hfirst.first .create _ (OutputStep.rank_create_lt hs) hfails
  · exact hencode ⟨_, rfl⟩

end Disk

end Backtick
