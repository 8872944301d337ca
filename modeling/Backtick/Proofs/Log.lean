import Backtick.LintFile
import Mathlib.Data.List.Induction

/-!
# Contexts nest

Closing a context gives each of its names back what the name had when the context was opened, one
name after the other. Together that undoes the opening, whatever names are bound again or for the
first time, so the contexts that are open in between are a stack: behind any steps that close only
what they have opened, the values are those of the beginning, overridden by the mappings of the
contexts that are still open.

* `Fields.reset_overlay` — giving back one name
* `LogContext.exit_enter` — closing undoes opening
* `LogContext.run_enterAll` — steps, and the contexts that are open behind them
* `LogContext.contexts_nest` — the values behind steps, behind a context and behind a run
-/

namespace Backtick

namespace Fields

variable {fs : Fields} {name other : Text} {v w : Value}

/-! ## Giving back a name -/

/-- The fields with a name's value as it was, or without the name if it had none. -/
def reset (fs : Fields) (name : Text) : Option Value → Fields
  | some v => fs.put name v
  | none => fs.erase name

theorem put_put (fs : Fields) (name : Text) (v w : Value) :
    (fs.put name v).put name w = fs.put name w := by
  induction fs with
  | nil => simp [put]
  | cons f rest ih =>
    obtain ⟨n, u⟩ := f
    by_cases h : n = name <;> simp [put, h, ih]

theorem put_of_get? (h : fs.get? name = some v) : fs.put name v = fs := by
  induction fs with
  | nil => cases h
  | cons f rest ih =>
    obtain ⟨n, u⟩ := f
    rw [get?] at h
    rw [put]
    split at h
    · next hn =>
      cases h
      rw [if_pos hn]
    · next hn => rw [if_neg hn, ih h]

/-- Values of two names can be put in either order when the second name has one. -/
theorem put_comm (hne : other ≠ name) (h : (fs.get? name).isSome) :
    (fs.put other w).put name v = (fs.put name v).put other w := by
  induction fs with
  | nil => cases h
  | cons f rest ih =>
    obtain ⟨n, u⟩ := f
    by_cases hn : n = name
    · subst hn
      simp [put, hne.symm]
    · rw [get?, if_neg hn] at h
      by_cases ho : n = other
      · subst ho
        simp [put, hn]
      · simp [put, hn, ho, ih h]

theorem erase_cons (n name : Text) (u : Value) (rest : Fields) :
    Fields.erase ((n, u) :: rest) name =
      if n = name then Fields.erase rest name else (n, u) :: Fields.erase rest name := by
  by_cases h : n = name <;> simp [erase, h]

theorem erase_put (fs : Fields) (name : Text) (v : Value) :
    (fs.put name v).erase name = fs.erase name := by
  induction fs with
  | nil => simp [put, erase]
  | cons f rest ih =>
    obtain ⟨n, u⟩ := f
    by_cases h : n = name <;> simp [put, erase_cons, h, ih]

theorem erase_put_comm (hne : other ≠ name) (fs : Fields) (w : Value) :
    (fs.put other w).erase name = (fs.erase name).put other w := by
  induction fs with
  | nil => simp [put, erase, hne]
  | cons f rest ih =>
    obtain ⟨n, u⟩ := f
    by_cases hn : n = name
    · subst hn
      simp [put, erase_cons, hne.symm, ih]
    · by_cases ho : n = other
      · subst ho
        simp [put, erase_cons, hn]
      · simp [put, erase_cons, hn, ho, ih]

theorem erase_of_get? (h : fs.get? name = none) : fs.erase name = fs := by
  induction fs with
  | nil => rfl
  | cons f rest ih =>
    obtain ⟨n, u⟩ := f
    rw [get?] at h
    split at h
    · cases h
    · next hn => rw [erase_cons, if_neg hn, ih h]

/-- Giving a name what it has changes nothing. -/
theorem reset_get? (fs : Fields) (name : Text) : fs.reset name (fs.get? name) = fs := by
  cases h : fs.get? name with
  | some v => exact put_of_get? h
  | none => exact erase_of_get? h

theorem reset_put (fs : Fields) (name : Text) (v : Value) (before : Option Value) :
    (fs.put name v).reset name before = fs.reset name before := by
  cases before with
  | some w => exact put_put fs name v w
  | none => exact erase_put fs name v

/-- A name is given back what it had, whether another one's value is put before or afterwards. -/
theorem reset_put_comm {before : Option Value} (hne : other ≠ name)
    (h : before.isSome → (fs.get? name).isSome) (w : Value) :
    (fs.put other w).reset name before = (fs.reset name before).put other w := by
  cases before with
  | some v => exact put_comm hne (h rfl)
  | none => exact erase_put_comm hne fs w

/-! ## Giving back all names -/

theorem overlay_concat (fs others : Fields) (name : Text) (v : Value) :
    fs.overlay (others ++ [(name, v)]) = (fs.overlay others).put name v := by
  unfold overlay
  rw [List.foldl_append]
  rfl

/-- A name that has a value keeps one. -/
theorem isSome_get?_overlay (others : Fields) (h : (fs.get? name).isSome) :
    ((fs.overlay others).get? name).isSome := by
  induction others generalizing fs with
  | nil => exact h
  | cons f rest ih =>
    refine ih ?_
    rw [get?_put]
    split
    · rfl
    · exact h

/-- Of values that are put over others, those of one name are taken back by giving it back what it
had. -/
theorem reset_overlay (bound fs : Fields) (name : Text) :
    (bound.overlay fs).reset name (bound.get? name) = bound.overlay (fs.erase name) := by
  induction fs using List.reverseRecOn with
  | nil => exact reset_get? bound name
  | append_singleton fs f ih =>
    obtain ⟨n, v⟩ := f
    have herase : Fields.erase (fs ++ [(n, v)]) name =
        Fields.erase fs name ++ Fields.erase [(n, v)] name := List.filter_append ..
    rw [overlay_concat, herase, erase_cons]
    by_cases h : n = name
    · subst h
      rw [reset_put, ih, if_pos rfl]
      exact congrArg _ (List.append_nil _).symm
    · rw [reset_put_comm h (isSome_get?_overlay fs), ih, ← overlay_concat, if_neg h]
      rfl

theorem get?_of_notMem (h : name ∉ fs.map Prod.fst) : fs.get? name = none := by
  induction fs with
  | nil => rfl
  | cons f rest ih =>
    rw [List.map_cons, List.mem_cons, not_or] at h
    rw [get?, if_neg (Ne.symm h.1), ih h.2]

/-- In values that are put over others, a name has the value put, or else the one below. -/
theorem get?_overlay {others : Fields} (h : (others.map Prod.fst).Nodup) (name : Text) :
    (fs.overlay others).get? name = (others.get? name).or (fs.get? name) := by
  induction others generalizing fs with
  | nil => rfl
  | cons f rest ih =>
    obtain ⟨n, v⟩ := f
    rw [List.map_cons, List.nodup_cons] at h
    have hstep : fs.overlay ((n, v) :: rest) = (fs.put n v).overlay rest := rfl
    rw [hstep, ih h.2, get?_put, get?]
    split
    · next hn =>
      subst hn
      rw [get?_of_notMem h.1]
      rfl
    · rfl

end Fields

namespace LogContext

variable {c : LogContext} {name : Text}

theorem restore_cons (bound : Fields) (name : Text) (before : Option Value)
    (names : List (Text × Option Value)) :
    restore bound ((name, before) :: names) = restore (bound.reset name before) names := by
  cases before <;> rfl

/-- When every name of the values that were put over others is given back what it had, the others
are left. -/
theorem restore_overlay {bound : Fields} :
    ∀ {names fs : Fields}, (∀ f ∈ fs, f.1 ∈ names.map Prod.fst) →
      restore (bound.overlay fs) (before bound names) = bound
  | [], [], _ => rfl
  | [], f :: _, h => absurd (h f List.mem_cons_self) List.not_mem_nil
  | (n, v) :: names, fs, h => by
    rw [before, List.map_cons, restore_cons, Fields.reset_overlay]
    refine restore_overlay fun f hf => ?_
    obtain ⟨hmem, hne⟩ := List.mem_filter.mp hf
    rcases List.mem_cons.mp (h f hmem) with heq | hmem
    · simp [heq] at hne
    · exact hmem

/-- Closing a context undoes its opening. -/
theorem exit_enter (c : LogContext) (fs : Fields) : (c.enter fs).exit = c := by
  show LogContext.mk (restore (c.bound.overlay fs) (before c.bound fs)) c.saved = c
  rw [restore_overlay fun f hf => List.mem_map_of_mem hf]

/-- A block that leaves the contexts as it finds them does so inside another context as well,
whatever comes of it. -/
theorem during_of_kept {α : Type} {block : LogContext → α × LogContext}
    (h : ∀ inner, (block inner).2 = inner) (c : LogContext) (fs : Fields) :
    (c.during fs block).2 = c := by
  unfold during
  dsimp only
  rw [h, exit_enter]

/-! ## Steps -/

/-- What happens to contexts. Every context that is opened is one of its own: that one is opened
again while it is open, which loses what it has to restore, is not among the steps. -/
inductive Step where
  /-- a context is opened -/
  | enter (fs : Fields)
  /-- the innermost context is closed, at the end of its block or because the block failed -/
  | exit

/-- The contexts behind a step. -/
def step (c : LogContext) : Step → LogContext
  | .enter fs => c.enter fs
  | .exit => c.exit

/-- The contexts behind some steps. -/
def run (c : LogContext) (steps : List Step) : LogContext := steps.foldl step c

/-- The mappings of the contexts that are open behind some steps, the innermost first, when those
given are open in front of them; no answer when a step closes a context that is not among them. -/
def openBehind? : List Fields → List Step → Option (List Fields)
  | opened, [] => some opened
  | opened, .enter fs :: steps => openBehind? (fs :: opened) steps
  | _ :: opened, .exit :: steps => openBehind? opened steps
  | [], .exit :: _ => none

/-- Values overridden by mappings, of which the first one is the innermost. -/
def overridden (value? : Text → Option Value) : List Fields → Text → Option Value
  | [], name => value? name
  | fs :: outer, name => (fs.get? name).or (overridden value? outer name)

/-- The contexts behind opening some, of which the first one is the innermost. -/
def enterAll (c : LogContext) : List Fields → LogContext
  | [] => c
  | fs :: outer => (c.enterAll outer).enter fs

section

variable {opened outer : List Fields} {steps done : List Step} {fs : Fields}

/-- Behind steps, exactly the contexts that are still open have been opened. -/
theorem run_enterAll (h : openBehind? outer steps = some opened) :
    (c.enterAll outer).run steps = c.enterAll opened := by
  fun_induction openBehind? outer steps with
  | case1 outer =>
    cases h
    rfl
  | case2 outer fs steps ih => exact ih h
  | case3 fs outer steps ih =>
    have hstep : (c.enterAll (fs :: outer)).run (.exit :: steps) =
        (((c.enterAll outer).enter fs).exit).run steps := rfl
    rw [hstep, exit_enter, ih h]
  | case4 => cases h

/-- Opening contexts overrides the values by their mappings. -/
theorem get?_enterAll (h : ∀ fs ∈ opened, (fs.map Prod.fst).Nodup) (name : Text) :
    (c.enterAll opened).bound.get? name = overridden c.bound.get? opened name := by
  induction opened with
  | nil => rfl
  | cons fs outer ih =>
    have hbound : (c.enterAll (fs :: outer)).bound = (c.enterAll outer).bound.overlay fs := rfl
    rw [hbound, Fields.get?_overlay (h fs List.mem_cons_self), overridden,
      ih fun gs hgs => h gs (List.mem_cons_of_mem _ hgs)]

theorem openBehind?_append (first second : List Step) :
    openBehind? outer (first ++ second) =
      (openBehind? outer first).bind (openBehind? · second) := by
  fun_induction openBehind? outer first with
  | case1 => rfl
  | case2 outer fs steps ih => exact ih
  | case3 fs outer steps ih => exact ih
  | case4 => rfl

/-- Contexts that no step closes stay open further out. -/
theorem openBehind?_outer (h : openBehind? outer steps = some opened) (further : List Fields) :
    openBehind? (outer ++ further) steps = some (opened ++ further) := by
  fun_induction openBehind? outer steps with
  | case1 =>
    cases h
    rfl
  | case2 outer fs steps ih => exact ih h
  | case3 fs outer steps ih => exact ih h
  | case4 => cases h

/-- A context that is open behind steps was opened by one of them, if it was not open before. -/
theorem mem_of_openBehind? (h : openBehind? outer steps = some opened) :
    ∀ fs ∈ opened, fs ∈ outer ∨ .enter fs ∈ steps := by
  fun_induction openBehind? outer steps with
  | case1 =>
    cases h
    exact fun fs hfs => .inl hfs
  | case2 outer gs steps ih =>
    intro fs hfs
    rcases ih h fs hfs with hmem | hmem
    · rcases List.mem_cons.mp hmem with rfl | hmem
      · exact .inr List.mem_cons_self
      · exact .inl hmem
    · exact .inr (List.mem_cons_of_mem _ hmem)
  | case3 gs outer steps ih =>
    intro fs hfs
    rcases ih h fs hfs with hmem | hmem
    · exact .inl (List.mem_cons_of_mem _ hmem)
    · exact .inr (List.mem_cons_of_mem _ hmem)
  | case4 => cases h

/-- The innermost of the contexts that are open behind steps was opened by one of them, and the
steps since then have closed what they opened. -/
theorem exists_enter (h : openBehind? [] done = some (fs :: opened)) :
    ∃ before inside, done = before ++ .enter fs :: inside ∧
      openBehind? [] before = some opened ∧ openBehind? [] inside = some [] := by
  induction hlength : done.length using Nat.strongRecOn generalizing done fs opened with
  | ind n ih =>
    rcases List.eq_nil_or_concat done with rfl | ⟨steps, last, rfl⟩
    · cases h
    rw [List.concat_eq_append] at h hlength ⊢
    rw [List.length_append, List.length_singleton] at hlength
    rw [openBehind?_append] at h
    obtain ⟨outer, hsteps, h⟩ := Option.bind_eq_some_iff.mp h
    cases last with
    | enter gs =>
      cases h
      exact ⟨steps, [], rfl, hsteps, rfl⟩
    | exit =>
      -- the last step has closed another context, in front of which the steps are fewer
      cases outer with
      | nil => cases h
      | cons gs outer =>
        cases h
        obtain ⟨middle, inner, rfl, hmiddle, hinner⟩ := ih _ (by omega) hsteps rfl
        rw [List.length_append] at hlength
        obtain ⟨before, inside, rfl, hbefore, hinside⟩ := ih _ (by omega) hmiddle rfl
        refine ⟨before, inside ++ .enter gs :: inner ++ [.exit], by simp, hbefore, ?_⟩
        have hclosed : openBehind? [gs] inner = some [gs] := openBehind?_outer hinner [gs]
        rw [List.append_assoc, openBehind?_append, hinside]
        show openBehind? [gs] (inner ++ [.exit]) = some []
        rw [openBehind?_append, hclosed]
        rfl

end

end LogContext

/-- Linting a file leaves the contexts as it finds them. -/
theorem lintFileIn_contexts (c : LogContext) (tools : Tools) (mishaps : Mishaps) (elapsed : Number)
    (j : FileJob) (d : Disk) : (lintFileIn c tools mishaps elapsed j d).2 = c := by
  unfold lintFileIn
  dsimp only
  split
  · rfl
  · refine LogContext.during_of_kept (fun inner => ?_) c _
    unfold FileJob.process
    split <;> rfl

/-- **Contexts nest.** Behind each of some steps, of which none closes a context that they have not
opened, the values are those of the beginning, overridden by the mappings of the contexts that are
still open, from the outermost to the innermost. Each step that closes a context brings back what
was there when the context was opened. Behind linting a file, whatever comes of it, everything is as
it was. -/
theorem LogContext.contexts_nest (c : LogContext) {steps : List LogContext.Step}
    (hopen : (openBehind? [] steps).isSome)
    (hnames : ∀ fs, .enter fs ∈ steps → (fs.map Prod.fst).Nodup) :
    (∀ done, done <+: steps → ∃ opened, openBehind? [] done = some opened ∧
      ∀ name, (c.run done).bound.get? name = overridden c.bound.get? opened name) ∧
    (∀ done, done ++ [.exit] <+: steps → ∃ before fs inside,
      done = before ++ .enter fs :: inside ∧ openBehind? [] inside = some [] ∧
        c.run (done ++ [.exit]) = c.run before) ∧
    ∀ tools mishaps elapsed j d, (lintFileIn c tools mishaps elapsed j d).2 = c := by
  have hprefix : ∀ {done}, done <+: steps → ∃ opened, openBehind? [] done = some opened := by
    rintro done ⟨rest, rfl⟩
    rw [openBehind?_append, Option.isSome_bind] at hopen
    cases hdone : openBehind? [] done with
    | none =>
      rw [hdone] at hopen
      cases hopen
    | some opened => exact ⟨opened, rfl⟩
  refine ⟨fun done hdone => ?_, fun done hdone => ?_, lintFileIn_contexts c⟩
  · obtain ⟨opened, hopened⟩ := hprefix hdone
    refine ⟨opened, hopened, fun name => ?_⟩
    have hrun : c.run done = c.enterAll opened := @run_enterAll c opened [] done hopened
    rw [hrun]
    refine get?_enterAll (fun fs hfs => ?_) name
    rcases mem_of_openBehind? hopened fs hfs with hmem | hmem
    · cases hmem
    · exact hnames fs (hdone.mem hmem)
  · obtain ⟨opened, hopened⟩ := hprefix hdone
    have hrun : c.run (done ++ [.exit]) = c.enterAll opened :=
      @run_enterAll c opened [] (done ++ [Step.exit]) hopened
    rw [openBehind?_append] at hopened
    obtain ⟨outer, houter, hexit⟩ := Option.bind_eq_some_iff.mp hopened
    cases outer with
    | nil => cases hexit
    | cons fs outer =>
      cases hexit
      obtain ⟨before, inside, rfl, hbefore, hinside⟩ := exists_enter houter
      refine ⟨before, fs, inside, rfl, hinside, hrun.trans ?_⟩
      exact (@run_enterAll c opened [] before hbefore).symm

/-- Two contexts, of which the inner one binds a name of the outer one again, and the ends of
both. -/
def shadowing : List LogContext.Step :=
  [.enter [field "region" (.int 1), field "task" (.text "a")], .enter [field "region" (.int 2)],
    .exit, .exit]

/-- What is bound outside of the two. -/
def shadowed : LogContext := { bound := [field "file" (.text "a.ts"), field "region" (.int 0)] }

/-- The inner context hides a value of the outer one and leaves the rest. Its end brings the value
back. -/
theorem LogContext.contexts_nest_shadowed :
    ((shadowed.run (shadowing.take 2)).bound.get? "region" = some (.int 2) ∧
      (shadowed.run (shadowing.take 2)).bound.get? "task" = some (.text "a") ∧
      (shadowed.run (shadowing.take 2)).bound.get? "file" = some (.text "a.ts")) ∧
    shadowed.run (shadowing.take 3) = shadowed.run (shadowing.take 1) := by
  obtain ⟨hvalues, hexits, -⟩ := @contexts_nest shadowed shadowing rfl fun fs hfs => by
    have hopened : fs = [field "region" (.int 1), field "task" (.text "a")] ∨
        fs = [field "region" (.int 2)] := by
      simpa [shadowing] using hfs
    rcases hopened with rfl | rfl <;> decide
  constructor
  · obtain ⟨opened, hopened, hvalue⟩ := hvalues (shadowing.take 2) (List.take_prefix 2 _)
    cases hopened
    simp only [hvalue]
    exact ⟨rfl, rfl, rfl⟩
  · obtain ⟨before, fs, inside, hdone, hinside, hrun⟩ :=
      hexits (shadowing.take 2) (List.take_prefix 3 shadowing)
    -- the context that the first end closes is the one that was opened last
    rcases before with _ | ⟨first, _ | ⟨second, before⟩⟩
    · cases hdone
      cases hinside
    · cases hdone
      exact hrun
    · simp [shadowing] at hdone

end Backtick
