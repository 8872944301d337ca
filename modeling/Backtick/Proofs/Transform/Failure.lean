import Backtick.Proofs.Transform.Ended

/-!
# The first failure ends a run

When the transform of a region fails, the run gives no results. It gives the error of a region whose
own transform failed, and no transform failed before that one. The other calls are stopped then, and
the error is given when they have unwound. A call whose time was up already is not waited for: it
may go on when the error is given, and that is the only way in which a call goes on behind a run.

Which calls would fail, and when, is fixed by their starts (`Job.own`), so the statement does not
depend on what the run does after its first failure.
-/

namespace Backtick.Transform

variable {j : Job} {s : State} {k : Option Int}

/-- The transform of the region at a position gets to run at this time. When calls get no time at
all, none starts, and every transform runs out of time at the beginning. -/
def Job.RunsAt (j : Job) (trace : List Event) (p : Nat) (t : Rat) : Prop :=
  .started p t ∈ trace ∨ j.limit = .spent ∧ p < j.regions.length ∧ t = 0

/-- The transform of the region at a position gets to run, and fails by itself at this time. -/
def Job.FailsAt (j : Job) (trace : List Event) (p : Nat) (t : Rat) (e : LintError) : Prop :=
  ∃ t₀ d, j.RunsAt trace p t₀ ∧ j.own p = some (d, .error e) ∧ t₀ + d = t

/-- The error is about the transform of this region. -/
def Region.Blamed (r : Region) (e : LintError) : Prop :=
  ∃ reason, e = .transform r.index r.start r.stop reason ∨
    e = .timeout r.index r.start r.stop reason

/-- The errors of a region's transform name the region. -/
theorem blamed_of_own {p : Nat} {d : Rat} {e : LintError} (h : j.own p = some (d, .error e)) :
    Region.Blamed (j.region p) e := by
  have hlate : Region.Blamed (j.region p) (j.lateError p) := ⟨_, Or.inr rfl⟩
  have hverdict : ∀ o e', j.verdict p o = .error e' → Region.Blamed (j.region p) e' := by
    intro o e' he
    unfold Job.verdict at he
    split at he
    · next f =>
      cases he
      cases f with
      | refused message => exact ⟨_, Or.inl rfl⟩
      | impatient message => exact hlate
      | broke kind message => exact ⟨_, Or.inl rfl⟩
    · cases he
    · cases he
      exact ⟨_, Or.inl rfl⟩
  simp only [Job.own] at h
  split at h
  · cases h
    exact hlate
  · exact hverdict _ _ (Prod.ext_iff.mp (Option.some.inj h)).2
  · split at h
    · cases h
      exact hlate
    · exact hverdict _ _ (Prod.ext_iff.mp (Option.some.inj h)).2
  · cases h
    exact hlate
  · exact hverdict _ _ (Prod.ext_iff.mp (Option.some.inj h)).2
  · cases h

/-- A transform that fails has made its call, unless there is no time for any. -/
theorem own_of_failsAt {trace : List Event} {p : Nat} {t : Rat} {e : LintError}
    (hl : j.limit ≠ .spent) (h : j.FailsAt trace p t e) :
    ∃ t₀ d, .started p t₀ ∈ trace ∧ j.own p = some (d, .error e) ∧ t₀ + d = t := by
  obtain ⟨t₀, d, hstart | ⟨hspent, -⟩, hown, ht⟩ := h
  · exact ⟨t₀, d, hstart, hown, ht⟩
  · exact absurd hspent hl

/-- Only a call that never ends has no end of its own. -/
theorem endless_of_own {p : Nat} (h : j.own p = none) : (j.callAt p).duration = .endless := by
  simp only [Job.own] at h
  split at h
  · cases h
  · cases h
  · split at h <;> cases h
  · cases h
  · cases h
  next hd _ _ => exact hd

/-- A run whose calls end gives results, or the error of a region. -/
theorem transformRegions_lint_of_error (hj : j.Indexed) (hk : ∀ n, k = some n → 0 ≤ n)
    (hends : ∀ n t, (j.formatter.call n t).duration ≠ .endless) {f : Fault}
    (h : (transformRegions j k).result = .error f) : ∃ e, f = .lint e := by
  by_cases hne : j.regions = []
  · simp [transformRegions, hne] at h
  obtain ⟨most, hpermits, hmost⟩ := permitsOf_of_nonneg hk
  rw [transformRegions_of_ne_nil hne hpermits] at h
  by_cases hl : j.limit = .spent
  · rw [run_spent hl hmost hne] at h
    cases h
    exact ⟨_, rfl⟩
  cases ends_of_initial hmost hj hl with
  | failed p e hp hfault hfailed hfirst =>
    rw [report_of_fault hfault] at h
    cases h
    exact ⟨e, rfl⟩
  | done hfault hrunning hstarted hslots hfilled =>
    rw [report_of_done hfault hrunning] at h
    cases h
  | stuck p hp hendless hnone => exact absurd (endless_of_own hendless) (hends p _)

/-- Without any time, every transform fails at the beginning. -/
theorem failsAt_of_spent (hl : j.limit = .spent) (trace : List Event) {p : Nat}
    (hp : p < j.regions.length) : j.FailsAt trace p 0 (j.lateError p) :=
  ⟨0, 0, Or.inr ⟨hl, hp, rfl⟩, Job.own_spent hl p, add_zero 0⟩

/-- **Failure propagation and cleanup.** When some region's transform that gets to run fails, the
run ends with the error of a region whose own transform failed, at a time before which no transform
failed. The call of that region was not stopped. The error is given when the calls have unwound that
are stopped at that time. Each call that started has ended once until then or goes on, and those
that go on are the calls whose time was up at the failure and which still unwind. -/
theorem transformRegions_of_failsAt (hj : j.Indexed) (hk : ∀ n, k = some n → 0 ≤ n)
    (h : ∃ p t e, j.FailsAt (transformRegions j k).trace p t e) :
    ∃ p t e, p < j.regions.length ∧
      (transformRegions j k).result = .error (.lint e) ∧
      j.FailsAt (transformRegions j k).trace p t e ∧
      Region.Blamed (j.region p) e ∧
      (∀ q t' e', j.FailsAt (transformRegions j k).trace q t' e' → t ≤ t') ∧
      (j.limit = .spent ∨ ∃ how ≠ .stopped, .ended p t how ∈ (transformRegions j k).trace) ∧
      Concluded j t (transformRegions j k).returnsAt (transformRegions j k).trace := by
  obtain ⟨p₀, t₀, e₀, hfails⟩ := h
  by_cases hne : j.regions = []
  · -- without regions nothing gets to run
    have htrace : (transformRegions j k).trace = [] := by simp [transformRegions, hne]
    rw [htrace] at hfails
    obtain ⟨_, _, hstart | ⟨-, hp, -⟩, -⟩ := hfails
    · cases hstart
    · rw [hne] at hp
      cases hp
  obtain ⟨most, hpermits, hmost⟩ := permitsOf_of_nonneg hk
  rw [transformRegions_of_ne_nil hne hpermits] at hfails ⊢
  by_cases hl : j.limit = .spent
  · -- every transform fails at the beginning, and the first one is blamed
    have hpos : 0 < j.regions.length := List.length_pos_iff.mpr hne
    rw [run_spent hl hmost hne]
    refine ⟨0, 0, j.lateError 0, hpos, rfl, failsAt_of_spent hl _ hpos,
      blamed_of_own (Job.own_spent hl 0), ?_, Or.inl hl, concluded_nil j⟩
    rintro q t' e' ⟨t, d, hmem | ⟨-, -, rfl⟩, hown, rfl⟩
    · cases hmem
    · rw [zero_add]
      exact Job.own_nonneg hown
  have hconcluded := concluded_of_initial hl most
  obtain ⟨t₁, d₀, hstart, hown₀, -⟩ := own_of_failsAt hl hfails
  have hstart := State.started_mem_stop.mp hstart
  cases ends_of_initial hmost hj hl with
  | failed p e hp hfault hfailed hfirst =>
    obtain ⟨t, d, how, hstart, hown, hclock, hhow, hend⟩ := hfailed
    refine ⟨p, _, e, hp, report_of_fault hfault,
      ⟨t, d, Or.inl (State.started_mem_stop.mpr hstart), hown, hclock⟩, blamed_of_own hown, ?_,
      Or.inr ⟨how, hhow, State.ended_mem_stop.mpr (Or.inl hend)⟩, hconcluded⟩
    intro q t' e' hq
    obtain ⟨t₂, d', hstart', hown', rfl⟩ := own_of_failsAt hl hq
    exact hfirst q t₂ d' e' (State.started_mem_stop.mp hstart') hown'
  | done hfault hrunning hstarted hslots hfilled =>
    -- every call gave a text, so none has failed
    have hp : p₀ < j.regions.length := by
      rw [← List.mem_range, ← hstarted]
      exact mem_started.mpr ⟨t₁, hstart⟩
    obtain ⟨d, t, hown, -⟩ := hfilled p₀ hp
    rw [hown₀] at hown
    cases hown
  | stuck p hp hendless hnone =>
    exact absurd hown₀ (hnone p₀ (mem_started.mpr ⟨t₁, hstart⟩) d₀ e₀)

/-- The second call fails while the first goes on, which needs half a second to unwind. -/
def broken : Job where
  text := "ab"
  regions := [⟨0, 0, 1⟩, ⟨1, 1, 2⟩]
  formatter :=
    { name := "f"
      call := fun n _ =>
        if n = 0 then
          { duration := .endless, outcome := .ok (.text "a"), unwinds := fun _ => 1 / 2 }
        else { duration := .seconds 1, outcome := .error (.refused "no") } }

/-- The error is that of the second region, and it is given when the first call has unwound. -/
theorem transformRegions_broken :
    (∃ e, (transformRegions broken none).result = .error (.lint e) ∧
      Region.Blamed ⟨1, 1, 2⟩ e) ∧
    (transformRegions broken none).returnsAt = 3 / 2 ∧
    ongoing (transformRegions broken none).trace = [] ∧
    (ended (transformRegions broken none).trace ++
      ongoing (transformRegions broken none).trace).Perm
      (started (transformRegions broken none).trace) := by
  have hindexed : broken.Indexed := by
    unfold Job.Indexed
    decide
  have hstart : .started 1 0 ∈ (transformRegions broken none).trace := by decide +kernel
  obtain ⟨p, t, e, hp, hresult, hfails, hblamed, -, -, hconcluded⟩ :=
    transformRegions_of_failsAt hindexed (k := none) nofun ⟨1, _, _, _, _, Or.inl hstart, rfl, rfl⟩
  refine ⟨⟨e, hresult, ?_⟩, by decide +kernel, by decide +kernel, hconcluded.balance⟩
  match p, hp with
  | 0, _ =>
    obtain ⟨_, _, -, hown, -⟩ := hfails
    cases hown
  | 1, _ => exact hblamed

/-- Two calls run out of time after a second, and the second one needs two more to unwind. -/
def lasting : Job where
  text := "ab"
  regions := [⟨0, 0, 1⟩, ⟨1, 1, 2⟩]
  timeout := some (.whole 1)
  formatter :=
    { name := "f"
      call := fun n _ =>
        { duration := .endless, outcome := .ok (.text "a"), unwinds := fun _ => 2 * n } }

/-- The error of the first region is given after a second, while the second call still goes on. -/
theorem transformRegions_lasting :
    lasting.Indexed ∧
      lasting.FailsAt (transformRegions lasting none).trace 0 1
        (.timeout 0 0 1 "timed out after 1s") ∧
      (transformRegions lasting none).result.isOk = false ∧
      (transformRegions lasting none).returnsAt = 1 ∧
      (transformRegions lasting none).trace = [.started 0 0, .started 1 0, .ended 0 1 .expired] ∧
      ongoing (transformRegions lasting none).trace = [1] := by
  have hindexed : lasting.Indexed := by
    unfold Job.Indexed
    decide
  have hstart : .started 0 0 ∈ (transformRegions lasting none).trace := by decide +kernel
  have hown := Job.own_of_not_admits (j := lasting) (p := 0) (l := ((1 : Int) : Rat)) rfl id
  have herror : lasting.lateError 0 = .timeout 0 0 1 "timed out after 1s" := by rfl
  rw [herror] at hown
  exact ⟨hindexed, ⟨0, _, Or.inl hstart, hown, by decide +kernel⟩, by decide +kernel,
    by decide +kernel, by decide +kernel, by decide +kernel⟩

end Backtick.Transform
