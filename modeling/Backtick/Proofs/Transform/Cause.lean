import Backtick.Proofs.Transform.Queue

/-!
# Why a run fails

When a run fails by one of its regions, the call of that region has ended, and its end is the cause:
the time of the call was up, the formatter failed, or it gave something else than a text. The time
of a call is up only if a time above zero is set and the call still went on when it had passed; it
ends then when it has unwound.

A formatter that gives up waiting by itself is reported in the same way as a call whose time is up,
also where no time is set. Every other failure of a formatter keeps its text.

The invariant is that the error of a failed run tells of the end of a call (`Told`). When that end
came is known from its start (`Timed`).

* `Told.start`, `Told.settle`, `Told.expire` — what the steps of a run keep
* `transformRegions_cause` — the error of a run and its cause
-/

namespace Backtick

/-- The text of a failure. -/
def Failure.message : Failure → Text
  | .refused message => message
  | .impatient message => message
  | .broke _ message => message

namespace Transform

variable {j : Job} {queue : List Nat} {due : List Running} {s : State}

/-! ## Causes -/

/-- So many seconds are less than the time that a call may take. -/
def Job.InTime (j : Job) (d : Rat) : Prop :=
  ∀ n, j.timeout = some n → n.isZero = true ∨ n.Exceeds d

/-- Why the transform of the region at a position fails: how long after its start the call ends, in
which way, and the error. -/
inductive Cause (j : Job) (p : Nat) : Rat → Ending → LintError → Prop where
  /-- a time above zero is set, and the call still goes on when it has passed: it unwinds -/
  | late {n : Number} {l : Rat} (htimeout : j.timeout = some n) (hl : n.toRat? = some l)
      (hpos : 0 < l) (hlasts : ∀ d, j.lasts? p = some d → l ≤ d) :
      Cause j p (l + j.unwinding p l) .expired (j.lateError p)
  /-- the formatter fails in time -/
  | raised {d : Rat} {f : Failure} (hlasts : j.lasts? p = some d) (hin : j.InTime d)
      (houtcome : (j.callAt p).outcome = .error f) : Cause j p d .failed (j.failureError p f)
  /-- the formatter gives something else than a text in time -/
  | mistyped {d : Rat} {v : Value} (hlasts : j.lasts? p = some d) (hin : j.InTime d)
      (houtcome : (j.callAt p).outcome = .ok v) (hv : ∀ t, v ≠ .text t) :
      Cause j p d .returned (j.typeError p v)

namespace Cause

variable {p : Nat} {d : Rat} {how : Ending} {e : LintError}

/-- The error is a timeout when the time of the call was up, and when the formatter gave up
waiting. -/
theorem code_eq_timeout_iff (h : Cause j p d how e) :
    e.code = .transformTimeout ↔
      how = .expired ∨ ∃ message, (j.callAt p).outcome = .error (.impatient message) := by
  cases h with
  | late htimeout hl hpos hlasts => exact ⟨fun _ => Or.inl rfl, fun _ => rfl⟩
  | mistyped hlasts hin houtcome hv => simp [Job.typeError, LintError.code, houtcome]
  | @raised _ f hlasts hin houtcome =>
    cases f <;> simp [Job.failureError, Job.lateError, LintError.code, houtcome]

/-- A failure of the formatter keeps its text, unless the formatter gave up waiting. -/
theorem eq_of_failure (h : Cause j p d how e) (hhow : how ≠ .expired) {f : Failure}
    (hf : (j.callAt p).outcome = .error f) (hpatient : ∀ message, f ≠ .impatient message) :
    ∃ front, e = .transform (j.region p).index (j.region p).start (j.region p).stop
      (front ++ f.message) := by
  cases h with
  | late htimeout hl hpos hlasts => exact absurd rfl hhow
  | mistyped hlasts hin houtcome hv =>
    rw [hf] at houtcome
    cases houtcome
  | raised hlasts hin houtcome =>
    rw [hf] at houtcome
    cases houtcome
    cases f with
    | refused message => exact ⟨[], rfl⟩
    | impatient message => exact absurd rfl (hpatient message)
    | broke kind message => exact ⟨kind ++ Text.ofString ": ", rfl⟩

end Cause

/-! ## Limits and times -/

/-- A limit of calls is a number above zero that says so many seconds. -/
theorem timeout_of_limit (htimeout : ∀ n, j.timeout = some n → n.isZero = true ∨ n.Exceeds 0)
    {l : Rat} (h : j.limit = .within (some l)) :
    ∃ n, j.timeout = some n ∧ n.toRat? = some l ∧ 0 < l := by
  unfold Job.limit at h
  cases hn : j.timeout with
  | none => rw [hn] at h; cases h
  | some n =>
    rw [hn] at h
    rcases htimeout n hn with hzero | hpos
    · simp [Limit.ofTimeout, hzero] at h
    · rw [ofTimeout_of_exceeds hpos] at h
      have hl : n.toRat? = some l := Limit.within.inj h
      refine ⟨n, rfl, hl, ?_⟩
      unfold Number.Exceeds at hpos
      split at hpos
      · cases hl
      · obtain ⟨t, ht, hlt⟩ := hpos
        rw [hl] at ht
        exact Option.some.inj ht ▸ hlt

/-- A call that is admitted is over in time. -/
theorem inTime_of_admits (htimeout : ∀ n, j.timeout = some n → n.isZero = true ∨ n.Exceeds 0)
    {p : Nat} {d : Rat} (hadmits : j.limit.Admits (j.callAt p).duration)
    (hd : j.lasts? p = some d) : j.InTime d := by
  intro n hn
  refine (htimeout n hn).imp_right fun hpos => ?_
  unfold Job.limit at hadmits
  rw [hn, ofTimeout_of_exceeds hpos] at hadmits
  unfold Job.lasts? at hd
  unfold Number.Exceeds at hpos ⊢
  split at hpos
  · exact hpos
  · obtain ⟨t, ht, hlt⟩ := hpos
    rw [ht] at hadmits
    refine ⟨t, ht, ?_⟩
    cases hdur : (j.callAt p).duration with
    | none =>
      rw [hdur] at hd
      exact Option.some.inj hd ▸ hlt
    | seconds s =>
      rw [hdur] at hd hadmits
      exact Option.some.inj hd ▸ hadmits
    | endless => rw [hdur] at hd; cases hd

/-! ## The end that an error tells of -/

/-- The error tells that the call for the region at a position has ended in this way. -/
def Job.Tells (j : Job) (p : Nat) (how : Ending) (e : LintError) : Prop :=
  how = .expired ∧ e = j.lateError p ∨
    how = State.endingOf (j.callAt p).outcome ∧ j.verdict p (j.callAt p).outcome = .error e

/-- What a call that has come to its end is told by is the cause. -/
theorem Job.Tells.cause (htimeout : ∀ n, j.timeout = some n → n.isZero = true ∨ n.Exceeds 0)
    {p : Nat} {d : Rat} {how : Ending} {e : LintError} (h : j.Tells p how e)
    (hend : OwnEnd j p d how) : Cause j p d how e := by
  cases hend with
  | late hlimit hlate =>
    obtain ⟨n, hn, hl, hpos⟩ := timeout_of_limit htimeout hlimit
    rcases h with ⟨-, rfl⟩ | ⟨hhow, -⟩
    · exact .late hn hl hpos fun d hd => Job.lasts_of_not_admits hlimit hlate hd
    · cases ho : (j.callAt p).outcome <;> rw [ho] at hhow <;> cases hhow
  | finished hadmits hd =>
    have hin := inTime_of_admits htimeout hadmits hd
    cases ho : (j.callAt p).outcome with
    | error f =>
      rcases h with ⟨hhow, -⟩ | ⟨-, hverdict⟩
      · rw [ho] at hhow
        cases hhow
      · rw [ho] at hverdict
        cases hverdict
        exact .raised hd hin ho
    | ok v =>
      rcases h with ⟨hhow, -⟩ | ⟨-, hverdict⟩
      · rw [ho] at hhow
        cases hhow
      · rw [ho, Job.verdict.eq_def] at hverdict
        split at hverdict
        · next hv => cases hv
        · cases hverdict
        next v' hnot hv =>
          cases hv
          cases hverdict
          exact .mistyped hd hin ho fun t ht => hnot t ht

/-- An error by which the state fails tells of the end of a call. -/
def Told (j : Job) (s : State) : Prop :=
  ∀ e, s.fault = some (.lint e) → ∃ p t how, .ended p t how ∈ s.trace ∧ j.Tells p how e

namespace State

/-- A run fails in settling a call when the call gave no text, or its region has no slot. -/
theorem conclude_fault_cases {p : Nat} {c : Call} {f : Fault}
    (h : (s.conclude j p c).fault = some f) :
    s.fault = some f ∨ f = .badPosition ∨ ∃ e, f = .lint e ∧ j.verdict p c.outcome = .error e := by
  simp only [conclude] at h
  split at h
  next e he =>
    rcases fail_cases h with h | rfl
    · exact Or.inl h
    · exact Or.inr (Or.inr ⟨e, rfl, he⟩)
  next =>
    simp only [place] at h
    split at h
    · exact Or.inl h
    · exact (fail_cases h).imp_right Or.inl

end State

namespace Told

theorem mono (h : Told j s) {s' : State} (htrace : s.trace <+: s'.trace)
    (hfault : s'.fault = s.fault) : Told j s' := by
  intro e he
  rw [hfault] at he
  obtain ⟨p, t, how, hend, htells⟩ := h e he
  exact ⟨p, t, how, htrace.subset hend, htells⟩

/-- What a call gave is settled, when its end is in the trace. -/
theorem conclude {p : Nat} (h : Told j s) {t : Rat}
    (hend : .ended p t (State.endingOf (j.callAt p).outcome) ∈ s.trace) :
    Told j (s.conclude j p (j.callAt p)) := by
  intro e he
  rw [State.conclude_trace]
  rcases State.conclude_fault_cases he with he | he | ⟨e', he, hverdict⟩
  · exact h e he
  · cases he
  · cases he
    exact ⟨p, t, _, hend, Or.inr ⟨rfl, hverdict⟩⟩

/-- The next call starts. -/
theorem start {p : Nat} (h : Told j s) (hcalls : Calls j (p :: queue) due s)
    (hl : j.limit ≠ .spent) : Told j (s.start j p) := by
  have hnote : Told j (s.noteStart p (j.callAt p)) := by
    rw [State.noteStart_eq]
    exact h.mono (List.prefix_append ..) rfl
  rw [State.start_eq hl, State.nextCall_of_order hcalls.order]
  split
  next hnow =>
    -- the call is over as it starts
    refine hnote.conclude (t := s.clock) ?_
    rw [State.noteStart_eq]
    exact List.mem_append_right _ (State.ended_mem_startEvents.mpr ⟨hnow.2, rfl, rfl, rfl⟩)
  next => exact hnote.mono (List.prefix_refl _) rfl

/-- A call that is over by itself is settled. -/
theorem settle {r : Running} (h : Told j s) (hcalls : Calls j queue (r :: due) s) :
    Told j (s.settle j r) := by
  have hr : r ∈ s.running ++ r :: due := List.mem_append_right _ List.mem_cons_self
  have hcall := (hcalls.kept r hr).1
  have hover := hcalls.closed r hr
  have hnote : Told j (s.noteEnd r) := h.mono (List.prefix_append ..) rfl
  rw [State.settle_eq]
  rw [hcall] at hover ⊢
  by_cases hopen : r.isOpen = true
  · refine hnote.conclude (t := s.clock) ?_
    simp [State.noteEnd, hopen, hcall]
  · exact hnote.conclude (List.mem_append_left _ (hover (Bool.not_eq_true _ ▸ hopen)))

/-- The time of a call is up. -/
theorem expire {r : Running} (h : Told j s) : Told j (s.expire j r) := by
  have htrace : (s.expire j r).trace = s.trace ++ [.ended r.position s.clock .expired] := rfl
  intro e he
  rw [htrace]
  rcases State.fail_cases he with he | he
  · obtain ⟨p, t, how, hend, htells⟩ := h e he
    exact ⟨p, t, how, List.mem_append_left _ hend, htells⟩
  · cases he
    exact ⟨_, _, _, List.mem_append_right _ List.mem_cons_self, Or.inl ⟨rfl, rfl⟩⟩

end Told

/-- A state that has not failed tells nothing. -/
theorem told_of_no_fault (h : s.fault = none) : Told j s := by
  intro e he
  rw [h] at he
  cases he

/-- Every step of a run keeps what its error tells. -/
theorem stable_told (hl : j.limit ≠ .spent) : Stable j (Told j) where
  congr htrace hfault h := h.mono (htrace ▸ List.prefix_refl _) hfault
  start hcalls h := h.start hcalls hl
  settle hcalls _ _ h := h.settle hcalls
  expire _ _ _ h := h.expire

/-! ## Runs over all regions of a text -/

/-- A time that is none, zero or above zero leaves calls some time. -/
theorem limit_ne_spent (htimeout : ∀ n, j.timeout = some n → n.isZero = true ∨ n.Exceeds 0) :
    j.limit ≠ .spent := by
  unfold Job.limit
  cases hn : j.timeout with
  | none => exact nofun
  | some n =>
    rcases htimeout n hn with hzero | hpos
    · simp [Limit.ofTimeout, hzero]
    · rw [ofTimeout_of_exceeds hpos]
      exact nofun

/-- A limit on the number of calls that is refused is no failure of a region. -/
theorem permitsOf_ne_lint {k : Option Int} {e : LintError} : permitsOf k ≠ .error (.lint e) := by
  unfold permitsOf
  split
  · exact nofun
  · split
    · exact nofun
    · split <;> exact nofun

/-- **The cause of a failure.** No time is set, or zero, or one above zero. When a run over any
regions fails by one of them, the call of that region has started and ended, and its end is the
cause of the error. The error is a timeout exactly when the time of the call was up, or the
formatter itself gave up waiting; any other failure of the formatter keeps its text. -/
theorem transformRegions_cause {k : Option Int} {e : LintError}
    (htimeout : ∀ n, j.timeout = some n → n.isZero = true ∨ n.Exceeds 0)
    (h : (transformRegions j k).result = .error (.lint e)) :
    ∃ p t d how, p < j.regions.length ∧ .started p t ∈ (transformRegions j k).trace ∧
      .ended p (t + d) how ∈ (transformRegions j k).trace ∧ Cause j p d how e ∧
      (e.code = .transformTimeout ↔
        how = .expired ∨ ∃ message, (j.callAt p).outcome = .error (.impatient message)) ∧
      (how ≠ .expired → ∀ f, (j.callAt p).outcome = .error f →
        (∀ message, f ≠ .impatient message) →
        ∃ front, e = .transform (j.region p).index (j.region p).start (j.region p).stop
          (front ++ f.message)) := by
  have hl := limit_ne_spent htimeout
  have hne : j.regions ≠ [] := by
    intro hnil
    simp [transformRegions, hnil] at h
  cases hpermits : permitsOf k with
  | error f =>
    unfold transformRegions at h
    rw [if_neg (by simpa using hne), hpermits] at h
    cases h
    exact absurd hpermits permitsOf_ne_lint
  | ok most =>
    rw [transformRegions_of_ne_nil hne hpermits] at h ⊢
    rw [report_trace]
    obtain ⟨htimed, htold⟩ := ((stable_timed hl).and (stable_told hl)).run_initial hl most
      ⟨timed_nil j, told_of_no_fault rfl⟩
    obtain ⟨p, t, how, hend, htells⟩ := htold e (fault_of_report h)
    obtain ⟨t₀, d, hstart, rfl, hown⟩ := htimed p t how hend
    have hcause := htells.cause htimeout hown
    have hstart := State.started_mem_stop (l := j.limit).mpr hstart
    refine ⟨p, t₀, d, how, ?_, hstart, State.ended_mem_stop.mpr (Or.inl hend), hcause,
      hcause.code_eq_timeout_iff, fun hhow f hf => hcause.eq_of_failure hhow hf⟩
    have hmem := (capped_of_initial hl most).2.subset (mem_started.mpr ⟨t₀, hstart⟩)
    exact List.mem_range.mp hmem

/-- The first of two calls would take five seconds and gets three. -/
def slow : Job where
  text := "ab"
  regions := [⟨0, 0, 1⟩, ⟨1, 1, 2⟩]
  timeout := some (.whole 3)
  formatter :=
    { name := "f"
      call := fun n _ =>
        if n = 0 then { duration := .seconds 5, outcome := .ok (.text "a") }
        else { duration := .seconds 1, outcome := .ok (.text "b") } }

/-- The run fails by the first region, whose call still went on after three seconds. -/
theorem transformRegions_slow :
    ∃ e, (transformRegions slow none).result = .error (.lint e) ∧ e.code = .transformTimeout ∧
      ∃ t, .started 0 t ∈ (transformRegions slow none).trace ∧
        .ended 0 (t + 3) .expired ∈ (transformRegions slow none).trace := by
  have hfails : (match (transformRegions slow none).result with
      | .error (.lint _) => true
      | _ => false) = true := by decide +kernel
  split at hfails
  next e he =>
    have htimeout : ∀ n, slow.timeout = some n → n.isZero = true ∨ n.Exceeds 0 := by
      rintro n ⟨⟩
      exact Or.inr ⟨3, rfl, by decide⟩
    obtain ⟨p, t, d, how, hp, hstart, hend, hcause, hcode, -⟩ := transformRegions_cause htimeout he
    have htext : ∃ u, (slow.callAt p).outcome = .ok (.text u) := by
      match p, hp with
      | 0, _ => exact ⟨_, rfl⟩
      | 1, _ => exact ⟨_, rfl⟩
    obtain ⟨u, hu⟩ := htext
    cases hcause with
    | raised hlasts hin houtcome => rw [hu] at houtcome; cases houtcome
    | mistyped hlasts hin houtcome hv =>
      rw [hu] at houtcome
      cases houtcome
      exact absurd rfl (hv u)
    | late hn hl hpos hlasts =>
      cases hn
      cases hl
      match p, hp with
      | 0, _ =>
        have hthree : ((3 : Int) : Rat) + slow.unwinding 0 ((3 : Int) : Rat) = 3 := by
          decide +kernel
        rw [hthree] at hend
        exact ⟨_, he, hcode.mpr (Or.inl rfl), t, hstart, hend⟩
      | 1, _ => exact absurd (hlasts 1 rfl) (by decide)
  next => cases hfails

/-- A formatter that gives up waiting for something as soon as it is called, and no time is set. -/
def impatient : Job where
  text := "a"
  regions := [⟨0, 0, 1⟩]
  formatter :=
    { name := "f"
      call := fun _ _ => { duration := .none, outcome := .error (.impatient "mine") } }

/-- The run is said to have taken too long, although it may take as long as it wants. -/
theorem transformRegions_impatient :
    impatient.timeout = none ∧
      (transformRegions impatient none).result =
        .error (.lint (.timeout 0 0 1 "timed out after Nones")) := by
  have hfault : (State.run impatient (State.initial impatient none)).fault =
      some (.lint (impatient.lateError 0)) := by
    rw [State.run_of_fault rfl]
    rfl
  have herror : impatient.lateError 0 = .timeout 0 0 1 "timed out after Nones" := by rfl
  refine ⟨rfl, ?_⟩
  rw [transformRegions_of_ne_nil (List.cons_ne_nil _ _) rfl, report_of_fault hfault, herror]

end Transform

end Backtick
