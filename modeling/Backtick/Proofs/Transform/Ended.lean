import Backtick.Proofs.Transform.Queue

/-!
# The calls of a run when it is over

A run is stopped at an instant: nothing is left to do, or a call has failed. The calls that go on
then are cancelled, and the run is over when they have unwound. Each call that started has ended
once until then, or goes on behind the run. The latter are the calls whose time was up when the run
was stopped, and which unwind for longer than the run waits for others. Where the run succeeds, each
result was given by a call that has returned. All this holds for regions that carry any numbers.

Two invariants make it up beside the balance of the calls. They are about the clock and the slots.

* `steady_forward` — the clock goes forward
* `steady_sourced` — where results come from
* `Concluded` — what holds of the calls when a run is over
* `transformRegions_concluded`, `transformRegions_sourced` — whole runs
-/

namespace Backtick.Transform

variable {j : Job} {queue : List Nat} {due : List Running} {s s' : State}

/-! ## The clock -/

/-- No call has started or ended later than now, and none of those that are kept should have ended
earlier. -/
structure Forward (j : Job) (due : List Running) (s : State) : Prop where
  started : ∀ p t, .started p t ∈ s.trace → t ≤ s.clock
  ended : ∀ p t how, .ended p t how ∈ s.trace → t ≤ s.clock
  moments : ∀ r ∈ s.running ++ due, ∀ t, r.moment? j.limit = some t → s.clock ≤ t

namespace Forward

/-- The next call starts. -/
theorem start {p : Nat} (h : Forward j due s) (hcalls : Calls j (p :: queue) due s)
    (hl : j.limit ≠ .spent) : Forward j due (s.start j p) where
  started q t hq := by
    rw [State.start_clock]
    rw [State.start_trace hl] at hq
    rcases List.mem_append.mp hq with hq | hq
    · exact h.started q t hq
    · exact (State.started_mem_startEvents.mp hq).2.le
  ended q t how hq := by
    rw [State.start_clock]
    rw [State.start_trace hl] at hq
    rcases List.mem_append.mp hq with hq | hq
    · exact h.ended q t how hq
    · exact (State.ended_mem_startEvents.mp hq).2.2.1.le
  moments r hr t ht := by
    rw [State.start_clock]
    have hnext : s.nextCall j p = j.callAt p := State.nextCall_of_order hcalls.order
    rcases List.mem_append.mp hr with hr | hr
    · rcases State.mem_running_of_start hl hr with hr | rfl
      · exact h.moments r (List.mem_append_left _ hr) t ht
      · rw [Running.moment?_eq hnext hl] at ht
        obtain ⟨own, hown, rfl⟩ := Option.map_eq_some_iff.mp ht
        exact le_add_of_nonneg_right (Job.own_nonneg hown)
    · exact h.moments r (List.mem_append_right _ hr) t ht

/-- A call that is due is settled, and ends now if it has not ended already. -/
theorem close {r : Running} (h : Forward j (r :: due) s) {more : List Event}
    (htrace : s'.trace = s.trace ++ more)
    (hmore : ∀ e ∈ more, ∃ how, e = .ended r.position s.clock how)
    (hrunning : s'.running = s.running) (hclock : s'.clock = s.clock) : Forward j due s' where
  started p t hp := by
    rw [htrace] at hp
    rw [hclock]
    rcases List.mem_append.mp hp with hp | hp
    · exact h.started p t hp
    · obtain ⟨how, he⟩ := hmore _ hp
      cases he
  ended p t how hp := by
    rw [htrace] at hp
    rw [hclock]
    rcases List.mem_append.mp hp with hp | hp
    · exact h.ended p t how hp
    · obtain ⟨how', he⟩ := hmore _ hp
      cases he
      exact le_rfl
  moments x hx t ht := by
    rw [hrunning] at hx
    rw [hclock]
    exact h.moments x (List.perm_middle.mem_iff.mpr (List.mem_cons_of_mem _ hx)) t ht

end Forward

/-- In every step of a run the clock goes forward. -/
theorem steady_forward (hl : j.limit ≠ .spent) : Steady j (Forward j) where
  congr htrace _ _ hclock hperm h := by
    refine ⟨fun p t hp => ?_, fun p t how hp => ?_, fun r hr t ht => ?_⟩
    · rw [hclock]
      exact h.started p t (htrace ▸ hp)
    · rw [hclock]
      exact h.ended p t how (htrace ▸ hp)
    · rw [hclock]
      exact h.moments r (hperm.mem_iff.mp hr) t ht
  goTo {now s} _ hnow h := by
    have hkept : ∀ {r}, r ∈ s.running → r ∈ s.running ++ [] := fun hr => List.mem_append_left _ hr
    have hlater : s.clock ≤ now := by
      rcases State.earliest_mem _ _ _ hnow with hnone | hmem
      · cases hnone
      · obtain ⟨r, hr, hm⟩ := List.mem_map.mp hmem
        exact h.moments r (hkept hr) now hm
    refine ⟨fun p t hp => (h.started p t hp).trans hlater,
      fun p t how hp => (h.ended p t how hp).trans hlater, fun r hr t ht => ?_⟩
    exact nextMoment_le hnow ((State.goTo_perm j s now).mem_iff.mp hr) ht
  start hcalls h := h.start hcalls hl
  settle {r _ _ s} _ _ _ h := by
    rw [State.settle_eq]
    refine h.close (State.conclude_trace ..) (fun e he => ?_) (State.conclude_running ..)
      (State.conclude_clock ..)
    split at he
    · exact ⟨_, List.mem_singleton.mp he⟩
    · cases he
  expire _ _ _ h := h.close rfl (fun e he => ⟨_, List.mem_singleton.mp he⟩) rfl rfl

/-! ## Results -/

/-- Every result that is kept was given by a call that has returned. -/
def Sourced (j : Job) (s : State) : Prop :=
  ∀ r, some r ∈ s.slots → ∃ p t, .ended p t .returned ∈ s.trace ∧
    r.index = (j.region p).index ∧ (j.callAt p).outcome = .ok (.text r.text)

/-- Only a text is a result. -/
theorem Job.outcome_of_verdict {p : Nat} {o : Outcome} {t : Text} (h : j.verdict p o = .ok t) :
    o = .ok (.text t) := by
  unfold Job.verdict at h
  split at h
  · cases h
  · cases h
    rfl
  · cases h

/-- Settling a call fills a slot with what it gave. -/
theorem State.mem_slots_conclude {p : Nat} {c : Call} {r : Replacement}
    (h : some r ∈ (s.conclude j p c).slots) :
    some r ∈ s.slots ∨ r.index = (j.region p).index ∧ c.outcome = .ok (.text r.text) := by
  cases hv : j.verdict p c.outcome with
  | error e =>
    rw [State.conclude_of_error hv] at h
    exact Or.inl h
  | ok t =>
    simp only [conclude, hv, place] at h
    split at h
    · rcases List.mem_or_eq_of_mem_set h with h | h
      · exact Or.inl h
      · cases h
        exact Or.inr ⟨rfl, Job.outcome_of_verdict hv⟩
    · exact Or.inl h

namespace Sourced

theorem mono (h : Sourced j s) (htrace : s.trace <+: s'.trace) (hslots : s'.slots = s.slots) :
    Sourced j s' := by
  intro r hr
  rw [hslots] at hr
  obtain ⟨p, t, hend, hgiven⟩ := h r hr
  exact ⟨p, t, htrace.subset hend, hgiven⟩

/-- What a call gave is settled, when its end is in the trace. -/
theorem conclude {p : Nat} (h : Sourced j s) {t : Rat}
    (hend : .ended p t (State.endingOf (j.callAt p).outcome) ∈ s.trace) :
    Sourced j (s.conclude j p (j.callAt p)) := by
  intro r hr
  rw [State.conclude_trace]
  rcases State.mem_slots_conclude hr with hr | ⟨hindex, houtcome⟩
  · exact h r hr
  · rw [houtcome] at hend
    exact ⟨p, t, hend, hindex, houtcome⟩

end Sourced

/-- Every step of a run keeps where the results come from. -/
theorem steady_sourced (hl : j.limit ≠ .spent) : Steady j fun _ s => Sourced j s where
  congr htrace _ hslots _ _ h := h.mono (htrace ▸ List.prefix_refl _) hslots
  goTo _ _ h := h.mono (List.prefix_refl _) rfl
  start {p _ _ s} hcalls h := by
    have hnote : Sourced j (s.noteStart p (j.callAt p)) := by
      rw [State.noteStart_eq]
      exact h.mono (List.prefix_append ..) rfl
    rw [State.start_eq hl, State.nextCall_of_order hcalls.order]
    split
    next hnow =>
      -- the call is over as it starts
      refine hnote.conclude (t := s.clock) ?_
      rw [State.noteStart_eq]
      exact List.mem_append_right _ (State.ended_mem_startEvents.mpr ⟨hnow.2, rfl, rfl, rfl⟩)
    next => exact hnote.mono (List.prefix_refl _) rfl
  settle {r _ due s} hcalls _ _ h := by
    have hr : r ∈ s.running ++ r :: due := List.mem_append_right _ List.mem_cons_self
    have hcall := (hcalls.kept r hr).1
    have hover := hcalls.closed r hr
    have hnote : Sourced j (s.noteEnd r) := h.mono (List.prefix_append ..) rfl
    rw [State.settle_eq]
    rw [hcall] at hover ⊢
    by_cases hopen : r.isOpen = true
    · refine hnote.conclude (t := s.clock) ?_
      simp [State.noteEnd, hopen, hcall]
    · exact hnote.conclude (List.mem_append_left _ (hover (Bool.not_eq_true _ ▸ hopen)))
  expire _ _ _ h := h.mono (List.prefix_append ..) rfl

/-! ## Runs that are over -/

/-- The ends to which the call for the region at a position comes that started at a time, when the
run is stopped at the instant `cut`: how long after its start, and how. -/
inductive EndsIn (j : Job) (cut : Rat) (p : Nat) (t₀ : Rat) : Rat → Ending → Prop where
  /-- it comes to its own end -/
  | own {d : Rat} {how : Ending} (h : OwnEnd j p d how) : EndsIn j cut p t₀ d how
  /-- its time is not up when the run is stopped: it is cancelled then, and unwinds -/
  | stopped (hstart : t₀ ≤ cut)
      (hopen : ∀ l, j.limit = .within (some l) → ¬ j.limit.Admits (j.callAt p).duration →
        cut < t₀ + l) :
      EndsIn j cut p t₀ (cut - t₀ + j.unwinding p (cut - t₀)) .stopped

/-- What holds of the calls of a run that was stopped at the instant `cut` and is over. -/
structure Concluded (j : Job) (cut returnsAt : Rat) (trace : List Event) : Prop where
  /-- a call that started has ended once or goes on -/
  balance : (ended trace ++ ongoing trace).Perm (started trace)
  nodup : (started trace).Nodup
  cut_le : cut ≤ returnsAt
  /-- the run waits for nothing but calls that it has stopped -/
  awaited : returnsAt = cut ∨ ∃ p, .ended p returnsAt .stopped ∈ trace
  ends_le : ∀ p t how, .ended p t how ∈ trace → t ≤ returnsAt
  ends : ∀ p t how, .ended p t how ∈ trace →
    ∃ t₀ d, .started p t₀ ∈ trace ∧ t = t₀ + d ∧ EndsIn j cut p t₀ d how
  /-- a call goes on if its time was up when the run was stopped, and it has not unwound yet -/
  behind : ∀ p, p ∈ ongoing trace ↔ ∃ t₀ l, .started p t₀ ∈ trace ∧ j.limit = .within (some l) ∧
    ¬ j.limit.Admits (j.callAt p).duration ∧ t₀ + l ≤ cut ∧ returnsAt < t₀ + (l + j.unwinding p l)

theorem concluded_nil (j : Job) : Concluded j 0 0 [] where
  balance := .refl _
  nodup := .nil
  cut_le := le_rfl
  awaited := Or.inl rfl
  ends_le := nofun
  ends := nofun
  behind := by simp [ongoing, started]

/-- The call is one of the job, and the trace has its start. -/
theorem Calls.of_unfinished (h : Calls j [] [] s) {r : Running} (hr : r ∈ s.unfinished) :
    r.call = j.callAt r.position ∧ .started r.position r.since ∈ s.trace :=
  h.kept r (List.mem_append_left _ (List.mem_filter.mp hr).1)

namespace State

/-- An end that stopping adds is one of a call that was cancelled already, or is cancelled now. -/
theorem endsIn_of_halt (hcalls : Calls j [] [] s) (hforward : Forward j [] s)
    (hl : j.limit ≠ .spent) {r : Running} (hr : r ∈ s.unfinished) :
    ∃ d, (r.halt j.limit s.clock).1 = r.since + d ∧
      EndsIn j s.clock r.position r.since d (r.halt j.limit s.clock).2 := by
  obtain ⟨hcall, hsince⟩ := hcalls.of_unfinished hr
  unfold Running.halt
  cases hlapsed : r.lapsed? j.limit s.clock with
  | some t =>
    obtain ⟨l, hlimit, hadmits, rfl, -⟩ := (Running.lapsed?_eq_some_iff hcall hl).mp hlapsed
    exact ⟨_, Running.unwound_add hcall l, .own (.late hlimit hadmits)⟩
  | none =>
    have hunwound := Running.unwound_add hcall (s.clock - r.since)
    rw [add_sub_cancel] at hunwound
    refine ⟨_, hunwound, .stopped (hforward.started _ _ hsince) fun l hlimit hadmits => ?_⟩
    by_contra hnot
    have hsome := (Running.lapsed?_eq_some_iff hcall hl).mpr
      ⟨l, hlimit, hadmits, rfl, not_lt.mp hnot⟩
    rw [hlapsed] at hsome
    cases hsome

/-- A call goes on behind a run when its time was up, and it has not unwound yet. -/
theorem mem_running_stop_iff (hcalls : Calls j [] [] s) (hl : j.limit ≠ .spent) {r : Running} :
    r ∈ (s.stop j.limit).running ↔ r ∈ s.unfinished ∧ ∃ l, j.limit = .within (some l) ∧
      ¬ j.limit.Admits (j.callAt r.position).duration ∧ r.since + l ≤ s.clock ∧
      s.returnsAt j.limit < r.since + (l + j.unwinding r.position l) := by
  refine mem_running_stop.trans (and_congr_right fun hr => ?_)
  obtain ⟨hcall, -⟩ := hcalls.of_unfinished hr
  constructor
  · rintro ⟨t, hlapsed, hover⟩
    obtain ⟨l, hlimit, hadmits, rfl, hle⟩ := (Running.lapsed?_eq_some_iff hcall hl).mp hlapsed
    exact ⟨l, hlimit, hadmits, hle, Running.unwound_add hcall l ▸ hover⟩
  · rintro ⟨l, hlimit, hadmits, hle, hover⟩
    refine ⟨_, (Running.lapsed?_eq_some_iff hcall hl).mpr ⟨l, hlimit, hadmits, rfl, hle⟩, ?_⟩
    rwa [Running.unwound_add hcall l]

end State

/-- When a run is stopped no call ends later than the run, and each has an end to which a call comes
that is stopped then. -/
theorem endsIn_of_stop (hcalls : Calls j [] [] s) (hforward : Forward j [] s)
    (htimed : Timed j s.trace) (hl : j.limit ≠ .spent) {p : Nat} {t : Rat} {how : Ending}
    (hend : .ended p t how ∈ (s.stop j.limit).trace) :
    t ≤ s.returnsAt j.limit ∧ ∃ t₀ d, .started p t₀ ∈ (s.stop j.limit).trace ∧ t = t₀ + d ∧
      EndsIn j s.clock p t₀ d how := by
  rcases State.ended_mem_stop.mp hend with hend | ⟨r, hr, rfl, hhalt, hle⟩
  · obtain ⟨t₀, d, hstart, ht, hown⟩ := htimed p t how hend
    exact ⟨(hforward.ended p t how hend).trans State.clock_le_returnsAt, t₀, d,
      State.started_mem_stop.mpr hstart, ht, .own hown⟩
  · obtain ⟨d, ht, hin⟩ := State.endsIn_of_halt hcalls hforward hl hr
    rw [hhalt] at ht hin
    exact ⟨hle, r.since, d, State.started_mem_stop.mpr (hcalls.of_unfinished hr).2, ht, hin⟩

/-- A run that is stopped in a state is over when the calls that it stops have unwound. -/
theorem concluded_of_stop (hcalls : Calls j [] [] s) (hbalanced : Balanced [] s)
    (hforward : Forward j [] s) (htimed : Timed j s.trace) (hl : j.limit ≠ .spent) :
    Concluded j s.clock (s.stop j.limit).clock (s.stop j.limit).trace := by
  have hnodup : (started (s.stop j.limit).trace).Nodup := by
    have horder : (started s.trace ++ s.waiting).Nodup := hcalls.order ▸ List.nodup_range
    rw [State.started_stop]
    exact (List.nodup_append.mp horder).1
  have hongoing := ongoing_perm hbalanced.stop hnodup
  have hbalance := (hongoing.append_left _).trans hbalanced.stop
  have hends {p : Nat} {t : Rat} {how : Ending} (hend : .ended p t how ∈ (s.stop j.limit).trace) :=
    endsIn_of_stop hcalls hforward htimed hl hend
  refine ⟨hbalance, hnodup, State.clock_le_returnsAt, ?awaited,
    fun p t how h => (hends h).1, fun p t how h => (hends h).2,
    fun p => ⟨?behind, ?left⟩⟩
  case awaited =>
    refine (State.returnsAt_cases (l := j.limit)).imp_right ?_
    rintro ⟨r, hawaited, hover⟩
    refine ⟨r.position, State.ended_mem_stop.mpr (Or.inr ⟨r, hawaited.1, rfl, ?_, le_rfl⟩)⟩
    rw [Running.halt, hawaited.2]
    exact Prod.ext hover.symm rfl
  case behind =>
    intro hp
    obtain ⟨r, hr, rfl⟩ := List.mem_map.mp (hongoing.mem_iff.mp hp)
    have hr := (List.mem_filter.mp hr).1
    rw [List.append_nil] at hr
    obtain ⟨hr, l, hlimit, hadmits, hle, hover⟩ := (State.mem_running_stop_iff hcalls hl).mp hr
    exact ⟨r.since, l, State.started_mem_stop.mpr (hcalls.of_unfinished hr).2, hlimit, hadmits, hle,
      hover⟩
  case left =>
    rintro ⟨t₀, l, hstart, hlimit, hadmits, hle, hover⟩
    by_contra hnot
    -- it would have ended, when it has unwound: but that comes after the end of the run
    have hended : p ∈ ended (s.stop j.limit).trace := by
      rcases List.mem_append.mp (hbalance.mem_iff.mpr (mem_started.mpr ⟨t₀, hstart⟩)) with h | h
      · exact h
      · exact absurd h hnot
    obtain ⟨t, how, hend⟩ := exists_of_mem_ended hended
    obtain ⟨hover', t₁, d, hstart', rfl, hin⟩ := hends hend
    obtain rfl := started_unique hnodup hstart hstart'
    cases hin with
    | stopped _ hopen => exact absurd (hopen l hlimit hadmits) (not_lt.mpr hle)
    | own hown =>
      cases hown with
      | finished h _ => exact hadmits h
      | late hlimit' _ =>
        rw [hlimit] at hlimit'
        cases hlimit'
        exact absurd hover (not_lt.mpr hover')

/-! ## Whole runs -/

theorem OwnEnd.nonneg {p : Nat} {d : Rat} {how : Ending} (h : OwnEnd j p d how) : 0 ≤ d := by
  cases h with
  | late hlimit _ => exact add_nonneg (Limit.within_nonneg hlimit) (j.unwinding_nonneg p _)
  | finished _ hd =>
    unfold Job.lasts? at hd
    split at hd
    · cases hd
      exact le_rfl
    · cases hd
      exact Running.elapsed_nonneg _
    · cases hd

/-- Where there are no regions, where calls get no time, and where the limit on their number is
refused, no call is made and nothing results. Otherwise the run is that of its calls. -/
theorem transformRegions_cases (j : Job) (k : Option Int) :
    ((transformRegions j k).trace = [] ∧ (transformRegions j k).returnsAt = 0 ∧
      ∀ rs, (transformRegions j k).result = .ok rs → rs = []) ∨
    ∃ most, j.limit ≠ .spent ∧
      transformRegions j k = report j (State.run j (State.initial j most)) := by
  by_cases hne : j.regions = []
  · have hrun : transformRegions j k = { result := .ok [] } := by simp [transformRegions, hne]
    rw [hrun]
    exact Or.inl ⟨rfl, rfl, fun rs h => (Except.ok.inj h).symm⟩
  cases hpermits : permitsOf k with
  | error f =>
    have hrun : transformRegions j k = { result := .error f } := by
      simp [transformRegions, hne, hpermits]
    rw [hrun]
    exact Or.inl ⟨rfl, rfl, fun rs h => by cases h⟩
  | ok most =>
    rw [transformRegions_of_ne_nil hne hpermits]
    by_cases hl : j.limit = .spent
    · rw [run_spent hl (permitsOf_ne_zero hpermits) hne]
      exact Or.inl ⟨rfl, rfl, fun rs h => by cases h⟩
    · exact Or.inr ⟨most, hl, rfl⟩

/-- The calls of a run from the beginning when it is over. It is stopped where nothing happens any
more. -/
theorem concluded_of_initial (hl : j.limit ≠ .spent) (most : Option Nat) :
    Concluded j (State.run j (State.initial j most)).clock
      (report j (State.run j (State.initial j most))).returnsAt
      (report j (State.run j (State.initial j most))).trace := by
  obtain ⟨hcalls, hbalanced, hforward, htimed⟩ :=
    ((steady_balanced hl).and ((steady_forward hl).and (stable_timed hl).steady)).run_initial hl
      most ⟨List.Perm.refl _, ⟨nofun, nofun, nofun⟩, timed_nil j⟩
  exact concluded_of_stop hcalls hbalanced hforward htimed hl

/-- The calls of any run when it is over. -/
theorem transformRegions_concluded (j : Job) (k : Option Int) :
    ∃ cut, Concluded j cut (transformRegions j k).returnsAt (transformRegions j k).trace := by
  rcases transformRegions_cases j k with ⟨htrace, hover, -⟩ | ⟨most, hl, hrun⟩
  · rw [htrace, hover]
    exact ⟨0, concluded_nil j⟩
  · rw [hrun]
    exact ⟨_, concluded_of_initial hl most⟩

/-- A run that succeeds leaves no call behind. -/
theorem ongoing_of_result {k : Option Int} {rs : List Replacement}
    (h : (transformRegions j k).result = .ok rs) : ongoing (transformRegions j k).trace = [] := by
  rcases transformRegions_cases j k with ⟨htrace, -, -⟩ | ⟨most, hl, hrun⟩
  · rw [htrace]
    rfl
  rw [hrun] at h ⊢
  obtain ⟨-, hidle, -⟩ := done_of_report h
  have hbalanced := ((steady_balanced hl).run_initial hl most (List.Perm.refl _)).2
  rw [report_trace, State.stop_of_idle hidle]
  refine List.filter_eq_nil_iff.mpr fun p hp => ?_
  simpa using (hbalanced.ended_of_idle hidle).mem_iff.mpr hp

/-- Each result of a run that succeeds was given by a call that has returned. -/
theorem transformRegions_sourced {j : Job} {k : Option Int} {rs : List Replacement}
    (h : (transformRegions j k).result = .ok rs) : ∀ r ∈ rs,
      ∃ p t, .ended p t .returned ∈ (transformRegions j k).trace ∧
        r.index = (j.region p).index ∧ (j.callAt p).outcome = .ok (.text r.text) := by
  rcases transformRegions_cases j k with ⟨-, -, hnothing⟩ | ⟨most, hl, hrun⟩
  · rw [hnothing rs h]
    exact nofun
  rw [hrun] at h ⊢
  obtain ⟨-, -, rfl⟩ := done_of_report h
  have hsourced := ((steady_sourced hl).run_initial hl most fun r hr => by simp at hr).2
  intro r hr
  obtain ⟨slot, hslot, rfl⟩ := List.mem_filterMap.mp hr
  obtain ⟨p, t, hend, hgiven⟩ := hsourced r hslot
  exact ⟨p, t, List.mem_append_left _ hend, hgiven⟩

end Backtick.Transform
