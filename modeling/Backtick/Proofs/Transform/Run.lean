import Backtick.Proofs.Transform.Ledger

/-!
# Runs

A run goes from round to round: calls start as long as there are permits, or the clock goes to the
next instant at which calls end. Each round keeps the ledger, so the ledger holds when the run ends,
and the ways in which a run can end are few:

* a call has failed, and the others still go on: they are to be stopped
* nothing waits and nothing goes on: every call was settled
* what goes on never ends

`ends_of_run` says so. The permits are needed for the second: while nothing goes on they are all
free, so no region can be left waiting. A run in which calls get no time at all makes no calls, and
is looked at by itself (`run_spent`).
-/

namespace Backtick.Transform

variable {j : Job} {queue : List Nat} {due : List Running} {s : State}

/-! ## Instants -/

/-- The earlier of two times is not after either of them. -/
theorem earlier_le {a b : Option Rat} {u : Rat} (h : a = some u ∨ b = some u) :
    ∃ v, Running.earlier a b = some v ∧ v ≤ u := by
  cases a with
  | none =>
    rcases h with h | h
    · cases h
    · exact ⟨u, h, le_rfl⟩
  | some a =>
    cases b with
    | none =>
      rcases h with h | h
      · exact ⟨a, rfl, (Option.some.inj h).le⟩
      · cases h
    | some b =>
      refine ⟨_, rfl, ?_⟩
      rcases h with h | h
      · cases h
        split
        · next hlt => exact hlt.le
        · exact le_rfl
      · cases h
        split
        · exact le_rfl
        · next hlt => exact not_lt.mp hlt

/-- The earliest of several times is not after any of them. -/
theorem earliest_le {times : List (Option Rat)} {t : Option Rat} {now : Rat}
    (h : times.foldl Running.earlier t = some now) {u : Rat} (hu : t = some u ∨ some u ∈ times) :
    now ≤ u := by
  induction times generalizing t u with
  | nil =>
    rcases hu with rfl | hu
    · exact (Option.some.inj h).ge
    · cases hu
  | cons x rest ih =>
    rw [List.foldl_cons] at h
    rcases hu with hu | hu
    · obtain ⟨v, hv, hle⟩ := earlier_le (Or.inl hu)
      exact (ih h (Or.inl hv)).trans hle
    · rcases List.mem_cons.mp hu with hu | hu
      · obtain ⟨v, hv, hle⟩ := earlier_le (Or.inr hu.symm)
        exact (ih h (Or.inl hv)).trans hle
      · exact ih h (Or.inr hu)

/-- Without an earliest time there is no time at all. -/
theorem earliest_eq_none {times : List (Option Rat)} {t : Option Rat}
    (h : times.foldl Running.earlier t = none) : t = none ∧ ∀ u ∈ times, u = none := by
  induction times generalizing t with
  | nil => exact ⟨h, nofun⟩
  | cons x rest ih =>
    obtain ⟨he, hrest⟩ := ih h
    cases t with
    | none =>
      have hx : x = none := he
      refine ⟨rfl, fun u hu => ?_⟩
      rcases List.mem_cons.mp hu with rfl | hu
      · exact hx
      · exact hrest u hu
    | some a => cases x <;> cases he

theorem nextMoment_le {l : Limit} {now : Rat} (h : s.nextMoment? l = some now) {r : Running}
    (hr : r ∈ s.running) {t : Rat} (ht : r.moment? l = some t) : now ≤ t :=
  earliest_le h (Or.inr (ht ▸ List.mem_map_of_mem hr))

theorem nextMoment_none {l : Limit} (h : s.nextMoment? l = none) {r : Running}
    (hr : r ∈ s.running) : r.moment? l = none :=
  (earliest_eq_none h).2 _ (List.mem_map_of_mem hr)

namespace State

/-- The calls that end at an instant. -/
def dueAt (j : Job) (s : State) (now : Rat) : List Running :=
  s.running.filter fun r => r.moment? j.limit == some now

/-- The state at an instant before the calls that end there are settled. -/
def goTo (j : Job) (s : State) (now : Rat) : State :=
  { s with
    clock := now
    running := s.running.filter fun r => !(r.moment? j.limit == some now)
    permits := s.permits.map (· + (s.dueAt j now).length) }

theorem advance_eq (j : Job) (s : State) (now : Rat) :
    s.advance j now =
      ((s.dueAt j now).filter fun r => r.expires j.limit).foldl (expire j)
        (((s.dueAt j now).filter fun r => !r.expires j.limit).foldl (settle j) (s.goTo j now)) :=
  rfl

theorem goTo_perm (j : Job) (s : State) (now : Rat) :
    ((s.goTo j now).running ++ s.dueAt j now).Perm s.running :=
  List.perm_append_comm.trans (List.filter_append_perm _ _)

/-- The calls that end at an instant are those that are over by themselves and those that have run
out of time. -/
theorem dueAt_perm (j : Job) (s : State) (now : Rat) :
    ((s.dueAt j now).filter (fun r : Running => !r.expires j.limit) ++
      ((s.dueAt j now).filter (fun r : Running => r.expires j.limit) ++ [])).Perm
      (s.dueAt j now) := by
  rw [List.append_nil]
  exact List.perm_append_comm.trans (List.filter_append_perm _ _)

end State

/-! ## Permits -/

/-- The permits and the calls that go on make up the limit on the number of calls. -/
structure Budget (most : Option Nat) (s : State) : Prop where
  permits : s.permits = most.map (· - s.running.length)
  running_le : ∀ k, most = some k → s.running.length ≤ k

namespace State

@[simp] theorem noteStart_permits (s : State) (p : Nat) (c : Call) :
    (s.noteStart p c).permits = s.permits := by
  rw [noteStart_eq]

@[simp] theorem conclude_permits (j : Job) (p : Nat) (c : Call) (s : State) :
    (s.conclude j p c).permits = s.permits := by
  simp only [conclude]
  split
  · rfl
  · simp only [place]
    split <;> rfl

/-- A start takes at most one permit, and exactly one when a call goes on afterwards. -/
theorem start_permits (j : Job) (s : State) (p : Nat) :
    ((s.start j p).permits = s.permits ∧ (s.start j p).running = s.running) ∨
    ((s.start j p).permits = s.permits.map (· - 1) ∧
      (s.start j p).running.length = s.running.length + 1) := by
  unfold start
  split
  · exact Or.inl ⟨rfl, rfl⟩
  · dsimp only
    split
    · exact Or.inl ⟨by simp, by simp⟩
    · exact Or.inr ⟨by simp [keep], by simp [keep]⟩

@[simp] theorem conclude_clock (j : Job) (p : Nat) (c : Call) (s : State) :
    (s.conclude j p c).clock = s.clock := by
  simp only [conclude]
  split
  · rfl
  · simp only [place]
    split <;> rfl

/-- What a run fails by does not change. -/
theorem conclude_fault {f : Fault} (j : Job) (p : Nat) (c : Call) (h : s.fault = some f) :
    (s.conclude j p c).fault = some f := by
  simp only [conclude]
  split
  · simp [fail, write, h]
  · simp only [place]
    split
    · exact h
    · simp [fail, write, h]

theorem start_fault {f : Fault} (j : Job) (p : Nat) (h : s.fault = some f) :
    (s.start j p).fault = some f := by
  unfold start
  split
  · simp [fail, h]
  · dsimp only
    split
    · exact conclude_fault j p _ (by rw [noteStart_eq]; exact h)
    · rw [noteStart_eq]
      exact h

theorem foldl_start_fault {f : Fault} (j : Job) (ps : List Nat) (h : s.fault = some f) :
    (ps.foldl (start j) s).fault = some f := by
  induction ps generalizing s with
  | nil => exact h
  | cons p rest ih => exact ih (start_fault j p h)

theorem startFree_fault {f : Fault} (j : Job) (h : s.fault = some f) :
    (s.startFree j).fault = some f := by
  unfold startFree
  split
  · exact foldl_start_fault j _ h
  · exact foldl_start_fault j _ h

theorem settle_clock (j : Job) (s : State) (r : Running) : (s.settle j r).clock = s.clock := by
  rw [settle_eq, conclude_clock]
  rfl

theorem foldl_settle_clock (j : Job) (rs : List Running) (s : State) :
    (rs.foldl (settle j) s).clock = s.clock := by
  induction rs generalizing s with
  | nil => rfl
  | cons r rest ih => rw [List.foldl_cons, ih, settle_clock]

theorem foldl_settle_permits (j : Job) (rs : List Running) (s : State) :
    (rs.foldl (settle j) s).permits = s.permits := by
  induction rs generalizing s with
  | nil => rfl
  | cons r rest ih =>
    rw [List.foldl_cons, ih, settle_eq, conclude_permits]
    rfl

theorem foldl_expire_permits (j : Job) (rs : List Running) (s : State) :
    (rs.foldl (expire j) s).permits = s.permits := by
  induction rs generalizing s with
  | nil => rfl
  | cons r rest ih => rw [List.foldl_cons, ih]; rfl

end State

namespace Budget

variable {most : Option Nat}

theorem start (h : Budget most s) (p : Nat) (hfree : ∀ k, most = some k → s.running.length < k) :
    Budget most (s.start j p) := by
  rcases State.start_permits j s p with ⟨hperm, hrun⟩ | ⟨hperm, hrun⟩
  · exact ⟨by rw [hperm, hrun]; exact h.permits, by rw [hrun]; exact h.running_le⟩
  · refine ⟨?_, ?_⟩
    · rw [hperm, hrun, h.permits, Option.map_map]
      congr 1
    · intro k hk
      rw [hrun]
      exact hfree k hk

theorem foldl_start (ps : List Nat) (h : Budget most s)
    (hfree : ∀ k, most = some k → s.running.length + ps.length ≤ k) :
    Budget most (ps.foldl (State.start j) s) := by
  induction ps generalizing s with
  | nil => exact h
  | cons p rest ih =>
    rw [List.foldl_cons]
    refine ih (h.start p fun k hk => ?_) fun k hk => ?_
    · have := hfree k hk
      rw [List.length_cons] at this
      omega
    · have := hfree k hk
      have hle := State.start_running_le j s p
      rw [List.length_cons] at this
      omega

theorem startFree (h : Budget most s) : Budget most (s.startFree j) := by
  unfold State.startFree
  rw [h.permits]
  cases most with
  | none => exact foldl_start _ ⟨rfl, h.running_le⟩ nofun
  | some n =>
    refine foldl_start _ ⟨rfl, h.running_le⟩ fun k hk => ?_
    have hle := h.running_le k hk
    cases hk
    show s.running.length + (s.waiting.take (n - s.running.length)).length ≤ n
    rw [List.length_take]
    omega

theorem advance (h : Budget most s) (now : Rat) : Budget most (s.advance j now) := by
  have hlen := (State.goTo_perm j s now).length_eq
  rw [List.length_append] at hlen
  have hrun : (s.advance j now).running = (s.goTo j now).running := by
    rw [State.advance_eq, (State.foldl_expire_waiting ..).2, (State.foldl_settle_waiting ..).2]
  have hperm : (s.advance j now).permits = (s.goTo j now).permits := by
    rw [State.advance_eq, State.foldl_expire_permits, State.foldl_settle_permits]
  refine ⟨?_, fun k hk => ?_⟩
  · rw [hperm, hrun]
    show s.permits.map (· + (s.dueAt j now).length) = _
    rw [h.permits]
    cases most with
    | none => rfl
    | some k =>
      have hle := h.running_le k rfl
      simp only [Option.map_some, Option.some.injEq]
      omega
  · have hle := h.running_le k hk
    rw [hrun]
    omega

/-- While nothing goes on there is a permit. -/
theorem permits_ne_zero (h : Budget most s) (hmost : most ≠ some 0) (hrun : s.running = []) :
    s.permits ≠ some 0 := by
  rw [h.permits, hrun]
  cases most with
  | none => exact nofun
  | some k => simpa using hmost

end Budget

/-! ## Rounds -/

namespace Ledger

theorem foldl_start (ps : List Nat) (h : Ledger j (ps ++ queue) due s) (hj : j.Indexed)
    (hl : j.limit ≠ .spent) : Ledger j queue due (ps.foldl (State.start j) s) := by
  induction ps generalizing s with
  | nil => exact h
  | cons p rest ih => exact ih (h.start hj hl)

theorem foldl_settle (rs : List Running) (h : Ledger j queue (rs ++ due) s) (hj : j.Indexed)
    (hl : j.limit ≠ .spent) (hm : ∀ r ∈ rs, r.moment? j.limit = some s.clock)
    (hexp : ∀ r ∈ rs, r.expires j.limit = false) :
    Ledger j queue due (rs.foldl (State.settle j) s) := by
  induction rs generalizing s with
  | nil => exact h
  | cons r rest ih =>
    have hr := h.settle hj hl (hm r List.mem_cons_self) (hexp r List.mem_cons_self)
    refine ih hr (fun x hx => ?_) fun x hx => hexp x (List.mem_cons_of_mem _ hx)
    rw [State.settle_clock]
    exact hm x (List.mem_cons_of_mem _ hx)

theorem foldl_expire (rs : List Running) (h : Ledger j queue (rs ++ due) s) 
    (hl : j.limit ≠ .spent) (hm : ∀ r ∈ rs, r.moment? j.limit = some s.clock)
    (hexp : ∀ r ∈ rs, r.expires j.limit = true) :
    Ledger j queue due (rs.foldl (State.expire j) s) := by
  induction rs generalizing s with
  | nil => exact h
  | cons r rest ih =>
    have hr := h.expire hl (hm r List.mem_cons_self) (hexp r List.mem_cons_self)
    exact ih hr (fun x hx => hm x (List.mem_cons_of_mem _ hx))
      fun x hx => hexp x (List.mem_cons_of_mem _ hx)

/-- Taking positions from those that wait into the queue. -/
theorem dequeue (h : Ledger j [] due s) {taken left : List Nat} (hw : s.waiting = taken ++ left) :
    Ledger j taken due { s with waiting := left } := by
  refine ⟨?_, h.calls, h.finished, h.balance, h.slots, h.settled, h.punctual, h.faulted⟩
  rw [← h.order, hw]
  rfl

theorem startFree (h : Ledger j [] due s) (hj : j.Indexed) (hl : j.limit ≠ .spent) :
    Ledger j [] due (s.startFree j) := by
  unfold State.startFree
  split
  · refine foldl_start _ ?_ hj hl
    rw [List.append_nil]
    exact h.dequeue (List.append_nil _).symm
  · next n _ =>
    refine foldl_start _ ?_ hj hl
    rw [List.append_nil]
    exact h.dequeue (List.take_append_drop n s.waiting).symm

/-- Until the next call ends no failure is overdue. -/
theorem goTo (h : Ledger j [] [] s) (hl : j.limit ≠ .spent) (hnone : s.fault = none) {now : Rat}
    (hnow : s.nextMoment? j.limit = some now) : Ledger j [] (s.dueAt j now) (s.goTo j now) := by
  have hclock : Ledger j [] [] { s with clock := now } := by
    refine ⟨h.order, h.calls, h.finished, h.balance, h.slots, h.settled, ?_, ?_⟩
    · intro p t d e hp hown
      rcases h.settled hnone p (mem_started.mpr ⟨t, hp⟩) with ⟨r, hr, rfl⟩ | ⟨d', t', hown', -⟩
      · obtain ⟨hcall, hsince⟩ := h.calls r hr
        have hm : r.moment? j.limit = some (t + d) := by
          rw [Running.moment?_eq hcall hl, hown, started_unique h.started_nodup hp hsince]
          rfl
        exact nextMoment_le hnow (List.append_nil s.running ▸ hr) hm
      · rw [hown] at hown'
        cases hown'
    · intro f hf
      rw [show s.fault = some f from hf] at hnone
      cases hnone
  refine hclock.rearrange ?_ rfl rfl rfl rfl rfl
  rw [List.append_nil]
  exact State.goTo_perm j s now

theorem advance (h : Ledger j [] [] s) (hj : j.Indexed) (hl : j.limit ≠ .spent)
    (hnone : s.fault = none) {now : Rat} (hnow : s.nextMoment? j.limit = some now) :
    Ledger j [] [] (s.advance j now) := by
  have hm : ∀ r ∈ s.dueAt j now, r.moment? j.limit = some now := fun r hr =>
    beq_iff_eq.mp (List.mem_filter.mp hr).2
  have hgo :=
    (h.goTo hl hnone hnow).rearrange ((s.dueAt_perm j now).append_left _) rfl rfl rfl rfl rfl
  rw [State.advance_eq]
  refine foldl_expire _ (foldl_settle _ hgo hj hl ?_ ?_) hl ?_ ?_
  · exact fun r hr => hm r (List.mem_filter.mp hr).1
  · intro r hr
    simpa using (List.mem_filter.mp hr).2
  · intro r hr
    rw [State.foldl_settle_clock]
    exact hm r (List.mem_filter.mp hr).1
  · exact fun r hr => (List.mem_filter.mp hr).2

end Ledger

/-! ## The first round -/

/-- Before anything happens every position is in the queue. -/
theorem ledger_initial (j : Job) (permits : Option Nat) :
    Ledger j (List.range j.regions.length) []
      { permits := permits, slots := j.regions.map fun _ => none } := by
  refine ⟨?_, nofun, nofun, List.Perm.refl _, List.length_map _, nofun, nofun, nofun⟩
  exact List.append_nil _

theorem Ledger.startAll {ps : List Nat} (h : Ledger j ps [] s) (hj : j.Indexed)
    (hl : j.limit ≠ .spent) (hw : s.waiting = []) : Ledger j [] [] (s.startAll j ps) := by
  induction ps generalizing s with
  | nil =>
    refine ⟨?_, h.calls, h.finished, h.balance, h.slots, h.settled, h.punctual, h.faulted⟩
    have horder := h.order
    rwa [hw] at horder
  | cons p rest ih =>
    unfold State.startAll
    split
    · refine ⟨?_, h.calls, h.finished, h.balance, h.slots, h.settled, h.punctual, h.faulted⟩
      have horder := h.order
      rwa [hw, List.append_nil] at horder
    · exact ih (h.start hj hl) (by rw [State.start_waiting, hw])

theorem Budget.startAll {most : Option Nat} (ps : List Nat) (h : Budget most s) :
    Budget most (s.startAll j ps) := by
  induction ps generalizing s with
  | nil => exact ⟨h.permits, h.running_le⟩
  | cons p rest ih =>
    unfold State.startAll
    split
    · exact ⟨h.permits, h.running_le⟩
    · next hfree =>
      refine ih (h.start p fun k hk => ?_)
      have hle := h.running_le k hk
      rw [h.permits, hk, Option.map_some, Option.some.injEq] at hfree
      omega

/-! ## From round to round -/

/-- A run that has failed is given up. -/
theorem State.run_of_fault (h : s.fault.isSome) : State.run j s = s.abandon j := by
  rw [State.run, if_pos h]

/-- What every round keeps, and what then holds at each of the two ends of a run, holds of runs. -/
theorem State.run_induction {P Q : State → Prop}
    (hfree : ∀ s, P s → s.fault = none → s.waiting ≠ [] → s.permits ≠ some 0 → P (s.startFree j))
    (hadvance : ∀ s now, P s → s.fault = none → s.nextMoment? j.limit = some now →
      P (s.advance j now))
    (hfailed : ∀ s, P s → s.fault.isSome → Q (s.abandon j))
    (hquiet : ∀ s, P s → s.fault = none → ¬ (s.waiting ≠ [] ∧ s.permits ≠ some 0) →
      s.nextMoment? j.limit = none → Q s)
    (s : State) (h : P s) : Q (State.run j s) := by
  induction s using State.run.induct j with
  | case1 s hfault =>
    rw [State.run_of_fault hfault]
    exact hfailed s h hfault
  | case2 s hfault hwait ih =>
    have hnone : s.fault = none := by simpa using hfault
    rw [State.run, if_neg hfault, dif_pos hwait]
    exact ih (hfree s h hnone hwait.1 hwait.2)
  | case3 s hfault hwait now hnow ih =>
    have hnone : s.fault = none := by simpa using hfault
    rw [State.run, if_neg hfault, dif_neg hwait]
    split
    · next now' hnow' =>
      rw [hnow] at hnow'
      cases hnow'
      exact ih (hadvance s now h hnone hnow)
    · next hnow' =>
      rw [hnow] at hnow'
      cases hnow'
  | case4 s hfault hwait hnow =>
    have hnone : s.fault = none := by simpa using hfault
    rw [State.run, if_neg hfault, dif_neg hwait]
    split
    · next now hnow' =>
      rw [hnow] at hnow'
      cases hnow'
    · exact hquiet s h hnone hwait hnow

/-! ## The end of a run -/

/-- The ways in which a run ends. -/
inductive Ends (j : Job) (s : State) : Prop where
  /-- by the failure of a call, before which no call has failed -/
  | failed (p : Nat) (e : LintError) (hp : p < j.regions.length)
      (hfault : s.fault = some (.lint e)) (hfailed : s.Failed j p e)
      (hfirst : ∀ q t d e', .started q t ∈ s.trace → j.own q = some (d, .error e') →
        s.clock ≤ t + d)
  /-- all calls gave a text -/
  | done (hfault : s.fault = none) (hrunning : s.running = [])
      (hstarted : started s.trace = List.range j.regions.length)
      (hslots : s.slots.length = j.regions.length) (hfilled : ∀ p < j.regions.length, s.Filled j p)
  /-- a call goes on for ever, and none has failed -/
  | stuck (p : Nat) (hp : p < j.regions.length) (hendless : j.own p = none)
      (hnone : ∀ q ∈ started s.trace, ∀ d e, j.own q ≠ some (d, .error e))

namespace Ledger

/-- A run that has failed ends by that failure. -/
theorem ends_of_fault (h : Ledger j [] [] s) {f : Fault} (hf : s.fault = some f) : Ends j s := by
  obtain ⟨p, e, rfl, hfailed⟩ := h.faulted f hf
  have hp : p < j.regions.length := by
    obtain ⟨t, -, -, hstart, -⟩ := hfailed
    exact h.started_lt (mem_started.mpr ⟨t, hstart⟩)
  exact .failed p e hp hf hfailed h.punctual

/-- A run that has not failed ends when all calls are settled. -/
theorem ends_of_idle (h : Ledger j [] [] s) (hnone : s.fault = none) (hw : s.waiting = [])
    (hrun : s.running = []) : Ends j s := by
  have hall : started s.trace = List.range j.regions.length := by
    have horder := h.order
    rwa [hw, List.append_nil, List.append_nil] at horder
  refine .done hnone hrun hall h.slots fun p hp => ?_
  rcases h.settled hnone p (hall ▸ List.mem_range.mpr hp) with ⟨r, hr, -⟩ | hfilled
  · rw [hrun] at hr
    cases hr
  · exact hfilled

/-- A run in which calls go on ends as well when none of them will ever end. -/
theorem ends_of_endless (h : Ledger j [] [] s) (hl : j.limit ≠ .spent) (hnone : s.fault = none)
    (hrun : s.running ≠ []) (hnow : s.nextMoment? j.limit = none) : Ends j s := by
  have hkept : ∀ {r}, r ∈ s.running → r ∈ s.running ++ [] := fun hr => List.mem_append_left _ hr
  have hendless : ∀ r ∈ s.running, j.own r.position = none := by
    intro r hr
    have hm := nextMoment_none hnow hr
    rw [Running.moment?_eq (h.calls r (hkept hr)).1 hl] at hm
    exact Option.map_eq_none_iff.mp hm
  obtain ⟨r, rest, hcons⟩ := List.exists_cons_of_ne_nil hrun
  have hr : r ∈ s.running := hcons ▸ List.mem_cons_self
  have hp := h.started_lt (mem_started.mpr ⟨_, (h.calls r (hkept hr)).2⟩)
  refine .stuck r.position hp (hendless r hr) fun q hq d e hown => ?_
  rcases h.settled hnone q hq with ⟨x, hx, rfl⟩ | ⟨d', t', hown', -⟩
  · rw [hendless x (List.append_nil s.running ▸ hx)] at hown
    cases hown
  · rw [hown] at hown'
    cases hown'

end Ledger

/-- Every run ends in one of the three ways. -/
theorem ends_of_run {most : Option Nat} (hmost : most ≠ some 0) (hj : j.Indexed)
    (hl : j.limit ≠ .spent) (h : Ledger j [] [] s) (hb : Budget most s) :
    Ends j (State.run j s) := by
  refine State.run_induction (P := fun s => Ledger j [] [] s ∧ Budget most s) (Q := Ends j)
    ?free ?advance ?failed ?quiet s ⟨h, hb⟩
  case free =>
    rintro s ⟨h, hb⟩ - - -
    exact ⟨h.startFree hj hl, hb.startFree⟩
  case advance =>
    rintro s now ⟨h, hb⟩ hnone hnow
    exact ⟨h.advance hj hl hnone hnow, hb.advance now⟩
  case failed =>
    rintro s ⟨h, -⟩ hfault
    obtain ⟨f, hf⟩ := Option.isSome_iff_exists.mp hfault
    have h' := h.startFree hj hl
    have hf' := State.startFree_fault j hf
    unfold State.abandon
    dsimp only
    split
    · exact (h'.startFree hj hl).ends_of_fault (State.startFree_fault j hf')
    · exact h'.ends_of_fault hf'
  case quiet =>
    rintro s ⟨h, hb⟩ hnone hwait hnow
    by_cases hrun : s.running = []
    · refine h.ends_of_idle hnone ?_ hrun
      by_contra hne
      exact hwait ⟨hne, hb.permits_ne_zero hmost hrun⟩
    · exact h.ends_of_endless hl hnone hrun hnow

/-- Before anything happens all permits are free. -/
theorem budget_initial (j : Job) (most : Option Nat) :
    Budget most { permits := most, slots := j.regions.map fun _ => none } := by
  refine ⟨?_, fun k hk => Nat.zero_le k⟩
  show most = most.map (· - 0)
  cases most <;> rfl

/-- The run from the beginning ends in one of the three ways. -/
theorem ends_of_initial {most : Option Nat} (hmost : most ≠ some 0) (hj : j.Indexed)
    (hl : j.limit ≠ .spent) : Ends j (State.run j (State.initial j most)) :=
  ends_of_run hmost hj hl ((ledger_initial j most).startAll hj hl rfl)
    ((budget_initial j most).startAll _)

/-! ## Runs without any time -/

theorem start_spent (hl : j.limit = .spent) (p : Nat) :
    s.start j p = s.fail (.lint (j.lateError p)) := by
  unfold State.start
  rw [if_pos hl]

theorem startAll_spent (hl : j.limit = .spent) {f : Fault} (ps : List Nat)
    (hpermits : s.permits ≠ some 0) (hf : s.fault = some f) :
    s.startAll j ps = { s with waiting := [] } := by
  induction ps generalizing s with
  | nil => rfl
  | cons p rest ih =>
    unfold State.startAll
    have hfail : s.fail (.lint (j.lateError p)) = s := by
      cases s
      cases hf
      rfl
    rw [if_neg hpermits, start_spent hl, hfail]
    exact ih hpermits hf

/-- Where nothing waits, nothing can start. -/
theorem startFree_of_idle (hw : s.waiting = []) : s.startFree j = s := by
  cases s
  cases hw
  unfold State.startFree
  split <;> simp

/-- When no call gets any time, every region fails at once, the first one first. -/
theorem run_spent (hl : j.limit = .spent) {most : Option Nat} (hmost : most ≠ some 0)
    (hne : j.regions ≠ []) :
    State.run j (State.initial j most) =
      { permits := most, slots := j.regions.map fun _ => none,
        fault := some (.lint (j.lateError 0)) } := by
  obtain ⟨n, hn⟩ : ∃ n, j.regions.length = n + 1 :=
    Nat.exists_eq_succ_of_ne_zero fun h => hne (List.eq_nil_of_length_eq_zero h)
  have hinitial : State.initial j most =
      { permits := most, slots := j.regions.map fun _ => none,
        fault := some (.lint (j.lateError 0)) } := by
    unfold State.initial
    rw [hn, List.range_succ_eq_map]
    unfold State.startAll
    rw [if_neg hmost, start_spent hl]
    exact startAll_spent hl _ hmost rfl
  rw [hinitial, State.run_of_fault rfl]
  -- nothing waits any more, so giving the run up changes nothing
  unfold State.abandon
  simp only [startFree_of_idle, ite_self]

/-! ## Runs over all regions of a text -/

/-- A limit on the number of calls that is not negative is accepted, and lets some call start. -/
theorem permitsOf_of_nonneg {k : Option Int} (hk : ∀ n, k = some n → 0 ≤ n) :
    ∃ most, permitsOf k = .ok most ∧ most ≠ some 0 := by
  unfold permitsOf
  cases k with
  | none => exact ⟨none, rfl, nofun⟩
  | some n =>
    have hn := hk n rfl
    by_cases hzero : n = 0
    · exact ⟨none, by simp [hzero], nofun⟩
    · refine ⟨some n.toNat, by simp [hzero, not_lt.mpr hn], ?_⟩
      rw [ne_eq, Option.some.injEq]
      omega

theorem transformRegions_of_ne_nil {k : Option Int} {most : Option Nat} (hne : j.regions ≠ [])
    (hmost : permitsOf k = .ok most) :
    transformRegions j k = report j (State.run j (State.initial j most)) := by
  unfold transformRegions
  rw [if_neg (by simpa using hne), hmost]

theorem report_trace (j : Job) (s : State) : (report j s).trace = (s.stop j.limit).trace := rfl

theorem report_of_fault {f : Fault} (h : s.fault = some f) : (report j s).result = .error f := by
  unfold report State.result
  rw [h]

theorem report_of_done (h : s.fault = none) (hrunning : s.running = []) :
    (report j s).result = .ok (s.slots.filterMap id) := by
  unfold report State.result
  rw [h, hrunning]
  rfl

/-- A run succeeds when it has not failed and nothing goes on. -/
theorem done_of_report {rs : List Replacement} (h : (report j s).result = .ok rs) :
    s.fault = none ∧ s.running = [] ∧ rs = s.slots.filterMap id := by
  unfold report State.result at h
  dsimp only at h
  split at h
  · cases h
  · next hnone =>
    split at h
    · next hempty =>
      cases h
      exact ⟨hnone, List.isEmpty_iff.mp hempty, rfl⟩
    · cases h

/-- A run fails by a region when its state says so. -/
theorem fault_of_report {e : LintError} (h : (report j s).result = .error (.lint e)) :
    s.fault = some (.lint e) := by
  unfold report State.result at h
  dsimp only at h
  split at h
  · next hf =>
    cases h
    exact hf
  · split at h <;> cases h

end Backtick.Transform
