import Backtick.Proofs.Transform.Concurrency

/-!
# The calls of a run are those of its job

Whatever numbers the regions carry, the calls of a run are the calls of its job: they start in the
order of the regions, and a call that is kept was started when it says. A call that is kept although
it was over at once has its end in the trace.

These are the books of a run as far as they do not speak of slots. They are enough to say when calls
end, and why.

* `Calls.start`, `Calls.close` — what the steps of a run keep
* `Steady`, `Stable` — properties that are kept with them
* `steady_balanced` — a call that started has ended once or goes on
* `Steady.run_initial`, `Stable.run_initial` — such a property holds when nothing happens any more
-/

namespace Backtick.Transform

variable {j : Job} {queue : List Nat} {due : List Running} {s : State}

namespace State

/-- A start keeps at most the call that starts. -/
theorem mem_running_of_start (hl : j.limit ≠ .spent) {p : Nat} {r : Running}
    (h : r ∈ (s.start j p).running) : r ∈ s.running ∨ r = ⟨p, s.clock, s.nextCall j p⟩ := by
  rw [start_eq hl] at h
  split at h
  · rw [conclude_running, noteStart_running] at h
    exact Or.inl h
  · rw [noteStart_eq] at h
    exact (List.mem_append.mp h).imp_right List.mem_singleton.mp

end State

/-- The calls of a state are those of the job. As in a ledger, `queue` holds positions that are to
start and `due` calls that are to be settled. -/
structure Calls (j : Job) (queue : List Nat) (due : List Running) (s : State) : Prop where
  /-- calls start in the order of the regions -/
  order : started s.trace ++ (queue ++ s.waiting) = List.range j.regions.length
  /-- the calls that are kept are those of the job, and the trace has their starts -/
  kept : ∀ r ∈ s.running ++ due,
    r.call = j.callAt r.position ∧ .started r.position r.since ∈ s.trace
  /-- the trace has the ends of calls that only wait to be settled -/
  closed : ∀ r ∈ s.running ++ due, r.isOpen = false →
    .ended r.position r.since (State.endingOf r.call.outcome) ∈ s.trace

namespace Calls

/-- It does not matter which of the calls that are kept are due. -/
theorem rearrange (h : Calls j queue due s) {due' : List Running} {s' : State}
    (hperm : (s'.running ++ due').Perm (s.running ++ due)) (htrace : s'.trace = s.trace)
    (hwaiting : s'.waiting = s.waiting) : Calls j queue due' s' where
  order := by rw [htrace, hwaiting]; exact h.order
  kept := by rw [htrace]; exact fun r hr => h.kept r (hperm.mem_iff.mp hr)
  closed := by rw [htrace]; exact fun r hr => h.closed r (hperm.mem_iff.mp hr)

/-- The next call starts. -/
theorem start {p : Nat} (h : Calls j (p :: queue) due s) (hl : j.limit ≠ .spent) :
    Calls j queue due (s.start j p) := by
  have htrace := State.start_trace (s := s) hl p
  have hmem : ∀ {e}, e ∈ s.trace → e ∈ (s.start j p).trace :=
    fun he => htrace ▸ List.mem_append_left _ he
  have hcases : ∀ {r}, r ∈ (s.start j p).running ++ due →
      r ∈ s.running ++ due ∨ r = ⟨p, s.clock, s.nextCall j p⟩ := by
    intro r hr
    rcases List.mem_append.mp hr with hr | hr
    · exact (State.mem_running_of_start hl hr).imp_left (List.mem_append_left _)
    · exact Or.inl (List.mem_append_right _ hr)
  constructor
  case order =>
    rw [htrace, State.start_waiting, started_append, State.started_startEvents, ← h.order]
    simp
  case kept =>
    intro r hr
    rcases hcases hr with hr | rfl
    · exact ⟨(h.kept r hr).1, hmem (h.kept r hr).2⟩
    · refine ⟨State.nextCall_of_order h.order, ?_⟩
      rw [htrace]
      exact List.mem_append_right _ List.mem_cons_self
  case closed =>
    intro r hr hover
    rcases hcases hr with hr | rfl
    · exact hmem (h.closed r hr hover)
    · -- a call that is over at once has ended as it starts
      have hnone : (s.nextCall j p).duration = .none := by simpa [Running.isOpen] using hover
      rw [htrace]
      exact List.mem_append_right _ (State.ended_mem_startEvents.mpr ⟨hnone, rfl, rfl, rfl⟩)

/-- A call that is due is settled. -/
theorem close {r : Running} (h : Calls j queue (r :: due) s) {s' : State}
    (htrace : OnlyEnds s.trace s'.trace) (hrunning : s'.running = s.running)
    (hwaiting : s'.waiting = s.waiting) : Calls j queue due s' := by
  obtain ⟨more, htrace, hnone⟩ := htrace
  have hdue : ∀ {x}, x ∈ s'.running ++ due → x ∈ s.running ++ r :: due :=
    fun hx => List.perm_middle.mem_iff.mpr (List.mem_cons_of_mem _ (hrunning ▸ hx))
  constructor
  case order =>
    rw [htrace, started_append, hnone, List.append_nil, hwaiting]
    exact h.order
  case kept =>
    intro x hx
    rw [htrace]
    exact ⟨(h.kept x (hdue hx)).1, List.mem_append_left _ (h.kept x (hdue hx)).2⟩
  case closed =>
    intro x hx hover
    rw [htrace]
    exact List.mem_append_left _ (h.closed x (hdue hx) hover)

theorem settle {r : Running} (h : Calls j queue (r :: due) s) :
    Calls j queue due (s.settle j r) := by
  refine h.close (s.onlyEnds_settle j r) ?_ ?_
  · rw [State.settle_eq, State.conclude_running]
    rfl
  · rw [State.settle_eq, State.conclude_waiting]
    rfl

theorem expire {r : Running} (h : Calls j queue (r :: due) s) : Calls j queue due (s.expire j r) :=
  h.close ⟨_, rfl, rfl⟩ rfl rfl

/-- Taking positions from those that wait into the queue. -/
theorem dequeue (h : Calls j [] due s) {taken left : List Nat} (hw : s.waiting = taken ++ left) :
    Calls j taken due { s with waiting := left } where
  order := by rw [← h.order, hw]; rfl
  kept := h.kept
  closed := h.closed

/-- The calls that are due when the clock goes on are taken from those that are kept. -/
theorem goTo (h : Calls j [] [] s) (now : Rat) :
    Calls j [] ((s.dueAt j now).filter (fun r : Running => !r.expires j.limit) ++
      ((s.dueAt j now).filter (fun r : Running => r.expires j.limit) ++ [])) (s.goTo j now) := by
  have hperm := ((s.dueAt_perm j now).append_left (s.goTo j now).running).trans
    (State.goTo_perm j s now)
  rw [← List.append_nil s.running] at hperm
  exact h.rearrange hperm rfl rfl

end Calls

/-! ## Properties that every step keeps -/

/-- A property of a state and of the calls that are due, which is kept when the clock goes on, when
a call starts, when one that is over is settled, and when the time of one is up. It does not depend
on which of the calls that are kept are due, nor on what waits, permits and the log. -/
structure Steady (j : Job) (P : List Running → State → Prop) : Prop where
  congr : ∀ {due due' : List Running} {s s' : State}, s'.trace = s.trace → s'.fault = s.fault →
    s'.slots = s.slots → s'.clock = s.clock → (s'.running ++ due').Perm (s.running ++ due) →
    P due s → P due' s'
  goTo : ∀ {now s}, Calls j [] [] s → s.nextMoment? j.limit = some now → P [] s →
    P (s.dueAt j now) (s.goTo j now)
  start : ∀ {p queue due s}, Calls j (p :: queue) due s → P due s → P due (s.start j p)
  settle : ∀ {r queue due s}, Calls j queue (r :: due) s → r.moment? j.limit = some s.clock →
    r.expires j.limit = false → P (r :: due) s → P due (s.settle j r)
  expire : ∀ {r queue due s}, Calls j queue (r :: due) s → r.moment? j.limit = some s.clock →
    r.expires j.limit = true → P (r :: due) s → P due (s.expire j r)

namespace Steady

variable {P : List Running → State → Prop}

theorem foldl_start (hP : Steady j P) (hl : j.limit ≠ .spent) (ps : List Nat)
    (h : Calls j (ps ++ queue) due s) (hs : P due s) :
    Calls j queue due (ps.foldl (State.start j) s) ∧ P due (ps.foldl (State.start j) s) := by
  induction ps generalizing s with
  | nil => exact ⟨h, hs⟩
  | cons p rest ih => exact ih (h.start hl) (hP.start h hs)

theorem foldl_settle (hP : Steady j P) (rs : List Running) (h : Calls j queue (rs ++ due) s)
    (hm : ∀ r ∈ rs, r.moment? j.limit = some s.clock) (hexp : ∀ r ∈ rs, r.expires j.limit = false)
    (hs : P (rs ++ due) s) :
    Calls j queue due (rs.foldl (State.settle j) s) ∧ P due (rs.foldl (State.settle j) s) := by
  induction rs generalizing s with
  | nil => exact ⟨h, hs⟩
  | cons r rest ih =>
    have hr := hP.settle h (hm r List.mem_cons_self) (hexp r List.mem_cons_self) hs
    refine ih h.settle (fun x hx => ?_) (fun x hx => hexp x (List.mem_cons_of_mem _ hx)) hr
    rw [State.settle_clock]
    exact hm x (List.mem_cons_of_mem _ hx)

theorem foldl_expire (hP : Steady j P) (rs : List Running) (h : Calls j queue (rs ++ due) s)
    (hm : ∀ r ∈ rs, r.moment? j.limit = some s.clock) (hexp : ∀ r ∈ rs, r.expires j.limit = true)
    (hs : P (rs ++ due) s) :
    Calls j queue due (rs.foldl (State.expire j) s) ∧ P due (rs.foldl (State.expire j) s) := by
  induction rs generalizing s with
  | nil => exact ⟨h, hs⟩
  | cons r rest ih =>
    have hr := hP.expire h (hm r List.mem_cons_self) (hexp r List.mem_cons_self) hs
    exact ih h.expire (fun x hx => hm x (List.mem_cons_of_mem _ hx))
      (fun x hx => hexp x (List.mem_cons_of_mem _ hx)) hr

theorem startFree (hP : Steady j P) (hl : j.limit ≠ .spent) (h : Calls j [] due s)
    (hs : P due s) : Calls j [] due (s.startFree j) ∧ P due (s.startFree j) := by
  have hqueue : ∀ {taken left : List Nat}, s.waiting = taken ++ left →
      Calls j (taken ++ []) due { s with waiting := left } := by
    intro taken left hw
    rw [List.append_nil]
    exact h.dequeue hw
  have hs' : ∀ left, P due { s with waiting := left } :=
    fun left => hP.congr (s := s) rfl rfl rfl rfl (.refl _) hs
  unfold State.startFree
  split
  · exact hP.foldl_start hl _ (hqueue (List.append_nil _).symm) (hs' [])
  · next n _ => exact hP.foldl_start hl _ (hqueue (List.take_append_drop n s.waiting).symm) (hs' _)

theorem startAll (hP : Steady j P) (hl : j.limit ≠ .spent) {ps : List Nat} (h : Calls j ps [] s)
    (hw : s.waiting = []) (hs : P [] s) :
    Calls j [] [] (s.startAll j ps) ∧ P [] (s.startAll j ps) := by
  induction ps generalizing s with
  | nil =>
    have horder := h.order
    rw [hw] at horder
    exact ⟨⟨horder, h.kept, h.closed⟩, hP.congr (s := s) rfl rfl rfl rfl (.refl _) hs⟩
  | cons p rest ih =>
    unfold State.startAll
    split
    · have horder := h.order
      rw [hw, List.append_nil] at horder
      exact ⟨⟨horder, h.kept, h.closed⟩, hP.congr (s := s) rfl rfl rfl rfl (.refl _) hs⟩
    · exact ih (h.start hl) (by rw [State.start_waiting, hw]) (hP.start h hs)

theorem advance (hP : Steady j P) (h : Calls j [] [] s) (hs : P [] s) {now : Rat}
    (hnow : s.nextMoment? j.limit = some now) :
    Calls j [] [] (s.advance j now) ∧ P [] (s.advance j now) := by
  have hm : ∀ r ∈ s.dueAt j now, r.moment? j.limit = some now := fun r hr =>
    beq_iff_eq.mp (List.mem_filter.mp hr).2
  have hgo : P _ (s.goTo j now) :=
    hP.congr rfl rfl rfl rfl ((s.dueAt_perm j now).append_left _) (hP.goTo h hnow hs)
  rw [State.advance_eq]
  obtain ⟨hfinished, hs'⟩ := hP.foldl_settle _ (h.goTo now)
    (fun r hr => hm r (List.mem_filter.mp hr).1)
    (fun r hr => by simpa using (List.mem_filter.mp hr).2) hgo
  refine hP.foldl_expire _ hfinished (fun r hr => ?_) (fun r hr => (List.mem_filter.mp hr).2) hs'
  rw [State.foldl_settle_clock]
  exact hm r (List.mem_filter.mp hr).1

theorem and {Q : List Running → State → Prop} (hP : Steady j P) (hQ : Steady j Q) :
    Steady j fun due s => P due s ∧ Q due s where
  congr htrace hfault hslots hclock hperm h :=
    ⟨hP.congr htrace hfault hslots hclock hperm h.1, hQ.congr htrace hfault hslots hclock hperm h.2⟩
  goTo hcalls hnow h := ⟨hP.goTo hcalls hnow h.1, hQ.goTo hcalls hnow h.2⟩
  start hcalls h := ⟨hP.start hcalls h.1, hQ.start hcalls h.2⟩
  settle hcalls hm hexp h := ⟨hP.settle hcalls hm hexp h.1, hQ.settle hcalls hm hexp h.2⟩
  expire hcalls hm hexp h := ⟨hP.expire hcalls hm hexp h.1, hQ.expire hcalls hm hexp h.2⟩

end Steady

/-- A property that depends on the trace and the fault alone, and that is kept when a call starts,
when one that is over is settled, and when the time of one is up. -/
structure Stable (j : Job) (P : State → Prop) : Prop where
  congr : ∀ {s s' : State}, s'.trace = s.trace → s'.fault = s.fault → P s → P s'
  start : ∀ {p queue due s}, Calls j (p :: queue) due s → P s → P (s.start j p)
  settle : ∀ {r queue due s}, Calls j queue (r :: due) s → r.moment? j.limit = some s.clock →
    r.expires j.limit = false → P s → P (s.settle j r)
  expire : ∀ {r queue due s}, Calls j queue (r :: due) s → r.moment? j.limit = some s.clock →
    r.expires j.limit = true → P s → P (s.expire j r)

namespace Stable

variable {P : State → Prop}

theorem steady (hP : Stable j P) : Steady j fun _ s => P s where
  congr htrace hfault _ _ _ h := hP.congr htrace hfault h
  goTo {_ s} _ _ h := hP.congr (s := s) rfl rfl h
  start := hP.start
  settle := hP.settle
  expire := hP.expire

theorem and {Q : State → Prop} (hP : Stable j P) (hQ : Stable j Q) :
    Stable j fun s => P s ∧ Q s where
  congr htrace hfault h := ⟨hP.congr htrace hfault h.1, hQ.congr htrace hfault h.2⟩
  start hcalls h := ⟨hP.start hcalls h.1, hQ.start hcalls h.2⟩
  settle hcalls hm hexp h := ⟨hP.settle hcalls hm hexp h.1, hQ.settle hcalls hm hexp h.2⟩
  expire hcalls hm hexp h := ⟨hP.expire hcalls hm hexp h.1, hQ.expire hcalls hm hexp h.2⟩

end Stable

/-! ## Every call ends once -/

/-- The next call starts. -/
theorem Balanced.start (h : Balanced due s) (hl : j.limit ≠ .spent) (p : Nat) :
    Balanced due (s.start j p) := by
  have hnote := h.noteStart p (s.nextCall j p)
  rw [State.start_eq hl]
  split
  · next hnow =>
    -- the call has ended as it started, and is settled
    refine hnote.close (State.endingOf (s.nextCall j p).outcome) ?_ (State.conclude_running ..)
    rw [State.conclude_trace, if_neg (by simp [Running.isOpen, hnow.2]), List.append_nil]
  · refine hnote.rearrange ?_ rfl
    rw [State.noteStart_eq]
    show (s.running ++ [(⟨p, s.clock, s.nextCall j p⟩ : Running)] ++ due).Perm _
    rw [List.append_assoc]
    exact List.Perm.refl _

/-- Every step of a run keeps the balance. -/
theorem steady_balanced (hl : j.limit ≠ .spent) : Steady j Balanced where
  congr htrace _ _ _ hperm h := h.rearrange hperm htrace
  goTo {now s} _ _ h := by
    refine h.rearrange ?_ rfl
    rw [List.append_nil]
    exact State.goTo_perm j s now
  start _ h := h.start hl _
  settle {r _ _ s} _ _ _ h := by
    rw [State.settle_eq]
    refine h.close (State.endingOf r.call.outcome) ?_ (State.conclude_running ..)
    rw [State.conclude_trace]
    rfl
  expire {r _ _ s} hcalls _ hexpires h := by
    have hcall := (hcalls.kept r (List.mem_append_right _ List.mem_cons_self)).1
    have hopen : r.isOpen = true := by
      simpa [Running.isOpen] using (Running.own_of_expires hcall hl hexpires).1
    exact h.close .expired (by rw [if_pos hopen]; rfl) rfl

/-! ## Whole runs -/

namespace Steady

variable {P : List Running → State → Prop}

/-- What every step keeps holds when nothing happens any more. -/
theorem run (hP : Steady j P) (hl : j.limit ≠ .spent) (h : Calls j [] [] s) (hs : P [] s) :
    Calls j [] [] (State.run j s) ∧ P [] (State.run j s) := by
  refine State.run_induction (P := fun s => Calls j [] [] s ∧ P [] s)
    (Q := fun s => Calls j [] [] s ∧ P [] s) ?free ?advance ?failed ?quiet s ⟨h, hs⟩
  case free =>
    rintro s ⟨h, hs⟩ - - -
    exact hP.startFree hl h hs
  case advance =>
    rintro s now ⟨h, hs⟩ - hnow
    exact hP.advance h hs hnow
  case failed =>
    -- calls that start while the run is given up may be over at once
    rintro s ⟨h, hs⟩ -
    obtain ⟨h', hs'⟩ := hP.startFree hl h hs
    unfold State.abandon
    dsimp only
    split
    · exact hP.startFree hl h' hs'
    · exact ⟨h', hs'⟩
  case quiet =>
    rintro s h - - -
    exact h

/-- A run from the beginning. -/
theorem run_initial (hP : Steady j P) (hl : j.limit ≠ .spent) (most : Option Nat)
    (hs : P [] { permits := most, slots := j.regions.map fun _ => none }) :
    Calls j [] [] (State.run j (State.initial j most)) ∧
      P [] (State.run j (State.initial j most)) := by
  have hcalls : Calls j (List.range j.regions.length) []
      { permits := most, slots := j.regions.map fun _ => none } :=
    ⟨List.append_nil _, nofun, nofun⟩
  obtain ⟨h, hs'⟩ := hP.startAll hl hcalls rfl hs
  exact hP.run hl h hs'

end Steady

/-- A run from the beginning. -/
theorem Stable.run_initial {P : State → Prop} (hP : Stable j P) (hl : j.limit ≠ .spent)
    (most : Option Nat) (hs : P { permits := most, slots := j.regions.map fun _ => none }) :
    P (State.run j (State.initial j most)) :=
  (hP.steady.run_initial hl most hs).2

end Backtick.Transform
