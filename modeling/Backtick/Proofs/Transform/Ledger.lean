import Backtick.Proofs.Transform.Trace

/-!
# The books of a run

While regions are formatted, every region is in one of three places: it waits for its turn, its
call goes on, or its call is settled and its slot filled. `Ledger` says that the state of a run
keeps these books, and that its trace agrees with them.

## Between two states

Starting and settling calls goes through states in which some regions are in none of the three
places. Hence a ledger has two more columns: a `queue` of positions that were taken from those that
wait and are not started yet, and calls that are `due`, taken from those that go on and not settled
yet. Both are empty between the steps of a run.

* `Ledger.start` — the next call starts
* `Ledger.settle`, `Ledger.expire` — a call that is due is settled
-/

namespace Backtick.Transform

variable {j : Job} {queue : List Nat} {due : List Running} {s : State}

/-! ## Ledgers -/

/-- The call has not come to its end when it goes on. One without duration has: it only waits to be
settled. -/
def Running.isOpen (r : Running) : Bool := r.call.duration ≠ .none

/-- The positions of those calls that have not come to their end. -/
def openPositions (rs : List Running) : List Nat := (rs.filter (·.isOpen)).map (·.position)

theorem openPositions_perm {a b : List Running} (h : a.Perm b) :
    (openPositions a).Perm (openPositions b) :=
  (h.filter _).map _

theorem openPositions_middle (a b : List Running) (r : Running) :
    (openPositions (a ++ r :: b)).Perm
      ((if r.isOpen then [r.position] else []) ++ openPositions (a ++ b)) := by
  refine (openPositions_perm List.perm_middle).trans ?_
  unfold openPositions
  rw [List.filter_cons]
  split <;> exact List.Perm.refl _

/-- The call for the region at a position has given a text, which stands in the region's slot. -/
def State.Filled (j : Job) (s : State) (p : Nat) : Prop :=
  ∃ d t, j.own p = some (d, .ok t) ∧
    s.slots[j.slot p]? = some (some ⟨(j.region p).index, t⟩)

/-- The call for the region at a position has failed at this instant, with an error of its own. -/
def State.Failed (j : Job) (s : State) (p : Nat) (e : LintError) : Prop :=
  ∃ t d how, .started p t ∈ s.trace ∧ j.own p = some (d, .error e) ∧ t + d = s.clock ∧
    how ≠ .stopped ∧ .ended p s.clock how ∈ s.trace

/-- The state of a run keeps its books. -/
structure Ledger (j : Job) (queue : List Nat) (due : List Running) (s : State) : Prop where
  /-- calls start in the order of the regions -/
  order : started s.trace ++ (queue ++ s.waiting) = List.range j.regions.length
  /-- the calls that go on are those of the job, and the trace has their starts -/
  calls : ∀ r ∈ s.running ++ due,
    r.call = j.callAt r.position ∧ .started r.position r.since ∈ s.trace
  /-- the trace has the ends of calls that only wait to be settled -/
  finished : ∀ r ∈ s.running ++ due, r.isOpen = false →
    ∃ how, how ≠ .stopped ∧ .ended r.position r.since how ∈ s.trace
  /-- every call that started has ended once or goes on -/
  balance : (ended s.trace ++ openPositions (s.running ++ due)).Perm (started s.trace)
  slots : s.slots.length = j.regions.length
  /-- while nothing has failed, a call that started goes on or its slot is filled -/
  settled : s.fault = none → ∀ p ∈ started s.trace,
    (∃ r ∈ s.running ++ due, r.position = p) ∨ s.Filled j p
  /-- no failure is overdue -/
  punctual : ∀ p t d e, .started p t ∈ s.trace → j.own p = some (d, .error e) → s.clock ≤ t + d
  /-- a run fails by the failure of a call, at the instant of that failure -/
  faulted : ∀ f, s.fault = some f → ∃ p e, f = .lint e ∧ s.Failed j p e

/-- What follows the first numbers in order is their number. -/
theorem length_of_append_eq_range {a b : List Nat} {p n : Nat} (h : a ++ p :: b = List.range n) :
    a.length = p := by
  have hget : (List.range n)[a.length]? = some p := by
    rw [← h, List.getElem?_append_right le_rfl, Nat.sub_self]
    rfl
  rw [List.getElem?_eq_some_iff] at hget
  obtain ⟨_, hp⟩ := hget
  rwa [List.getElem_range] at hp

namespace Ledger

theorem started_nodup (h : Ledger j queue due s) : (started s.trace).Nodup := by
  have hnd : (started s.trace ++ (queue ++ s.waiting)).Nodup := h.order ▸ List.nodup_range
  exact (List.nodup_append.mp hnd).1

theorem started_lt (h : Ledger j queue due s) {p : Nat} (hp : p ∈ started s.trace) :
    p < j.regions.length := by
  rw [← List.mem_range, ← h.order]
  exact List.mem_append_left _ hp

/-- The position that starts next is the number of the calls so far. -/
theorem next_eq {p : Nat} (h : Ledger j (p :: queue) due s) : (started s.trace).length = p :=
  length_of_append_eq_range h.order

/-- The books do not depend on which of the calls that go on are due, nor on permits and the log. -/
theorem rearrange (h : Ledger j queue due s) {due' : List Running} {s' : State}
    (hperm : (s'.running ++ due').Perm (s.running ++ due)) (htrace : s'.trace = s.trace)
    (hwaiting : s'.waiting = s.waiting) (hclock : s'.clock = s.clock) (hslots : s'.slots = s.slots)
    (hfault : s'.fault = s.fault) : Ledger j queue due' s' := by
  constructor
  case order =>
    rw [htrace, hwaiting]
    exact h.order
  case calls =>
    intro r hr
    rw [htrace]
    exact h.calls r (hperm.mem_iff.mp hr)
  case finished =>
    intro r hr
    rw [htrace]
    exact h.finished r (hperm.mem_iff.mp hr)
  case balance =>
    rw [htrace]
    exact ((openPositions_perm hperm).append_left _).trans h.balance
  case slots =>
    rw [hslots]
    exact h.slots
  case settled =>
    intro hnone p hp
    rw [htrace] at hp
    rw [hfault] at hnone
    rcases h.settled hnone p hp with ⟨r, hr, hrp⟩ | ⟨d, t, hown, hslot⟩
    · exact Or.inl ⟨r, hperm.mem_iff.mpr hr, hrp⟩
    · exact Or.inr ⟨d, t, hown, by rw [hslots]; exact hslot⟩
  case punctual =>
    intro p t d e hp hown
    rw [htrace] at hp
    rw [hclock]
    exact h.punctual p t d e hp hown
  case faulted =>
    intro f hf
    rw [hfault] at hf
    obtain ⟨p, e, he, t, d, how, hfailed⟩ := h.faulted f hf
    refine ⟨p, e, he, t, d, how, ?_⟩
    rw [htrace, hclock]
    exact hfailed

end Ledger

/-! ## What the operations do to a state -/

namespace State

/-- The events of a start: a call that is over at once has ended then as well. -/
def startEvents (s : State) (p : Nat) (c : Call) : List Event :=
  .started p s.clock ::
    if c.duration = .none then [.ended p s.clock (endingOf c.outcome)] else []

theorem noteStart_eq (s : State) (p : Nat) (c : Call) :
    s.noteStart p c = { s with trace := s.trace ++ s.startEvents p c } := by
  unfold noteStart startEvents
  by_cases h : c.duration = .none
  · rw [if_pos h, if_pos h]
    simp [note, noteOver]
  · rw [if_neg h, if_neg h]
    rfl

theorem started_startEvents (s : State) (p : Nat) (c : Call) :
    started (s.startEvents p c) = [p] := by
  unfold startEvents
  split <;> simp [started]

/-- A start is noted at the moment it happens. -/
theorem started_mem_startEvents {s : State} {p q : Nat} {c : Call} {t : Rat} :
    .started q t ∈ s.startEvents p c ↔ q = p ∧ t = s.clock := by
  unfold startEvents
  split <;> simp

/-- Only a call that is over at once ends as it starts. -/
theorem ended_mem_startEvents {s : State} {p q : Nat} {c : Call} {t : Rat} {how : Ending} :
    .ended q t how ∈ s.startEvents p c ↔
      c.duration = .none ∧ q = p ∧ t = s.clock ∧ how = endingOf c.outcome := by
  unfold startEvents
  split <;> simp [*]

/-- Records that a call is over by itself, unless that is recorded already. -/
def noteEnd (s : State) (r : Running) : State :=
  { s with trace := s.trace ++
      if r.isOpen then [.ended r.position s.clock (endingOf r.call.outcome)] else [] }

theorem settle_eq (s : State) (r : Running) :
    s.settle j r = (s.noteEnd r).conclude j r.position r.call := by
  unfold settle noteEnd Running.isOpen
  by_cases h : r.call.duration = .none
  · simp [h]
  · simp [h, noteOver, note]

theorem endingOf_ne_stopped (o : Outcome) : endingOf o ≠ .stopped := by
  cases o <;> exact nofun

theorem fail_cases {f g : Fault} (h : (s.fail g).fault = some f) : s.fault = some f ∨ f = g := by
  rcases Option.or_eq_some_iff.mp h with h | ⟨-, h⟩
  · exact Or.inl h
  · exact Or.inr (Option.some.inj h).symm

theorem conclude_of_error {p : Nat} {c : Call} {e : LintError}
    (h : j.verdict p c.outcome = .error e) :
    s.conclude j p c = (s.write j p c.log).fail (.lint e) := by
  simp only [conclude, h]

theorem conclude_of_ok (hj : j.Indexed) (hslots : s.slots.length = j.regions.length) {p : Nat}
    (hp : p < j.regions.length) {c : Call} {t : Text} (h : j.verdict p c.outcome = .ok t) :
    ∃ log, s.conclude j p c =
      { s with log := log, slots := s.slots.set (j.slot p) (some ⟨(j.region p).index, t⟩) } := by
  have hslot : slot? s.slots.length (j.region p).index = some (j.slot p) := by
    rw [(hj.slot_lt hp).2, hslots]
    exact slot?_natCast (hj.slot_lt hp).1
  simp only [conclude, h, place, write, hslot]
  exact ⟨_, rfl⟩

/-- A slot keeps what the call of its region gave when another slot is filled. -/
theorem Filled.set (hj : j.Indexed) {s' : State} {p q : Nat} (hp : p < j.regions.length)
    (hq : q < j.regions.length) {d : Rat} {t : Text} (hown : j.own q = some (d, .ok t))
    (hslots : s'.slots = s.slots.set (j.slot q) (some ⟨(j.region q).index, t⟩))
    (h : s.Filled j p) : s'.Filled j p := by
  obtain ⟨d', t', hown', hslot⟩ := h
  refine ⟨d', t', hown', ?_⟩
  rw [hslots]
  by_cases hpq : q = p
  · subst hpq
    rw [hown] at hown'
    cases hown'
    rw [List.getElem?_set_self (List.getElem?_eq_some_iff.mp hslot).1]
  · rw [List.getElem?_set_ne fun he => hpq (hj.slot_inj hq hp he)]
    exact hslot

end State

/-! ## Balance -/

/-- Every call that started has ended once or goes on. -/
def Balanced (due : List Running) (s : State) : Prop :=
  (ended s.trace ++ openPositions (s.running ++ due)).Perm (started s.trace)

namespace Balanced

/-- The balance does not depend on which of the calls that go on are due. -/
theorem rearrange (h : Balanced due s) {due' : List Running} {s' : State}
    (hperm : (s'.running ++ due').Perm (s.running ++ due)) (htrace : s'.trace = s.trace) :
    Balanced due' s' := by
  unfold Balanced
  rw [htrace]
  exact ((openPositions_perm hperm).append_left _).trans h

/-- A call starts, and is due. -/
theorem noteStart (h : Balanced due s) (p : Nat) (c : Call) :
    Balanced (⟨p, s.clock, c⟩ :: due) (s.noteStart p c) := by
  -- a call without duration has ended as it starts, any other one goes on
  have hended : (ended (s.trace ++ s.startEvents p c) ++
      openPositions (s.running ++ ⟨p, s.clock, c⟩ :: due)).Perm
      (ended s.trace ++ (p :: openPositions (s.running ++ due))) := by
    refine ((openPositions_middle _ _ _).append_left _).trans ?_
    rw [ended_append, List.append_assoc]
    by_cases hnone : c.duration = .none
    · simp [State.startEvents, Running.isOpen, hnone, ended]
    · simp [State.startEvents, Running.isOpen, hnone, ended]
  have hstarted : started (s.trace ++ s.startEvents p c) = started s.trace ++ [p] := by
    rw [started_append, State.started_startEvents]
  unfold Balanced
  rw [State.noteStart_eq, hstarted]
  refine hended.trans (List.perm_middle.trans ?_)
  exact (List.Perm.cons p h).trans (List.perm_append_singleton p _).symm

/-- A call that is due is settled, which ends it unless it has ended already. -/
theorem close {r : Running} (h : Balanced (r :: due) s) {s' : State} (how : Ending)
    (htrace : s'.trace = s.trace ++ if r.isOpen then [.ended r.position s.clock how] else [])
    (hrunning : s'.running = s.running) : Balanced due s' := by
  have hstarted : started s'.trace = started s.trace := by
    rw [htrace]
    split <;> simp
  unfold Balanced
  rw [hstarted, hrunning]
  refine List.Perm.trans ?_ h
  refine List.Perm.trans ?_ ((openPositions_middle _ _ _).append_left _).symm
  rw [htrace, ended_append, List.append_assoc]
  split <;> exact List.Perm.refl _

/-- When no call goes on every call that started has ended. -/
theorem ended_of_idle (h : Balanced [] s) (hidle : s.running = []) :
    (ended s.trace).Perm (started s.trace) := by
  unfold Balanced at h
  rwa [hidle, show openPositions ([] ++ []) = [] from rfl, List.append_nil] at h

end Balanced

/-! ## Steps -/

namespace Ledger

/-- The next call starts, and is due. -/
theorem noteStart {p : Nat} (h : Ledger j (p :: queue) due s) :
    Ledger j queue (⟨p, s.clock, j.callAt p⟩ :: due) (s.noteStart p (j.callAt p)) := by
  have hmem : ∀ {e}, e ∈ s.trace → e ∈ s.trace ++ s.startEvents p (j.callAt p) :=
    fun he => List.mem_append_left _ he
  have hstart : .started p s.clock ∈ s.trace ++ s.startEvents p (j.callAt p) :=
    List.mem_append_right _ List.mem_cons_self
  have hnew : started (s.trace ++ s.startEvents p (j.callAt p)) = started s.trace ++ [p] := by
    rw [started_append, State.started_startEvents]
  have hcases : ∀ {r}, r ∈ s.running ++ ⟨p, s.clock, j.callAt p⟩ :: due →
      r = ⟨p, s.clock, j.callAt p⟩ ∨ r ∈ s.running ++ due :=
    fun hr => List.mem_cons.mp (List.perm_middle.mem_iff.mp hr)
  rw [State.noteStart_eq]
  constructor
  case slots => exact h.slots
  case order =>
    rw [hnew, ← h.order]
    simp
  case calls =>
    intro r hr
    rcases hcases hr with rfl | hr
    · exact ⟨rfl, hstart⟩
    · exact ⟨(h.calls r hr).1, hmem (h.calls r hr).2⟩
  case finished =>
    intro r hr hover
    rcases hcases hr with rfl | hr
    · have hnone : (j.callAt p).duration = .none := by simpa [Running.isOpen] using hover
      exact ⟨_, State.endingOf_ne_stopped (j.callAt p).outcome,
        List.mem_append_right _ (State.ended_mem_startEvents.mpr ⟨hnone, rfl, rfl, rfl⟩)⟩
    · obtain ⟨how, hne, hend⟩ := h.finished r hr hover
      exact ⟨how, hne, hmem hend⟩
  case balance =>
    have hbalance := Balanced.noteStart h.balance p (j.callAt p)
    rwa [State.noteStart_eq] at hbalance
  case settled =>
    intro hnone q hq
    rw [hnew] at hq
    rcases List.mem_append.mp hq with hq | hq
    · rcases h.settled hnone q hq with ⟨r, hr, hrq⟩ | hfilled
      · exact Or.inl ⟨r, List.perm_middle.mem_iff.mpr (List.mem_cons_of_mem _ hr), hrq⟩
      · exact Or.inr hfilled
    · rw [List.mem_singleton] at hq
      exact Or.inl ⟨_, List.mem_append_right _ List.mem_cons_self, hq.symm⟩
  case punctual =>
    intro q t d e hq hown
    rcases List.mem_append.mp hq with hq | hq
    · exact h.punctual q t d e hq hown
    · obtain ⟨-, rfl⟩ := State.started_mem_startEvents.mp hq
      exact le_add_of_nonneg_right (Job.own_nonneg hown)
  case faulted =>
    intro f hf
    obtain ⟨q, e, he, t, d, how, ht, hown, hclock, hne, hend⟩ := h.faulted f hf
    exact ⟨q, e, he, t, d, how, hmem ht, hown, hclock, hne, hmem hend⟩

/-- A call that has just started goes on. -/
theorem keep {p : Nat} {c : Call} (h : Ledger j queue (⟨p, s.clock, c⟩ :: due) s) :
    Ledger j queue due (s.keep p c) := by
  refine h.rearrange ?_ rfl rfl rfl rfl rfl
  show (s.running ++ [(⟨p, s.clock, c⟩ : Running)] ++ due).Perm _
  rw [List.append_assoc]
  exact List.Perm.refl _

/-- A call that is due is settled. -/
theorem close {r : Running} (h : Ledger j queue (r :: due) s) {s' : State} (how : Ending)
    (htrace : s'.trace = s.trace ++ if r.isOpen then [.ended r.position s.clock how] else [])
    (hrunning : s'.running = s.running) (hwaiting : s'.waiting = s.waiting)
    (hclock : s'.clock = s.clock) (hslots : s'.slots.length = s.slots.length)
    (hsettled : s'.fault = none → s.fault = none ∧ s'.Filled j r.position ∧
      ∀ p < j.regions.length, s.Filled j p → s'.Filled j p)
    (hfault : ∀ f, s'.fault = some f → s.fault = some f ∨
      ∃ e, f = .lint e ∧ s'.Failed j r.position e) :
    Ledger j queue due s' := by
  have hmem : ∀ {e}, e ∈ s.trace → e ∈ s'.trace :=
    fun he => htrace ▸ List.mem_append_left _ he
  -- the trace gets an end at most, so its starts stay the same
  have hstarted : started s'.trace = started s.trace := by
    rw [htrace]
    split <;> simp
  have hstart : ∀ {p t}, Event.started p t ∈ s'.trace → Event.started p t ∈ s.trace := by
    intro p t ht
    rw [htrace] at ht
    rcases List.mem_append.mp ht with ht | ht
    · exact ht
    · split at ht <;> simp at ht
  have hdue : ∀ {x}, x ∈ s'.running ++ due → x ∈ s.running ++ r :: due :=
    fun hx => List.perm_middle.mem_iff.mpr (List.mem_cons_of_mem _ (hrunning ▸ hx))
  constructor
  case order =>
    rw [hstarted, hwaiting]
    exact h.order
  case calls =>
    intro x hx
    exact ⟨(h.calls x (hdue hx)).1, hmem (h.calls x (hdue hx)).2⟩
  case finished =>
    intro x hx hover
    obtain ⟨how', hne, hend⟩ := h.finished x (hdue hx) hover
    exact ⟨how', hne, hmem hend⟩
  case balance => exact Balanced.close h.balance how htrace hrunning
  case slots =>
    rw [hslots]
    exact h.slots
  case settled =>
    intro hnone p hp
    obtain ⟨hnone', hfilled, hkept⟩ := hsettled hnone
    rw [hstarted] at hp
    rcases h.settled hnone' p hp with ⟨x, hx, hxp⟩ | hp'
    · rcases List.mem_cons.mp (List.perm_middle.mem_iff.mp hx) with rfl | hx
      · exact Or.inr (hxp ▸ hfilled)
      · exact Or.inl ⟨x, hrunning ▸ hx, hxp⟩
    · exact Or.inr (hkept p (h.started_lt hp) hp')
  case punctual =>
    intro p t d e hp hown
    rw [hclock]
    exact h.punctual p t d e (hstart hp) hown
  case faulted =>
    intro f hf
    rcases hfault f hf with hf | ⟨e, he, hfailed⟩
    · obtain ⟨p, e, he, t, d, how', ht, hown, htd, hne, hend⟩ := h.faulted f hf
      exact ⟨p, e, he, t, d, how', hmem ht, hown, by rw [hclock]; exact htd, hne,
        by rw [hclock]; exact hmem hend⟩
    · exact ⟨r.position, e, he, hfailed⟩

/-- The end of a call that is due is the present instant. -/
theorem due_own {r : Running} (h : Ledger j queue (r :: due) s) (hl : j.limit ≠ .spent)
    (hm : r.moment? j.limit = some s.clock) {d : Rat} {e : Except LintError Text}
    (hown : j.own r.position = some (d, e)) : r.since + d = s.clock := by
  have hcall := (h.calls r (List.mem_append_right _ List.mem_cons_self)).1
  exact Running.since_add_own hcall hl hm hown

/-- The end of a call that is due is in the trace when it is recorded. -/
theorem ended_of_due {r : Running} (h : Ledger j queue (r :: due) s) (hl : j.limit ≠ .spent)
    {d : Rat} {e : Except LintError Text} (hown : j.own r.position = some (d, e))
    (hclock : r.since + d = s.clock) :
    ∃ how, how ≠ .stopped ∧ .ended r.position s.clock how ∈ (s.noteEnd r).trace := by
  have hr : r ∈ s.running ++ r :: due := List.mem_append_right _ List.mem_cons_self
  by_cases hopen : r.isOpen = true
  · refine ⟨_, State.endingOf_ne_stopped r.call.outcome, ?_⟩
    simp [State.noteEnd, hopen]
  · have hnone : (j.callAt r.position).duration = .none := by
      rw [← (h.calls r hr).1]
      simpa [Running.isOpen] using hopen
    have hzero : r.since = s.clock := by
      rw [Job.own_of_none hl hnone] at hown
      cases hown
      rwa [add_zero] at hclock
    obtain ⟨how, hne, hend⟩ := h.finished r hr (Bool.not_eq_true _ ▸ hopen)
    exact ⟨how, hne, List.mem_append_left _ (hzero ▸ hend)⟩

/-- A call that is over by itself is settled. -/
theorem settle {r : Running} (h : Ledger j queue (r :: due) s) (hj : j.Indexed)
    (hl : j.limit ≠ .spent) (hm : r.moment? j.limit = some s.clock)
    (hexp : r.expires j.limit = false) : Ledger j queue due (s.settle j r) := by
  have hr : r ∈ s.running ++ r :: due := List.mem_append_right _ List.mem_cons_self
  obtain ⟨hcall, hsince⟩ := h.calls r hr
  obtain ⟨d, hown⟩ := Running.own_of_not_expires hcall hl hexp (by rw [hm]; rfl)
  have hclock := h.due_own hl hm hown
  have hp : r.position < j.regions.length := h.started_lt (mem_started.mpr ⟨_, hsince⟩)
  rw [State.settle_eq]
  cases hv : j.verdict r.position r.call.outcome with
  | error e =>
    rw [hv] at hown
    rw [State.conclude_of_error hv]
    refine h.close _ rfl rfl rfl rfl rfl ?_ ?_
    · intro hnone
      simp [State.fail] at hnone
    · intro f hf
      rcases State.fail_cases hf with hf | rfl
      · exact Or.inl hf
      · obtain ⟨how, hne, hend⟩ := h.ended_of_due hl hown hclock
        refine Or.inr ⟨e, rfl, r.since, d, how, ?_, hown, hclock, hne, hend⟩
        exact List.mem_append_left _ hsince
  | ok t =>
    rw [hv] at hown
    obtain ⟨log, hc⟩ := State.conclude_of_ok
      (s := s.noteEnd r) hj h.slots hp hv
    rw [hc]
    refine h.close _ rfl rfl rfl rfl (List.length_set ..) ?_ ?_
    · intro hnone
      refine ⟨hnone, ⟨d, t, hown, ?_⟩, ?_⟩
      · refine List.getElem?_set_self ?_
        show j.slot r.position < s.slots.length
        rw [h.slots]
        exact (hj.slot_lt hp).1
      · intro q hq hfilled
        exact hfilled.set hj hq hp hown rfl
    · intro f hf
      exact Or.inl hf

/-- A call that has run out of time is settled. -/
theorem expire {r : Running} (h : Ledger j queue (r :: due) s) (hl : j.limit ≠ .spent)
    (hm : r.moment? j.limit = some s.clock) (hexp : r.expires j.limit = true) :
    Ledger j queue due (s.expire j r) := by
  have hr : r ∈ s.running ++ r :: due := List.mem_append_right _ List.mem_cons_self
  obtain ⟨hcall, hsince⟩ := h.calls r hr
  obtain ⟨hne, d, hown⟩ := Running.own_of_expires hcall hl hexp
  have hopen : r.isOpen = true := by simpa [Running.isOpen] using hne
  have htrace : (s.expire j r).trace = s.trace ++ [.ended r.position s.clock .expired] := rfl
  refine h.close .expired (by rw [htrace, if_pos hopen]) rfl rfl rfl rfl ?_ ?_
  · intro hnone
    simp [State.expire, State.fail] at hnone
  · intro f hf
    rcases State.fail_cases hf with hf | rfl
    · exact Or.inl hf
    · refine Or.inr ⟨_, rfl, r.since, d, .expired, ?_, hown, h.due_own hl hm hown, by decide, ?_⟩
      · exact htrace ▸ List.mem_append_left _ hsince
      · exact htrace ▸ List.mem_append_right _ List.mem_cons_self

/-- The next call starts. It is settled at once when it is over at once and has no limit. -/
theorem start {p : Nat} (h : Ledger j (p :: queue) due s) (hj : j.Indexed) (hl : j.limit ≠ .spent) :
    Ledger j queue due (s.start j p) := by
  have hnote := h.noteStart
  unfold State.start
  rw [if_neg hl, h.next_eq]
  show Ledger j queue due (if j.limit = .unlimited ∧ (j.callAt p).duration = .none then
    (s.noteStart p (j.callAt p)).conclude j p (j.callAt p)
    else (s.noteStart p (j.callAt p)).keep p (j.callAt p))
  split
  · next himm =>
    obtain ⟨hunl, hnone⟩ := himm
    have hsettle : (s.noteStart p (j.callAt p)).conclude j p (j.callAt p) =
        (s.noteStart p (j.callAt p)).settle j ⟨p, s.clock, j.callAt p⟩ := by
      rw [State.settle, if_pos hnone]
    rw [hsettle]
    refine hnote.settle hj hl ?_ ?_
    · rw [Running.moment?_eq rfl hl, Job.own_of_none hl hnone]
      simp [State.noteStart_eq]
    · simp [Running.expires, Running.deadline?, hunl]
  · rw [State.noteStart_eq] at hnote ⊢
    exact hnote.keep

end Ledger

end Backtick.Transform
