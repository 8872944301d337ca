import Backtick.Proofs.Transform.Run
import Backtick.Proofs.Transform.Stop

/-!
# The limit on the number of calls

With a limit on the number of calls, no more calls go on at any moment of a run than it allows.
Without one, no call waits for another to end. With or without one, calls start in the order of the
regions. All this holds whatever the calls do, also while a call unwinds whose time is up, and while
a run that has failed is given up, and whatever numbers the regions carry.

The bound rests on two invariants. `Budget` says that permits and calls that are kept make up the
limit; `Roster` says that a call that goes on behind the trace is kept. So a start, which takes a
permit that is free, finds fewer calls going on than the limit allows. Calls that still unwind when
the run is over have no permit any more, but then no call starts.

* `Roster.start`, `Roster.advance` — what the steps of a run keep
* `capped_of_initial` — what a whole run keeps
* `trace_of_unlimited` — without a limit all starts stand at the beginning of the trace
-/

namespace Backtick.Transform

variable {j : Job} {most : Option Nat} {queue : List Nat} {due : List Running} {s : State}

/-! ## What the operations do to a trace -/

namespace State

@[simp] theorem conclude_trace (j : Job) (p : Nat) (c : Call) (s : State) :
    (s.conclude j p c).trace = s.trace := by
  simp only [conclude]
  split
  · rfl
  · simp only [place]
    split <;> rfl

/-- The call that starts next when it is for the region at this position. -/
def nextCall (j : Job) (s : State) (p : Nat) : Call :=
  j.formatter.call (started s.trace).length (j.raw p)

/-- A start is settled at once or kept. -/
theorem start_eq (hl : j.limit ≠ .spent) (s : State) (p : Nat) :
    s.start j p =
      if j.limit = .unlimited ∧ (s.nextCall j p).duration = .none then
        (s.noteStart p (s.nextCall j p)).conclude j p (s.nextCall j p)
      else (s.noteStart p (s.nextCall j p)).keep p (s.nextCall j p) := by
  unfold start
  rw [if_neg hl]
  rfl

theorem start_trace (hl : j.limit ≠ .spent) (s : State) (p : Nat) :
    (s.start j p).trace = s.trace ++ s.startEvents p (s.nextCall j p) := by
  rw [start_eq hl, noteStart_eq]
  split
  · rw [conclude_trace]
  · rfl

theorem start_clock (j : Job) (s : State) (p : Nat) : (s.start j p).clock = s.clock := by
  unfold start
  split
  · rfl
  · dsimp only
    split
    · rw [conclude_clock, noteStart_eq]
    · rw [noteStart_eq]
      rfl

/-- A start keeps the calls that are kept already. -/
theorem running_subset_start (j : Job) (s : State) (p : Nat) :
    s.running ⊆ (s.start j p).running := by
  unfold start
  split
  · exact List.Subset.refl _
  · dsimp only
    split
    · rw [conclude_running, noteStart_running]
      exact List.Subset.refl _
    · simp [keep]

/-- A call that is not over at once is kept when it starts. -/
theorem mem_running_start (hl : j.limit ≠ .spent) {p : Nat}
    (hopen : (s.nextCall j p).duration ≠ .none) :
    ⟨p, s.clock, s.nextCall j p⟩ ∈ (s.start j p).running := by
  rw [start_eq hl, if_neg fun h => hopen h.2, noteStart_eq]
  simp [keep]

end State

/-! ## Rosters -/

theorem openPositions_subset {a b : List Running} (h : a ⊆ b) :
    openPositions a ⊆ openPositions b := by
  intro p hp
  obtain ⟨r, hr, rfl⟩ := List.mem_map.mp hp
  obtain ⟨hr, hopen⟩ := List.mem_filter.mp hr
  exact List.mem_map_of_mem (List.mem_filter.mpr ⟨h hr, hopen⟩)

theorem openPositions_length_le (rs : List Running) : (openPositions rs).length ≤ rs.length := by
  unfold openPositions
  rw [List.length_map]
  exact List.length_filter_le ..

/-- The calls that go on behind the trace are kept, and were never more than the limit allows. As in
a ledger, `queue` holds positions that are to start and `due` calls that are to be settled. -/
structure Roster (j : Job) (most : Option Nat) (queue : List Nat) (due : List Running)
    (s : State) : Prop where
  /-- calls start in the order of the regions -/
  order : started s.trace ++ (queue ++ s.waiting) = List.range j.regions.length
  /-- a call that goes on is kept -/
  listed : ∀ p ∈ ongoing s.trace, p ∈ openPositions (s.running ++ due)
  /-- there were never too many of them -/
  capped : ∀ k, most = some k → Capped k s.trace

namespace Roster

theorem ongoing_length_le (h : Roster j most queue due s) :
    (ongoing s.trace).length ≤ s.running.length + due.length := by
  have hnd : (started s.trace ++ (queue ++ s.waiting)).Nodup := h.order ▸ List.nodup_range
  have hongoing : (ongoing s.trace).Nodup := (List.nodup_append.mp hnd).1.filter _
  rw [← List.length_append]
  exact (List.subperm_of_subset hongoing h.listed).length_le.trans (openPositions_length_le _)

/-- A roster does not depend on which of the calls that are kept are due. -/
theorem rearrange (h : Roster j most queue due s) {due' : List Running} {s' : State}
    (hperm : (s'.running ++ due').Perm (s.running ++ due)) (htrace : s'.trace = s.trace)
    (hwaiting : s'.waiting = s.waiting) : Roster j most queue due' s' where
  order := by rw [htrace, hwaiting]; exact h.order
  listed := by
    rw [htrace]
    exact fun p hp => (openPositions_perm hperm).mem_iff.mpr (h.listed p hp)
  capped := by rw [htrace]; exact h.capped

/-- The next call starts while the limit allows one more. -/
theorem start {p : Nat} (h : Roster j most (p :: queue) [] s) (hl : j.limit ≠ .spent)
    (hfree : ∀ k, most = some k → s.running.length < k) :
    Roster j most queue [] (s.start j p) := by
  constructor
  case order =>
    rw [State.start_trace hl, State.start_waiting, started_append, State.started_startEvents,
      ← h.order]
    simp
  case listed =>
    intro q hq
    rw [State.start_trace hl, mem_ongoing, started_append, ended_append,
      State.started_startEvents, List.mem_append, List.mem_append, not_or, List.mem_singleton] at hq
    obtain ⟨hstarted | rfl, hold, hnew⟩ := hq
    · have hq := h.listed q (mem_ongoing.mpr ⟨hstarted, hold⟩)
      rw [List.append_nil] at hq ⊢
      exact openPositions_subset (State.running_subset_start j s p) hq
    · -- a call that is over at once has ended, so this one is kept
      have hopen : (s.nextCall j q).duration ≠ .none := by
        intro hnone
        simp [State.startEvents, hnone, ended] at hnew
      have hmem := State.mem_running_start hl hopen
      rw [List.append_nil]
      exact List.mem_map.mpr ⟨_, List.mem_filter.mpr ⟨hmem, decide_eq_true hopen⟩, rfl⟩
  case capped =>
    intro k hk
    have hstart : Capped k (s.trace ++ [.started p s.clock]) := by
      refine (h.capped k hk).concat ((ongoing_length_started ..).trans ?_)
      have hlength := h.ongoing_length_le
      have := hfree k hk
      rw [List.length_nil] at hlength
      omega
    rw [State.start_trace hl, State.startEvents, List.append_cons]
    refine hstart.append_ended ?_
    split <;> rfl

/-- A call that is due is settled, which ends it unless it has ended already. -/
theorem close {r : Running} (h : Roster j most queue (r :: due) s) {s' : State}
    {events : List Event} (htrace : s'.trace = s.trace ++ events) (hnone : started events = [])
    (hended : r.isOpen = true → r.position ∈ ended events) (hrunning : s'.running = s.running)
    (hwaiting : s'.waiting = s.waiting) : Roster j most queue due s' := by
  constructor
  case order =>
    rw [htrace, started_append, hnone, List.append_nil, hwaiting]
    exact h.order
  case listed =>
    intro p hp
    rw [htrace, mem_ongoing, started_append, hnone, List.append_nil, ended_append,
      List.mem_append, not_or] at hp
    obtain ⟨hstarted, hold, hnew⟩ := hp
    have hlisted := (openPositions_middle _ _ _).mem_iff.mp
      (h.listed p (mem_ongoing.mpr ⟨hstarted, hold⟩))
    rw [hrunning]
    rcases List.mem_append.mp hlisted with hr | hlisted
    · split at hr
      · next hopen =>
        rw [List.mem_singleton] at hr
        exact absurd (hr ▸ hended hopen) hnew
      · cases hr
    · exact hlisted
  case capped =>
    intro k hk
    rw [htrace]
    exact (h.capped k hk).append_ended hnone

theorem settle {r : Running} (h : Roster j most queue (r :: due) s) :
    Roster j most queue due (s.settle j r) := by
  have htrace : (s.settle j r).trace = (s.noteEnd r).trace := by
    rw [State.settle_eq, State.conclude_trace]
  refine h.close htrace ?_ ?_ ?_ ?_
  · split <;> rfl
  · intro hopen
    rw [if_pos hopen]
    exact List.mem_singleton_self _
  · rw [State.settle_eq, State.conclude_running]
    rfl
  · rw [State.settle_eq, State.conclude_waiting]
    rfl

theorem expire {r : Running} (h : Roster j most queue (r :: due) s) :
    Roster j most queue due (s.expire j r) := by
  have htrace : (s.expire j r).trace = s.trace ++ [.ended r.position s.clock .expired] := rfl
  exact h.close htrace rfl (fun _ => List.mem_singleton_self _) rfl rfl

theorem foldl_settle (rs : List Running) (h : Roster j most queue (rs ++ due) s) :
    Roster j most queue due (rs.foldl (State.settle j) s) := by
  induction rs generalizing s with
  | nil => exact h
  | cons r rest ih => exact ih h.settle

theorem foldl_expire (rs : List Running) (h : Roster j most queue (rs ++ due) s) :
    Roster j most queue due (rs.foldl (State.expire j) s) := by
  induction rs generalizing s with
  | nil => exact h
  | cons r rest ih => exact ih h.expire

theorem foldl_start (ps : List Nat) (h : Roster j most (ps ++ queue) [] s) (hl : j.limit ≠ .spent)
    (hfree : ∀ k, most = some k → s.running.length + ps.length ≤ k) :
    Roster j most queue [] (ps.foldl (State.start j) s) := by
  induction ps generalizing s with
  | nil => exact h
  | cons p rest ih =>
    refine ih (h.start hl fun k hk => ?_) fun k hk => ?_
    · have := hfree k hk
      rw [List.length_cons] at this
      omega
    · have := hfree k hk
      have hle := State.start_running_le j s p
      rw [List.length_cons] at this
      omega

/-- Taking positions from those that wait into the queue. -/
theorem dequeue (h : Roster j most [] due s) {taken left : List Nat}
    (hw : s.waiting = taken ++ left) : Roster j most taken due { s with waiting := left } where
  order := by rw [← h.order, hw]; rfl
  listed := h.listed
  capped := h.capped

theorem startFree (h : Roster j most [] [] s) (hb : Budget most s) (hl : j.limit ≠ .spent) :
    Roster j most [] [] (s.startFree j) := by
  have hqueue : ∀ {taken left : List Nat}, s.waiting = taken ++ left →
      Roster j most (taken ++ []) [] { s with waiting := left } := by
    intro taken left hw
    rw [List.append_nil]
    exact h.dequeue hw
  unfold State.startFree
  split
  · next hnone =>
    refine foldl_start _ (hqueue (List.append_nil _).symm) hl fun k hk => ?_
    rw [hb.permits, hk] at hnone
    cases hnone
  · next n hsome =>
    -- the free permits and the calls in use make up the limit
    refine foldl_start _ (hqueue (List.take_append_drop n s.waiting).symm) hl fun k hk => ?_
    have hle := hb.running_le k hk
    rw [hb.permits, hk, Option.map_some, Option.some.injEq] at hsome
    show s.running.length + (s.waiting.take n).length ≤ k
    rw [List.length_take]
    omega

theorem advance (h : Roster j most [] [] s) (now : Rat) :
    Roster j most [] [] (s.advance j now) := by
  have hperm :=
    ((s.dueAt_perm j now).append_left (s.goTo j now).running).trans (State.goTo_perm j s now)
  rw [← List.append_nil s.running] at hperm
  have hgo : Roster j most [] _ (s.goTo j now) := h.rearrange hperm rfl rfl
  rw [State.advance_eq]
  exact foldl_expire _ (foldl_settle _ hgo)

theorem startAll {ps : List Nat} (h : Roster j most ps [] s) (hb : Budget most s)
    (hl : j.limit ≠ .spent) (hw : s.waiting = []) : Roster j most [] [] (s.startAll j ps) := by
  induction ps generalizing s with
  | nil =>
    refine ⟨?_, h.listed, h.capped⟩
    have horder := h.order
    rwa [hw] at horder
  | cons p rest ih =>
    unfold State.startAll
    split
    · refine ⟨?_, h.listed, h.capped⟩
      have horder := h.order
      rwa [hw, List.append_nil] at horder
    · next hpermits =>
      have hfree : ∀ k, most = some k → s.running.length < k := by
        intro k hk
        have hle := hb.running_le k hk
        rw [hb.permits, hk, Option.map_some, Option.some.injEq] at hpermits
        omega
      exact ih (h.start hl hfree) (hb.start p hfree) (by rw [State.start_waiting, hw])

/-- Stopping ends calls, and starts none. -/
theorem past_stop (h : Roster j most [] due s) (l : Limit) :
    (∀ k, most = some k → Capped k (s.stop l).trace) ∧
      started (s.stop l).trace <+: List.range j.regions.length := by
  refine ⟨fun k hk => (h.capped k hk).append_ended (State.started_stopping l s), ?_⟩
  rw [State.started_stop, ← h.order]
  exact List.prefix_append _ _

end Roster

/-! ## Whole runs -/

/-- A run keeps its roster. -/
theorem roster_run (hl : j.limit ≠ .spent) (h : Roster j most [] [] s) (hb : Budget most s) :
    Roster j most [] [] (State.run j s) := by
  refine State.run_induction (P := fun s => Roster j most [] [] s ∧ Budget most s)
    (Q := Roster j most [] []) ?free ?advance ?failed ?quiet s ⟨h, hb⟩
  case free =>
    rintro s ⟨h, hb⟩ - - -
    exact ⟨h.startFree hb hl, hb.startFree⟩
  case advance =>
    rintro s now ⟨h, hb⟩ - -
    exact ⟨h.advance now, hb.advance now⟩
  case failed =>
    -- free permits still go to calls that wait before all calls are stopped
    rintro s ⟨h, hb⟩ -
    have h' := h.startFree hb hl
    unfold State.abandon
    dsimp only
    split
    · exact h'.startFree hb.startFree hl
    · exact h'
  case quiet =>
    rintro s ⟨h, -⟩ - - -
    exact h

theorem roster_initial (j : Job) (most : Option Nat) :
    Roster j most (List.range j.regions.length) []
      { permits := most, slots := j.regions.map fun _ => none } := by
  exact ⟨List.append_nil _, nofun, fun k _ => capped_nil k⟩

/-- At no moment of a run from the beginning do more calls go on than the limit allows, and the
calls that start do so in order. -/
theorem capped_of_initial (hl : j.limit ≠ .spent) (most : Option Nat) :
    (∀ k, most = some k → Capped k ((State.run j (State.initial j most)).stop j.limit).trace) ∧
      started ((State.run j (State.initial j most)).stop j.limit).trace <+:
        List.range j.regions.length := by
  have hb := budget_initial j most
  exact (roster_run hl ((roster_initial j most).startAll hb hl rfl) (hb.startAll _)).past_stop _

/-! ## Runs without a limit -/

/-- The number of the call that starts next is its position. -/
theorem State.nextCall_of_order {p n : Nat} {rest : List Nat}
    (h : started s.trace ++ p :: rest = List.range n) : s.nextCall j p = j.callAt p := by
  unfold State.nextCall Job.callAt
  rw [length_of_append_eq_range h]

/-- The calls of a trace start at the beginning, and those that end are over at once. -/
def AtOnce (j : Job) (trace : List Event) : Prop :=
  (∀ p t, .started p t ∈ trace → t = 0) ∧
    ∀ p t how, .ended p t how ∈ trace → (j.callAt p).duration = .none

theorem AtOnce.append {a b : List Event} (ha : AtOnce j a) (hb : AtOnce j b) :
    AtOnce j (a ++ b) := by
  refine ⟨fun p t h => ?_, fun p t how h => ?_⟩
  · exact (List.mem_append.mp h).elim (ha.1 p t) (hb.1 p t)
  · exact (List.mem_append.mp h).elim (ha.2 p t how) (hb.2 p t how)

theorem atOnce_startEvents (hclock : s.clock = 0) (p : Nat) :
    AtOnce j (s.startEvents p (j.callAt p)) := by
  refine ⟨fun q t hq => ?_, fun q t how hq => ?_⟩
  · rw [(State.started_mem_startEvents.mp hq).2, hclock]
  · obtain ⟨hnone, rfl, -⟩ := State.ended_mem_startEvents.mp hq
    exact hnone

/-- Without a limit, all calls start at the beginning of the run. -/
theorem Roster.atOnce_startAll {ps : List Nat} (h : Roster j none ps [] s) (hb : Budget none s)
    (hl : j.limit ≠ .spent) (hw : s.waiting = []) (hclock : s.clock = 0)
    (htrace : AtOnce j s.trace) :
    AtOnce j (s.startAll j ps).trace ∧ (s.startAll j ps).waiting = [] := by
  induction ps generalizing s with
  | nil => exact ⟨htrace, rfl⟩
  | cons p rest ih =>
    have hpermits : s.permits ≠ some 0 := by
      rw [hb.permits]
      simp
    have hfree : ∀ k, none = some k → s.running.length < k := by simp
    unfold State.startAll
    rw [if_neg hpermits]
    refine ih (h.start hl hfree) (hb.start p hfree) ?_ ?_ ?_
    · rw [State.start_waiting, hw]
    · rw [State.start_clock, hclock]
    · rw [State.start_trace hl, State.nextCall_of_order h.order]
      exact htrace.append (atOnce_startEvents hclock p)

/-- One trace goes on where another ends, and no call starts there. -/
def OnlyEnds (trace trace' : List Event) : Prop :=
  ∃ more, trace' = trace ++ more ∧ started more = []

theorem OnlyEnds.refl (trace : List Event) : OnlyEnds trace trace :=
  ⟨[], (List.append_nil _).symm, rfl⟩

theorem OnlyEnds.trans {a b c : List Event} (hab : OnlyEnds a b) (hbc : OnlyEnds b c) :
    OnlyEnds a c := by
  obtain ⟨x, rfl, hx⟩ := hab
  obtain ⟨y, rfl, hy⟩ := hbc
  exact ⟨x ++ y, List.append_assoc .., by rw [started_append, hx, hy, List.append_nil]⟩

namespace State

theorem onlyEnds_settle (j : Job) (s : State) (r : Running) :
    OnlyEnds s.trace (s.settle j r).trace := by
  rw [settle_eq, conclude_trace]
  refine ⟨_, rfl, ?_⟩
  split <;> rfl

theorem onlyEnds_foldl_settle (j : Job) (rs : List Running) (s : State) :
    OnlyEnds s.trace (rs.foldl (settle j) s).trace := by
  induction rs generalizing s with
  | nil => exact .refl _
  | cons r rest ih => exact (onlyEnds_settle j s r).trans (ih _)

theorem onlyEnds_foldl_expire (j : Job) (rs : List Running) (s : State) :
    OnlyEnds s.trace (rs.foldl (expire j) s).trace := by
  induction rs generalizing s with
  | nil => exact .refl _
  | cons r rest ih =>
    have hr : OnlyEnds s.trace (s.expire j r).trace := ⟨_, rfl, rfl⟩
    exact hr.trans (ih _)

/-- No call starts when the clock goes on. -/
theorem onlyEnds_advance (j : Job) (s : State) (now : Rat) :
    OnlyEnds s.trace (s.advance j now).trace := by
  rw [advance_eq]
  exact (onlyEnds_foldl_settle j _ (s.goTo j now)).trans (onlyEnds_foldl_expire j _ _)

theorem onlyEnds_stop (l : Limit) (s : State) : OnlyEnds s.trace (s.stop l).trace :=
  ⟨_, rfl, started_stopping l s⟩

end State

/-- Where nothing waits, no call starts any more. -/
theorem onlyEnds_run (hw : s.waiting = []) : OnlyEnds s.trace (State.run j s).trace := by
  refine State.run_induction (P := fun s' => OnlyEnds s.trace s'.trace ∧ s'.waiting = [])
    (Q := fun s' => OnlyEnds s.trace s'.trace)
    ?free ?advance ?failed ?quiet s ⟨.refl _, hw⟩
  case free =>
    rintro s' ⟨-, hw'⟩ - hwait -
    exact absurd hw' hwait
  case advance =>
    rintro s' now ⟨h, hw'⟩ - -
    refine ⟨h.trans (s'.onlyEnds_advance j now), ?_⟩
    rw [State.advance_eq, (State.foldl_expire_waiting ..).1, (State.foldl_settle_waiting ..).1]
    exact hw'
  case failed =>
    rintro s' ⟨h, hw'⟩ -
    unfold State.abandon
    simp only [startFree_of_idle hw', ite_self]
    exact h
  case quiet =>
    rintro s' ⟨h, -⟩ - - -
    exact h

/-- The calls of all regions start at the beginning, in order. Only calls that are over at once end
in between; whatever else happens comes after. -/
def Unhindered (j : Job) (trace : List Event) : Prop :=
  ∃ first rest, trace = first ++ rest ∧ started first = List.range j.regions.length ∧
    AtOnce j first ∧ started rest = []

/-- Without a limit no call waits for another to end. -/
theorem unhindered_of_initial (hl : j.limit ≠ .spent) :
    Unhindered j ((State.run j (State.initial j none)).stop j.limit).trace := by
  have hb := budget_initial j none
  have h := roster_initial j none
  obtain ⟨hfirst, hw⟩ := h.atOnce_startAll hb hl rfl rfl ⟨nofun, nofun⟩
  have horder := (h.startAll hb hl rfl).order
  rw [hw, List.append_nil, List.append_nil] at horder
  obtain ⟨rest, hrest, hnone⟩ := (onlyEnds_run (j := j) hw).trans (State.onlyEnds_stop j.limit _)
  exact ⟨_, rest, hrest, horder, hfirst, hnone⟩

/-! ## Runs over all regions of a text -/

theorem permitsOf_pos {k : Nat} (hk : 0 < k) : permitsOf (some (k : Int)) = .ok (some k) := by
  unfold permitsOf
  dsimp only
  rw [if_neg (by omega), if_neg (by omega), Int.toNat_natCast]

theorem permitsOf_unlimited {k : Option Int} (hk : k = none ∨ k = some 0) :
    permitsOf k = .ok none := by
  rcases hk with rfl | rfl <;> rfl

/-- No permits at all are never given. -/
theorem permitsOf_ne_zero {k : Option Int} {most : Option Nat} (h : permitsOf k = .ok most) :
    most ≠ some 0 := by
  unfold permitsOf at h
  split at h
  · cases h
    exact nofun
  · split at h
    · cases h
      exact nofun
    · split at h
      · cases h
      · cases h
        rw [ne_eq, Option.some.injEq]
        omega

/-- No call is made where there are no regions, where calls get no time, and where the limit on
their number is refused. Otherwise the calls are those of the run. -/
theorem transformRegions_trace_cases (j : Job) (k : Option Int) :
    ((transformRegions j k).trace = [] ∧
      (j.regions = [] ∨ j.limit = .spent ∨ ∃ f, permitsOf k = .error f)) ∨
    ∃ most, permitsOf k = .ok most ∧ j.limit ≠ .spent ∧
      (transformRegions j k).trace =
        ((State.run j (State.initial j most)).stop j.limit).trace := by
  by_cases hne : j.regions = []
  · exact Or.inl ⟨by simp [transformRegions, hne], Or.inl hne⟩
  cases hpermits : permitsOf k with
  | error f =>
    refine Or.inl ⟨?_, Or.inr (Or.inr ⟨f, rfl⟩)⟩
    unfold transformRegions
    rw [if_neg (by simpa using hne), hpermits]
  | ok most =>
    rw [transformRegions_of_ne_nil hne hpermits, report_trace]
    by_cases hl : j.limit = .spent
    · refine Or.inl ⟨?_, Or.inr (Or.inl hl)⟩
      rw [run_spent hl (permitsOf_ne_zero hpermits) hne, State.stop_of_idle rfl]
    · exact Or.inr ⟨most, rfl, hl, rfl⟩

/-- **The limit on the number of calls.** With a limit, no more calls go on at any moment of a run
than it allows. Without one, all calls start at the beginning, so that none waits for another to
end; when calls get no time at all, none is made. In either case calls start in the order of the
regions, and none is passed over. -/
theorem transformRegions_concurrency (j : Job) :
    (∀ k : Nat, 0 < k → ∀ before, before <+: (transformRegions j (some k)).trace →
      (ongoing before).length ≤ k) ∧
    (∀ k, k = none ∨ k = some 0 →
      if j.limit = .spent then (transformRegions j k).trace = []
      else Unhindered j (transformRegions j k).trace) ∧
    ∀ k, started (transformRegions j k).trace <+: List.range j.regions.length := by
  refine ⟨fun k hk => ?_, fun k hk => ?_, fun k => ?_⟩
  · rcases transformRegions_trace_cases j (some k) with ⟨htrace, -⟩ | ⟨most, hpermits, hl, htrace⟩
    · rw [htrace]
      exact capped_nil k
    · rw [permitsOf_pos hk] at hpermits
      cases hpermits
      rw [htrace]
      exact (capped_of_initial hl (some k)).1 k rfl
  · rcases transformRegions_trace_cases j k with ⟨htrace, hcause⟩ | ⟨most, hpermits, hl, htrace⟩
    · rw [htrace]
      split
      · rfl
      · next hl =>
        rw [permitsOf_unlimited hk] at hcause
        rcases hcause with hnil | hspent | ⟨f, hf⟩
        · exact ⟨[], [], rfl, by rw [hnil]; rfl, ⟨nofun, nofun⟩, rfl⟩
        · exact absurd hspent hl
        · cases hf
    · rw [permitsOf_unlimited hk] at hpermits
      cases hpermits
      rw [if_neg hl, htrace]
      exact unhindered_of_initial hl
  · rcases transformRegions_trace_cases j k with ⟨htrace, -⟩ | ⟨most, -, hl, htrace⟩
    · rw [htrace]
      exact List.nil_prefix
    · rw [htrace]
      exact (capped_of_initial hl most).2

/-- Five regions and a time limit of two seconds. The time of the first call is up after that, but
it unwinds for one and a half. The second one is over after a second, and the third takes its place.
When its time is up as well it needs two seconds to unwind, and the run does not wait for it. -/
def crowded : Job where
  text := "abcde"
  regions := [⟨0, 0, 1⟩, ⟨1, 1, 2⟩, ⟨2, 2, 3⟩, ⟨3, 3, 4⟩, ⟨4, 4, 5⟩]
  timeout := some (.whole 2)
  formatter :=
    { name := "f"
      call := fun n _ =>
        match n with
        | 0 => { duration := .endless, outcome := .ok (.text "a"), unwinds := fun _ => 3 / 2 }
        | 1 => { duration := .seconds 1, outcome := .ok (.text "b") }
        | 2 => { duration := .endless, outcome := .ok (.text "c"), unwinds := fun _ => 2 }
        | _ => { duration := .endless, outcome := .ok (.text "d") } }

/-- Two calls go on at the beginning, and two while the first one unwinds, so that the fourth waits
until it has. The third call still goes on when the run is over, and no more than two ever do. -/
theorem transformRegions_crowded :
    (∀ before, before <+: (transformRegions crowded (some 2)).trace →
      (ongoing before).length ≤ 2) ∧
    (transformRegions crowded (some 2)).trace =
      [.started 0 0, .started 1 0, .ended 1 1 .returned, .started 2 1, .ended 0 (7 / 2) .expired,
        .started 3 (7 / 2), .ended 3 (7 / 2) .stopped] ∧
    ongoing (transformRegions crowded (some 2)).trace = [2] ∧
    Unhindered crowded (transformRegions crowded none).trace := by
  obtain ⟨hlimited, hunlimited, -⟩ := transformRegions_concurrency crowded
  refine ⟨hlimited 2 (by decide), by decide +kernel, by decide +kernel, ?_⟩
  have hl : crowded.limit ≠ .spent := by decide +kernel
  have h := hunlimited none (Or.inl rfl)
  rwa [if_neg hl] at h

end Backtick.Transform
