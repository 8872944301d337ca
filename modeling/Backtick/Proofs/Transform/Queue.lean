import Backtick.Proofs.Transform.Calls
import Backtick.Proofs.Transform.Completion

/-!
# Waiting does not count

The time limit of a call counts from its start. So a region may wait for its turn as long as it has
to: when every call by itself takes less time than the limit allows, every call returns, and it does
so as long after its own start as it takes.

The invariant says of every call that has ended when it ended, counted from its start, and how. A
start adds the end of a call that is over at once; a call that goes on has its end added when it is
settled or its time is up.

* `Timed.start`, `Timed.settle`, `Timed.expire` — what the steps of a run keep
* `transformRegions_queued` — calls that are short enough all return
-/

namespace Backtick

/-- So many seconds are less than the number says. Infinity is more than any number of seconds. -/
def Number.Exceeds (n : Number) (seconds : Rat) : Prop :=
  match n with
  | .real (.infinite negative) => negative = false
  | n => ∃ t, n.toRat? = some t ∧ seconds < t

namespace Transform

variable {j : Job} {queue : List Nat} {due : List Running} {s : State}

/-! ## Limits above zero -/

theorem numerator_pos {negative : Bool} {num den : Nat}
    (h : 0 < mkRat (if negative then -(num : Int) else num) den) : negative = false ∧ num ≠ 0 := by
  constructor
  · cases negative with
    | false => rfl
    | true =>
      rw [if_pos rfl, ← Rat.neg_mkRat, neg_pos] at h
      exact absurd (Rat.mkRat_nonneg (Int.natCast_nonneg num) den) (not_le.mpr h)
  · rintro rfl
    cases negative <;> simp at h

/-- A number above zero limits each call to so many seconds, or to no number of them. -/
theorem ofTimeout_of_exceeds {n : Number} (h : n.Exceeds 0) :
    Limit.ofTimeout (some n) = .within n.toRat? := by
  unfold Limit.ofTimeout
  cases n with
  | whole i =>
    obtain ⟨t, ht, hpos⟩ := h
    cases ht
    have hi : 0 < i := by exact_mod_cast hpos
    simp [Number.isZero, Number.isNegative, hi.ne', hi.le]
  | real d =>
    cases d with
    | nan => exact absurd h (by rintro ⟨t, ⟨⟩, -⟩)
    | infinite negative =>
      have hsign : negative = false := h
      simp [Number.isZero, Number.isNegative, Double.isZero, hsign]
    | finite negative m e =>
      obtain ⟨t, ht, hpos⟩ := h
      cases ht
      obtain ⟨hsign, hnum⟩ : negative = false ∧ (Double.magnitude m e).1 ≠ 0 := numerator_pos hpos
      have hm : m ≠ 0 := by
        rintro rfl
        unfold Double.magnitude at hnum
        split at hnum <;> simp at hnum
      simp [Number.isZero, Number.isNegative, Double.isZero, hsign, hm]

/-- The limit that a number sets admits every call that takes less time than the number says. -/
theorem admits_of_exceeds {n : Number} {p : Nat} {d : Rat} (htimeout : j.timeout = some n)
    (hpos : n.Exceeds 0) (hlasts : j.lasts? p = some d) (hd : n.Exceeds d) :
    j.limit.Admits (j.callAt p).duration := by
  unfold Job.limit
  rw [htimeout, ofTimeout_of_exceeds hpos]
  unfold Job.lasts? at hlasts
  cases hdur : (j.callAt p).duration with
  | none => cases n.toRat? <;> trivial
  | endless => rw [hdur] at hlasts; cases hlasts
  | seconds s =>
    rw [hdur] at hlasts
    cases hlasts
    cases ht : n.toRat? with
    | none => trivial
    | some t =>
      -- an infinite number has no value, so this one says so many seconds
      unfold Number.Exceeds at hd
      split at hd
      · cases ht
      · obtain ⟨t', ht', hlt⟩ := hd
        rw [ht] at ht'
        cases ht'
        exact hlt

/-! ## Ends counted from the start -/

/-- The ends to which the call for the region at a position comes when nothing stops it: how long
after its start, and how. -/
inductive OwnEnd (j : Job) (p : Nat) : Rat → Ending → Prop where
  | finished {d : Rat} (hadmits : j.limit.Admits (j.callAt p).duration) (hd : j.lasts? p = some d) :
      OwnEnd j p d (State.endingOf (j.callAt p).outcome)
  | late {l : Rat} (hlimit : j.limit = .within (some l))
      (hlate : ¬ j.limit.Admits (j.callAt p).duration) :
      OwnEnd j p (l + j.unwinding p l) .expired

/-- Every call that has ended has come to its own end, counted from its start. -/
def Timed (j : Job) (trace : List Event) : Prop :=
  ∀ p t how, .ended p t how ∈ trace →
    ∃ t₀ d, .started p t₀ ∈ trace ∧ t = t₀ + d ∧ OwnEnd j p d how

theorem timed_nil (j : Job) : Timed j [] := nofun

theorem Timed.append {trace more : List Event} (h : Timed j trace)
    (hmore : ∀ p t how, .ended p t how ∈ more →
      ∃ t₀ d, .started p t₀ ∈ trace ++ more ∧ t = t₀ + d ∧ OwnEnd j p d how) :
    Timed j (trace ++ more) := by
  intro p t how hp
  rcases List.mem_append.mp hp with hp | hp
  · obtain ⟨t₀, d, hstart, ht, hown⟩ := h p t how hp
    exact ⟨t₀, d, List.mem_append_left _ hstart, ht, hown⟩
  · exact hmore p t how hp

namespace Timed

/-- The next call starts. -/
theorem start {p : Nat} (h : Timed j s.trace) (hcalls : Calls j (p :: queue) due s)
    (hl : j.limit ≠ .spent) : Timed j (s.start j p).trace := by
  rw [State.start_trace hl, State.nextCall_of_order hcalls.order]
  refine h.append ?_
  intro q t how hq
  have hstart : .started p s.clock ∈ s.trace ++ s.startEvents p (j.callAt p) :=
    List.mem_append_right _ List.mem_cons_self
  obtain ⟨hnone, rfl, rfl, rfl⟩ := State.ended_mem_startEvents.mp hq
  have hadmits : j.limit.Admits (j.callAt q).duration := hnone ▸ Limit.admits_none hl
  have hlasts : j.lasts? q = some 0 := by simp [Job.lasts?, hnone]
  exact ⟨s.clock, 0, hstart, (add_zero _).symm, .finished hadmits hlasts⟩

/-- A call that is over by itself is settled. -/
theorem settle {r : Running} (h : Timed j s.trace) (hcalls : Calls j queue (r :: due) s)
    (hl : j.limit ≠ .spent) (hm : r.moment? j.limit = some s.clock)
    (hexpires : r.expires j.limit = false) : Timed j (s.settle j r).trace := by
  obtain ⟨hcall, hsince⟩ := hcalls.kept r (List.mem_append_right _ List.mem_cons_self)
  have hadmits := Running.admits_of_not_expires hcall hl hexpires (by rw [hm]; rfl)
  obtain ⟨d, hd⟩ := Job.lasts_of_admits hadmits
  have hclock := Running.since_add_own hcall hl hm (Job.own_of_lasts hadmits hd)
  rw [State.settle_eq, State.conclude_trace]
  refine h.append ?_
  intro p t how hp
  split at hp
  · cases List.mem_singleton.mp hp
    rw [hcall]
    exact ⟨r.since, d, List.mem_append_left _ hsince, hclock.symm, .finished hadmits hd⟩
  · cases hp

/-- The time of a call is up. -/
theorem expire {r : Running} (h : Timed j s.trace) (hcalls : Calls j queue (r :: due) s)
    (hl : j.limit ≠ .spent) (hm : r.moment? j.limit = some s.clock)
    (hexpires : r.expires j.limit = true) : Timed j (s.expire j r).trace := by
  obtain ⟨hcall, hsince⟩ := hcalls.kept r (List.mem_append_right _ List.mem_cons_self)
  obtain ⟨l, hlimit, hadmits⟩ := (Running.expires_iff hcall hl).mp hexpires
  have hclock := Running.since_add_own hcall hl hm (Job.own_of_not_admits hlimit hadmits)
  have htrace : (s.expire j r).trace = s.trace ++ [.ended r.position s.clock .expired] := rfl
  rw [htrace]
  refine h.append ?_
  intro p t how hp
  cases List.mem_singleton.mp hp
  exact ⟨r.since, _, List.mem_append_left _ hsince, hclock.symm, .late hlimit hadmits⟩

end Timed

/-- Every step of a run keeps the times. -/
theorem stable_timed (hl : j.limit ≠ .spent) : Stable j fun s => Timed j s.trace where
  congr htrace _ h := by rw [htrace]; exact h
  start hcalls h := h.start hcalls hl
  settle hcalls hm hexpires h := h.settle hcalls hl hm hexpires
  expire hcalls hm hexpires h := h.expire hcalls hl hm hexpires

/-! ## Whole runs -/

theorem OwnEnd.of_own {p : Nat} {d d' : Rat} {how : Ending} {v : Text}
    (h : OwnEnd j p d how) (hown : j.own p = some (d', .ok v)) :
    d = d' ∧ how = State.endingOf (j.callAt p).outcome := by
  cases h with
  | finished hadmits hd =>
    rw [Job.own_of_lasts hadmits hd] at hown
    exact ⟨(Prod.mk.inj (Option.some.inj hown)).1, rfl⟩
  | late hlimit hlate =>
    rw [Job.own_of_not_admits hlimit hlate] at hown
    cases hown

/-- In a run over regions that succeeds every call that started has ended, and each has come to its
own end. -/
theorem timed_of_result {k : Option Int} {rs : List Replacement} (hl : j.limit ≠ .spent)
    (h : (transformRegions j k).result = .ok rs) :
    (ended (transformRegions j k).trace).Perm (started (transformRegions j k).trace) ∧
      Timed j (transformRegions j k).trace := by
  by_cases hne : j.regions = []
  · have htrace : (transformRegions j k).trace = [] := by simp [transformRegions, hne]
    rw [htrace]
    exact ⟨.refl _, timed_nil j⟩
  cases hpermits : permitsOf k with
  | error f =>
    unfold transformRegions at h
    rw [if_neg (by simpa using hne), hpermits] at h
    cases h
  | ok most =>
    rw [transformRegions_of_ne_nil hne hpermits] at h ⊢
    obtain ⟨-, hidle, -⟩ := done_of_report h
    obtain ⟨-, hbalanced, htimed⟩ := ((steady_balanced hl).and (stable_timed hl).steady).run_initial
      hl most ⟨List.Perm.refl _, timed_nil j⟩
    rw [report_trace, State.stop_of_idle hidle]
    exact ⟨hbalanced.ended_of_idle hidle, htimed⟩

/-- **Waiting does not count.** Every call gives a text, and by itself it takes less time than the
limit, which is above zero. Then a run over any number of regions succeeds with all their results,
whatever the limit on the number of calls: however late the call for a region starts, it ends as
long after its start as it takes, and no call ends in another way. -/
theorem transformRegions_queued {k : Option Int} {n : Number} {d : Nat → Rat} {o : Nat → Text}
    (hj : j.Indexed) (hk : ∀ m, k = some m → 0 ≤ m) (htimeout : j.timeout = some n)
    (hpos : n.Exceeds 0)
    (hcalls : ∀ p < j.regions.length, (j.callAt p).outcome = .ok (.text (o (j.slot p))) ∧
      j.lasts? p = some (d p) ∧ n.Exceeds (d p)) :
    (transformRegions j k).result =
        .ok ((List.range j.regions.length).map fun i : Nat => ⟨i, o i⟩) ∧
      (∀ p < j.regions.length, ∃ t, .started p t ∈ (transformRegions j k).trace ∧
        .ended p (t + d p) .returned ∈ (transformRegions j k).trace) ∧
      ∀ p t how, .ended p t how ∈ (transformRegions j k).trace → how = .returned := by
  have hgives : j.Gives o := by
    intro p hp
    obtain ⟨houtcome, hlasts, hless⟩ := hcalls p hp
    exact ⟨houtcome, admits_of_exceeds htimeout hpos hlasts hless⟩
  have hl : j.limit ≠ .spent := by
    unfold Job.limit
    rw [htimeout, ofTimeout_of_exceeds hpos]
    exact nofun
  obtain ⟨hresult, hstarted⟩ := result_of_gives hj hk hgives
  obtain ⟨hended, htimed⟩ := timed_of_result hl hresult
  have hreturned : ∀ p t how, .ended p t how ∈ (transformRegions j k).trace →
      how = .returned ∧ ∃ t₀, .started p t₀ ∈ (transformRegions j k).trace ∧ t = t₀ + d p := by
    intro p t how hp
    obtain ⟨t₀, d', hstart, rfl, hend⟩ := htimed p t how hp
    have hlt : p < j.regions.length := by
      rw [← List.mem_range, ← hstarted]
      exact mem_started.mpr ⟨t₀, hstart⟩
    obtain ⟨houtcome, hlasts, -⟩ := hcalls p hlt
    have hown := Job.own_of_lasts (hgives p hlt).2 hlasts
    rw [houtcome] at hown
    obtain ⟨rfl, rfl⟩ := hend.of_own hown
    rw [houtcome]
    exact ⟨rfl, t₀, hstart, rfl⟩
  refine ⟨hresult, fun p hp => ?_, fun p t how hend => (hreturned p t how hend).1⟩
  have hmem : p ∈ ended (transformRegions j k).trace := by
    rw [hended.mem_iff, hstarted]
    exact List.mem_range.mpr hp
  obtain ⟨t, how, hend⟩ := exists_of_mem_ended hmem
  obtain ⟨rfl, t₀, hstart, rfl⟩ := hreturned p t how hend
  exact ⟨t₀, hstart, hend⟩

/-- Six regions, whose calls take two seconds each and get three. -/
def queued : Job where
  text := "abcdef"
  regions := [⟨0, 0, 1⟩, ⟨1, 1, 2⟩, ⟨2, 2, 3⟩, ⟨3, 3, 4⟩, ⟨4, 4, 5⟩, ⟨5, 5, 6⟩]
  timeout := some (.whole 3)
  formatter :=
    { name := "f"
      call := fun n _ => { duration := .seconds 2, outcome := .ok (.text (Text.ofNat n)) } }

/-- One call at a time: the last region waits for ten seconds, more than three times as long as any
call may take. -/
theorem transformRegions_patient :
    (transformRegions queued (some 1)).result =
        .ok [⟨0, "0"⟩, ⟨1, "1"⟩, ⟨2, "2"⟩, ⟨3, "3"⟩, ⟨4, "4"⟩, ⟨5, "5"⟩] ∧
      .started 5 10 ∈ (transformRegions queued (some 1)).trace ∧ 3 * 3 < (10 : Rat) := by
  have hindexed : queued.Indexed := by
    unfold Job.Indexed
    decide
  have hk : ∀ m : Int, some 1 = some m → 0 ≤ m := by
    rintro m ⟨⟩
    decide
  have hpos : (Number.whole 3).Exceeds 0 := ⟨3, rfl, by decide⟩
  have hcalls : ∀ p < queued.regions.length,
      (queued.callAt p).outcome = .ok (.text ((fun i => Text.ofNat i) (queued.slot p))) ∧
        queued.lasts? p = some ((fun _ => 2) p) ∧ (Number.whole 3).Exceeds ((fun _ => 2) p) := by
    intro p hp
    have hless : (2 : Rat) < 3 := by decide
    refine ⟨?_, rfl, 3, rfl, hless⟩
    match p, hp with
    | 0, _ => rfl
    | 1, _ => rfl
    | 2, _ => rfl
    | 3, _ => rfl
    | 4, _ => rfl
    | 5, _ => rfl
  obtain ⟨hresult, -, -⟩ := transformRegions_queued hindexed hk rfl hpos hcalls
  exact ⟨hresult, by decide +kernel, by decide +kernel⟩

end Transform

end Backtick
