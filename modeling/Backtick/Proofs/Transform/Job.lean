import Backtick.Transform
import Mathlib.Algebra.Order.Ring.Rat
import Mathlib.Data.List.Nodup
import Mathlib.Data.List.Perm.Basic
import Mathlib.Tactic.Linarith

/-!
# The calls of a job

The call for a region is fixed by the region's position: the number of the call is the position and
its text is the region's slice. So is the call's own end, which comes some time after its start,
whatever the other calls do: it gives a text, it fails, or it runs out of time and has unwound.

* `Job.own` — that end: how long after the start, and with what
* `Running.moment?_eq` — a call that goes on is over when its own end comes
* `Job.Indexed` — the regions carry the numbers from zero, each once, so every region has a slot
-/

namespace Backtick.Transform

/-! ## The limit -/

theorem Limit.within_nonneg {timeout : Option Number} {l : Rat}
    (h : Limit.ofTimeout timeout = .within (some l)) : 0 ≤ l := by
  unfold Limit.ofTimeout at h
  split at h
  · cases h
  · next n =>
    split at h
    · cases h
    · next hzero =>
      split at h
      · cases h
      · next hneg =>
        cases n with
        | whole i =>
          simp only [Number.toRat?, Limit.within.injEq, Option.some.injEq] at h
          simp only [Number.isNegative, decide_eq_true_eq, not_lt] at hneg
          rw [← h]
          exact_mod_cast hneg
        | real d =>
          cases d with
          | nan =>
            simp only [Limit.within.injEq, Option.some.injEq] at h
            exact h.le
          | infinite negative => simp [Number.toRat?, Double.toRat?] at h
          | finite negative m e =>
            have hm : m ≠ 0 := by simpa [Number.isZero, Double.isZero] using hzero
            have hpos : negative = false := by simpa [Number.isNegative, hm] using hneg
            simp only [Number.toRat?, Double.toRat?, hpos, Limit.within.injEq,
              Option.some.injEq] at h
            rw [← h]
            exact Rat.mkRat_nonneg (by simp) _

theorem Running.elapsed_nonneg (s : Rat) : 0 ≤ Running.elapsed s := by
  unfold Running.elapsed
  split
  · exact le_rfl
  · next h => exact not_lt.1 h

/-- The limit lets a call of this duration come to its own end. A call that would end at the very
moment at which its time is up has run out of time. -/
def Limit.Admits : Limit → Duration → Prop
  | .spent, _ => False
  | _, .none => True
  | .within (some l), .seconds s => Running.elapsed s < l
  | _, .seconds _ => True
  | _, .endless => False

/-- A call that is over at once is admitted wherever calls are made. -/
theorem Limit.admits_none {l : Limit} (h : l ≠ .spent) : l.Admits .none := by
  cases l with
  | spent => exact h rfl
  | unlimited => trivial
  | within seconds => cases seconds <;> trivial

/-! ## The call of a region -/

namespace Job

/-- The call for the region at a position. -/
def callAt (j : Job) (p : Nat) : Call := j.formatter.call p (j.raw p)

/-- How long the call for the region at a position unwinds when it is cancelled so long after its
start. -/
def unwinding (j : Job) (p : Nat) (elapsed : Rat) : Rat :=
  Running.elapsed ((j.callAt p).unwinds elapsed)

theorem unwinding_nonneg (j : Job) (p : Nat) (elapsed : Rat) : 0 ≤ j.unwinding p elapsed :=
  Running.elapsed_nonneg _

/-- How the call for the region at a position ends when nothing else stops it: how long after its
start, and with what. A call whose time is up unwinds first. A call without end has none. -/
def own (j : Job) (p : Nat) : Option (Rat × Except LintError Text) :=
  let verdict := j.verdict p (j.callAt p).outcome
  match j.limit, (j.callAt p).duration with
  | .spent, _ => some (0, .error (j.lateError p))
  | _, .none => some (0, verdict)
  | .within (some l), .seconds s =>
    if l ≤ Running.elapsed s then some (l + j.unwinding p l, .error (j.lateError p))
    else some (Running.elapsed s, verdict)
  | .within (some l), .endless => some (l + j.unwinding p l, .error (j.lateError p))
  | _, .seconds s => some (Running.elapsed s, verdict)
  | _, .endless => none

theorem own_spent {j : Job} (h : j.limit = .spent) (p : Nat) :
    j.own p = some (0, .error (j.lateError p)) := by
  simp [own, h]

/-- A call that is over at once has its end at its start. -/
theorem own_of_none {j : Job} {p : Nat} (hl : j.limit ≠ .spent)
    (h : (j.callAt p).duration = .none) :
    j.own p = some (0, j.verdict p (j.callAt p).outcome) := by
  simp only [own, h]

/-- No call ends before it starts. -/
theorem own_nonneg {j : Job} {p : Nat} {d : Rat} {e : Except LintError Text}
    (h : j.own p = some (d, e)) : 0 ≤ d := by
  have hwithin : ∀ l, j.limit = .within (some l) → 0 ≤ l + j.unwinding p l :=
    fun l hl => add_nonneg (Limit.within_nonneg hl) (j.unwinding_nonneg p l)
  simp only [own] at h
  split at h
  · cases h; exact le_rfl
  · cases h; exact le_rfl
  · next hl _ =>
    split at h
    · cases h; exact hwithin _ hl
    · cases h; exact Running.elapsed_nonneg _
  · next hl _ => cases h; exact hwithin _ hl
  · cases h; exact Running.elapsed_nonneg _
  · cases h

/-- How long the call for the region at a position takes by itself, if it is ever over. -/
def lasts? (j : Job) (p : Nat) : Option Rat :=
  match (j.callAt p).duration with
  | .none => some 0
  | .seconds s => some (Running.elapsed s)
  | .endless => none

/-- A call that the limit admits ends when it is over, with what the formatter gives. -/
theorem own_of_lasts {j : Job} {p : Nat} {d : Rat} (h : j.limit.Admits (j.callAt p).duration)
    (hd : j.lasts? p = some d) : j.own p = some (d, j.verdict p (j.callAt p).outcome) := by
  unfold lasts? at hd
  unfold own
  cases hl : j.limit with
  | spent => rw [hl] at h; exact h.elim
  | unlimited =>
    cases hdur : (j.callAt p).duration with
    | none | seconds s => rw [hdur] at hd; cases hd; rfl
    | endless => rw [hdur] at hd; cases hd
  | within seconds =>
    cases hdur : (j.callAt p).duration with
    | none => rw [hdur] at hd; cases hd; rfl
    | endless => rw [hdur] at hd; cases hd
    | seconds s =>
      rw [hdur] at hd
      cases hd
      cases seconds with
      | none => rfl
      | some l =>
        rw [hl, hdur] at h
        exact if_neg (not_le.2 h)

/-- A call that the limit admits is over some time. -/
theorem lasts_of_admits {j : Job} {p : Nat} (h : j.limit.Admits (j.callAt p).duration) :
    ∃ d, j.lasts? p = some d := by
  unfold lasts?
  cases hdur : (j.callAt p).duration with
  | none => exact ⟨_, rfl⟩
  | seconds s => exact ⟨_, rfl⟩
  | endless =>
    rw [hdur] at h
    cases hl : j.limit with
    | within seconds => rw [hl] at h; cases seconds <;> exact h.elim
    | _ => rw [hl] at h; exact h.elim

theorem own_of_admits {j : Job} {p : Nat} (h : j.limit.Admits (j.callAt p).duration) :
    ∃ d, j.own p = some (d, j.verdict p (j.callAt p).outcome) := by
  obtain ⟨d, hd⟩ := lasts_of_admits h
  exact ⟨d, own_of_lasts h hd⟩

/-- A call that the limit does not admit goes on until its time is up. -/
theorem lasts_of_not_admits {j : Job} {p : Nat} {l : Rat} (hlimit : j.limit = .within (some l))
    (h : ¬ j.limit.Admits (j.callAt p).duration) {d : Rat} (hd : j.lasts? p = some d) : l ≤ d := by
  unfold lasts? at hd
  rw [hlimit] at h
  cases hdur : (j.callAt p).duration with
  | none => rw [hdur] at h; exact absurd trivial h
  | seconds s =>
    rw [hdur] at h hd
    cases hd
    exact not_lt.1 h
  | endless => rw [hdur] at hd; cases hd

/-- A call that the limit does not admit ends when its time is up and it has unwound. -/
theorem own_of_not_admits {j : Job} {p : Nat} {l : Rat} (hlimit : j.limit = .within (some l))
    (h : ¬ j.limit.Admits (j.callAt p).duration) :
    j.own p = some (l + j.unwinding p l, .error (j.lateError p)) := by
  rw [hlimit] at h
  unfold own
  rw [hlimit]
  cases hdur : (j.callAt p).duration with
  | none => rw [hdur] at h; exact absurd trivial h
  | seconds s => rw [hdur] at h; exact if_pos (not_lt.1 h)
  | endless => rfl

end Job

/-! ## Calls that go on -/

namespace Running

variable {j : Job} {r : Running}

/-- A call runs out of time when there is a limit that does not admit it. -/
theorem expires_iff (hr : r.call = j.callAt r.position) (hl : j.limit ≠ .spent) :
    r.expires j.limit = true ↔
      ∃ l, j.limit = .within (some l) ∧ ¬ j.limit.Admits (j.callAt r.position).duration := by
  unfold expires deadline? finish?
  rw [hr]
  cases hlim : j.limit with
  | spent => exact absurd hlim hl
  | unlimited => simp
  | within seconds =>
    cases seconds with
    | none => simp
    | some l => cases (j.callAt r.position).duration <;> simp [Limit.Admits]

/-- A call that is cancelled so long after its start has unwound by then. -/
theorem unwound_add (hr : r.call = j.callAt r.position) (d : Rat) :
    r.unwound (r.since + d) = r.since + (d + j.unwinding r.position d) := by
  rw [unwound, add_sub_cancel_left, hr, add_assoc]
  rfl

/-- A call was cancelled when there is a limit that does not admit it and its time is up. -/
theorem lapsed?_eq_some_iff (hr : r.call = j.callAt r.position) (hl : j.limit ≠ .spent)
    {now t : Rat} :
    r.lapsed? j.limit now = some t ↔
      ∃ l, j.limit = .within (some l) ∧ ¬ j.limit.Admits (j.callAt r.position).duration ∧
        t = r.since + l ∧ t ≤ now := by
  unfold lapsed?
  constructor
  · intro h
    split at h
    · next hexpires =>
      obtain ⟨l, hlimit, hadmits⟩ := (expires_iff hr hl).1 hexpires
      rw [hlimit] at h
      obtain ⟨hdeadline, hnow⟩ := Option.filter_eq_some_iff.mp h
      cases hdeadline
      exact ⟨l, hlimit, hadmits, rfl, of_decide_eq_true hnow⟩
    · cases h
  · rintro ⟨l, hlimit, hadmits, rfl, hnow⟩
    rw [if_pos ((expires_iff hr hl).2 ⟨l, hlimit, hadmits⟩), hlimit]
    exact Option.filter_eq_some_iff.mpr ⟨rfl, decide_eq_true hnow⟩

/-- A call that goes on is over when its own end comes. -/
theorem moment?_eq (hr : r.call = j.callAt r.position) (hl : j.limit ≠ .spent) :
    r.moment? j.limit = (j.own r.position).map fun end_ => r.since + end_.1 := by
  unfold moment?
  split
  · next hexpires =>
    obtain ⟨l, hlimit, hadmits⟩ := (expires_iff hr hl).1 hexpires
    rw [Job.own_of_not_admits hlimit hadmits, hlimit]
    exact congrArg some (unwound_add hr l)
  · next hexpires =>
    -- a call that does not run out of time is admitted, or there is no time that can be up
    unfold finish? Job.own
    rw [hr]
    cases hlim : j.limit with
    | spent => exact absurd hlim hl
    | unlimited => cases (j.callAt r.position).duration <;> simp
    | within seconds =>
      cases seconds with
      | none => cases (j.callAt r.position).duration <;> simp
      | some l =>
        have hadmits : j.limit.Admits (j.callAt r.position).duration := by
          by_contra hnot
          exact hexpires ((expires_iff hr hl).2 ⟨l, hlim, hnot⟩)
        rw [hlim] at hadmits
        cases hd : (j.callAt r.position).duration with
        | none => simp
        | endless => rw [hd] at hadmits; exact hadmits.elim
        | seconds s =>
          rw [hd] at hadmits
          simp [not_le.2 hadmits]

/-- A call that is over at an instant started as long before it as it takes to its own end. -/
theorem since_add_own (hr : r.call = j.callAt r.position) (hl : j.limit ≠ .spent) {t d : Rat}
    {e : Except LintError Text} (hm : r.moment? j.limit = some t)
    (hown : j.own r.position = some (d, e)) : r.since + d = t := by
  rw [moment?_eq hr hl, hown] at hm
  exact Option.some.inj hm

/-- A call that is over some time and does not run out of time is admitted by the limit. -/
theorem admits_of_not_expires (hr : r.call = j.callAt r.position) (hl : j.limit ≠ .spent)
    (h : r.expires j.limit = false) (hm : (r.moment? j.limit).isSome) :
    j.limit.Admits (j.callAt r.position).duration := by
  by_contra hadmits
  have hnot : ∀ l, j.limit ≠ .within (some l) := by
    intro l hlimit
    rw [(expires_iff hr hl).2 ⟨l, hlimit, hadmits⟩] at h
    cases h
  -- without a time that can run out, only a call that never ends is not admitted
  rw [moment?_eq hr hl] at hm
  unfold Job.own at hm
  cases hlim : j.limit with
  | spent => exact hl hlim
  | unlimited =>
    rw [hlim] at hm hadmits
    cases hd : (j.callAt r.position).duration with
    | none | seconds s => rw [hd] at hadmits; exact hadmits trivial
    | endless => simp [hd] at hm
  | within seconds =>
    cases seconds with
    | some l => exact hnot l hlim
    | none =>
      rw [hlim] at hm hadmits
      cases hd : (j.callAt r.position).duration with
      | none | seconds s => rw [hd] at hadmits; exact hadmits trivial
      | endless => simp [hd] at hm

/-- The end of a call that runs out of time is that of its limit. -/
theorem own_of_expires (hr : r.call = j.callAt r.position) (hl : j.limit ≠ .spent)
    (h : r.expires j.limit = true) :
    r.call.duration ≠ .none ∧
      ∃ d, j.own r.position = some (d, .error (j.lateError r.position)) := by
  obtain ⟨l, hlimit, hadmits⟩ := (expires_iff hr hl).1 h
  refine ⟨fun hnone => hadmits ?_, _, Job.own_of_not_admits hlimit hadmits⟩
  rw [← hr, hnone, hlimit]
  trivial

/-- A call that does not run out of time ends with what the formatter gives. -/
theorem own_of_not_expires (hr : r.call = j.callAt r.position) (hl : j.limit ≠ .spent)
    (h : r.expires j.limit = false) (hm : (r.moment? j.limit).isSome) :
    ∃ d, j.own r.position = some (d, j.verdict r.position r.call.outcome) := by
  rw [hr]
  exact Job.own_of_admits (admits_of_not_expires hr hl h hm)

end Running

/-! ## Regions numbered from zero -/

namespace Job

/-- The regions carry the numbers from zero, each once, in some order. -/
def Indexed (j : Job) : Prop :=
  (j.regions.map (·.index)).Perm ((List.range j.regions.length).map fun n : Nat => (n : Int))

variable {j : Job}

theorem region_eq {p : Nat} (hp : p < j.regions.length) : j.region p = j.regions[p] := by
  rw [region, List.getElem?_eq_getElem hp]
  rfl

/-- The number of a region, as a slot. -/
def slot (j : Job) (p : Nat) : Nat := (j.region p).index.toNat

theorem Indexed.slot_lt (hj : j.Indexed) {p : Nat} (hp : p < j.regions.length) :
    j.slot p < j.regions.length ∧ (j.region p).index = j.slot p := by
  have hmem : (j.region p).index ∈ j.regions.map (·.index) := by
    rw [region_eq hp]
    exact List.mem_map_of_mem (List.getElem_mem hp)
  obtain ⟨n, hn, he⟩ := List.mem_map.mp (hj.mem_iff.mp hmem)
  have hs : j.slot p = n := by rw [slot, ← he, Int.toNat_natCast]
  exact ⟨hs ▸ List.mem_range.mp hn, by rw [hs, ← he]⟩

/-- Different regions have different slots. -/
theorem Indexed.slot_inj (hj : j.Indexed) {p q : Nat} (hp : p < j.regions.length)
    (hq : q < j.regions.length) (h : j.slot p = j.slot q) : p = q := by
  have hnd : (j.regions.map (·.index)).Nodup := by
    exact hj.nodup_iff.mpr (List.nodup_range.map Nat.cast_injective)
  have hi : j.regions[p].index = j.regions[q].index := by
    rw [← region_eq hp, ← region_eq hq, (hj.slot_lt hp).2, (hj.slot_lt hq).2, h]
  have hp' : p < (j.regions.map (·.index)).length := by rwa [List.length_map]
  have hq' : q < (j.regions.map (·.index)).length := by rwa [List.length_map]
  refine (@List.Nodup.getElem_inj_iff _ _ hnd p hp' q hq').mp ?_
  rw [List.getElem_map, List.getElem_map]
  exact hi

/-- Every slot is that of a region. -/
theorem Indexed.exists_slot (hj : j.Indexed) {i : Nat} (hi : i < j.regions.length) :
    ∃ p, p < j.regions.length ∧ j.slot p = i := by
  have hmem : (i : Int) ∈ j.regions.map (·.index) :=
    hj.mem_iff.mpr (List.mem_map_of_mem (List.mem_range.mpr hi))
  obtain ⟨p, hp, he⟩ := List.mem_iff_getElem.mp hmem
  rw [List.length_map] at hp
  rw [List.getElem_map] at he
  exact ⟨p, hp, by rw [slot, region_eq hp, he, Int.toNat_natCast]⟩

end Job

theorem State.slot?_natCast {n i : Nat} (h : i < n) : State.slot? n (i : Int) = some i := by
  have hneg : ¬ (i : Int) < 0 := by omega
  have hin : 0 ≤ (i : Int) ∧ (i : Int) < n := by omega
  simp only [State.slot?, if_neg hneg, if_pos hin, Int.toNat_natCast]

end Backtick.Transform
