import Backtick.Proofs.Transform.Run
import Backtick.Proofs.Transform.Stop

/-!
# The results do not depend on the order of completion

When every call gives a text in time, a run makes one call for each region, and its results are the
texts in the order of the region numbers. Durations, the time limit and the limit on the number of
calls decide when calls start and end, and in which order; they do not show in the results.

The proof does not follow the orders: every slot is filled by the call of its own region
(`Ledger.settled`), and at the end of the run no slot is left.
-/

namespace Backtick.Transform

variable {j : Job} {o : Nat → Text}

/-- Every call of a job gives a text in time: `o i` for the region with number `i`. -/
def Job.Gives (j : Job) (o : Nat → Text) : Prop :=
  ∀ p < j.regions.length, (j.callAt p).outcome = .ok (.text (o (j.slot p))) ∧
    j.limit.Admits (j.callAt p).duration

/-- The text with the results of a run spliced into it. -/
def Job.spliced (j : Job) (maxConcurrency : Option Int) : Except Fault (Except SpliceFault Text) :=
  (transformRegions j maxConcurrency).result.map (splice j.text j.regions)

theorem Job.Gives.own (h : j.Gives o) {p : Nat} (hp : p < j.regions.length) :
    ∃ d, j.own p = some (d, .ok (o (j.slot p))) := by
  obtain ⟨houtcome, hadmits⟩ := h p hp
  obtain ⟨d, hd⟩ := Job.own_of_admits hadmits
  rw [houtcome] at hd
  exact ⟨d, hd⟩

/-- Slots that are filled by the calls of their regions hold the texts in order. -/
theorem slots_eq (hj : j.Indexed) (h : j.Gives o) {s : State}
    (hslots : s.slots.length = j.regions.length) (hfilled : ∀ p < j.regions.length, s.Filled j p) :
    s.slots = (List.range j.regions.length).map fun i => some ⟨i, o i⟩ := by
  refine List.ext_getElem (by simpa using hslots) fun i hi _ => ?_
  obtain ⟨p, hp, rfl⟩ := hj.exists_slot (hslots ▸ hi)
  obtain ⟨d, t, hown, hslot⟩ := hfilled p hp
  obtain ⟨d', hown'⟩ := h.own hp
  rw [hown] at hown'
  cases hown'
  rw [List.getElem?_eq_getElem hi, (hj.slot_lt hp).2] at hslot
  rw [List.getElem_map, List.getElem_range]
  exact Option.some.inj hslot

/-- When every call gives a text in time, the results are those texts in order, and one call was
made for each region. -/
theorem result_of_gives {k : Option Int} (hj : j.Indexed) (hk : ∀ n, k = some n → 0 ≤ n)
    (h : j.Gives o) :
    (transformRegions j k).result =
        .ok ((List.range j.regions.length).map fun i : Nat => ⟨i, o i⟩) ∧
      started (transformRegions j k).trace = List.range j.regions.length := by
  by_cases hne : j.regions = []
  · simp [transformRegions, hne, started]
  have hpos : 0 < j.regions.length := List.length_pos_iff.mpr hne
  have hl : j.limit ≠ .spent := by
    intro hl
    have hadmits := (h 0 hpos).2
    rw [hl] at hadmits
    exact hadmits
  obtain ⟨most, hpermits, hmost⟩ := permitsOf_of_nonneg hk
  rw [transformRegions_of_ne_nil hne hpermits, report_trace, State.started_stop]
  cases ends_of_initial hmost hj hl with
  | failed p e hp hfault hfailed hfirst =>
    obtain ⟨t, d, how, -, hown, -⟩ := hfailed
    obtain ⟨d', hown'⟩ := h.own hp
    rw [hown] at hown'
    cases hown'
  | stuck p hp hendless hnone =>
    obtain ⟨d, hown⟩ := h.own hp
    rw [hendless] at hown
    cases hown
  | done hfault hrunning hstarted hslots hfilled =>
    refine ⟨?_, hstarted⟩
    rw [report_of_done hfault hrunning, slots_eq hj h hslots hfilled]
    simp [List.filterMap_map]

/-- **Completion-order independence.** When every call gives a text in time, one call is made for
each region, on its own slice of the text, and the results are the texts in the order of the region
numbers. Any other durations, time limit and limit on the number of calls lead to the same spliced
text. -/
theorem transformRegions_of_gives {k : Option Int} (hj : j.Indexed)
    (hk : ∀ n, k = some n → 0 ≤ n) (h : j.Gives o) :
    (transformRegions j k).result =
        .ok ((List.range j.regions.length).map fun i : Nat => ⟨i, o i⟩) ∧
      started (transformRegions j k).trace = List.range j.regions.length ∧
      (started (transformRegions j k).trace).map j.raw = j.regions.map (·.slice j.text) ∧
      ∀ (j' : Job) (k' : Option Int), j'.text = j.text → j'.regions = j.regions → j'.Gives o →
        (∀ n, k' = some n → 0 ≤ n) → j'.spliced k' = j.spliced k := by
  obtain ⟨hresult, hstarted⟩ := result_of_gives hj hk h
  refine ⟨hresult, hstarted, ?_, ?_⟩
  · rw [hstarted]
    refine List.ext_getElem (by simp) fun p hp _ => ?_
    rw [List.getElem_map, List.getElem_map, List.getElem_range, Job.raw, Job.region_eq]
  · intro j' k' htext hregions h' hk'
    have hj' : j'.Indexed := by
      unfold Job.Indexed
      rw [hregions]
      exact hj
    obtain ⟨hresult', -⟩ := result_of_gives hj' hk' h'
    rw [Job.spliced, Job.spliced, hresult, hresult', htext, hregions]

/-- Three regions, numbered against their order, of which two have the same text. The first call
takes longer than the other two, one after the other. -/
def crossed : Job where
  text := "bab"
  regions := [⟨1, 0, 1⟩, ⟨2, 1, 2⟩, ⟨0, 2, 3⟩]
  formatter :=
    { name := "f"
      call := fun n t =>
        { duration := .seconds (if n = 0 then 3 else 1)
          outcome := .ok (.text (t ++ Text.ofNat n)) } }

/-- Two calls at a time: the first call is over last, and the slots keep the results apart. -/
theorem transformRegions_crossed :
    (transformRegions crossed (some 2)).result = .ok [⟨0, "b2"⟩, ⟨1, "b0"⟩, ⟨2, "a1"⟩] ∧
      started (transformRegions crossed (some 2)).trace = [0, 1, 2] ∧
      endedBy .returned (transformRegions crossed (some 2)).trace = [1, 2, 0] := by
  have hgives : crossed.Gives fun i =>
      match i with
      | 0 => "b2"
      | 1 => "b0"
      | _ => "a1" := by
    intro p hp
    match p, hp with
    | 0, _ => exact ⟨rfl, trivial⟩
    | 1, _ => exact ⟨rfl, trivial⟩
    | 2, _ => exact ⟨rfl, trivial⟩
  have hindexed : crossed.Indexed := by
    unfold Job.Indexed
    decide
  have hk : ∀ n : Int, some 2 = some n → 0 ≤ n := by
    rintro n ⟨⟩
    decide
  obtain ⟨hresult, hstarted, -⟩ := transformRegions_of_gives hindexed hk hgives
  exact ⟨hresult, hstarted, by decide +kernel⟩

end Backtick.Transform
