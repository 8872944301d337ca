import Backtick.Proofs.Process.Course
import Backtick.Proofs.Transform.Ended

/-!
# The processes of a run

A run with a formatter that runs a command starts a process for each call. What can be run, the
delay and the course of the process may be others for each call, so the starts, the exits, the
failures and the ends of the calls may come in any order. When a call has ended, its process has
exited and was waited for. The processes that were killed are those that ran when their calls were
cancelled.

A call that ends by itself has got all signals that come until then. One that ends by its time limit
or with the run is cancelled between the signals that come before and those that come after; the
signals of that very moment may come on either side. The handler of a call that was cancelled waits
for its process, which may take any time, and the call ends when that is over.

A run that succeeds leaves no process behind. A run that fails does when the time of a call was up
at the failure and its process takes longer than those of the calls that the failure cancels: it was
killed, and the run does not wait for it.

* `Leaves` — how a call may leave its handler when it ends
* `Leaves.settled` — what holds of the process then
* `Course.exists_leaves` — a call that ends leaves its handler in some way
* `Unwinds`, `Unwinds.pending` — a call that still unwinds has not waited for its process
* `transformRegions_processes` — whole runs
-/

namespace Backtick

namespace Transform

variable {c : FormatCommand} {a : Attempt} {line : List (Rat × Signal)} {elapsed lasts : Rat}
  {how : Ending} {h : Handler}

/-! ## Moments of a call -/

/-- At a moment the first signals have come. Those of that very moment may have come. -/
structure Cut (line : List (Rat × Signal)) (elapsed : Rat) (before after : List (Rat × Signal)) :
    Prop where
  eq : line = before ++ after
  reached : ∀ x ∈ before, x.1 ≤ elapsed
  ahead : ∀ x ∈ after, elapsed ≤ x.1

/-- When time goes forward, there is a moment at which all signals until then have come. -/
theorem exists_cut (hline : line.Pairwise fun x y => x.1 ≤ y.1) (elapsed : Rat) :
    ∃ before after, Cut line elapsed before after ∧ ∀ x ∈ after, elapsed < x.1 := by
  induction line with
  | nil => exact ⟨[], [], ⟨rfl, nofun, nofun⟩, nofun⟩
  | cons x rest ih =>
    obtain ⟨hx, hrest⟩ := List.pairwise_cons.mp hline
    by_cases hle : x.1 ≤ elapsed
    · obtain ⟨before, after, hcut, hlater⟩ := ih hrest
      refine ⟨x :: before, after, ⟨congrArg (x :: ·) hcut.eq, fun y hy => ?_, hcut.ahead⟩, hlater⟩
      rcases List.mem_cons.mp hy with rfl | hy
      · exact hle
      · exact hcut.reached y hy
    · have hlater : ∀ y ∈ x :: rest, elapsed < y.1 := by
        intro y hy
        rcases List.mem_cons.mp hy with rfl | hy
        · exact not_le.mp hle
        · exact (not_le.mp hle).trans_le (hx y hy)
      exact ⟨[], x :: rest, ⟨rfl, nofun, fun y hy => (hlater y hy).le⟩, hlater⟩

theorem notMem_signals (hline : ∀ x ∈ line, x.2 ≠ .cancelled) : .cancelled ∉ line.map Prod.snd := by
  intro hmem
  obtain ⟨x, hx, he⟩ := List.mem_map.mp hmem
  exact hline x hx he

theorem Cut.undisturbed {before after : List (Rat × Signal)} (h : Cut line elapsed before after)
    (hline : ∀ x ∈ line, x.2 ≠ .cancelled) : .cancelled ∉ before.map Prod.snd :=
  notMem_signals fun x hx => hline x (h.eq ▸ List.mem_append_left _ hx)

/-- So many seconds after the start of the call, its process may run. -/
def RunsAt (c : FormatCommand) (a : Attempt) (line : List (Rat × Signal)) (elapsed : Rat) : Prop :=
  ∃ before after, Cut line elapsed before after ∧
    (Handler.run c a {} (before.map Prod.snd)).runs = true

/-! ## Ends of calls -/

/-- The handler of a call that is cancelled behind these signals. -/
def cancelledBehind (c : FormatCommand) (a : Attempt) (before : List (Rat × Signal)) : Handler :=
  (Handler.run c a {} (before.map Prod.snd)).step c a .cancelled

/-- How a call that ends in some way may leave its handler. It goes on for `elapsed` seconds until
it ends by itself or is cancelled, and then it may take as many as `lasts` to unwind. -/
inductive Leaves (c : FormatCommand) (a : Attempt) (line : List (Rat × Signal))
    (elapsed lasts : Rat) (how : Ending) : Handler → Prop where
  /-- it has got all signals until then -/
  | itself {before after : List (Rat × Signal)} (hhow : how = .returned ∨ how = .failed)
      (hcut : Cut line elapsed before after) (hlater : ∀ x ∈ after, elapsed < x.1) :
      Leaves c a line elapsed lasts how (Handler.run c a {} (before.map Prod.snd))
  /-- it was cancelled, and other signals have come until it has unwound -/
  | cancelled {before after rest : List (Rat × Signal)} {t : Rat}
      (hhow : how = .expired ∨ how = .stopped) (hcut : Cut line elapsed before after)
      (hrest : ∀ x ∈ rest, x.2 ≠ .cancelled)
      (hunwound : Handler.unwoundAt? c a (cancelledBehind c a before) rest = some t)
      (ht : t ≤ lasts) :
      Leaves c a line elapsed lasts how
        ((cancelledBehind c a before).run c a (rest.map Prod.snd))

/-- What holds of the handler of a call that has ended. -/
structure Settled (c : FormatCommand) (a : Attempt) (line : List (Rat × Signal)) (elapsed : Rat)
    (how : Ending) (h : Handler) : Prop where
  isOver : h.isOver = true
  /-- its process has exited and was waited for, if there was one -/
  gone : h.Gone
  /-- if the process was killed, it ran when the call was cancelled -/
  killed : h.killed = true → (how = .expired ∨ how = .stopped) ∧ RunsAt c a line elapsed
  /-- a call that ends by itself gives what its process has come to, which exited by itself -/
  result : how = .returned ∨ how = .failed → h.result = some (a.outcome c) ∧
    ∀ e, a = .started e → h.process = some ⟨.reaped, false⟩

/-- Behind a cancellation the handler is in shape, and its process was killed if it ran. -/
theorem Cut.cancelled {before after rest : List (Rat × Signal)} (h : Cut line elapsed before after)
    (hline : ∀ x ∈ line, x.2 ≠ .cancelled) (hrest : ∀ x ∈ rest, x.2 ≠ .cancelled) :
    Handler.Shape c a true ((cancelledBehind c a before).run c a (rest.map Prod.snd)) ∧
      ((cancelledBehind c a before).run c a (rest.map Prod.snd)).killed =
        (Handler.run c a {} (before.map Prod.snd)).runs := by
  have hrun := Handler.run_cancelled (c := c) (a := a) (h.undisturbed hline) (notMem_signals hrest)
  rwa [Handler.run_append] at hrun

/-- The handler of a call that has ended is settled. When the call has ended by itself, it has taken
as long as its course. -/
theorem Leaves.settled (h' : Leaves c a line elapsed lasts how h)
    (hline : ∀ x ∈ line, x.2 ≠ .cancelled)
    (htime : how = .returned ∨ how = .failed →
      ∃ t, Handler.overAt? c a {} line = some t ∧ t ≤ elapsed) :
    Settled c a line elapsed how h := by
  cases h' with
  | @itself before after hhow hcut hlater =>
    have hshape : Handler.Shape c a false (Handler.run c a {} (before.map Prod.snd)) :=
      Handler.Shape.delayed.run (hcut.undisturbed hline)
    have hover : (Handler.run c a {} (before.map Prod.snd)).isOver = true := by
      obtain ⟨t, ht, hle⟩ := htime hhow
      rw [hcut.eq] at ht
      exact Handler.isOver_of_overAt? ht fun x hx => hle.trans_lt (hlater x hx)
    refine ⟨hover, hshape.gone hover, fun hkilled => ?_, fun _ => hshape.result_of_isOver hover⟩
    rw [hshape.killed_eq_false] at hkilled
    cases hkilled
  | @cancelled before after rest t hhow hcut hrest hunwound ht =>
    obtain ⟨hshape, hkilled⟩ := hcut.cancelled (c := c) (a := a) hline hrest
    have hover := Handler.isOver_run_of_unwoundAt? hunwound
    refine ⟨hover, hshape.gone hover, fun h => ?_, fun hitself => ?_⟩
    · exact ⟨hhow, before, after, hcut, hkilled ▸ h⟩
    · rcases hhow with rfl | rfl <;> rcases hitself with h | h <;> cases h

/-! ## Calls that still unwind -/

/-- How the handler of a call may stand that was cancelled `elapsed` seconds after its start, takes
`lasts` seconds to unwind, and has been at it for `since`. -/
inductive Unwinds (c : FormatCommand) (a : Attempt) (line : List (Rat × Signal))
    (elapsed lasts since : Rat) : Handler → Prop where
  | mk {before after early later : List (Rat × Signal)} (hcut : Cut line elapsed before after)
      (hearly : ∀ x ∈ early, x.1 ≤ since) (hrest : ∀ x ∈ early ++ later, x.2 ≠ .cancelled)
      (hunwound : Handler.unwoundAt? c a (cancelledBehind c a before) (early ++ later) =
        some lasts) :
      Unwinds c a line elapsed lasts since
        ((cancelledBehind c a before).run c a (early.map Prod.snd))

/-- What holds of the handler of a call that still unwinds. -/
structure Pending (c : FormatCommand) (a : Attempt) (line : List (Rat × Signal)) (elapsed : Rat)
    (h : Handler) : Prop where
  /-- its process was started, and the wait for it is not over -/
  waits : ∃ drained p, h = ⟨.waiting drained, some p⟩ ∧ ¬ (drained = true ∧ p.life = .reaped)
  /-- if the process was killed, it ran when the call was cancelled -/
  killed : h.killed = true → RunsAt c a line elapsed

/-- A call that has not unwound waits for its process. -/
theorem Unwinds.pending {since : Rat} (h' : Unwinds c a line elapsed lasts since h)
    (hline : ∀ x ∈ line, x.2 ≠ .cancelled) (hsince : 0 ≤ since) (hlasts : since < lasts) :
    Pending c a line elapsed h := by
  obtain ⟨hcut, hearly, hrest, hunwound⟩ := h'
  obtain ⟨hshape, hkilled⟩ := hcut.cancelled (c := c) (a := a) hline
    fun x hx => hrest x (List.mem_append_left _ hx)
  have hopen := Handler.not_isOver_of_unwoundAt? hunwound (hsince.trans_lt hlasts)
    fun x hx => (hearly x hx).trans_lt hlasts
  refine ⟨?_, fun h => ⟨_, _, hcut, hkilled ▸ h⟩⟩
  generalize (cancelledBehind c a _).run c a _ = h at hshape hopen
  cases hshape with
  | waiting hwait => exact ⟨_, _, rfl, hwait⟩
  | refused _ | finished _ | unborn | buried => cases hopen

end Transform

/-- A call that ends leaves its handler in some way, however long it may take to unwind. -/
theorem Course.exists_leaves {c : FormatCommand} {a : Attempt} (w : Course c a)
    (delay : Option Rat) (elapsed : Rat) {lasts : Rat} (hlasts : 0 ≤ lasts)
    (how : Transform.Ending) :
    ∃ h, Transform.Leaves c a (w.line delay) elapsed lasts how h := by
  obtain ⟨before, after, hcut, hlater⟩ := Transform.exists_cut (w.line_ascending delay) elapsed
  have hshape : Handler.Shape c a true (Transform.cancelledBehind c a before) :=
    (Handler.Shape.delayed.run (hcut.undisturbed (w.line_undisturbed delay))).cancel
  have hcancelled : how = .expired ∨ how = .stopped →
      ∃ h, Transform.Leaves c a (w.line delay) elapsed lasts how h := by
    intro hhow
    by_cases hover : (Transform.cancelledBehind c a before).isOver = true
    · have hunwound : Handler.unwoundAt? c a (Transform.cancelledBehind c a before) [] = some 0 :=
        if_pos hover
      exact ⟨_, .cancelled hhow hcut (by simp) hunwound hlasts⟩
    · exact ⟨_, .cancelled hhow hcut (by simp)
        (hshape.unwoundAt?_exits (Bool.not_eq_true _ ▸ hover) lasts) le_rfl⟩
  cases how with
  | returned => exact ⟨_, .itself (Or.inl rfl) hcut hlater⟩
  | failed => exact ⟨_, .itself (Or.inr rfl) hcut hlater⟩
  | expired => exact hcancelled (Or.inl rfl)
  | stopped => exact hcancelled (Or.inr rfl)

/-! ## Whole runs -/

namespace FormatCommand

variable {c : FormatCommand} {a : Attempt}

/-- Only a process that exits with status zero gives a text: what it has written. -/
theorem outcome_eq_text {t : Text} (h : a.outcome c = .ok (.text t)) :
    ∃ e, a = .started e ∧ e.status = 0 ∧ Utf8.decode e.output = .ok t := by
  cases a with
  | refused f => cases h
  | started e =>
    unfold Attempt.outcome FormatCommand.outcome at h
    dsimp only at h
    split at h
    · cases h
    · next hstatus =>
      split at h
      · next t' hdecode =>
        cases h
        exact ⟨e, rfl, not_not.mp hstatus, hdecode⟩
      · cases h

end FormatCommand

namespace Transform

variable {c : FormatCommand} {programs : Nat → Programs} {delay : Nat → Option Rat} {j : Job}

/-- What comes of starting the command for the region at a position. -/
def Job.attemptAt (j : Job) (c : FormatCommand) (programs : Nat → Programs) (p : Nat) : Attempt :=
  c.attempt (programs p) (j.raw p)

theorem Running.le_elapsed (s : Rat) : s ≤ Running.elapsed s := by
  unfold Running.elapsed
  split
  · next hneg => exact hneg.le
  · exact le_rfl

/-- The call for the region at a position gives what its start has come to. -/
theorem Job.callAt_outcome (hj : j.formatter = c.formatterIn programs delay) (p : Nat) :
    (j.callAt p).outcome = (j.attemptAt c programs p).outcome c := by
  unfold callAt
  rw [hj]
  exact FormatCommand.call_outcome

/-- The call for the region at a position takes as long as its course. -/
theorem Job.overAt?_line (hj : j.formatter = c.formatterIn programs delay) {p : Nat} {d : Rat}
    (hd : j.lasts? p = some d) (w : Course c (j.attemptAt c programs p)) :
    ∃ t, Handler.overAt? c (j.attemptAt c programs p) {} (w.line (delay p)) = some t ∧ t ≤ d := by
  have hline : Handler.overAt? c (j.attemptAt c programs p) {} (w.line (delay p)) =
      (j.callAt p).duration.length? := by
    unfold callAt
    rw [hj]
    exact FormatCommand.overAt?_line w
  rw [hline]
  unfold lasts? at hd
  cases hduration : (j.callAt p).duration with
  | none =>
    rw [hduration] at hd
    cases hd
    exact ⟨0, rfl, le_rfl⟩
  | seconds s =>
    rw [hduration] at hd
    cases hd
    exact ⟨s, rfl, Running.le_elapsed s⟩
  | endless =>
    rw [hduration] at hd
    cases hd

/-- How long after its start a call ends that goes on for some time, and is cancelled then unless it
ends by itself. -/
def Job.endsAfter (j : Job) (p : Nat) (elapsed : Rat) : Ending → Rat
  | .returned | .failed => elapsed
  | .expired | .stopped => elapsed + j.unwinding p elapsed

/-- A call goes on for some time until it ends by itself or is cancelled. -/
theorem EndsIn.exists_elapsed {cut t₀ d : Rat} {p : Nat} {how : Ending}
    (h : EndsIn j cut p t₀ d how) :
    ∃ elapsed, 0 ≤ elapsed ∧ d = j.endsAfter p elapsed how ∧
      (how = .returned ∨ how = .failed → j.lasts? p = some elapsed) := by
  cases h with
  | own hown =>
    cases hown with
    | late hlimit _ => exact ⟨_, Limit.within_nonneg hlimit, rfl, by simp⟩
    | finished hadmits hlasts =>
      refine ⟨d, (OwnEnd.finished hadmits hlasts).nonneg, ?_, fun _ => hlasts⟩
      cases (j.callAt p).outcome <;> rfl
  | stopped hstart _ => exact ⟨_, sub_nonneg.mpr hstart, rfl, by simp⟩

/-- **The processes of a run.** A run over any regions, with any limits, has a formatter that runs a
command. When a call has ended, its handler is settled, whatever the course of its process: the
process has exited and was waited for, and it was killed only if the call was cancelled while it
ran. A run that succeeds leaves no call behind, and each result is the decoded output of the process
of its region, which has exited by itself with status zero. A run that fails may leave a call behind
whose time was up at the failure and that has not unwound: its process has not been waited for. -/
theorem transformRegions_processes (hj : j.formatter = c.formatterIn programs delay)
    (k : Option Int) :
    (∃ cut, Concluded j cut (transformRegions j k).returnsAt (transformRegions j k).trace) ∧
    (∀ p t how, .ended p t how ∈ (transformRegions j k).trace →
      ∃ t₀ d, .started p t₀ ∈ (transformRegions j k).trace ∧ 0 ≤ d ∧
        t = t₀ + j.endsAfter p d how ∧
        ∀ w : Course c (j.attemptAt c programs p),
          (∃ h, Leaves c (j.attemptAt c programs p) (w.line (delay p)) d (j.unwinding p d) how h) ∧
          ∀ h, Leaves c (j.attemptAt c programs p) (w.line (delay p)) d (j.unwinding p d) how h →
            Settled c (j.attemptAt c programs p) (w.line (delay p)) d how h) ∧
    (∀ p ∈ ongoing (transformRegions j k).trace,
      ∃ t₀ l, .started p t₀ ∈ (transformRegions j k).trace ∧ j.limit = .within (some l) ∧
        ∀ w : Course c (j.attemptAt c programs p),
          ∀ h, Unwinds c (j.attemptAt c programs p) (w.line (delay p)) l (j.unwinding p l)
              ((transformRegions j k).returnsAt - (t₀ + l)) h →
            Pending c (j.attemptAt c programs p) (w.line (delay p)) l h) ∧
    ∀ rs, (transformRegions j k).result = .ok rs →
      ongoing (transformRegions j k).trace = [] ∧ ∀ r ∈ rs,
        ∃ p t e, .ended p t .returned ∈ (transformRegions j k).trace ∧
          r.index = (j.region p).index ∧ j.attemptAt c programs p = .started e ∧
          e.status = 0 ∧ Utf8.decode e.output = .ok r.text := by
  obtain ⟨cut, hconcluded⟩ := transformRegions_concluded j k
  refine ⟨⟨cut, hconcluded⟩, fun p t how hend => ?ended, fun p hp => ?behind,
    fun rs hrs => ⟨ongoing_of_result hrs, fun r hr => ?result⟩⟩
  case ended =>
    obtain ⟨t₀, d, hstart, rfl, hin⟩ := hconcluded.ends p t how hend
    obtain ⟨elapsed, hpos, rfl, hlasts⟩ := hin.exists_elapsed
    refine ⟨t₀, elapsed, hstart, hpos, rfl, fun w =>
      ⟨w.exists_leaves _ _ (j.unwinding_nonneg p _) _, fun h hleaves => ?_⟩⟩
    exact hleaves.settled (w.line_undisturbed _) fun hitself =>
      Job.overAt?_line hj (hlasts hitself) w
  case behind =>
    obtain ⟨t₀, l, hstart, hlimit, -, hcut, hover⟩ := (hconcluded.behind p).mp hp
    refine ⟨t₀, l, hstart, hlimit, fun w h hunwinds =>
      hunwinds.pending (w.line_undisturbed _) ?_ ?_⟩
    · exact sub_nonneg.mpr (hcut.trans hconcluded.cut_le)
    · linarith
  case result =>
    obtain ⟨p, t, hend, hindex, houtcome⟩ := transformRegions_sourced hrs r hr
    rw [Job.callAt_outcome hj] at houtcome
    obtain ⟨e, hattempt, hstatus, hdecode⟩ := FormatCommand.outcome_eq_text houtcome
    exact ⟨p, t, e, hend, hindex, hattempt, hstatus, hdecode⟩

/-- The first process gives a text after a second, and the fourth one has exited by then, but its
output stays open. The others go on for ever. When they are killed, the third one takes three
seconds to exit, and the sixth one takes one. -/
def mixedPrograms (n : Nat) : Programs where
  which word := some word
  start _ _ _ :=
    .ok (match n with
      | 0 => { takes := .seconds 1, status := 0, output := [0x41], errors := [] }
      | 2 => { takes := .endless, status := 0, output := [], errors := [], lingers := fun _ => 3 }
      | 3 => { takes := .seconds 3, status := 0, output := [0x42], errors := [] }
      | 5 => { takes := .endless, status := 0, output := [], errors := [], lingers := fun _ => 1 }
      | _ => { takes := .endless, status := 0, output := [], errors := [] })

/-- The fifth call is put off for five seconds. -/
def mixedDelay (n : Nat) : Option Rat := if n = 4 then some 5 else none

/-- A run over six regions with two seconds for each call, which has a process of its own. -/
def mixed : Job where
  text := "abcdef"
  regions := [⟨0, 0, 1⟩, ⟨1, 1, 2⟩, ⟨2, 2, 3⟩, ⟨3, 3, 4⟩, ⟨4, 4, 5⟩, ⟨5, 5, 6⟩]
  timeout := some (.whole 2)
  formatter := FormatCommand.formatterIn mixedPrograms {} mixedDelay

/-- What comes of starting the command for the region at a position. -/
def mixedAt (p : Nat) : Attempt := mixed.attemptAt {} mixedPrograms p

/-- The course of a process that exits when all that it wrote is read. -/
def plainAt (p : Nat) (h : ∀ s, (mixedAt p).takes.length? = some s → 0 ≤ s) :
    Course {} (mixedAt p) :=
  .plain {} _ h

/-- The fourth process exits after a second, but its output stays open for two more. -/
def unread : Course {} (mixedAt 3) where
  signals := [(1, .exits), (1, .noticed), (3, .drained)]
  ascending := by decide
  undisturbed := by decide
  takes := by rfl

theorem unwinding_mixed : mixed.unwinding 2 2 = 3 ∧ mixed.unwinding 5 1 = 1 := by decide +kernel

/-- The third process was killed after two seconds, and has not exited a second later. -/
theorem unwinds_mixed :
    Unwinds {} (mixedAt 2) ((plainAt 2 nofun).line none) 2 (mixed.unwinding 2 2) 1
      ⟨.waiting false, some ⟨.running, true⟩⟩ := by
  have hcut : Cut ((plainAt 2 nofun).line none) 2 [(0, .due)] [] :=
    ⟨by decide +kernel, by decide, nofun⟩
  have hunwound : Handler.unwoundAt? {} (mixedAt 2) (cancelledBehind {} (mixedAt 2) [(0, .due)])
      ([] ++ [(3, .exits), (3, .noticed), (3, .drained)]) = some (mixed.unwinding 2 2) := by
    rw [unwinding_mixed.1]
    rfl
  exact .mk hcut (by simp) (by decide) hunwound

/-- The fourth process had exited when its call was cancelled. -/
theorem leaves_unread :
    Leaves {} (mixedAt 3) (unread.line none) 2 (mixed.unwinding 3 2) .expired
      ⟨.done none, some ⟨.reaped, false⟩⟩ := by
  have hcut : Cut (unread.line none) 2 [(0, .due), (1, .exits), (1, .noticed)] [(3, .drained)] :=
    ⟨by decide +kernel, by decide, by decide⟩
  have hunwound : Handler.unwoundAt? {} (mixedAt 3)
      (cancelledBehind {} (mixedAt 3) [(0, .due), (1, .exits), (1, .noticed)]) [] = some 0 := rfl
  exact .cancelled (Or.inl rfl) hcut (by simp) hunwound (mixed.unwinding_nonneg 3 2)

/-- The fifth process was not started when its call was cancelled. -/
theorem leaves_unborn :
    Leaves {} (mixedAt 4) ((plainAt 4 nofun).line (some 5)) 2 (mixed.unwinding 4 2) .expired
      ⟨.done none, none⟩ := by
  have hcut : Cut ((plainAt 4 nofun).line (some 5)) 2 [] ((plainAt 4 nofun).line (some 5)) :=
    ⟨rfl, nofun, by decide +kernel⟩
  have hunwound : Handler.unwoundAt? {} (mixedAt 4)
      (cancelledBehind {} (mixedAt 4) []) [] = some 0 := rfl
  exact .cancelled (Or.inl rfl) hcut (by simp) hunwound (mixed.unwinding_nonneg 4 2)

/-- The sixth process was killed after a second, and exited a second later. -/
theorem leaves_killed :
    Leaves {} (mixedAt 5) ((plainAt 5 nofun).line none) 1 (mixed.unwinding 5 1) .stopped
      ⟨.done none, some ⟨.reaped, true⟩⟩ := by
  have hcut : Cut ((plainAt 5 nofun).line none) 1 [(0, .due)] [] :=
    ⟨by decide +kernel, by decide, nofun⟩
  have hunwound : Handler.unwoundAt? {} (mixedAt 5) (cancelledBehind {} (mixedAt 5) [(0, .due)])
      [(1, .exits), (1, .noticed), (1, .drained)] = some 1 := rfl
  exact .cancelled (Or.inr rfl) hcut (by decide) hunwound unwinding_mixed.2.ge

/-- With five calls at a time, the time of the second call is up after two seconds. The third call
is not waited for, and its process still runs when the run is over. The fourth process has exited by
then, the fifth one has not started, and the sixth one is killed and waited for. -/
theorem transformRegions_mixed :
    (transformRegions mixed (some 5)).trace =
        [.started 0 0, .started 1 0, .started 2 0, .started 3 0, .started 4 0,
          .ended 0 1 .returned, .started 5 1, .ended 1 2 .expired, .ended 3 2 .expired,
          .ended 4 2 .expired, .ended 5 3 .stopped] ∧
      Pending {} (mixedAt 2) ((plainAt 2 nofun).line none) 2
        ⟨.waiting false, some ⟨.running, true⟩⟩ ∧
      Settled {} (mixedAt 3) (unread.line none) 2 .expired
        ⟨.done none, some ⟨.reaped, false⟩⟩ ∧
      Settled {} (mixedAt 4) ((plainAt 4 nofun).line (some 5)) 2 .expired
        ⟨.done none, none⟩ ∧
      Settled {} (mixedAt 5) ((plainAt 5 nofun).line none) 1 .stopped
        ⟨.done none, some ⟨.reaped, true⟩⟩ := by
  have htrace : (transformRegions mixed (some 5)).trace =
      [.started 0 0, .started 1 0, .started 2 0, .started 3 0, .started 4 0,
        .ended 0 1 .returned, .started 5 1, .ended 1 2 .expired, .ended 3 2 .expired,
        .ended 4 2 .expired, .ended 5 3 .stopped] := by decide +kernel
  have hj : mixed.formatter = FormatCommand.formatterIn mixedPrograms {} mixedDelay := rfl
  obtain ⟨⟨cut, hconcluded⟩, hends, hbehind, -⟩ := transformRegions_processes hj (some 5)
  -- when a call has ended, and how long it unwinds, is enough to know when it was cancelled
  have hsettled : ∀ (p : Nat) (t₀ t d u : Rat) (how : Ending),
      .started p t₀ ∈ (transformRegions mixed (some 5)).trace →
      .ended p t how ∈ (transformRegions mixed (some 5)).trace →
      (∀ x, mixed.endsAfter p x how = x + u) → t₀ + (d + u) = t →
      ∀ w : Course {} (mixedAt p), ∀ h,
        Leaves {} (mixedAt p) (w.line (mixedDelay p)) d
          (mixed.unwinding p d) how h →
        Settled {} (mixedAt p) (w.line (mixedDelay p)) d how h := by
    intro p t₀ t d u how hstart hend hafter ht w h hleaves
    obtain ⟨t₁, d', hstart', -, ht', hw⟩ := hends p t how hend
    obtain rfl := started_unique hconcluded.nodup hstart hstart'
    rw [hafter] at ht'
    obtain rfl : d = d' := by linarith
    exact (hw w).2 h hleaves
  refine ⟨htrace, ?running, ?exited, ?unborn, ?killed⟩
  case running =>
    have hreturns : (transformRegions mixed (some 5)).returnsAt = 3 := by decide +kernel
    obtain ⟨t₀, l, hstart, hlimit, hw⟩ := hbehind 2 (by rw [htrace]; decide)
    have hstart' : .started 2 0 ∈ (transformRegions mixed (some 5)).trace := by
      rw [htrace]; decide +kernel
    obtain rfl := started_unique hconcluded.nodup hstart hstart'
    obtain rfl : l = 2 := by cases hlimit; rfl
    rw [hreturns, show (3 : Rat) - (0 + 2) = 1 by norm_num] at hw
    exact hw (plainAt 2 nofun) _ unwinds_mixed
  case exited =>
    refine hsettled 3 0 2 2 0 .expired ?_ ?_ (fun x => rfl) (by decide +kernel) unread _
      leaves_unread
    · rw [htrace]; decide +kernel
    · rw [htrace]; decide +kernel
  case unborn =>
    have hunborn : ∀ x, mixed.endsAfter 4 x .expired = x + 0 := by
      intro x
      show x + Running.elapsed (if x < 5 then 0 else 0) = x + 0
      rw [ite_self]
      rfl
    refine hsettled 4 0 2 2 0 .expired ?_ ?_ hunborn (by decide +kernel) (plainAt 4 nofun) _
      leaves_unborn
    · rw [htrace]; decide +kernel
    · rw [htrace]; decide +kernel
  case killed =>
    refine hsettled 5 1 3 1 1 .stopped ?_ ?_ (fun x => rfl) (by decide +kernel) (plainAt 5 nofun) _
      leaves_killed
    · rw [htrace]; decide +kernel
    · rw [htrace]; decide +kernel

/-- Two processes that go on for ever. When they are killed, the second one takes two seconds to
exit. -/
def stubbornPrograms (n : Nat) : Programs where
  which word := some word
  start _ _ _ :=
    .ok { takes := .endless, status := 0, output := [], errors := [], lingers := fun _ => 2 * n }

/-- A run over two regions with one second for each call. -/
def stubborn : Job where
  text := "ab"
  regions := [⟨0, 0, 1⟩, ⟨1, 1, 2⟩]
  timeout := some (.whole 1)
  formatter := FormatCommand.formatterIn stubbornPrograms {} fun _ => none

/-- What comes of starting the command for the second region. -/
def stubbornStart : Attempt := stubborn.attemptAt {} stubbornPrograms 1

/-- The second process was killed after a second, and runs when the error of the first region is
given. -/
theorem transformRegions_stubborn :
    stubborn.formatter = FormatCommand.formatterIn stubbornPrograms {} (fun _ => none) ∧
      (transformRegions stubborn none).result.isOk = false ∧
      (transformRegions stubborn none).returnsAt = 1 ∧
      .started 1 0 ∈ (transformRegions stubborn none).trace ∧
      stubborn.unwinding 1 1 = 2 ∧
      Unwinds {} stubbornStart ((Course.plain {} stubbornStart nofun).line none) 1 2 0
        ⟨.waiting false, some ⟨.running, true⟩⟩ := by
  have hcut : Cut ((Course.plain {} stubbornStart nofun).line none) 1 [(0, .due)] [] :=
    ⟨by decide +kernel, by decide, nofun⟩
  have hunwound : Handler.unwoundAt? {} stubbornStart
      (cancelledBehind {} stubbornStart [(0, .due)])
      ([] ++ [(2, .exits), (2, .noticed), (2, .drained)]) = some 2 := rfl
  exact ⟨rfl, by decide +kernel, by decide +kernel, by decide +kernel, by decide +kernel,
    .mk hcut (by simp) (by decide) hunwound⟩

end Transform

end Backtick
