import Backtick.Formatter
import Backtick.Log
import Backtick.Splice

/-!
# Transforming regions

All regions of a text are formatted at the same time, as far as a limit on the number of calls
allows; the others wait for their turn in the order of the regions. A call may be given a time
limit, which counts from its start. When its time is up it is cancelled, and keeps its permit until
it has unwound. The first region to fail ends the run: the calls that are still going on are
stopped, and the error names that region.

A run is a sequence of instants. At an instant the calls that are over are settled in the order of
their starts, those that failed by themselves before those that ran out of time, and their permits
go to regions that wait. What happens is recorded in a trace.

When a region has failed, stopping the others takes a moment in which permits that have become free
still start calls: two rounds of them, or one when there is a time limit. Then the calls that go on
are cancelled, and the error is given when these have unwound. A call that was cancelled before,
because its time was up, is not waited for any more: it may still unwind when the error is given.

## Termination

Each step takes a region from those that wait or a call from those that go on: twice the number of
the former plus the number of the latter falls.
-/

namespace Backtick

namespace Transform

/-- How long a call may take. -/
inductive Limit where
  /-- as long as it wants -/
  | unlimited
  /-- no time at all: it is not even made -/
  | spent
  /-- so many seconds, or a number of seconds that never pass -/
  | within (seconds : Option Rat)
deriving DecidableEq

/-- The limit that a number of seconds sets: zero sets none. -/
def Limit.ofTimeout : Option Number → Limit
  | none => .unlimited
  | some n =>
    if n.isZero then .unlimited
    else if n.isNegative then .spent
    else
      match n with
      | .real .nan => .within (some 0)
      | n => .within n.toRat?

/-- The limit as messages show it. -/
def timeoutText : Option Number → Text
  | none => "None"
  | some n => if n.isZero then "None" else n.text

/-! ## Traces -/

/-- How a call ended. -/
inductive Ending where
  /-- with a value -/
  | returned
  /-- with a failure -/
  | failed
  /-- because it was cancelled when its time was up -/
  | expired
  /-- because it was cancelled when another region had failed -/
  | stopped
deriving DecidableEq

/-- Something that happens to the call for the region at a position. -/
inductive Event where
  | started (position : Nat) (time : Rat)
  | ended (position : Nat) (time : Rat) (how : Ending)
deriving DecidableEq

/-- The positions whose calls started, in order. -/
def started (trace : List Event) : List Nat :=
  trace.filterMap fun
    | .started p _ => some p
    | .ended .. => none

/-- The positions whose calls ended in a way, in order. -/
def endedBy (how : Ending) (trace : List Event) : List Nat :=
  trace.filterMap fun
    | .ended p _ h => if h = how then some p else none
    | .started .. => none

/-- The most calls that go on at once. -/
def mostInFlight (trace : List Event) : Nat :=
  (trace.foldl
    (fun (n, most) e =>
      match e with
      | .started .. => (n + 1, max most (n + 1))
      | .ended .. => (n - 1, most))
    (0, 0)).2

/-! ## The state of a run -/

/-- What a run is about. -/
structure Job where
  text : Text
  regions : List Region
  formatter : Formatter
  timeout : Option Number := none

namespace Job

def limit (j : Job) : Limit := .ofTimeout j.timeout

/-- The region at a position. -/
def region (j : Job) (position : Nat) : Region := j.regions[position]?.getD ⟨0, 0, 0⟩

/-- The text of the region at a position. -/
def raw (j : Job) (position : Nat) : Text := (j.region position).slice j.text

/-- The error for a region whose call took too long. -/
def lateError (j : Job) (position : Nat) : LintError :=
  let r := j.region position
  .timeout r.index r.start r.stop ("timed out after " ++ timeoutText j.timeout ++ "s")

/-- The error for a region whose call failed. -/
def failureError (j : Job) (position : Nat) (f : Failure) : LintError :=
  let r := j.region position
  match f with
  | .refused message => .transform r.index r.start r.stop message
  | .impatient _ => j.lateError position
  | .broke kind message => .transform r.index r.start r.stop (kind ++ ": " ++ message)

/-- The error for a region whose call gave something else than a text. -/
def typeError (j : Job) (position : Nat) (v : Value) : LintError :=
  let r := j.region position
  .transform r.index r.start r.stop ("formatter returned " ++ v.typeName ++ ", expected str")

/-- The text that a call gave. -/
def verdict (j : Job) (position : Nat) : Outcome → Except LintError Text
  | .error f => .error (j.failureError position f)
  | .ok (.text t) => .ok t
  | .ok v => .error (j.typeError position v)

end Job

/-! ## Records -/

/-- The logger of a run. -/
def logger : Text := "tsxlint.splicer"

/-- What the records of the region at a position have in common. -/
def Job.context (j : Job) (position : Nat) : Fields :=
  [field "region" (.int (j.region position).index)]

/-- The record of a formatted region. -/
def formattedRecord (j : Job) (position : Nat) (t : Text) : LogRecord :=
  { logger, level := .debug, event := "Region formatted",
    fields := [field "before" (.int (j.region position).length), field "after" (.int t.length)] }

/-- A call that goes on. -/
structure Running where
  position : Nat
  since : Rat
  call : Call

namespace Running

/-- The time that so many seconds take. Time does not run backwards. -/
def elapsed (s : Rat) : Rat := if s < 0 then 0 else s

/-- When the call is over by itself. -/
def finish? (r : Running) : Option Rat :=
  match r.call.duration with
  | .none => some r.since
  | .seconds s => some (r.since + elapsed s)
  | .endless => none

/-- When the call runs out of time. -/
def deadline? (l : Limit) (r : Running) : Option Rat :=
  match l with
  | .within (some s) => some (r.since + s)
  | _ => none

/-- The earlier of two times. -/
def earlier (a b : Option Rat) : Option Rat :=
  match a, b with
  | some s, some t => some (if t < s then t else s)
  | some s, none => some s
  | none, b => b

/-- The time of the call is up before it is over by itself. -/
def expires (l : Limit) (r : Running) : Bool :=
  match r.deadline? l, r.finish? with
  | some d, some f => d ≤ f && r.call.duration != .none
  | some _, none => true
  | none, _ => false

/-- When the call has unwound, if it is cancelled at a time. -/
def unwound (r : Running) (t : Rat) : Rat := t + elapsed (r.call.unwinds (t - r.since))

/-- When the call ends: when it is over, or has unwound because its time was up. -/
def moment? (l : Limit) (r : Running) : Option Rat :=
  if r.expires l then (r.deadline? l).map r.unwound else r.finish?

/-- When the call was cancelled because its time was up, if it was. -/
def lapsed? (l : Limit) (now : Rat) (r : Running) : Option Rat :=
  if r.expires l then (r.deadline? l).filter (· ≤ now) else none

/-- When the call ends, and how, if the run is stopped now. A call that was cancelled before goes on
unwinding; any other one is cancelled now. -/
def halt (l : Limit) (now : Rat) (r : Running) : Rat × Ending :=
  match r.lapsed? l now with
  | some t => (r.unwound t, .expired)
  | none => (r.unwound now, .stopped)

end Running

/-- The state of a run. -/
structure State where
  clock : Rat := 0
  /-- positions that wait for their turn -/
  waiting : List Nat := []
  /-- calls that go on, in the order of their starts -/
  running : List Running := []
  /-- permits for further calls; without a number they never run out -/
  permits : Option Nat := none
  /-- what happened so far -/
  trace : List Event := []
  /-- what was written to the log so far -/
  log : List LogRecord := []
  /-- a slot for each result -/
  slots : List (Option Replacement) := []
  /-- why the run fails -/
  fault : Option Fault := none

namespace State

/-- Records an event. -/
def note (s : State) (e : Event) : State := { s with trace := s.trace ++ [e] }

/-- Fails, unless the run has failed already. -/
def fail (s : State) (f : Fault) : State := { s with fault := s.fault.or (some f) }

/-- The slot among `n` that a number means. A negative number counts from the last slot. -/
def slot? (n : Nat) (index : Int) : Option Nat :=
  let i := if index < 0 then index + n else index
  if 0 ≤ i ∧ i < n then some i.toNat else none

/-- Puts the result of a region into its slot. -/
def place (s : State) (r : Replacement) : State :=
  match slot? s.slots.length r.index with
  | some i => { s with slots := s.slots.set i (some r) }
  | none => s.fail .badPosition

/-- Writes records of the region at a position to the log. -/
def write (j : Job) (position : Nat) (records : List LogRecord) (s : State) : State :=
  { s with log := s.log ++ records.map (LogRecord.within (j.context position)) }

/-- Settles what the call for the region at a position gave. -/
def conclude (j : Job) (position : Nat) (c : Call) (s : State) : State :=
  let s := s.write j position c.log
  match j.verdict position c.outcome with
  | .error e => s.fail (.lint e)
  | .ok t =>
    (s.write j position [formattedRecord j position t]).place ⟨(j.region position).index, t⟩

/-- How a call ends by itself. -/
def endingOf : Outcome → Ending
  | .ok _ => .returned
  | .error _ => .failed

/-- Records that a call has ended by itself. -/
def noteOver (s : State) (position : Nat) (call : Call) : State :=
  s.note (.ended position s.clock (endingOf call.outcome))

/-- Records that a call has started. A call that is over at once has ended then as well. -/
def noteStart (s : State) (position : Nat) (call : Call) : State :=
  let s := s.note (.started position s.clock)
  if call.duration = .none then s.noteOver position call else s

/-- Keeps a call that has to be settled later, with a permit. -/
def keep (s : State) (position : Nat) (call : Call) : State :=
  { s with
    running := s.running ++ [⟨position, s.clock, call⟩]
    permits := s.permits.map (· - 1) }

/-- Starts the call for the region at a position. A call without a time limit that is over at once
is settled and keeps no permit. -/
def start (j : Job) (s : State) (position : Nat) : State :=
  if j.limit = .spent then s.fail (.lint (j.lateError position))
  else
    let call := j.formatter.call (started s.trace).length (j.raw position)
    let s := s.noteStart position call
    if j.limit = .unlimited ∧ call.duration = .none then s.conclude j position call
    else s.keep position call

/-- Starts calls as long as there are permits. -/
def startAll (j : Job) (s : State) : List Nat → State
  | [] => { s with waiting := [] }
  | position :: rest =>
    if s.permits = some 0 then { s with waiting := position :: rest }
    else startAll j (s.start j position) rest

/-- Starts as many calls as there are permits now. -/
def startFree (j : Job) (s : State) : State :=
  match s.permits with
  | none => s.waiting.foldl (start j) { s with waiting := [] }
  | some n => (s.waiting.take n).foldl (start j) { s with waiting := s.waiting.drop n }

/-- The state before anything happens, with the calls started that need not wait. -/
def initial (j : Job) (permits : Option Nat) : State :=
  startAll j { permits, slots := j.regions.map fun _ => none } (List.range j.regions.length)

/-- The next instant at which a call ends. -/
def nextMoment? (l : Limit) (s : State) : Option Rat :=
  (s.running.map (·.moment? l)).foldl Running.earlier none

/-- Settles a call that is over by itself. -/
def settle (j : Job) (s : State) (r : Running) : State :=
  (if r.call.duration = .none then s else s.noteOver r.position r.call).conclude j r.position r.call

/-- Ends a call that ran out of time. -/
def expire (j : Job) (s : State) (r : Running) : State :=
  (s.note (.ended r.position s.clock .expired)).fail (.lint (j.lateError r.position))

/-- Goes to an instant and ends the calls that end there. -/
def advance (j : Job) (s : State) (now : Rat) : State :=
  let isDue := fun (r : Running) => r.moment? j.limit == some now
  let due := s.running.filter isDue
  let finished := due.filter fun r => !r.expires j.limit
  let late := due.filter fun r => r.expires j.limit
  let s := { s with
    clock := now
    running := s.running.filter fun r => !isDue r
    permits := s.permits.map (· + due.length) }
  late.foldl (expire j) (finished.foldl (settle j) s)

/-- Ends a run that has failed: no call starts any more. -/
def abandon (j : Job) (s : State) : State :=
  let s := s.startFree j
  if j.limit = .unlimited then s.startFree j else s

/-! ## Termination -/

/-- What is left to do: it falls with every step. -/
def load (s : State) : Nat := 2 * s.waiting.length + s.running.length

@[simp] theorem fail_waiting (s : State) (f : Fault) : (s.fail f).waiting = s.waiting := rfl

@[simp] theorem fail_running (s : State) (f : Fault) : (s.fail f).running = s.running := rfl

@[simp] theorem note_waiting (s : State) (e : Event) : (s.note e).waiting = s.waiting := rfl

@[simp] theorem note_running (s : State) (e : Event) : (s.note e).running = s.running := rfl

@[simp] theorem noteStart_waiting (s : State) (p : Nat) (c : Call) :
    (s.noteStart p c).waiting = s.waiting := by
  simp only [noteStart, noteOver]
  split <;> rfl

@[simp] theorem noteStart_running (s : State) (p : Nat) (c : Call) :
    (s.noteStart p c).running = s.running := by
  simp only [noteStart, noteOver]
  split <;> rfl

@[simp] theorem place_waiting (s : State) (r : Replacement) : (s.place r).waiting = s.waiting := by
  simp only [place]
  split <;> rfl

@[simp] theorem place_running (s : State) (r : Replacement) : (s.place r).running = s.running := by
  simp only [place]
  split <;> rfl

@[simp] theorem write_waiting (j : Job) (p : Nat) (rs : List LogRecord) (s : State) :
    (s.write j p rs).waiting = s.waiting := rfl

@[simp] theorem write_running (j : Job) (p : Nat) (rs : List LogRecord) (s : State) :
    (s.write j p rs).running = s.running := rfl

@[simp] theorem conclude_waiting (j : Job) (p : Nat) (c : Call) (s : State) :
    (s.conclude j p c).waiting = s.waiting := by
  simp only [conclude]
  split <;> simp

@[simp] theorem conclude_running (j : Job) (p : Nat) (c : Call) (s : State) :
    (s.conclude j p c).running = s.running := by
  simp only [conclude]
  split <;> simp

theorem start_waiting (j : Job) (s : State) (p : Nat) : (s.start j p).waiting = s.waiting := by
  simp only [start]
  split
  · simp
  · split <;> simp [keep]

theorem start_running_le (j : Job) (s : State) (p : Nat) :
    (s.start j p).running.length ≤ s.running.length + 1 := by
  simp only [start]
  split
  · simp
  · split <;> simp [keep]

theorem foldl_start_waiting (j : Job) (ps : List Nat) (s : State) :
    (ps.foldl (start j) s).waiting = s.waiting := by
  induction ps generalizing s with
  | nil => rfl
  | cons p rest ih => rw [List.foldl_cons, ih, start_waiting]

theorem foldl_start_running_le (j : Job) (ps : List Nat) (s : State) :
    (ps.foldl (start j) s).running.length ≤ s.running.length + ps.length := by
  induction ps generalizing s with
  | nil => simp
  | cons p rest ih =>
    have h := ih (s.start j p)
    have h' := start_running_le j s p
    rw [List.foldl_cons, List.length_cons]
    omega

theorem load_startFree_lt (j : Job) (s : State) (hw : s.waiting ≠ []) (hp : s.permits ≠ some 0) :
    (s.startFree j).load < s.load := by
  have hlen : 0 < s.waiting.length := List.length_pos_iff.2 hw
  unfold startFree
  split
  · have h := foldl_start_running_le j s.waiting { s with waiting := [] }
    simp only [load, foldl_start_waiting, List.length_nil] at h ⊢
    omega
  · rename_i n hn
    have hpos : n ≠ 0 := fun h0 => hp (by rw [hn, h0])
    have h := foldl_start_running_le j (s.waiting.take n) { s with waiting := s.waiting.drop n }
    simp only [load, foldl_start_waiting, List.length_drop, List.length_take] at h ⊢
    omega

theorem foldl_settle_waiting (j : Job) (rs : List Running) (s : State) :
    (rs.foldl (settle j) s).waiting = s.waiting ∧ (rs.foldl (settle j) s).running = s.running := by
  induction rs generalizing s with
  | nil => exact ⟨rfl, rfl⟩
  | cons r rest ih =>
    obtain ⟨hw, hr⟩ := ih (s.settle j r)
    rw [List.foldl_cons, hw, hr]
    simp only [settle, noteOver]
    split <;> simp

theorem foldl_expire_waiting (j : Job) (rs : List Running) (s : State) :
    (rs.foldl (expire j) s).waiting = s.waiting ∧ (rs.foldl (expire j) s).running = s.running := by
  induction rs generalizing s with
  | nil => exact ⟨rfl, rfl⟩
  | cons r rest ih =>
    obtain ⟨hw, hr⟩ := ih (s.expire j r)
    rw [List.foldl_cons, hw, hr]
    simp [expire]

/-- The earliest of several times is one of them. -/
theorem earliest_mem (times : List (Option Rat)) (t : Option Rat) (now : Rat)
    (h : times.foldl Running.earlier t = some now) : t = some now ∨ some now ∈ times := by
  induction times generalizing t with
  | nil => exact .inl h
  | cons u rest ih =>
    rcases ih _ h with h | h
    · cases t <;> cases u <;> simp only [Running.earlier] at h
      · simp at h
      · exact .inr (by simp [h])
      · exact .inl h
      · split at h
        · exact .inr (by simp [h])
        · exact .inl h
    · exact .inr (List.mem_cons_of_mem _ h)

theorem load_advance_lt (j : Job) (s : State) (now : Rat) (h : s.nextMoment? j.limit = some now) :
    (s.advance j now).load < s.load := by
  obtain ⟨r, hr, hm⟩ : ∃ r ∈ s.running, r.moment? j.limit = some now := by
    rcases earliest_mem _ _ _ h with h | h
    · cases h
    · simpa using h
  have hlt : (s.running.filter fun r => !(r.moment? j.limit == some now)).length <
      s.running.length := by
    rw [List.length_filter_lt_length_iff_exists]
    exact ⟨r, hr, by simp [hm]⟩
  simp only [advance, load, foldl_settle_waiting, foldl_expire_waiting]
  omega

/-- Runs until nothing happens any more, or a region has failed. -/
def run (j : Job) (s : State) : State :=
  if s.fault.isSome then s.abandon j
  else if _h : s.waiting ≠ [] ∧ s.permits ≠ some 0 then run j (s.startFree j)
  else
    match _h : s.nextMoment? j.limit with
    | some now => run j (s.advance j now)
    | none => s
termination_by s.load
decreasing_by
  · exact load_startFree_lt j s (And.left ‹_›) (And.right ‹_›)
  · exact load_advance_lt j s now ‹_›

/-! ## The end of a run -/

/-- The calls that still go on. One that is over at once only waits to be settled. -/
def unfinished (s : State) : List Running := s.running.filter fun r => r.call.duration ≠ .none

/-- The later of two times. -/
def later (a b : Rat) : Rat := if a ≤ b then b else a

/-- When the calls that are cancelled with the run have unwound. -/
def returnsAt (l : Limit) (s : State) : Rat :=
  ((s.unfinished.filter fun r => (r.lapsed? l s.clock).isNone).map (·.unwound s.clock)).foldl later
    s.clock

/-- Puts a call in front of the first one that does not end before it. -/
def enqueue (l : Limit) (now : Rat) (r : Running) : List Running → List Running
  | [] => [r]
  | x :: rest =>
    if (r.halt l now).1 ≤ (x.halt l now).1 then r :: x :: rest else x :: enqueue l now r rest

/-- The calls that end until then, in the order of their ends. -/
def stopping (l : Limit) (s : State) : List Running :=
  (s.unfinished.filter fun r => (r.halt l s.clock).1 ≤ s.returnsAt l).foldr (enqueue l s.clock) []

/-- The end of a call when the run is stopped. -/
def haltEvent (l : Limit) (now : Rat) (r : Running) : Event :=
  .ended r.position (r.halt l now).1 (r.halt l now).2

/-- Stops the calls that still go on, and waits for those that it cancels. -/
def stop (l : Limit) (s : State) : State :=
  { s with
    clock := s.returnsAt l
    running := s.unfinished.filter fun r => s.returnsAt l < (r.halt l s.clock).1
    trace := s.trace ++ (s.stopping l).map (haltEvent l s.clock) }

end State

end Transform

/-! ## Runs -/

/-- A run over the regions of a text: its result, when it is given, what happened until then, and
the log. -/
structure TransformRun where
  result : Except Fault (List Replacement)
  returnsAt : Rat := 0
  trace : List Transform.Event := []
  log : List LogRecord := []

namespace Transform

/-- The record of a run that succeeded. -/
def doneRecord (j : Job) : LogRecord :=
  { logger, level := .info, event := "All transforms done",
    fields :=
      [field "regions" (.int j.regions.length), field "formatter" (.text j.formatter.name)] }

/-- The number of permits that a limit on the number of calls gives: none and zero set no limit. -/
def permitsOf (maxConcurrency : Option Int) : Except Fault (Option Nat) :=
  match maxConcurrency with
  | none => .ok none
  | some k =>
    if k = 0 then .ok none
    else if k < 0 then .error (.badValue "Semaphore initial value must be >= 0")
    else .ok (some k.toNat)

/-- What a run gives when nothing happens any more. -/
def State.result (s : State) : Except Fault (List Replacement) :=
  match s.fault with
  | some f => .error f
  | none => if s.running.isEmpty then .ok (s.slots.filterMap id) else .error .endless

/-- The run that ends in a state. -/
def report (j : Job) (s : State) : TransformRun :=
  let stopped := s.stop j.limit
  { result := s.result, returnsAt := stopped.clock, trace := stopped.trace,
    log := s.log ++ if s.result.isOk then [doneRecord j] else [] }

end Transform

/-- Formats the regions of a text. The results come in the order of their slots. -/
def transformRegions (j : Transform.Job) (maxConcurrency : Option Int) : TransformRun :=
  if j.regions.isEmpty then { result := .ok [] }
  else
    match Transform.permitsOf maxConcurrency with
    | .error f => { result := .error f }
    | .ok permits => Transform.report j (.run j (.initial j permits))

end Backtick
