import Backtick.Value

/-!
# Structured logs

A log record has the logger that wrote it, a level, an event and fields. The fields of the open
contexts are added to it, those of an inner context standing in for those of an outer one and the
record's own for both.

A context is opened with named values and closed in the reverse order of opening; closing it gives
every name the value, or the absence of a value, that it had before.
-/

namespace Backtick

namespace Fields

/-- The value of a name. -/
def get? (fs : Fields) (name : Text) : Option Value :=
  match fs with
  | [] => none
  | (n, v) :: rest => if n = name then some v else get? rest name

/-- The fields with a name's value replaced, or with a new name at the end. -/
def put (fs : Fields) (name : Text) (v : Value) : Fields :=
  match fs with
  | [] => [(name, v)]
  | (n, v') :: rest => if n = name then (n, v) :: rest else (n, v') :: put rest name v

/-- The fields without a name. -/
def erase (fs : Fields) (name : Text) : Fields := fs.filter (·.1 ≠ name)

/-- The fields with the values of others put over them in order. -/
def overlay (fs : Fields) (others : Fields) : Fields :=
  others.foldl (fun fs (name, v) => fs.put name v) fs

theorem get?_put (fs : Fields) (name name' : Text) (v : Value) :
    (fs.put name v).get? name' = if name = name' then some v else fs.get? name' := by
  induction fs with
  | nil => rfl
  | cons f rest ih =>
    obtain ⟨n, v'⟩ := f
    by_cases h : n = name
    · subst h
      by_cases hn : n = name' <;> simp [put, get?, hn]
    · rw [put, if_neg h, get?, get?, ih]
      by_cases hn : n = name'
      · rw [if_pos hn, if_pos hn, if_neg (fun h' => h (hn.trans h'.symm))]
      · rw [if_neg hn, if_neg hn]

theorem get?_erase (fs : Fields) (name name' : Text) :
    (fs.erase name).get? name' = if name = name' then none else fs.get? name' := by
  induction fs with
  | nil => simp [erase, get?]
  | cons f rest ih =>
    obtain ⟨n, v⟩ := f
    rw [erase] at ih
    by_cases h : n = name
    · subst h
      rw [erase, List.filter_cons_of_neg (by simp), ih, get?]
      by_cases hn : n = name'
      · rw [if_pos hn, if_pos hn]
      · rw [if_neg hn, if_neg hn, if_neg hn]
    · rw [erase, List.filter_cons_of_pos (by simpa using h), get?, ih, get?]
      by_cases hn : n = name'
      · rw [if_pos hn, if_pos hn, if_neg (fun h' => h (hn.trans h'.symm))]
      · rw [if_neg hn, if_neg hn]

end Fields

/-! ## Levels -/

/-- How serious a record is. -/
inductive LogLevel where
  | debug
  | info
  | warning
  | error
  | critical
deriving DecidableEq

namespace LogLevel

/-- All levels, the least serious first. -/
def all : List LogLevel := [.debug, .info, .warning, .error, .critical]

/-- The name of a level in records. -/
def name : LogLevel → Text
  | .debug => "debug"
  | .info => "info"
  | .warning => "warning"
  | .error => "error"
  | .critical => "critical"

/-- The rank of a level. -/
def rank : LogLevel → Nat
  | .debug => 10
  | .info => 20
  | .warning => 30
  | .error => 40
  | .critical => 50

/-- The level with a name. -/
def ofName? (t : Text) : Option LogLevel := all.find? (·.name == t)

/-- The least rank that is written when this level is asked for. Letters count in either case, some
levels have a second name, and an unknown name stands for `info`. -/
def threshold (asked : Text) : Nat :=
  let name := asked.map CodePoint.lowerAscii
  if name == ("warn" : Text) then LogLevel.warning.rank
  else if name == ("fatal" : Text) then LogLevel.critical.rank
  else if name == ("notset" : Text) then 0
  else ((ofName? name).getD .info).rank

end LogLevel

/-! ## Records -/

/-- A record, with the fields of its context among its own. -/
structure LogRecord where
  logger : Text
  level : LogLevel
  event : Text
  fields : Fields := []

namespace LogRecord

/-- A record written inside contexts whose values these are. -/
def within (bound : Fields) (r : LogRecord) : LogRecord :=
  { r with fields := bound.overlay r.fields }

/-- All that a record says, under names. The names of the record itself are not to be had by
fields. -/
def entries (r : LogRecord) : Fields :=
  ((r.fields.put "event" (.text r.event)).put "level" (.text r.level.name)).put "logger"
    (.text r.logger)

end LogRecord

/-! ## Contexts -/

/-- The values bound now and, for every open context, what its names had before. -/
structure LogContext where
  bound : Fields := []
  saved : List (List (Text × Option Value)) := []

namespace LogContext

/-- What names have before a context binds them. -/
def before (bound : Fields) (fs : Fields) : List (Text × Option Value) :=
  fs.map fun (name, _) => (name, bound.get? name)

/-- Opens a context. -/
def enter (c : LogContext) (fs : Fields) : LogContext :=
  { bound := c.bound.overlay fs, saved := before c.bound fs :: c.saved }

/-- Gives names back what they had. -/
def restore (bound : Fields) (names : List (Text × Option Value)) : Fields :=
  names.foldl
    (fun bound (name, v?) =>
      match v? with
      | some v => bound.put name v
      | none => bound.erase name)
    bound

/-- Closes the innermost context. -/
def exit (c : LogContext) : LogContext :=
  match c.saved with
  | [] => c
  | names :: saved => { bound := restore c.bound names, saved }

/-- What a block gives that runs inside a context. The context is closed behind the block, whether
the block succeeds or fails. -/
def during {α : Type} (c : LogContext) (fs : Fields) (block : LogContext → α × LogContext) :
    α × LogContext :=
  let (result, inner) := block (c.enter fs)
  (result, inner.exit)

end LogContext

end Backtick
