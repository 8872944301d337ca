import Backtick.Fault

/-!
# Points in time

A date, or a date with a time of day and perhaps a distance from universal time. They are read in
several spellings and have one ISO form.
-/

namespace Backtick.Yaml

/-- A distance from universal time. -/
inductive Zone where
  | universal
  | offset (west : Bool) (minutes : Nat)
deriving DecidableEq

/-- A time of day. -/
structure Clock where
  hour : Nat
  minute : Nat
  second : Nat
  microsecond : Nat
  zone : Option Zone
deriving DecidableEq

/-- A date, perhaps with a time of day. -/
structure Timestamp where
  year : Nat
  month : Nat
  day : Nat
  clock : Option Clock
deriving DecidableEq

namespace Timestamp

/-! ## Spellings -/

/-- The value of a row of digits. -/
def value (digits : Text) : Nat := digits.foldl (fun n c => 10 * n + (c.val - 0x30)) 0

/-- From `least` to `most` digits, as many as there are, and what follows. -/
def digits? (least most : Nat) (t : Text) : Option (Text × Text) :=
  let d := (t.take most).takeWhile CodePoint.isDigit
  if least ≤ d.length then some (d, t.drop d.length) else none

/-- What follows a character. -/
def behind? (c : Char) : Text → Option Text
  | x :: rest => if x.is c then some rest else none
  | [] => none

/-- A space or a tabulator. -/
def isBlank (c : CodePoint) : Bool := c.is ' ' || c.val == 0x09

/-- The text is at its end, where one line feed may stand. -/
def isOver (t : Text) : Bool := t.isEmpty || t == [CodePoint.ofNat 0x0A]

/-- A distance from universal time at the end of a text. -/
def zone? (t : Text) : Option (Option Zone) := do
  if isOver t then return none
  match t.dropWhile isBlank with
  | [] => none
  | c :: rest =>
    if c.is 'Z' then if isOver rest then some (some .universal) else none
    else if c.is '+' || c.is '-' then
      let (hours, rest) ← digits? 1 2 rest
      let (minutes, rest) ←
        match behind? ':' rest with
        | some rest => digits? 2 2 rest
        | none => some ([], rest)
      if isOver rest then some (some (.offset (c.is '-') (60 * value hours + value minutes)))
      else none
    else none

/-- The microseconds that digits behind a point stand for. -/
def microseconds (fraction : Text) : Nat :=
  value ((fraction ++ List.replicate 6 (CodePoint.ofChar '0')).take 6)

/-- A time of day at the end of a text. -/
def clock? (t : Text) : Option Clock := do
  let (hour, t) ← digits? 1 2 t
  let (minute, t) ← digits? 2 2 (← behind? ':' t)
  let (second, t) ← digits? 2 2 (← behind? ':' t)
  let (fraction, t) :=
    match behind? '.' t with
    | some rest => rest.span CodePoint.isDigit
    | none => ([], t)
  return { hour := value hour, minute := value minute, second := value second,
           microsecond := microseconds fraction, zone := ← zone? t }

/-- What follows the letter or the blanks between a date and a time of day. -/
def behindSeparator? : Text → Option Text
  | c :: rest =>
    if c.is 'T' || c.is 't' then some rest
    else if isBlank c then some (rest.dropWhile isBlank)
    else none
  | [] => none

/-- The point in time that a text is, and whether it could be nothing else: a date alone is certain
only with two digits for month and day. -/
def read? (t : Text) : Option (Timestamp × Bool) := do
  let (year, t) ← digits? 4 4 t
  let (month, t) ← digits? 1 2 (← behind? '-' t)
  let (day, t) ← digits? 1 2 (← behind? '-' t)
  let date (clock : Option Clock) : Timestamp :=
    { year := value year, month := value month, day := value day, clock }
  if isOver t then return (date none, month.length = 2 && day.length = 2)
  else return (date (← clock? (← behindSeparator? t)), true)

/-! ## Validity -/

/-- The year has a 29th of February. -/
def isLeap (year : Nat) : Bool := (year % 4 = 0 && year % 100 ≠ 0) || year % 400 = 0

/-- The number of days of a month. -/
def monthLength (year month : Nat) : Nat :=
  if month = 2 then if isLeap year then 29 else 28
  else if month = 4 ∨ month = 6 ∨ month = 9 ∨ month = 11 then 30
  else 31

/-- A length of time as messages show it, given in minutes: days and the seconds of a day. -/
def shownLength (west : Bool) (minutes : Nat) : Text :=
  let total : Int := if west then -(60 * minutes : Nat) else (60 * minutes : Nat)
  let days := total / 86400
  let seconds := total % 86400
  "datetime.timedelta(days=" ++ Text.ofInt days ++
    (if seconds = 0 then ([] : Text) else ", seconds=" ++ Text.ofInt seconds) ++ ")"

/-- Why a distance from universal time does not exist. -/
def zoneFault? : Zone → Option Text
  | .universal => none
  | .offset west minutes =>
    if minutes < 24 * 60 then none
    else some ("offset must be a timedelta strictly between -timedelta(hours=24) and " ++
      Text.ofString "timedelta(hours=24), not " ++ shownLength west minutes ++ ".")

/-- Why a date does not exist. -/
def dateFault? (t : Timestamp) : Option Text :=
  if t.year = 0 then some "year 0 is out of range"
  else if t.month = 0 ∨ 12 < t.month then some "month must be in 1..12"
  else if t.day = 0 ∨ monthLength t.year t.month < t.day then some "day is out of range for month"
  else none

/-- Why a time of day does not exist. -/
def clockFault? (c : Clock) : Option Text :=
  if 23 < c.hour then some "hour must be in 0..23"
  else if 59 < c.minute then some "minute must be in 0..59"
  else if 59 < c.second then some "second must be in 0..59"
  else none

/-- Why a point in time does not exist. -/
def fault? (t : Timestamp) : Option Text :=
  ((t.clock.bind (·.zone)).bind zoneFault?).or ((dateFault? t).or (t.clock.bind clockFault?))

/-! ## ISO form -/

/-- A number with zeros in front of it, up to a number of digits. -/
def padded (size n : Nat) : Text :=
  let digits := Text.ofNat n
  List.replicate (size - digits.length) (CodePoint.ofChar '0') ++ digits

/-- The ISO form of a distance from universal time. -/
def zoneText : Zone → Text
  | .universal => "+00:00"
  | .offset west minutes =>
    (if west ∧ minutes ≠ 0 then ("-" : Text) else "+") ++ padded 2 (minutes / 60) ++ ":" ++
      padded 2 (minutes % 60)

/-- The ISO form of a time of day. -/
def clockText (c : Clock) : Text :=
  padded 2 c.hour ++ ":" ++ padded 2 c.minute ++ ":" ++ padded 2 c.second ++
    (if c.microsecond = 0 then ([] : Text) else "." ++ padded 6 c.microsecond) ++
    (c.zone.map zoneText).getD []

/-- The ISO form of a point in time. -/
def text (t : Timestamp) : Text :=
  padded 4 t.year ++ "-" ++ padded 2 t.month ++ "-" ++ padded 2 t.day ++
    (t.clock.map fun c => "T" ++ clockText c).getD []

end Timestamp

end Backtick.Yaml
