import ParamBinding.Text.Digit

/-!
# Dates, times of day and durations

The proleptic Gregorian calendar from the year 1 to 9999, times of day to the microsecond with an
optional offset from UTC, and durations as a number of microseconds. Constructors that take numbers
from outside check their ranges.
-/

namespace ParamBinding

open ParamBinding.Text

/-- A date of the Gregorian calendar. -/
structure Date where
  year : Nat
  month : Nat
  day : Nat
  deriving DecidableEq, Repr

/-- A time of day, with the offset from UTC in microseconds where one is known. -/
structure TimeOfDay where
  hour : Nat
  minute : Nat
  second : Nat
  micro : Nat
  offset : Option Int
  deriving DecidableEq, Repr

/-- A date with a time of day. -/
structure DateTime where
  date : Date
  time : TimeOfDay
  deriving DecidableEq, Repr

/-- A signed length of time, in microseconds. -/
structure Duration where
  micros : Int
  deriving DecidableEq, Repr

/-- Why numbers do not make a date, a time or an offset. -/
inductive CalendarProblem where
  | year (n : Nat)
  | month
  | day
  | hour
  | minute
  | second
  | offset (d : Duration)
  deriving DecidableEq, Repr

/-! ### Durations -/

namespace Duration

/-- Whole days, rounded down. -/
def days (d : Duration) : Int := Int.fdiv d.micros 86400000000

/-- Whole seconds beyond the days. -/
def seconds (d : Duration) : Nat := (Int.fmod (Int.fdiv d.micros 1000000) 86400).toNat

/-- Microseconds beyond the seconds. -/
def microseconds (d : Duration) : Nat := (Int.fmod d.micros 1000000).toNat

/-- The parts of a duration by name, those that are zero left out. -/
def parts (d : Duration) : List String :=
  (if d.days = 0 then [] else [s!"days={d.days}"]) ++
  (if d.seconds = 0 then [] else [s!"seconds={d.seconds}"]) ++
  (if d.microseconds = 0 then [] else [s!"microseconds={d.microseconds}"])

/-- The text of a duration: its days, if there are any, and the time `H:MM:SS` beyond them, with
microseconds when there are any. -/
def text (d : Duration) : List Char :=
  let plural := if d.days.natAbs = 1 then "" else "s"
  let whole := if d.days = 0 then [] else decimalInt d.days ++ (" day" ++ plural ++ ", ").toList
  let fine := if d.microseconds = 0 then [] else '.' :: decimalPadded 6 d.microseconds
  whole ++ decimal (d.seconds / 3600) ++ ':' :: decimalPadded 2 (d.seconds / 60 % 60) ++
    ':' :: decimalPadded 2 (d.seconds % 60) ++ fine

/-- A duration as error messages show it. -/
def shown (d : Duration) : String :=
  let ps := d.parts
  "datetime.timedelta(" ++ (if ps.isEmpty then "0" else ", ".intercalate ps) ++ ")"

end Duration

/-- The error message. -/
def CalendarProblem.message : CalendarProblem → String
  | .year n => s!"year {n} is out of range"
  | .month => "month must be in 1..12"
  | .day => "day is out of range for month"
  | .hour => "hour must be in 0..23"
  | .minute => "minute must be in 0..59"
  | .second => "second must be in 0..59"
  | .offset d =>
    "offset must be a timedelta strictly between -timedelta(hours=24) and timedelta(hours=24), " ++
      s!"not {d.shown}."

/-! ### Dates -/

namespace Date

/-- Whether a year has 366 days. -/
def isLeap (year : Nat) : Bool := year % 4 == 0 && (year % 100 != 0 || year % 400 == 0)

/-- The number of days of a month. -/
def daysInMonth (year month : Nat) : Nat :=
  match month with
  | 2 => if isLeap year then 29 else 28
  | 4 | 6 | 9 | 11 => 30
  | _ => 31

/-- A date from its numbers. -/
def ofNumbers (year month day : Nat) : Except CalendarProblem Date :=
  if year < 1 || 9999 < year then .error (.year year)
  else if month < 1 || 12 < month then .error .month
  else if day < 1 || daysInMonth year month < day then .error .day
  else .ok ⟨year, month, day⟩

/-- The days before the first day of a year, the year 1 having none before it. -/
def daysBeforeYear (year : Nat) : Nat :=
  let y := year - 1
  y * 365 + y / 4 - y / 100 + y / 400

/-- The days of a year before the first day of a month. -/
def daysBeforeMonth (year month : Nat) : Nat :=
  (List.range (month - 1)).foldl (fun days m => days + daysInMonth year (m + 1)) 0

/-- The number of a date, the first day of the year 1 being 1. -/
def ordinal (d : Date) : Nat := daysBeforeYear d.year + daysBeforeMonth d.year d.month + d.day

/-- The month and day with the given number of days of the year before them. -/
def monthDay (year : Nat) : Nat → Nat → Nat → Nat × Nat
  | 0, month, before => (month, before + 1)
  | fuel + 1, month, before =>
    let n := daysInMonth year month
    if before < n then (month, before + 1) else monthDay year fuel (month + 1) (before - n)

/-- The date with a number. The year may lie beyond 9999. -/
def numbersOfOrdinal (n : Nat) : Nat × Nat × Nat :=
  let guess := (n - 1) / 366 + 1
  let year := (List.range ((n - 1) / 365 + 2 - guess)).foldl
    (fun y _ => if daysBeforeYear (y + 1) < n then y + 1 else y) guess
  let (month, day) := monthDay year 12 1 (n - 1 - daysBeforeYear year)
  (year, month, day)

/-- The day of the week of the first of January, Monday being 0. -/
def firstWeekday (year : Nat) : Nat := daysBeforeYear year % 7

/-- The number of the Monday that begins the first week of a year: the week with its first
Thursday. -/
def firstMonday (year : Nat) : Int :=
  let first : Int := daysBeforeYear year + 1
  let w := firstWeekday year
  if w ≤ 3 then first - w else first - w + 7

/-- Whether a year has a week with this number. -/
def hasWeek (year week : Nat) : Bool :=
  (1 ≤ week && week ≤ 52) ||
    (week == 53 && (firstWeekday year == 3 || (firstWeekday year == 2 && isLeap year)))

/-- The text `YYYY-MM-DD` of a date. -/
def text (d : Date) : List Char :=
  decimalPadded 4 d.year ++ '-' :: decimalPadded 2 d.month ++ '-' :: decimalPadded 2 d.day

end Date

/-! ### Times of day -/

namespace TimeOfDay

/-- A time of day from its numbers. -/
def ofNumbers (hour minute second micro : Nat) (offset : Option Int) :
    Except CalendarProblem TimeOfDay :=
  if 23 < hour then .error .hour
  else if 59 < minute then .error .minute
  else if 59 < second then .error .second
  else .ok ⟨hour, minute, second, micro, offset⟩

/-- Microseconds behind a point, when there are any. -/
def microText (n : Nat) : List Char := if n = 0 then [] else '.' :: decimalPadded 6 n

/-- The text `+HH:MM` of an offset, with seconds and microseconds when there are any. -/
def offsetText (o : Int) : List Char :=
  let n := o.natAbs
  let seconds := n / 1000000
  let fine := if seconds % 60 = 0 && n % 1000000 = 0 then []
    else ':' :: decimalPadded 2 (seconds % 60) ++ microText (n % 1000000)
  (if o < 0 then '-' else '+') :: decimalPadded 2 (seconds / 3600) ++
    ':' :: decimalPadded 2 (seconds / 60 % 60) ++ fine

/-- The text `HH:MM:SS` of a time, with microseconds and offset when there are any. -/
def text (t : TimeOfDay) : List Char :=
  decimalPadded 2 t.hour ++ ':' :: decimalPadded 2 t.minute ++ ':' :: decimalPadded 2 t.second ++
    microText t.micro ++ (t.offset.map offsetText).getD []

/-- Microseconds since midnight. -/
def sinceMidnight (t : TimeOfDay) : Int :=
  ((t.hour * 60 + t.minute) * 60 + t.second) * 1000000 + t.micro

/-- Equality of times: with offsets on both sides the instants count. -/
def same (s t : TimeOfDay) : Bool :=
  match s.offset, t.offset with
  | none, none => s.sinceMidnight == t.sinceMidnight
  | some o, some p => s.sinceMidnight - o == t.sinceMidnight - p
  | _, _ => false

end TimeOfDay

namespace DateTime

/-- The text of a date and time, with `T` between them. -/
def text (d : DateTime) : List Char := d.date.text ++ 'T' :: d.time.text

/-- Microseconds since the first day of the calendar, by the clock that shows the time. -/
def clock (d : DateTime) : Int := d.date.ordinal * 86400000000 + d.time.sinceMidnight

/-- Equality of points in time: with offsets on both sides the instants count. -/
def same (s t : DateTime) : Bool :=
  match s.time.offset, t.time.offset with
  | none, none => s.clock == t.clock
  | some o, some p => s.clock - o == t.clock - p
  | _, _ => false

end DateTime

end ParamBinding
