import ParamBinding.Number.FloatText
import ParamBinding.Time.Calendar

/-!
# Texts of durations

A duration is written as a number of seconds, or as a sign and parts such as `1h30m` or `250ms`:
decimal numbers each followed by a unit. A number of seconds is rounded to the microsecond, a tie
to the even one.
-/

namespace ParamBinding.DurationText

open ParamBinding.Text

/-- Why a text or a number is not a duration. -/
inductive Problem where
  | form
  /-- The number of seconds is infinite. -/
  | infinite
  /-- More than 999999999 days. -/
  | tooManyDays (days : Int)
  /-- More days than a machine word counts. -/
  | beyondWord
  deriving DecidableEq, Repr

/-- The units, a unit that begins another one behind it. -/
inductive DurationUnit where
  | nanosecond
  | microsecond
  | millisecond
  | second
  | minute
  | hour
  deriving DecidableEq, Repr

namespace DurationUnit

/-- The seconds of a unit. -/
def seconds : DurationUnit → Binary64
  | nanosecond => .ofDecimal false 1 (-9)
  | microsecond => .ofDecimal false 1 (-6)
  | millisecond => .ofDecimal false 1 (-3)
  | second => .one
  | minute => .ofInt 60
  | hour => .ofInt 3600

/-- A unit at the start of a text, and what follows it. -/
def take? (cs : List Char) : Option (DurationUnit × List Char) :=
  match cs with
  | 'n' :: 's' :: rest => some (nanosecond, rest)
  | 'u' :: 's' :: rest => some (microsecond, rest)
  | 'µ' :: 's' :: rest => some (microsecond, rest)
  | 'm' :: 's' :: rest => some (millisecond, rest)
  | 's' :: rest => some (second, rest)
  | 'm' :: rest => some (minute, rest)
  | 'h' :: rest => some (hour, rest)
  | _ => none

end DurationUnit

/-- A number at the start of a text: digits with an optional point and further digits, or a point
and digits. -/
def number? (cs : List Char) : Option (List Char × List Char) :=
  let whole := cs.takeWhile isDigit
  let rest := cs.dropWhile isDigit
  let places := match rest with
    | '.' :: r => r.takeWhile isDigit
    | _ => []
  if whole.isEmpty then
    if places.isEmpty then none else some ('.' :: places, rest.drop (places.length + 1))
  else match rest with
    | '.' :: _ => some (whole ++ '.' :: places, rest.drop (places.length + 1))
    | _ => some (whole, rest)

/-- A part at the start of a text: its number, its unit, and what follows it. -/
def part? (cs : List Char) : Option (List Char × DurationUnit × List Char) := do
  let (n, rest) ← number? cs
  let (u, rest') ← DurationUnit.take? rest
  some (n, u, rest')

/-- The parts that a text consists of. Every part takes at least two characters, so the length of
the text bounds their number. -/
def partsFrom? : Nat → List Char → Option (List (List Char × DurationUnit))
  | _, [] => some []
  | 0, _ :: _ => none
  | fuel + 1, cs => do
    let (n, u, rest) ← part? cs
    let more ← partsFrom? fuel rest
    some ((n, u) :: more)

/-- The parts that a text consists of. -/
def parts? (cs : List Char) : Option (List (List Char × DurationUnit)) := partsFrom? cs.length cs

/-- The number that digits and a point write. -/
def numberValue (cs : List Char) : Binary64 :=
  let ds := cs.filterMap digitValue?
  let places := ((cs.dropWhile (· ≠ '.')).drop 1).length
  .ofDecimal false (ofDigits 10 ds) (-(places : Int))

/-- The seconds that parts add up to, from the left. -/
def total (ps : List (List Char × DurationUnit)) : Binary64 :=
  ps.foldl (fun sum (n, u) => sum.add ((numberValue n).mul u.seconds)) .zero

/-- A number of microseconds as a duration, if it is in range. -/
def ofMicros (n : Int) : Except Problem Duration :=
  let d : Duration := ⟨n⟩
  if d.days < -2147483648 || 2147483647 < d.days then .error .beyondWord
  else if 999999999 < d.days.natAbs then .error (.tooManyDays d.days)
  else .ok d

/-- The nearest whole number to `n + x`, where `x` lies between -1 and 1; a tie goes to the even
one. -/
def roundedSum (n : Int) (x : Binary64) : Int :=
  let half := (Binary64.ofParts false 1022 0)
  let step : Int := if x.negative then -1 else 1
  match x.abs.compare half with
  | .lt => n
  | .gt => n + step
  | .eq => if n % 2 = 0 then n else n + step

/-- The duration of a number of seconds. -/
def ofSeconds (x : Binary64) : Except Problem Duration :=
  if x.isNaN then .error .form
  else if x.isInfinite then .error .infinite
  else
    let fine := (Binary64.ofInt 1000000).mul x.fractional
    ofMicros (roundedSum (x.truncate * 1000000 + fine.truncate) fine.fractional)

/-- The duration that a text denotes. -/
def read (s : String) : Except Problem Duration :=
  let cs := trim isBlank s.toList
  match FloatText.read? (String.ofList cs) with
  | some x => ofSeconds x
  | none =>
    let (minus, rest) := IntText.splitSign cs
    if rest.isEmpty then .error .form
    else match parts? rest with
      | some ps => ofSeconds ((if minus then Binary64.negOne else .one).mul (total ps))
      | none => .error .form

end ParamBinding.DurationText
