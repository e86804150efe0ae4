import ParamBinding.Content.Lenient
import ParamBinding.Time.DurationText
import ParamBinding.Time.Iso

/-!
# Lenient points in time

Where a document has a text or a number and a point in time is wanted, the text may write one, and
numbers count seconds since the start of 1970, or milliseconds when they are large. In texts with
colons decimals beyond the microsecond do not count; in numbers they round to the nearest one, a tie
away from zero.
-/

namespace ParamBinding.Lenient

open ParamBinding.Text

/-! ### Texts -/

/-- A date at the start of a text. -/
def dateStart? (cs : List Char) : Option (Date × List Char) := do
  let (year, rest) ← Iso.fixedDigits? 4 cs
  let (month, rest) ← Iso.fixedDigits? 2 (← behind? '-' rest)
  let (day, rest) ← Iso.fixedDigits? 2 (← behind? '-' rest)
  let date ← (Date.ofNumbers year month day).toOption
  some (date, rest)

/-- The microseconds that digits behind a point write. -/
def micros (digits : List Char) : Nat :=
  let ds := (digits.take 6).filterMap asciiDigit?
  ofDigits 10 (ds ++ List.replicate (6 - ds.length) 0)

/-- The decimals of a second at the start of a text, as microseconds. A point has digits behind
it. -/
def decimals? (cs : List Char) : Option (Nat × List Char) :=
  match cs with
  | c :: rest =>
    if c = '.' || c = ',' then
      let digits := rest.takeWhile isAsciiDigit
      if digits.isEmpty then none else some (micros digits, rest.dropWhile isAsciiDigit)
    else some (0, cs)
  | [] => some (0, [])

/-- Seconds at the start of a text, if there are any, and their decimals. -/
def seconds? (cs : List Char) : Option (Nat × Nat × List Char) :=
  match behind? ':' cs with
  | none => some (0, 0, cs)
  | some rest => do
    let (second, rest) ← Iso.fixedDigits? 2 rest
    let (micro, rest) ← decimals? rest
    some (second, micro, rest)

/-- The offset from UTC that a text writes, in microseconds. -/
def offset? (cs : List Char) : Option (Option Int) :=
  match cs with
  | [] => some none
  | sign :: rest =>
    if sign = 'Z' || sign = 'z' then if rest.isEmpty then some (some 0) else none
    else if sign = '+' || sign = '-' || sign = '−' then do
      let (hours, rest) ← Iso.fixedDigits? 2 rest
      let (minutes, rest) ← Iso.fixedDigits? 2 ((behind? ':' rest).getD rest)
      let n : Int := (hours * 60 + minutes) * 60000000
      if rest.isEmpty && hours < 24 && minutes < 60 then some (some (if sign = '+' then n else -n))
      else none
    else none

/-- A time of day. -/
def clock? (cs : List Char) : Option TimeOfDay := do
  let (hour, rest) ← Iso.fixedDigits? 2 cs
  let (minute, rest) ← Iso.fixedDigits? 2 (← behind? ':' rest)
  let (second, micro, rest) ← seconds? rest
  let offset ← offset? rest
  (TimeOfDay.ofNumbers hour minute second micro offset).toOption

/-! ### Numbers -/

/-- The largest number that counts seconds; larger ones count milliseconds. -/
def maxSeconds : Nat := 20000000000

/-- Whether a number counts seconds. -/
def countsSeconds (x : Binary64) : Bool := x.abs.compare (.ofInt maxSeconds) != .gt

/-- The microseconds of a whole number of seconds or milliseconds. -/
def microsOfInt (n : Int) : Int := if n.natAbs ≤ maxSeconds then n * 1000000 else n * 1000

/-- A number in units of which there are so many to one, the part behind the point rounded. -/
def inUnits (x : Binary64) (count : Nat) : Int :=
  let places := x.add (.ofInt (-x.floor))
  x.floor * count + (places.mul (.ofInt count)).round

/-- The microseconds of a finite number of seconds or milliseconds. -/
def microsOfFloat? (x : Binary64) : Option Int :=
  if x.isFinite then some (inUnits x (if countsSeconds x then 1000000 else 1000)) else none

/-- The microseconds that a numeral writes, as seconds or milliseconds. Milliseconds with a point
are turned into seconds first. -/
def microsOfText? (cs : List Char) : Option Int :=
  let (minus, rest) := IntText.splitSign cs
  let digits := rest.takeWhile isAsciiDigit
  match rest.drop digits.length with
  | [] =>
    if digits.isEmpty then none
    else some (microsOfInt (IntText.signed minus (ofDigits 10 (digits.filterMap asciiDigit?))))
  | c :: _ =>
    if c = '.' then
      match plainFloat? cs with
      | some x =>
        if !x.isFinite then none
        else some (inUnits (if countsSeconds x then x else x.div (.ofInt 1000)) 1000000)
      | none => none
    else none

/-- The point in time with a number of microseconds since the start of 1970, in a year from 1 to
9999. -/
def ofEpoch (micros : Int) : Option DateTime :=
  let seconds := Int.fdiv micros 1000000
  if -62135596800 ≤ seconds && seconds ≤ 253402300799 then
    -- 719163 is the number of the first day of 1970
    let (y, m, d) := Date.numbersOfOrdinal (Int.fdiv seconds 86400 + 719163).toNat
    let s := (Int.fmod seconds 86400).toNat
    some ⟨⟨y, m, d⟩,
      ⟨s / 3600, s / 60 % 60, s % 60, (Int.fmod micros 1000000).toNat, some 0⟩⟩
  else none

/-- The time of day in UTC with a number of microseconds since midnight. -/
def ofMidnight (micros : Int) : Option TimeOfDay :=
  if 0 ≤ micros && micros < 86400000000 then
    let n := micros.toNat
    let s := n / 1000000
    some ⟨s / 3600, s / 60 % 60, s % 60, n % 1000000, some 0⟩
  else none

/-- The time of day with a number of seconds since midnight. -/
def timeOfFloat? (x : Binary64) : Option TimeOfDay :=
  if x.isFinite && 0 ≤ x.floor then ofMidnight (inUnits x 1000000) else none

/-! ### Dates and times -/

/-- The point in time that a text writes, with a date and a time or as a number. -/
def dateTime? (s : String) : Option DateTime :=
  let cs := s.toList
  let written : Option DateTime := do
    let (date, rest) ← dateStart? cs
    match rest with
    | [] => none
    | sep :: rest => if "Tt _".toList.contains sep then (clock? rest).map (⟨date, ·⟩) else none
  written.or ((microsOfText? cs).bind ofEpoch)

/-- The start of a date. -/
def startOf (d : Date) : DateTime := ⟨d, ⟨0, 0, 0, 0, none⟩⟩

/-- The date of a point in time at midnight. -/
def midnight? (d : DateTime) : Option Date :=
  if d.time.sinceMidnight = 0 then some d.date else none

/-- The date with a number of seconds or milliseconds since the start of 1970. It is a whole number
of days, of milliseconds the part that makes no second left out. -/
def dateOfText? (cs : List Char) : Option Date :=
  let (_, rest) := IntText.splitSign cs
  if rest.all isAsciiDigit then do
    let micros ← microsOfText? cs
    let whole ← ofEpoch (Int.fdiv micros 1000000 * 1000000)
    midnight? whole
  else none

/-- The date that a text writes, alone or as a number. -/
def date? (s : String) : Option Date :=
  let written := match dateStart? s.toList with
    | some (date, []) => some date
    | _ => none
  written.or (dateOfText? s.toList)

/-- The time of day that a text writes. -/
def time? (s : String) : Option TimeOfDay := clock? s.toList

/-! ### Durations -/

/-- A length of time in parts that are counted apart. -/
structure Span where
  days : Nat := 0
  seconds : Nat := 0
  micros : Nat := 0

namespace Span

/-- The sum, part by part. -/
def add (s t : Span) : Span := ⟨s.days + t.days, s.seconds + t.seconds, s.micros + t.micros⟩

/-- A number of seconds. -/
def ofSeconds (x : Binary64) : Span where
  seconds := x.truncate.natAbs
  micros := (x.fractional.mul (.ofInt 1000000)).round.natAbs

/-- A number of days. -/
def ofDays (x : Binary64) : Span :=
  { ofSeconds (x.fractional.mul (.ofInt 86400)) with days := x.truncate.natAbs }

/-- The duration with a sign. The seconds are counted by a machine word, and there is a largest
number of days. -/
def toDuration? (minus : Bool) (s : Span) : Option Duration :=
  let micros := (s.days * 86400 + s.seconds) * 1000000 + s.micros
  if Nat.pow 2 32 ≤ s.seconds || 999999999 < micros / 86400000000 then none
  else some ⟨IntText.signed minus micros⟩

end Span

/-- The duration of a whole number of seconds. The days are counted by a machine word. -/
def durationOfInt? (n : Int) : Option Duration :=
  if -Int.pow 2 63 ≤ n && n < Int.pow 2 63 then
    let days := n.natAbs / 86400 % Nat.pow 2 32
    Span.toDuration? (n < 0) { days, seconds := n.natAbs % 86400 }
  else none

/-- The duration of a number of seconds. -/
def durationOfFloat? (x : Binary64) : Option Duration :=
  if x.isFinite then
    let days := (x.abs.div (.ofInt 86400)).truncate.natAbs
    let s := Span.ofSeconds x.abs
    Span.toDuration? x.negative { s with days, seconds := s.seconds % 86400 }
  else none

/-- The parts of a duration with their lengths in days or seconds, in the order in which they are
written: those of dates, then those of times. -/
def durationUnits (isTime : Bool) : List (Char × Nat) :=
  if isTime then [('H', 3600), ('M', 60), ('S', 1)]
  else [('Y', 365), ('M', 30), ('W', 7), ('D', 1)]

/-- The number behind a point that digits write, digit by digit. -/
def places (digits : List Char) : Binary64 :=
  let ds := digits.filterMap asciiDigit?
  let n : Binary64 := ds.foldl (fun x (d : Nat) => (x.mul (.ofInt 10)).add (.ofInt d)) .zero
  let scale : Binary64 := ds.foldl (fun x _ => x.mul (.ofInt 10)) .one
  if scale.isFinite then n.div scale else .zero

/-- A part at the start of a text: its length, whether it has a point, and the rest. -/
def durationPart? (isTime : Bool) (cs : List Char) : Option (Span × Bool × List Char) := do
  let digits := cs.takeWhile isAsciiDigit
  let rest := cs.drop digits.length
  let (fraction, rest) := match rest with
    | c :: more =>
      if c = '.' || c = ',' then (some (more.takeWhile isAsciiDigit), more.dropWhile isAsciiDigit)
      else (none, rest)
    | [] => (none, rest)
  let (letter, rest) ← rest.head?.map fun c => (c, rest.drop 1)
  let unit ← (durationUnits isTime).lookup letter
  let whole := ofDigits 10 (digits.filterMap asciiDigit?) * unit
  let fine := (places (fraction.getD [])).mul (.ofInt unit)
  let span := if isTime then (Span.ofSeconds fine).add { seconds := whole }
    else (Span.ofDays fine).add { days := whole }
  if digits.isEmpty then none else some (span, fraction.isSome, rest)

/-- The parts of a duration. Behind a part with a point there are no more. The fuel bounds their
number. -/
def durationParts? (isTime ended : Bool) : Nat → List Char → Option Span
  | 0, _ => none
  | fuel + 1, cs =>
    match cs with
    | [] => some {}
    | 'T' :: rest => if isTime then none else durationParts? true ended fuel rest
    | _ =>
      if ended then none
      else do
        let (span, hasPoint, rest) ← durationPart? isTime cs
        let more ← durationParts? isTime hasPoint fuel rest
        some (span.add more)

/-- The largest number of hours. -/
def maxHours : Nat := 2400000000

/-- Hours, minutes and seconds with colons between them. Behind the hours twelve characters
count. -/
def durationClock? (cs : List Char) : Option Span := do
  let (digits, rest) := cutAt ':' cs
  let (minute, rest) ← Iso.fixedDigits? 2 ((← rest).take 12)
  let (second, micro, rest) ← seconds? rest
  let hours := ofDigits 10 (digits.filterMap asciiDigit?)
  if cs.length < 5 || 10 < digits.length || !digits.all isAsciiDigit || maxHours < hours then none
  else if !rest.isEmpty || 59 < minute || 59 < second then none
  else some ⟨hours / 24, (hours % 24 * 60 + minute) * 60 + second, micro⟩

/-- What follows the unit of days: its first letter, and perhaps the others. -/
def behindDay? (cs : List Char) : Option (List Char) :=
  match cs with
  | c :: rest =>
    if c = 'd' || c = 'D' then
      match rest with
      | 'a' :: 'y' :: 's' :: more => some more
      | 'a' :: 'y' :: more => some more
      | 'a' :: _ => none
      | more => some more
    else none
  | [] => none

/-- A number of days, behind which may stand a time. -/
def durationDays? (cs : List Char) : Option Span := do
  let digits := cs.takeWhile isAsciiDigit
  let rest := cs.drop digits.length
  let rest ← behindDay? ((behind? ' ' rest).getD rest)
  let rest := (behind? ',' rest).getD rest
  let rest := (behind? ' ' rest).getD rest
  let span : Span := { days := ofDigits 10 (digits.filterMap asciiDigit?) }
  if digits.isEmpty then none
  else if rest.isEmpty then some span
  else (durationClock? rest).map span.add

/-- The duration that a text writes: by parts behind the letter `P`, with days, or as a time. -/
def duration? (s : String) : Option Duration := do
  let cs := s.toList
  let (minus, rest) := IntText.splitSign cs
  let span ← match rest with
    | 'P' :: parts =>
      if cs.length < 3 then none else durationParts? false false (parts.length + 1) parts
    | _ =>
      if cs.length < 5 || cs.any fun c => c = 'd' || c = 'D' then durationDays? rest
      else durationClock? rest
  span.toDuration? minus

end ParamBinding.Lenient
