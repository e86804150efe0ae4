import ParamBinding.Time.Calendar
import ParamBinding.Text.Utf8

/-!
# ISO 8601 texts

Dates may be written with or without hyphens, by month and day or by week and weekday; times with
or without colons, cut after any part, with any number of decimals of a second; a time may end with
`Z` or an offset. Between date and time any one character may stand.

Texts are read as UTF-8 bytes, each as the character with its value, because lengths and positions
in a text count bytes. `NUL` stands for what lies behind the end.
-/

namespace ParamBinding.Iso

open ParamBinding.Text

/-- Why a text is no date or time: its form, or its numbers. -/
inductive Problem where
  | form
  | numbers (p : CalendarProblem)
  deriving DecidableEq, Repr

/-- The bytes of a string as characters. -/
def bytesOf (s : String) : List Char := latin1 (utf8 s)

/-- The first character, `NUL` behind the end. -/
def peek (cs : List Char) : Char := cs.headD '\x00'

/-- The number that the first `n` characters write, all of which have to be digits. -/
def fixedDigits? (n : Nat) (cs : List Char) : Option (Nat × List Char) :=
  if cs.length < n then none
  else ((cs.take n).mapM asciiDigit?).map fun ds => (ofDigits 10 ds, cs.drop n)

/-! ### Dates -/

/-- Year, month and day of a week date. The year 0 has weeks, but no months. -/
def weekDate? (year week weekday : Nat) : Option (Nat × Nat × Nat) :=
  if week < 1 || !(week ≤ 52 || Date.hasWeek year week) || weekday < 1 || 7 < weekday then none
  else if year = 0 then (if week ≤ 52 then some (1, 0, 1) else none)
  else some (Date.numbersOfOrdinal
    (Date.firstMonday year + (week - 1 : Nat) * 7 + (weekday - 1 : Nat)).toNat)

/-- Year, month and day at the start of a text, of which the date is meant to take `len` bytes. -/
def dateNumbers? (len : Nat) (cs : List Char) : Option (Nat × Nat × Nat) := do
  let (year, rest) ← fixedDigits? 4 cs
  let hyphens := peek rest = '-'
  let rest := if hyphens then rest.drop 1 else rest
  if peek rest = 'W' then
    let (week, rest) ← fixedDigits? 2 (rest.drop 1)
    if cs.length - rest.length < len then
      if hyphens && peek rest ≠ '-' then none
      else
        let (weekday, _) ← fixedDigits? 1 (if hyphens then rest.drop 1 else rest)
        weekDate? year week weekday
    else weekDate? year week 1
  else
    let (month, rest) ← fixedDigits? 2 rest
    if hyphens && peek rest ≠ '-' then none
    else
      let (day, _) ← fixedDigits? 2 (if hyphens then rest.drop 1 else rest)
      some (year, month, day)

/-- Turn a range problem of numbers into a problem of the text. -/
def checked {α : Type} (x : Except CalendarProblem α) : Except Problem α :=
  x.mapError .numbers

/-- The date that a text writes. -/
def date (s : String) : Except Problem Date :=
  let cs := bytesOf s
  if cs.length = 7 || cs.length = 8 || cs.length = 10 then
    match dateNumbers? cs.length cs with
    | some (y, m, d) => checked (Date.ofNumbers y m d)
    | none => .error .form
  else .error .form

/-! ### Times -/

/-- What the clock part of a time consists of, and whether it ends where the text does. -/
structure Clock where
  hour : Nat := 0
  minute : Nat := 0
  second : Nat := 0
  micro : Nat := 0
  complete : Bool := true

/-- The number that up to six decimals of a second write, as microseconds. -/
def decimals? (cs : List Char) (available : Nat) : Option (Nat × List Char) :=
  let n := min available 6
  (fixedDigits? n cs).map fun (v, rest) => (v * Nat.pow 10 (6 - n), rest)

/-- The decimals of a second, of which `available` bytes belong to the clock. Digits after the
sixth are skipped. -/
def withDecimals? (c : Clock) (cs : List Char) (available : Nat) : Option Clock := do
  let (micro, rest) ← decimals? cs available
  some { c with micro, complete := peek (rest.dropWhile isAsciiDigit) = '\x00' }

/-- Put the value of the `i`-th part of a clock. -/
def Clock.set (c : Clock) (i v : Nat) : Clock :=
  match i with
  | 0 => { c with hour := v }
  | 1 => { c with minute := v }
  | _ => { c with second := v }

/-- Parts `i` and on of a clock, `available` bytes of the text belonging to it. With `colons` the
parts are separated by colons, else they follow one another. Behind any part decimals may follow
after a point or comma, and behind the seconds also after whatever separates the parts. -/
def clockFrom? (colons : Bool) : Nat → Nat → Clock → List Char → Nat → Option Clock
  | 0, _, c, cs, available => withDecimals? c cs available
  | fuel + 1, i, c, cs, available => do
    let (v, rest) ← fixedDigits? 2 cs
    let c := c.set i v
    let next := peek rest
    let colons := if i = 0 then next = ':' else colons
    if available ≤ 3 then some { c with complete := next = '\x00' }
    else if colons && next = ':' then clockFrom? colons fuel (i + 1) c (rest.drop 1) (available - 3)
    else if next = '.' || next = ',' then withDecimals? c (rest.drop 1) (available - 3)
    else if !colons then clockFrom? colons fuel (i + 1) c rest (available - 2)
    else none

/-- The clock part at the start of a text, of which `available` bytes belong to it. -/
def clock? (cs : List Char) (available : Nat) : Option Clock :=
  clockFrom? true 3 0 {} cs available

/-- Whether an offset from UTC may begin with this character. -/
def startsOffset (c : Char) : Bool := c = '+' || c = '-' || c = 'Z'

/-- A clock and an offset in microseconds where the text has one. -/
def clockAndOffset? (cs : List Char) : Option (Clock × Option Int) := do
  let before := match cs with
    | [] => 0
    | c :: rest => if startsOffset c then 0 else 1 + (rest.takeWhile (!startsOffset ·)).length
  let c ← clock? cs before
  match cs.drop before with
  | [] => if c.complete then some (c, none) else none
  | 'Z' :: rest => if peek rest = '\x00' then some (c, some 0) else none
  | mark :: rest =>
    let o ← clock? rest rest.length
    if o.complete then
      let seconds : Int := o.hour * 3600 + o.minute * 60 + o.second
      let micros := if seconds = 0 then 0 else seconds * 1000000 + o.micro
      some (c, some (if mark = '-' then -micros else micros))
    else none

/-- An offset is shorter than a day. -/
def checkedOffset (o : Option Int) : Except Problem (Option Int) :=
  match o with
  | none => .ok none
  | some n =>
    if n.natAbs < 86400000000 then .ok (some n) else .error (.numbers (.offset ⟨n⟩))

/-- The time of day that a text writes. It may begin with `T`. -/
def time (s : String) : Except Problem TimeOfDay :=
  let cs := bytesOf s
  match clockAndOffset? (if peek cs = 'T' then cs.drop 1 else cs) with
  | none => .error .form
  | some (c, o) => do
    let o ← checkedOffset o
    checked (TimeOfDay.ofNumbers c.hour c.minute c.second c.micro o)

/-! ### Dates with times -/

/-- How many bytes of a text belong to its date. -/
def dateLength (cs : List Char) : Nat :=
  let len := cs.length
  let at_ (i : Nat) : Char := peek (cs.drop i)
  if len = 7 then 7
  else if at_ 4 = '-' then
    if at_ 5 = 'W' then
      if 8 < len && at_ 8 = '-' then
        if len = 9 then len + 1
        else if 10 < len && isAsciiDigit (at_ 10) then 8 else 10
      else 8
    else 10
  else if at_ 4 = 'W' then
    let pos := 7 + ((cs.drop 7).takeWhile isAsciiDigit).length
    if pos < 9 then pos else if pos % 2 = 0 then 7 else 8
  else 8

/-- How many bytes the character with this first byte has. -/
def widthOf (c : Char) : Nat :=
  let n := c.toNat
  if n < 0x80 then 1 else if n / 16 = 0xE then 3 else if n / 16 = 0xF then 4 else 2

/-- The point in time that a text writes. Without a time it is midnight. -/
def dateTime (s : String) : Except Problem DateTime :=
  let cs := bytesOf s
  if s.length < 7 then .error .form
  else
    let len := dateLength cs
    match dateNumbers? len cs with
    | none => .error .form
    | some (y, m, d) =>
      let rest := cs.drop len
      let clock := if rest.isEmpty then some ({}, none)
        else clockAndOffset? (rest.drop (widthOf (peek rest)))
      match clock with
      | none => .error .form
      | some (c, o) => do
        let o ← checkedOffset o
        let date ← checked (Date.ofNumbers y m d)
        let time ← checked (TimeOfDay.ofNumbers c.hour c.minute c.second c.micro o)
        .ok ⟨date, time⟩

end ParamBinding.Iso
