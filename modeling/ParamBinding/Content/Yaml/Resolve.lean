import ParamBinding.Content.Yaml.Node
import ParamBinding.Number.IntText
import ParamBinding.Text.Split
import ParamBinding.Time.Iso

/-!
# Tags that are not written

A plain scalar without a tag is a number, a truth value, a point in time or nothing at all when it
is written like one, and a text otherwise. A line break at the end of it does not count.
-/

namespace ParamBinding.Yaml

open ParamBinding.Text

/-! ### Points in time -/

/-- The offset of a time from UTC. -/
structure ZoneText where
  minus : Bool
  hours : Nat
  minutes : Nat

/-- The time behind a date. -/
structure ClockText where
  hour : Nat
  minute : Nat
  second : Nat
  /-- The decimals of the second. -/
  fraction : List Nat
  zone : Option ZoneText

/-- A point in time as it is written. -/
structure TimestampText where
  year : Nat
  month : Nat
  day : Nat
  clock : Option ClockText

/-- A number of one or two digits. -/
def shortNumber? (cs : List Char) : Option (Nat × List Char) :=
  (Iso.fixedDigits? 2 cs).or (Iso.fixedDigits? 1 cs)

/-- An offset from UTC at the end of a text, blanks in front of it; there may be none. -/
def zone? (cs : List Char) : Option (Option ZoneText) :=
  if cs.isEmpty then some none
  else match cs.dropWhile fun c => c = ' ' || c = '\t' with
    | [] => none
    | sign :: rest =>
      if sign = 'Z' then if rest.isEmpty then some (some ⟨false, 0, 0⟩) else none
      else if sign = '+' || sign = '-' then do
        let (hours, rest) ← shortNumber? rest
        if rest.isEmpty then some (some ⟨sign = '-', hours, 0⟩)
        else
          let (minutes, rest) ← Iso.fixedDigits? 2 (← behind? ':' rest)
          if rest.isEmpty then some (some ⟨sign = '-', hours, minutes⟩) else none
      else none

/-- What is between a date and a time: `T`, or blanks. -/
def behindDate? (cs : List Char) : Option (List Char) :=
  match cs with
  | [] => none
  | c :: rest =>
    if c = 'T' || c = 't' then some rest
    else if c = ' ' || c = '\t' then some (rest.dropWhile fun c => c = ' ' || c = '\t')
    else none

/-- A time behind a date. -/
def clock? (cs : List Char) : Option ClockText := do
  let (hour, rest) ← shortNumber? (← behindDate? cs)
  let (minute, rest) ← Iso.fixedDigits? 2 (← behind? ':' rest)
  let (second, rest) ← Iso.fixedDigits? 2 (← behind? ':' rest)
  let (fraction, rest) := match behind? '.' rest with
    | some rest => (rest.takeWhile isAsciiDigit, rest.dropWhile isAsciiDigit)
    | none => ([], rest)
  let zone ← zone? rest
  some ⟨hour, minute, second, fraction.filterMap asciiDigit?, zone⟩

/-- A point in time: a date, or a date and a time. -/
def timestamp? (cs : List Char) : Option TimestampText := do
  let (year, rest) ← Iso.fixedDigits? 4 cs
  let (month, rest) ← shortNumber? (← behind? '-' rest)
  let (day, rest) ← shortNumber? (← behind? '-' rest)
  if rest.isEmpty then some ⟨year, month, day, none⟩
  else
    let clock ← clock? rest
    some ⟨year, month, day, some clock⟩

/-- Whether a text is a point in time without a tag: a date alone has two digits for month and
day. -/
def looksLikeTimestamp (cs : List Char) : Bool :=
  (timestamp? cs).any fun t => t.clock.isSome || cs.length = 10

/-! ### Numbers -/

/-- Whether a character may stand in a number. -/
def isDigitOrUnderscore (c : Char) : Bool := isAsciiDigit c || c = '_'

/-- Whether a text is digits, with underscores behind the first one. -/
def isGrouped (cs : List Char) : Bool :=
  cs.head?.any isAsciiDigit && cs.all isDigitOrUnderscore

/-- Whether a text is a number below sixty. -/
def isSixtieth (cs : List Char) : Bool :=
  match cs with
  | [a] => isAsciiDigit a
  | [a, b] => '0' ≤ a && a ≤ '5' && isAsciiDigit b
  | _ => false

/-- Whether a text is the places of a number, behind which may stand an exponent with a sign. -/
def isPlaces (cs : List Char) : Bool :=
  match cs.dropWhile isDigitOrUnderscore with
  | [] => true
  | e :: sign :: digits =>
    (e = 'e' || e = 'E') && (sign = '-' || sign = '+') && !digits.isEmpty && digits.all isAsciiDigit
  | _ => false

/-- Whether a text is a number with a point. -/
def looksLikeFloat (cs : List Char) : Bool :=
  let (_, body) := IntText.splitSign cs
  let isSigned := body.length ≠ cs.length
  if [".inf", ".Inf", ".INF"].contains (String.ofList body) then true
  else if [".nan", ".NaN", ".NAN"].contains (String.ofList body) then !isSigned
  else match cutAt '.' body with
    | ([], some places) => !isSigned && places.head?.any isAsciiDigit && isPlaces places
    | (whole, some places) =>
      match splitOn [':'] whole with
      | [w] => isGrouped w && isPlaces places
      | w :: parts => isGrouped w && parts.all isSixtieth && places.all isDigitOrUnderscore
      | [] => false
    | _ => false

/-- Whether a text is digits of a base and underscores, at least one of them. -/
def isNumeral (base : Nat) (cs : List Char) : Bool :=
  !cs.isEmpty && cs.all fun c => c = '_' || (hexDigit? c).any (· < base)

/-- Whether a text is a whole number: in base two, eight, ten or sixteen, or in base sixty with
colons. -/
def looksLikeInt (cs : List Char) : Bool :=
  match (IntText.splitSign cs).2 with
  | '0' :: 'b' :: rest => isNumeral 2 rest
  | '0' :: 'x' :: rest => isNumeral 16 rest
  | '0' :: rest => rest.isEmpty || isNumeral 8 rest
  | body => match splitOn [':'] body with
    | w :: parts => isGrouped w && parts.all isSixtieth
    | [] => false

/-! ### Words -/

/-- The words for truth values, in lower case. -/
def boolWords : List (String × Bool) :=
  [("yes", true), ("no", false), ("true", true), ("false", false), ("on", true), ("off", false)]

/-- A word in the ways in which it is recognized: in small letters, with a capital, in capitals. -/
def spellings (word : String) : List String := [word, word.capitalize, word.map Char.toUpper]

/-- The tag of a scalar without one. -/
def implicitTag (text : String) : NodeTag :=
  let cs := if text.toList.getLast? = some '\n' then text.toList.dropLast else text.toList
  let s := String.ofList cs
  if boolWords.any fun w => (spellings w.1).contains s then .bool
  else if looksLikeFloat cs then .float
  else if looksLikeInt cs then .int
  else if s = "<<" then .merge
  else if s = "~" || (spellings "null").contains s || text.isEmpty then .null
  else if looksLikeTimestamp cs then .timestamp
  else if s = "=" then .value
  else if s = "!" || s = "&" || s = "*" then .unknown
  else .str

end ParamBinding.Yaml
