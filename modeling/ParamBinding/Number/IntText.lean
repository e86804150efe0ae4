import ParamBinding.Text.Blank
import ParamBinding.Text.Digit

/-!
# Integer numerals

Two readers. The strict one takes an optional sign and ASCII digits and nothing else, at most
`maxDigits` of them. The lenient one, for a given base, also takes blanks around the numeral, single
underscores between digits, digits of any script and, in bases two, eight and sixteen, the marks
`0b`, `0o` and `0x`.
-/

namespace ParamBinding.IntText

open ParamBinding.Text

/-- The largest number of digits that is converted. -/
def maxDigits : Nat := 4300

/-- Why a text is not a decimal integer. -/
inductive Problem where
  | notNumeral
  | tooManyDigits (count : Nat)
  deriving DecidableEq, Repr

/-- The sign in front of a numeral, true for a minus, and what follows it. -/
def splitSign (cs : List Char) : Bool × List Char :=
  match cs with
  | '-' :: rest => (true, rest)
  | '+' :: rest => (false, rest)
  | _ => (false, cs)

/-- The number with a sign and a magnitude. -/
def signed (minus : Bool) (n : Nat) : Int := if minus then -(n : Int) else n

/-- The integer that an optional sign and ASCII digits write in base ten. -/
def readList (cs : List Char) : Except Problem Int :=
  let (minus, ds) := splitSign cs
  match ds.mapM asciiDigit? with
  | none => .error .notNumeral
  | some values =>
    if values.isEmpty then .error .notNumeral
    else if maxDigits < values.length then .error (.tooManyDigits values.length)
    else .ok (signed minus (ofDigits 10 values))

/-- `readList` on strings. -/
def read (s : String) : Except Problem Int := readList s.toList

/-- Digit values of a numeral with single underscores between its digits. -/
def groupedDigits? (base : Nat) : Bool → List Char → Option (List Nat)
  | afterDigit, [] => if afterDigit then some [] else none
  | afterDigit, c :: cs =>
    if c = '_' then if afterDigit then groupedDigits? base false cs else none
    else match hexDigit? c with
      | some d => if d < base then (groupedDigits? base true cs).map (d :: ·) else none
      | none => none

/-- The letter in the mark of a base. -/
def markLetter? : Nat → Option Char
  | 2 => some 'b'
  | 8 => some 'o'
  | 16 => some 'x'
  | _ => none

/-- A numeral without the mark of its base, after which one underscore may stand. -/
def dropMark (base : Nat) (cs : List Char) : List Char :=
  match cs with
  | '0' :: x :: rest =>
    if markLetter? base = some x.toLower then match rest with
      | '_' :: rest' => rest'
      | _ => rest
    else cs
  | _ => cs

/-- A text in ASCII, with a space for each blank and an ASCII digit for each digit of a script. It
ends with a question mark at the first character that has no such spelling. -/
def spellAscii : List Char → List Char
  | [] => []
  | c :: cs =>
    if c.toNat < 127 then c :: spellAscii cs
    else if isBlank c then ' ' :: spellAscii cs
    else match digitValue? c with
      | some d => Char.ofNat (48 + d) :: spellAscii cs
      | none => ['?']

/-- A text that is ASCII already is left alone. -/
def asciiSpelling (cs : List Char) : List Char :=
  if cs.all (·.toNat < 128) then cs else spellAscii cs

/-- The integer that a lenient numeral writes in a base up to sixteen. -/
def readLenient? (base : Nat) (cs : List Char) : Option Int := do
  let (minus, ds) := splitSign (trim isAsciiBlank (asciiSpelling cs))
  let values ← groupedDigits? base false (dropMark base ds)
  some (signed minus (ofDigits base values))

end ParamBinding.IntText
