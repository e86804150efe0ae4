import ParamBinding.Number.Binary64
import ParamBinding.Number.IntText

/-!
# Floating point numerals

Reading accepts a decimal numeral with an optional point and exponent, or a name of infinity or of
a not-a-number value, and rounds it once. Single underscores may separate digits, blanks may
surround the numeral, and digits of any script count. Writing gives the fewest digits that read
back, positional for magnitudes from `1e-4` up to `1e16`.
-/

namespace ParamBinding.FloatText

open ParamBinding.Text

/-! ### Reading -/

/-- A text without its underscores, each of which has to stand between two digits. -/
def dropUnderscores? : Option Char → List Char → Option (List Char)
  | last, [] => if last = some '_' then none else some []
  | last, c :: cs =>
    if c = '_' then
      if last.any isAsciiDigit then dropUnderscores? (some c) cs else none
    else if last = some '_' && !isAsciiDigit c then none
    else (dropUnderscores? (some c) cs).map (c :: ·)

/-- The longest run of digits at the start of a text, and what follows it. -/
def digitRun (cs : List Char) : List Char × List Char :=
  (cs.takeWhile isAsciiDigit, cs.dropWhile isAsciiDigit)

/-- The number that a run of ASCII digits writes. -/
def digitsValue (cs : List Char) : Nat :=
  ofDigits 10 (cs.filterMap asciiDigit?)

/-- Drop a word, in either case, from the start of a text. -/
def dropWord? (word cs : List Char) : Option (List Char) :=
  if word.isPrefixOf (cs.map Char.toLower) then some (cs.drop word.length) else none

/-- An exponent at the start of a text: `e`, an optional sign and digits. Without digits there is
none, and nothing is consumed. -/
def exponentPart (cs : List Char) : Int × List Char :=
  match cs with
  | c :: rest =>
    if c = 'e' || c = 'E' then
      let (minus, rest') := IntText.splitSign rest
      let (ds, rest'') := digitRun rest'
      if ds.isEmpty then (0, cs)
      else (if minus then -(digitsValue ds : Int) else digitsValue ds, rest'')
    else (0, cs)
  | [] => (0, [])

/-- A decimal numeral at the start of a text, without its sign: its digits, how many of them stand
behind the point, its exponent, and the rest. -/
def unsigned? (cs : List Char) : Option (List Char × Nat × Int × List Char) :=
  let (whole, rest) := digitRun cs
  let (places, rest') := match rest with
    | '.' :: r => digitRun r
    | _ => ([], rest)
  if whole.isEmpty && places.isEmpty then none
  else
    let (e, rest'') := exponentPart rest'
    some (whole ++ places, places.length, e, rest'')

/-- A numeral at the start of a text, and what follows it. -/
def start? (cs : List Char) : Option (Binary64 × List Char) :=
  let (minus, rest) := IntText.splitSign cs
  match unsigned? rest with
  | some (ds, places, e, rest') =>
    some (.ofDecimal minus (digitsValue ds) (e - places), rest')
  | none =>
    match dropWord? "infinity".toList rest with
    | some rest' => some (.infinity minus, rest')
    | none =>
      match dropWord? "inf".toList rest with
      | some rest' => some (.infinity minus, rest')
      | none => (dropWord? "nan".toList rest).map fun rest' => (.nan minus, rest')

/-- The number that a text denotes. -/
def read? (s : String) : Option Binary64 := do
  let bare ← dropUnderscores? none (trim isAsciiBlank (IntText.asciiSpelling s.toList))
  match start? bare with
  | some (x, []) => some x
  | _ => none

/-! ### Writing -/

/-- The power of ten of the first digit of a positive number `num / den`. -/
def leadingPower (num den : Nat) : Int :=
  let guess : Int := (Nat.toDigits 10 num).length - (Nat.toDigits 10 den).length
  let reached := if guess < 0 then den ≤ num * Nat.pow 10 guess.natAbs
    else den * Nat.pow 10 guess.natAbs ≤ num
  if reached then guess else guess - 1

/-- The two neighbours of `num / den` among the multiples of `10 ^ e`, the nearer one first. -/
def neighbours (num den : Nat) (e : Int) : List Nat :=
  let (n, d) := if e < 0 then (num * Nat.pow 10 e.natAbs, den)
    else (num, den * Nat.pow 10 e.natAbs)
  let q := n / d
  let r := n % d
  if 2 * r < d || (2 * r = d && q % 2 = 0) then [q, q + 1] else [q + 1, q]

/-- The first grid of decimals, from one digit on, with a point that reads back as `x`: the point's
digits and the power of ten they count. -/
def shortestFrom (x : Binary64) (num den : Nat) (power : Int) : Nat → Nat → Nat × Int
  | 0, count => ((neighbours num den (power - count + 1)).headD 0, power - count + 1)
  | fuel + 1, count =>
    let e := power - count + 1
    match (neighbours num den e).find? fun ds => Binary64.ofDecimal x.negative ds e = x with
    | some ds => (ds, e)
    | none => shortestFrom x num den power fuel (count + 1)

/-- The fewest decimal digits that read back as a finite number, and the power of ten of the last
one. -/
def shortest (x : Binary64) : Nat × Int :=
  let (num, den) := if x.scale < 0 then (x.significand, Nat.pow 2 x.scale.natAbs)
    else (x.significand * Nat.pow 2 x.scale.natAbs, 1)
  shortestFrom x num den (leadingPower num den) 17 1

/-- Digits without the zeros at their end. -/
def withoutTrailingZeros (ds : List Char) : List Char := trimRight (· = '0') ds

/-- The exponent of a numeral: a sign and at least two digits. -/
def exponentText (e : Int) : List Char :=
  'e' :: (if e < 0 then '-' else '+') :: decimalPadded 2 e.natAbs

/-- The text of a finite number without its sign. -/
def magnitudeText (x : Binary64) : List Char :=
  if x.isZero then "0.0".toList
  else
    let (n, e) := shortest x
    let ds := decimal n
    let point := (ds.length : Int) + e
    let bare := withoutTrailingZeros ds
    if -4 < point && point ≤ 16 then
      if point ≤ 0 then '0' :: '.' :: List.replicate point.natAbs '0' ++ bare
      else if bare.length ≤ point.toNat then
        bare ++ List.replicate (point.toNat - bare.length) '0' ++ ['.', '0']
      else bare.take point.toNat ++ '.' :: bare.drop point.toNat
    else
      let mantissa := match bare with
        | [] => []
        | [d] => [d]
        | d :: rest => d :: '.' :: rest
      mantissa ++ exponentText (point - 1)

/-- The text of a finite number without its sign and without an exponent; whole numbers have no
point. -/
def positionalText (x : Binary64) : List Char :=
  if x.isZero then ['0']
  else
    let (n, e) := shortest x
    let ds := decimal n
    let point := (ds.length : Int) + e
    let bare := withoutTrailingZeros ds
    if point ≤ 0 then '0' :: '.' :: List.replicate point.natAbs '0' ++ bare
    else if bare.length ≤ point.toNat then
      bare ++ List.replicate (point.toNat - bare.length) '0'
    else bare.take point.toNat ++ '.' :: bare.drop point.toNat

/-- The text of a number: the fewest digits that read back. -/
def write (x : Binary64) : String :=
  if x.isNaN then "nan"
  else
    let body := if x.isInfinite then "inf".toList else magnitudeText x
    String.ofList (if x.negative then '-' :: body else body)

end ParamBinding.FloatText
