import ParamBinding.Number.FloatText

/-!
# Complex numerals

A complex number is written as a real part, an imaginary part with the unit `j`, or both. The unit
may be written `i`, and parentheses may surround the number.
-/

namespace ParamBinding.ComplexText

open ParamBinding.Text

/-- Why a text is not a complex number. -/
inductive Problem where
  /-- An underscore does not stand between two digits. -/
  | misplacedUnderscore
  | malformed
  deriving DecidableEq, Repr

/-- Whether a character is the imaginary unit. -/
def isUnit (c : Char) : Bool := c = 'j' || c = 'J'

/-- The imaginary unit at the start of a text is dropped. -/
def dropUnit? (cs : List Char) : Option (List Char) :=
  match cs with
  | c :: rest => if isUnit c then some rest else none
  | [] => none

/-- A sign standing for plus or minus one, and the rest. -/
def bareSign? (cs : List Char) : Option (Binary64 × List Char) :=
  match cs with
  | '+' :: rest => some (.one, rest)
  | '-' :: rest => some (.negOne, rest)
  | _ => none

/-- Real and imaginary part at the start of a text, and the rest. -/
def parts? (cs : List Char) : Option (Binary64 × Binary64 × List Char) :=
  match FloatText.start? cs with
  | some (x, rest) =>
    match bareSign? rest with
    | some (unit, afterSign) =>
      match FloatText.start? rest with
      | some (y, rest') => (dropUnit? rest').map fun r => (x, y, r)
      | none => (dropUnit? afterSign).map fun r => (x, unit, r)
    | none =>
      match dropUnit? rest with
      | some r => some (.zero, x, r)
      | none => some (x, .zero, rest)
  | none =>
    match bareSign? cs with
    | some (unit, rest) => (dropUnit? rest).map fun r => (.zero, unit, r)
    | none => (dropUnit? cs).map fun r => (.zero, .one, r)

/-- A complex number with nothing but blanks around it, perhaps between parentheses. -/
def whole? (cs : List Char) : Option (Binary64 × Binary64) := do
  let cs := cs.dropWhile isAsciiBlank
  let (bracket, inner) := match cs with
    | '(' :: rest => (true, rest.dropWhile isAsciiBlank)
    | _ => (false, cs)
  let (x, y, rest) ← parts? inner
  let rest := rest.dropWhile isAsciiBlank
  let rest ← if bracket then match rest with
      | ')' :: r => some (r.dropWhile isAsciiBlank)
      | _ => none
    else some rest
  if rest.isEmpty then some (x, y) else none

/-- The complex number that a text with the unit `j` denotes. -/
def readWithUnit (cs : List Char) : Except Problem (Binary64 × Binary64) :=
  match FloatText.dropUnderscores? none (IntText.asciiSpelling cs) with
  | none => .error .misplacedUnderscore
  | some bare =>
    match whole? bare with
    | some z => .ok z
    | none => .error .malformed

/-- The text without one pair of parentheses around it. -/
def withoutParentheses (cs : List Char) : List Char :=
  match cs with
  | '(' :: rest => if rest.getLast? = some ')' then rest.dropLast else cs
  | _ => cs

/-- A final unit `i` is read as `j`. -/
def withUnitJ (cs : List Char) : List Char :=
  if cs.getLast? = some 'i' then cs.dropLast ++ ['j'] else cs

/-- What `read` converts: the text without blanks and parentheses around it, with unit `j`. -/
def normalized (s : String) : List Char :=
  withUnitJ (withoutParentheses (trim isBlank s.toList))

/-- The complex number that a text denotes. -/
def read (s : String) : Except Problem (Binary64 × Binary64) :=
  readWithUnit (normalized s)

/-- The text of a part of a complex number. Whole numbers have no point. -/
def partText (x : Binary64) : List Char :=
  let cs := (FloatText.write x).toList
  if ['.', '0'] <:+ cs then cs.dropLast.dropLast else cs

/-- The text of a complex number. A real part that is zero, and not the negative one, is left
out. -/
def write (re im : Binary64) : String :=
  let imaginary := partText im
  if re.isZero && !re.negative then String.ofList (imaginary ++ ['j'])
  else
    let sign := if imaginary.head? = some '-' then [] else ['+']
    String.ofList ('(' :: partText re ++ sign ++ imaginary ++ ['j', ')'])

end ParamBinding.ComplexText
