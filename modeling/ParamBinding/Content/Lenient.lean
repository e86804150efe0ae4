import ParamBinding.Number.FloatText
import ParamBinding.Text.Split

/-!
# Lenient texts

Where a document has a text and a number or boolean is wanted, the text may spell it. Blanks around
a number do not count, single underscores may separate its digits, and a whole number may have zeros
in front of it and places that are all zero. Zeros in front are dropped up to a digit or a minus
sign, so that a sign may also stand behind them.
-/

namespace ParamBinding.Lenient

open ParamBinding.Text

/-- The blanks around a number. -/
def isSpace (c : Char) : Bool := isBlank c && !(28 ≤ c.toNat && c.toNat ≤ 31)

/-- A text without its underscores, which stand alone and not at its ends. -/
def dropUnderscores? (cs : List Char) : Option (List Char) :=
  let pieces := splitOn ['_'] cs
  if pieces.length = 1 then some cs
  else if pieces.any (·.isEmpty) then none
  else some pieces.flatten

/-- A numeral without its point, behind which stand zeros only. -/
def dropZeroPlaces (cs : List Char) : List Char :=
  match cutAt '.' cs with
  | (whole, some places) =>
    if !places.isEmpty && places.all (· = '0') then whole else cs
  | _ => cs

/-- A numeral without the zeros and underscores it starts with: the last of them stays where no
digit or minus sign follows. A numeral starts with a digit or a minus sign. -/
def dropLeadingZeros? (cs : List Char) : Option (List Char) :=
  let run := if cs.head? = some '0' then cs.takeWhile fun c => c = '0' || c = '_' else []
  match cs.drop run.length with
  | [] => run.getLast?.map ([·])
  | c :: rest =>
    if isAsciiDigit c || c = '-' then some (c :: rest)
    else if c = '.' then run.getLast?.map (· :: c :: rest)
    else none

/-- The whole number that ASCII digits write after an optional minus sign. -/
def plainInt? (cs : List Char) : Option Int :=
  let (minus, ds) := match cs with
    | '-' :: rest => (true, rest)
    | _ => (false, cs)
  if ds.isEmpty || (ds.length > 1 && ds.head? = some '0') then none
  else (ds.mapM asciiDigit?).map fun values => IntText.signed minus (ofDigits 10 values)

/-- A numeral without its plus sign, behind which stands no minus sign. -/
def dropPlus? (cs : List Char) : Option (List Char) :=
  match cs with
  | '+' :: '-' :: _ => none
  | '+' :: rest => some rest
  | _ => some cs

/-- The whole number that a text spells. -/
def int? (s : String) : Option Int := do
  let cs ← dropPlus? (trim isSpace s.toList)
  let bare ← match cs with
    | '-' :: rest => (dropLeadingZeros? rest).map ('-' :: ·)
    | _ => dropLeadingZeros? cs
  let ds ← dropUnderscores? (dropZeroPlaces bare)
  if IntText.maxDigits < ds.length then none else plainInt? ds

/-- The number that ASCII characters and nothing else write. -/
def plainFloat? (cs : List Char) : Option Binary64 :=
  if cs.all (·.toNat < 128) then
    match FloatText.start? cs with
    | some (x, []) => some x
    | _ => none
  else none

/-- The number that a text spells: there may be blanks around it or underscores in it, but not
both. -/
def float? (s : String) : Option Binary64 :=
  (plainFloat? (trim isSpace s.toList)).or ((dropUnderscores? s.toList).bind plainFloat?)

/-- The boolean that a text spells. -/
def bool? (s : String) : Option Bool :=
  let word := String.ofList (s.toList.map Char.toLower)
  if ["1", "on", "t", "true", "y", "yes"].contains word then some true
  else if ["0", "off", "f", "false", "n", "no"].contains word then some false
  else none

end ParamBinding.Lenient
