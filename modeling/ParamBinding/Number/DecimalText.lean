import ParamBinding.Number.FloatText

/-!
# Decimal numbers

A decimal number keeps its coefficient and exponent as written, so `1.50` and `1.5` are two
spellings of equal numbers. Underscores are ignored, blanks may surround the numeral, and the
exponent has a range.
-/

namespace ParamBinding

/-- A decimal number as it was written. -/
inductive DecimalNumber where
  /-- The number `coefficient * 10 ^ exponent`, with a sign that zero has too. -/
  | finite (negative : Bool) (coefficient : Nat) (exponent : Int)
  | infinity (negative : Bool)
  /-- Not a number; the payload is a number that diagnoses it. -/
  | nan (negative signaling : Bool) (payload : Option Nat)
  deriving DecidableEq, Repr

namespace DecimalNumber

open ParamBinding.Text

/-- The largest exponent that the first digit may have. -/
def maxExponent : Int := 999999999999999999

/-- The least exponent that the last digit may have. -/
def minExponent : Int := -1999999999999999997

/-- The payload that a number is; zero is none. -/
def payloadOf (n : Nat) : Option Nat := if n = 0 then none else some n

/-- A payload of digits, empty for none. Zeros in front do not count. -/
def payload? (ds : List Char) : Option (Option Nat) :=
  if ds.all isAsciiDigit then some (payloadOf (FloatText.digitsValue ds)) else none

/-- The finite number with a coefficient and an exponent in range. -/
def finite? (negative : Bool) (coefficient : Nat) (exponent : Int) : Option DecimalNumber :=
  let length : Int := (decimal coefficient).length
  if minExponent ≤ exponent && exponent + length - 1 ≤ maxExponent then
    some (.finite negative coefficient exponent)
  else none

/-- The number that a numeral without blanks and underscores denotes. -/
def ofNumeral? (cs : List Char) : Option DecimalNumber :=
  let (minus, rest) := IntText.splitSign cs
  match FloatText.unsigned? rest with
  | some (ds, places, e, []) => finite? minus (FloatText.digitsValue ds) (e - places)
  | some _ => none
  | none =>
    let small := rest.map Char.toLower
    if small = "inf".toList || small = "infinity".toList then some (.infinity minus)
    else match FloatText.dropWord? "snan".toList rest with
      | some ds => (payload? ds).map (.nan minus true)
      | none => match FloatText.dropWord? "nan".toList rest with
        | some ds => (payload? ds).map (.nan minus false)
        | none => none

/-- The number that a text denotes. -/
def read? (s : String) : Option DecimalNumber := do
  let ascii ← (trim isBlank s.toList).mapM fun c =>
    if c.toNat < 128 then some c else (digitValue? c).map fun d => Char.ofNat (48 + d)
  ofNumeral? (ascii.filter (· ≠ '_'))

/-- The number that a float is, with as many digits as it has. -/
def ofBinary64 (x : Binary64) : DecimalNumber :=
  if x.isNaN then .nan false false none
  else if x.isInfinite then .infinity x.negative
  else
    let (n, e) := if x.scale < 0 then (x.significand * Nat.pow 5 x.scale.natAbs, x.scale)
      else (x.significand * Nat.pow 2 x.scale.natAbs, 0)
    let twos := (List.range e.natAbs).foldl
      (fun (acc : Nat × Int) _ =>
        if acc.1 % 10 = 0 && acc.2 < 0 then (acc.1 / 10, acc.2 + 1) else acc) (n, e)
    .finite x.negative twos.1 twos.2

/-- The sign in front of a numeral. -/
def signText (negative : Bool) : List Char := if negative then ['-'] else []

/-- The text of a number: positional, with an exponent where the point would lie behind the digits
or more than six places in front of them. -/
def text : DecimalNumber → List Char
  | .infinity negative => signText negative ++ "Infinity".toList
  | .nan negative signaling payload =>
    signText negative ++ (if signaling then "sNaN" else "NaN").toList ++
      (payload.map decimal).getD []
  | .finite negative coefficient exponent =>
    let ds := decimal coefficient
    let length : Int := ds.length
    let left := exponent + length
    let point := if exponent ≤ 0 && -6 < left then left else 1
    let body :=
      if point ≤ 0 then '0' :: '.' :: List.replicate point.natAbs '0' ++ ds
      else if length ≤ point then ds ++ List.replicate (point - length).toNat '0'
      else ds.take point.toNat ++ '.' :: ds.drop point.toNat
    let power := if left = point then []
      else 'E' :: (if left < point then [] else ['+']) ++ decimalInt (left - point)
    signText negative ++ body ++ power

/-- A coefficient without the zeros at its end, which are counted by the exponent instead. -/
def normalized (coefficient : Nat) (exponent : Int) : Nat × Int :=
  let ds := decimal coefficient
  let bare := FloatText.withoutTrailingZeros ds
  (FloatText.digitsValue bare, exponent + ds.length - bare.length)

/-- Equality of numbers, whatever their spelling. -/
def same (x y : DecimalNumber) : Bool :=
  match x, y with
  | .finite s m e, .finite t n f =>
    if m = 0 || n = 0 then m == n else s == t && normalized m e == normalized n f
  | .infinity s, .infinity t => s == t
  | _, _ => false

end DecimalNumber

end ParamBinding
