/-!
# Double precision numbers

A double precision number is kept as its 64 bits, so that signed zeros and not-a-number values can
be told apart. Arithmetic is exact on dyadic rationals and then rounded once, to nearest with ties
to even; `ofRatio` is that one rounding. Powers are those of `Nat.pow` and `Int.pow`, so that they
are the same ones where the algebra of monoids is imported too.
-/

namespace ParamBinding

/-- A number in the double precision format of IEEE 754, by its bits. -/
structure Binary64 where
  bits : UInt64
  deriving DecidableEq, Repr, Inhabited

namespace Binary64

/-- The number with the given sign, biased exponent and fraction. -/
def ofParts (negative : Bool) (exponent fraction : Nat) : Binary64 :=
  ⟨UInt64.ofNat ((if negative then Nat.pow 2 63 else 0) + exponent * Nat.pow 2 52 + fraction)⟩

/-- The sign bit. -/
def negative (x : Binary64) : Bool := x.bits.toNat / Nat.pow 2 63 == 1

/-- The biased exponent, below 2048. -/
def exponent (x : Binary64) : Nat := x.bits.toNat / Nat.pow 2 52 % 2048

/-- The fraction, below `2 ^ 52`. -/
def fraction (x : Binary64) : Nat := x.bits.toNat % Nat.pow 2 52

/-- Positive zero. -/
def zero : Binary64 := ⟨0⟩

/-- One. -/
def one : Binary64 := ofParts false 1023 0

/-- Minus one. -/
def negOne : Binary64 := ofParts true 1023 0

/-- Infinity with a sign. -/
def infinity (negative : Bool) : Binary64 := ofParts negative 2047 0

/-- Not a number, with a sign. -/
def nan (negative : Bool) : Binary64 := ofParts negative 2047 (Nat.pow 2 51)

/-- Whether it is undefined, not a number. -/
def isNaN (x : Binary64) : Bool := x.exponent == 2047 && x.fraction != 0

/-- Whether it is one of the two infinities. -/
def isInfinite (x : Binary64) : Bool := x.exponent == 2047 && x.fraction == 0

/-- Whether it is a number, neither infinite nor undefined. -/
def isFinite (x : Binary64) : Bool := x.exponent != 2047

/-- Whether it is one of the two zeros. -/
def isZero (x : Binary64) : Bool := x.exponent == 0 && x.fraction == 0

/-- The significand of a finite number, as a multiple of `2 ^ (scale x)`. -/
def significand (x : Binary64) : Nat :=
  if x.exponent = 0 then x.fraction else x.fraction + Nat.pow 2 52

/-- The power of two that the significand of a finite number counts. -/
def scale (x : Binary64) : Int :=
  if x.exponent = 0 then -1074 else (x.exponent : Int) - 1075

/-- The quotient of two numbers rounded to the nearest integer, a tie to the even one. -/
def roundDiv (num den : Nat) : Nat :=
  let q := num / den
  let r := num % den
  if 2 * r < den then q
  else if den < 2 * r then q + 1
  else if q % 2 = 0 then q else q + 1

/-- `num / den` scaled by `2 ^ (-e)`, as a quotient of two numbers. -/
def scaled (num den : Nat) (e : Int) : Nat × Nat :=
  if e < 0 then (num * Nat.pow 2 e.natAbs, den) else (num, den * Nat.pow 2 e.natAbs)

/-- The power of two that the significand of `num / den` has to count: the one that leaves 53 bits,
but not below that of the subnormal numbers. -/
def scaleFor (num den : Nat) : Int :=
  let guess : Int := (num.log2 : Int) - den.log2 - 53
  -- logarithms are rounded down, so the guess may be one too low
  let (n, d) := scaled num den guess
  max (if n / d < Nat.pow 2 53 then guess else guess + 1) (-1074)

/-- The number nearest to `num / den`, a tie to the even significand; what lies beyond the largest
finite number is infinite. The denominator is not zero. -/
def ofRatio (negative : Bool) (num den : Nat) : Binary64 :=
  if num = 0 then ofParts negative 0 0
  else
    let e := scaleFor num den
    let (n, d) := scaled num den e
    let q := roundDiv n d
    if q < Nat.pow 2 52 then ofParts negative 0 q
    else
      -- a significand that was rounded up to a power of two carries into the exponent
      let biased := (e + 1075).toNat * Nat.pow 2 52 + (q - Nat.pow 2 52)
      if biased < 2047 * Nat.pow 2 52 then ofParts negative 0 biased else infinity negative

/-- The number nearest to `m * 2 ^ e`. -/
def ofDyadic (negative : Bool) (m : Nat) (e : Int) : Binary64 :=
  if e < 0 then ofRatio negative m (Nat.pow 2 e.natAbs)
  else ofRatio negative (m * Nat.pow 2 e.natAbs) 1

/-- The number nearest to `digits * 10 ^ e`. Far beyond the range of the format the power of ten is
not computed. -/
def ofDecimal (negative : Bool) (digits : Nat) (e : Int) : Binary64 :=
  if digits = 0 then ofParts negative 0 0
  else
    let magnitude := ((Nat.toDigits 10 digits).length : Int) + e
    if 400 < magnitude then infinity negative
    else if magnitude < -400 then ofParts negative 0 0
    else if e < 0 then ofRatio negative digits (Nat.pow 10 e.natAbs)
    else ofRatio negative (digits * Nat.pow 10 e.natAbs) 1

/-- The number nearest to an integer. -/
def ofInt (n : Int) : Binary64 := ofRatio (n < 0) n.natAbs 1

/-- The number with the other sign. -/
def neg (x : Binary64) : Binary64 := ofParts (!x.negative) x.exponent x.fraction

/-- The number without its sign. -/
def abs (x : Binary64) : Binary64 := ofParts false x.exponent x.fraction

/-- A finite number as an integer multiple of `2 ^ (scale x)`. -/
def signed (x : Binary64) : Int :=
  if x.negative then -(x.significand : Int) else x.significand

/-- The product. -/
def mul (x y : Binary64) : Binary64 :=
  let sign := x.negative != y.negative
  if x.isNaN || y.isNaN then nan false
  else if x.isInfinite || y.isInfinite then
    if x.isZero || y.isZero then nan true else infinity sign
  else ofDyadic sign (x.significand * y.significand) (x.scale + y.scale)

/-- The sum. Opposite numbers add up to positive zero. -/
def add (x y : Binary64) : Binary64 :=
  if x.isNaN || y.isNaN then nan false
  else if x.isInfinite then
    if y.isInfinite && x.negative != y.negative then nan true else x
  else if y.isInfinite then y
  else
    let e := min x.scale y.scale
    -- both as multiples of the smaller power of two
    let s := x.signed * Int.pow 2 (x.scale - e).toNat + y.signed * Int.pow 2 (y.scale - e).toNat
    if s = 0 then ofParts (x.negative && y.negative) 0 0
    else ofDyadic (s < 0) s.natAbs e

/-- The quotient of two finite numbers, the second of which is not zero. -/
def div (x y : Binary64) : Binary64 :=
  let (n, m) := (x.significand, y.significand)
  let e := x.scale - y.scale
  if e < 0 then ofRatio (x.negative != y.negative) n (m * Nat.pow 2 e.natAbs)
  else ofRatio (x.negative != y.negative) (n * Nat.pow 2 e.natAbs) m

/-- The integer part of a finite number, towards zero. -/
def truncate (x : Binary64) : Int :=
  let m := if x.scale < 0 then x.significand / Nat.pow 2 x.scale.natAbs
    else x.significand * Nat.pow 2 x.scale.natAbs
  if x.negative then -(m : Int) else m

/-- What a finite number has behind the point. -/
def fractional (x : Binary64) : Binary64 :=
  if x.scale < 0 then
    ofDyadic x.negative (x.significand % Nat.pow 2 x.scale.natAbs) x.scale
  else ofParts x.negative 0 0

/-- The greatest integer that is not above a finite number. -/
def floor (x : Binary64) : Int :=
  if x.negative && !x.fractional.isZero then x.truncate - 1 else x.truncate

/-- The integer nearest to a finite number; a tie goes away from zero. -/
def round (x : Binary64) : Int :=
  let m :=
    if x.scale < 0 then
      (2 * x.significand + Nat.pow 2 x.scale.natAbs) / Nat.pow 2 (x.scale.natAbs + 1)
    else x.significand * Nat.pow 2 x.scale.natAbs
  if x.negative then -(m : Int) else m

/-- The order of finite and infinite numbers: the sign of `x - y`, with both zeros equal. -/
def compare (x y : Binary64) : Ordering :=
  if x.isInfinite || y.isInfinite then
    let rank (z : Binary64) : Int := if z.isInfinite then (if z.negative then -1 else 1) else 0
    Ord.compare (rank x) (rank y)
  else
    let e := min x.scale y.scale
    Ord.compare (x.signed * Int.pow 2 (x.scale - e).toNat)
      (y.signed * Int.pow 2 (y.scale - e).toNat)

/-- Equality of numbers: a not-a-number value equals nothing, the two zeros are equal. -/
def same (x y : Binary64) : Bool :=
  !x.isNaN && !y.isNaN && x.compare y == .eq

/-- The integer that a number is equal to, if there is one. -/
def toInt? (x : Binary64) : Option Int :=
  if x.isFinite && x.fractional.isZero then some x.truncate else none

end Binary64

end ParamBinding
