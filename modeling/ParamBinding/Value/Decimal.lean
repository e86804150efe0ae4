import ParamBinding.Value.Basic

/-!
# Decimal numbers from their parts

A decimal number may be given as three values: its sign, its digits and its exponent. In place of
the exponent a letter may stand for what is no finite number. Booleans count as integers.
-/

namespace ParamBinding.DecimalNumber

/-- Why values are not the parts of a decimal number. -/
inductive PartsProblem where
  /-- There are not three of them. -/
  | count
  | sign
  | letter
  | exponent
  | digits
  /-- An integer that a machine word does not hold. -/
  | beyondWord
  /-- An exponent that a machine word does not hold. -/
  | beyondSize
  /-- The exponent is beyond those that decimal numbers have. -/
  | range
  deriving DecidableEq, Repr

/-- The integer that a value counts as. -/
def integerOf? : Value → Option Int
  | .bool b => some (if b then 1 else 0)
  | .int n => some n
  | _ => none

/-- Whether a machine word holds an integer. -/
def fitsWord (n : Int) : Bool := -Int.pow 2 63 ≤ n && n < Int.pow 2 63

/-- An integer between two bounds. -/
def partIn (p : PartsProblem) (low high : Int) (v : Value) : Except PartsProblem Nat :=
  match integerOf? v with
  | none => .error p
  | some n =>
    if !fitsWord n then .error .beyondWord
    else if low ≤ n && n ≤ high then .ok n.toNat
    else .error p

/-- What stands in the third place: a letter or an exponent. -/
def scaleOf (v : Value) : Except PartsProblem (Char ⊕ Int) :=
  match v with
  | .text "F" => .ok (.inl 'F')
  | .text "n" => .ok (.inl 'n')
  | .text "N" => .ok (.inl 'N')
  | .text _ => .error .letter
  | v => match integerOf? v with
    | none => .error .exponent
    | some n => if fitsWord n then .ok (.inr n) else .error .beyondSize

/-- The digits that stand in the second place. -/
def digitsOf (v : Value) : Except PartsProblem (List Nat) :=
  match v with
  | .list xs | .tuple xs => xs.mapM (partIn .digits 0 9)
  | _ => .error .digits

/-- The number with the given parts. The third of them is looked at before the second. -/
def ofParts (parts : List Value) : Except PartsProblem DecimalNumber :=
  match parts with
  | [sign, coefficient, scale] => do
    let minus := (← partIn .sign 0 1 sign) = 1
    let scale ← scaleOf scale
    let n := Text.ofDigits 10 (← digitsOf coefficient)
    match scale with
    | .inl 'F' => .ok (.infinity minus)
    | .inl c => .ok (.nan minus (c = 'N') (payloadOf n))
    | .inr e => match finite? minus n e with
      | some d => .ok d
      | none => .error .range
  | _ => .error .count

end ParamBinding.DecimalNumber
