import Mathlib.Algebra.Order.Ring.Int
import ParamBinding.Number.Binary64

/-!
# Signs of double precision numbers

Rounding never gives a not-a-number value, and it keeps the sign (`Binary64.hasSign_ofRatio`). So
arithmetic gives such a value only where it is told to: from one, from infinities of opposite signs
that are added, and from an infinity times zero. Sums of positive numbers and products with a finite
number other than zero are none of these (`Binary64.HasSign.add`, `Binary64.HasSign.mul`).
-/

namespace ParamBinding.Binary64

variable {x y : Binary64} {sign other : Bool}

/-- A number with a sign: it may be infinite, but it is not a not-a-number value. -/
structure HasSign (x : Binary64) (sign : Bool) : Prop where
  negative : x.negative = sign
  defined : x.isNaN = false

/-! ### Rounding -/

section Parts

variable {e f : Nat}

theorem toNat_ofParts (h : e * Nat.pow 2 52 + f < Nat.pow 2 63) :
    (ofParts sign e f).bits.toNat =
      (if sign then Nat.pow 2 63 else 0) + (e * Nat.pow 2 52 + f) := by
  rw [ofParts, UInt64.toNat_ofNat', ← Nat.add_assoc]
  refine Nat.mod_eq_of_lt ?_
  have h63 : Nat.pow 2 63 = 9223372036854775808 := rfl
  rw [h63] at h ⊢
  split <;> omega

/-- Parts up to those of infinity are parts of a number. -/
theorem hasSign_ofParts (sign : Bool) (h : e * Nat.pow 2 52 + f ≤ 2047 * Nat.pow 2 52) :
    HasSign (ofParts sign e f) sign := by
  have h52 : Nat.pow 2 52 = 4503599627370496 := rfl
  have h63 : Nat.pow 2 63 = 9223372036854775808 := rfl
  have hbits : (ofParts sign e f).bits.toNat = _ := toNat_ofParts (by rw [h63]; omega)
  rw [h52, h63] at hbits
  rw [h52] at h
  constructor
  · rw [negative, hbits, h63]
    cases sign with
    | false =>
      rw [if_neg Bool.false_ne_true, beq_eq_false_iff_ne]
      omega
    | true =>
      rw [if_pos rfl, beq_iff_eq]
      omega
  · -- an exponent that is full leaves nothing for the fraction
    rw [isNaN, exponent, fraction, hbits, Bool.and_eq_false_iff, beq_eq_false_iff_ne,
      bne_eq_false_iff_eq, h52]
    split <;> omega

end Parts

theorem hasSign_infinity (sign : Bool) : HasSign (infinity sign) sign :=
  hasSign_ofParts sign (Nat.le_refl _)

/-- **Rounding keeps the sign**, and gives a number. -/
theorem hasSign_ofRatio (sign : Bool) (num den : Nat) : HasSign (ofRatio sign num den) sign := by
  have h52 : Nat.pow 2 52 = 4503599627370496 := rfl
  unfold ofRatio
  split
  · exact hasSign_ofParts sign (by omega)
  · dsimp only
    split
    · exact hasSign_ofParts sign (by omega)
    · split
      · exact hasSign_ofParts sign (by omega)
      · exact hasSign_infinity sign

theorem hasSign_ofDyadic (sign : Bool) (m : Nat) (e : Int) : HasSign (ofDyadic sign m e) sign := by
  unfold ofDyadic
  split <;> exact hasSign_ofRatio sign _ _

theorem hasSign_ofDecimal (sign : Bool) (digits : Nat) (e : Int) :
    HasSign (ofDecimal sign digits e) sign := by
  have hzero : HasSign (ofParts sign 0 0) sign := hasSign_ofParts sign (by omega)
  unfold ofDecimal
  split
  · exact hzero
  · dsimp only
    split
    · exact hasSign_infinity sign
    · split
      · exact hzero
      · split <;> exact hasSign_ofRatio sign _ _

/-! ### Arithmetic -/

theorem mul_comm (x y : Binary64) : x.mul y = y.mul x := by
  simp only [mul, bne_comm, Bool.or_comm x.isNaN, Bool.or_comm x.isInfinite,
    Bool.or_comm x.isZero, Nat.mul_comm x.significand, Int.add_comm x.scale]

/-- A factor that keeps products from being not-a-number values: it is finite, and not zero. -/
structure IsFactor (x : Binary64) (sign : Bool) : Prop where
  hasSign : HasSign x sign
  infinite : x.isInfinite = false
  zero : x.isZero = false

theorem HasSign.mul (hx : HasSign x sign) (hy : IsFactor y other) :
    HasSign (x.mul y) (sign != other) := by
  unfold Binary64.mul
  rw [hx.negative, hy.hasSign.negative, hx.defined, hy.hasSign.defined, hy.infinite, hy.zero]
  cases hinfinite : x.isInfinite with
  | true =>
    -- an infinite number is not zero
    have hzero : x.isZero = false := by
      rw [isInfinite, Bool.and_eq_true, beq_iff_eq] at hinfinite
      simp [isZero, hinfinite.1]
    simp only [hzero, Bool.or_false, Bool.false_eq_true, if_false, if_true]
    exact hasSign_infinity _
  | false =>
    simp only [Bool.or_false, Bool.false_eq_true, if_false]
    exact hasSign_ofDyadic _ _ _

theorem signed_nonneg (h : x.negative = false) : 0 ≤ x.signed := by
  rw [signed, h]
  exact Int.natCast_nonneg _

/-- A sum of positive numbers is one. -/
theorem HasSign.add (hx : HasSign x false) (hy : HasSign y false) : HasSign (x.add y) false := by
  unfold Binary64.add
  rw [hx.defined, hy.defined, hx.negative, hy.negative]
  cases x.isInfinite with
  | true =>
    rw [bne_self_eq_false, Bool.and_false]
    exact hx
  | false =>
    cases y.isInfinite with
    | true => exact hy
    | false =>
      have hpow : ∀ n : Nat, 0 ≤ Int.pow 2 n := fun n => Int.pow_nonneg (by decide)
      have hsum : 0 ≤ x.signed * Int.pow 2 (x.scale - min x.scale y.scale).toNat +
          y.signed * Int.pow 2 (y.scale - min x.scale y.scale).toNat :=
        Int.add_nonneg (Int.mul_nonneg (signed_nonneg hx.negative) (hpow _))
          (Int.mul_nonneg (signed_nonneg hy.negative) (hpow _))
      simp only [Bool.false_eq_true, if_false, Bool.or_self, decide_eq_false (Int.not_lt.mpr hsum)]
      split
      · exact hasSign_ofParts false (by omega)
      · exact hasSign_ofDyadic false _ _

end ParamBinding.Binary64
