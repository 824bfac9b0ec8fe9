import Mathlib.Algebra.Field.Rat
import StructuralTyping.Value
/-!
# Numbers that are zero

`Number.isZero` asks an integer whether it is zero and a binary64 number about its
bits. Both mean that the value vanishes, and both agree with the nearest binary64
number: an integer other than zero is rounded to a number with a large exponent, so
rounding takes none of them to zero.
-/
set_option autoImplicit false

namespace StructuralTyping

namespace Double

/-- The number that a finite binary64 number stands for. -/
def value (d : Double) : ℚ :=
  (if d.isNegative then -1 else 1) * d.significand * 2 ^ d.exponent

/-- The sign and the scale of a binary64 number do not matter for whether it is zero. -/
theorem isZero_iff_value (d : Double) : d.isZero = true ↔ d.value = 0 := by
  have scaled : (2 : ℚ) ^ d.exponent ≠ 0 := zpow_ne_zero _ (by decide)
  have signed : (if d.isNegative then -1 else 1 : ℚ) ≠ 0 := by split <;> decide
  rw [value, mul_eq_zero, mul_eq_zero, or_iff_left scaled, or_iff_right signed, Nat.cast_eq_zero]
  by_cases subnormal : d.exponentField = 0 <;> simp [isZero, significand, subnormal]

/-- The exponent bits stand above the fraction bits and below the sign. -/
theorem exponentField_eq (d : Double) : d.exponentField = d.bits.toNat / 2 ^ 52 % 2 ^ 11 := by
  simp only [exponentField, UInt64.toNat_and, UInt64.toNat_shiftRight]
  rw [← Nat.shiftRight_eq_div_pow]
  exact Nat.and_two_pow_sub_one_eq_mod _ 11

/-- The fraction is in the last 52 bits. -/
theorem fractionField_eq (d : Double) : d.fractionField = d.bits.toNat % 2 ^ 52 := by
  simp only [fractionField, UInt64.toNat_and]
  exact Nat.and_two_pow_sub_one_eq_mod _ 52

/-- The magnitude bits leave the sign bit free. -/
theorem toNat_bits_withSign (negative : Bool) {magnitude : Nat} (fits : magnitude ≤ infinityBits) :
    (withSign negative magnitude).bits.toNat = (if negative then 2 ^ 63 else 0) + magnitude := by
  simp only [infinityBits, Nat.pow_eq] at fits
  simp only [withSign, UInt64.toNat_ofNat', Nat.pow_eq]
  split <;> omega

/-- A number of either sign is zero exactly if its magnitude bits are. -/
theorem isZero_withSign (negative : Bool) {magnitude : Nat} (fits : magnitude ≤ infinityBits) :
    (withSign negative magnitude).isZero = true ↔ magnitude = 0 := by
  have bits := toNat_bits_withSign negative fits
  simp only [infinityBits, Nat.pow_eq] at fits
  simp only [isZero, exponentField_eq, fractionField_eq, bits, Bool.and_eq_true, beq_iff_eq]
  split <;> omega

/-- The scale of a whole number other than zero is far above the smallest of the format,
so there are exponent steps to count. -/
theorem nearestMagnitude_one_pos {m : Nat} (positive : 0 < m) : 0 < nearestMagnitude m 1 := by
  have coarse : -53 ≤ scale m 1 := by
    have one : Nat.log2 1 = 0 := by decide
    simp only [scale, one]
    split <;> omega
  have steps : 0 < (scale m 1 + 1074).toNat * Nat.pow 2 52 :=
    Nat.mul_pos (by omega) (by decide)
  rw [nearestMagnitude, if_neg positive.ne']
  exact lt_min (by decide) (Nat.add_pos_left steps _)

/-- No magnitude is rounded beyond infinity. -/
theorem nearestMagnitude_le (numerator denominator : Nat) :
    nearestMagnitude numerator denominator ≤ infinityBits := by
  rw [nearestMagnitude]
  split
  · exact Nat.zero_le _
  · exact min_le_left _ _

/-- Zero is the only integer that is rounded to zero. -/
theorem isZero_ofInt (i : Int) : (ofInt i).isZero = true ↔ i = 0 := by
  rw [← Int.natAbs_eq_zero]
  by_cases vanishes : i.natAbs = 0
  · rw [ofInt, ofDecimal, if_pos vanishes, isZero_withSign _ (Nat.zero_le _)]
    exact iff_of_true rfl vanishes
  · have digits : ofDecimal (i < 0) i.natAbs 0 =
        withSign (i < 0) (nearestMagnitude i.natAbs 1) := by
      rw [ofDecimal, if_neg vanishes, if_neg (by decide), if_neg (by omega), if_neg (by decide)]
      simp
    rw [ofInt, digits, isZero_withSign _ (nearestMagnitude_le _ _)]
    have positive := nearestMagnitude_one_pos (Nat.pos_of_ne_zero vanishes)
    exact iff_of_false positive.ne' vanishes

end Double

namespace Number

/-- The number that a number in either form stands for. -/
def value : Number → ℚ
  | .integer i => i
  | .double d => d.value

/-- A number is told to be zero if its value is. -/
theorem isZero_iff_value (n : Number) : n.isZero = true ↔ n.value = 0 := by
  cases n with
  | integer i => simp [isZero, value]
  | double d => exact d.isZero_iff_value

/-- A number is zero exactly if the nearest binary64 number is. -/
theorem isZero_iff_toDouble (n : Number) : n.isZero = true ↔ n.toDouble.isZero = true := by
  cases n with
  | integer i => simp [isZero, toDouble, Double.isZero_ofInt]
  | double d => rfl

end Number

end StructuralTyping
