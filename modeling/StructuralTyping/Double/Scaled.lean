import StructuralTyping.Double
/-!
# Decimals rounded step by step

A decimal `m * 10 ^ e` is read here in steps that each round to the nearest
binary64 number: the whole number `m`, the power of ten, and the product or the
quotient of the two. Every step is exact before it rounds. The result may be a
neighbour of the number that is nearest to the decimal, and at the ends of the
range it may be infinite or zero where the nearest number is neither.
-/
set_option autoImplicit false

namespace StructuralTyping.Double

/-- The numerator of the absolute value of a finite number. -/
def numerator (d : Double) : Nat := d.significand * Nat.pow 2 d.exponent.toNat

/-- The denominator of the absolute value of a finite number. -/
def denominator (d : Double) : Nat := Nat.pow 2 (-d.exponent).toNat

/-- The exponent of the largest power of ten that rounds to a finite number. -/
def greatestTenPower : Nat := 308

/-- The number nearest to a power of ten. -/
def tenTo (k : Nat) : Double := ofDecimal false 1 k

/-- The rounded absolute value of a product. -/
def roundedProduct (a b : Double) : Double :=
  withSign false
    (nearestMagnitude (a.numerator * b.numerator) (a.denominator * b.denominator))

/-- The rounded absolute value of a ratio. -/
def roundedRatio (a b : Double) : Double :=
  withSign false
    (nearestMagnitude (a.numerator * b.denominator) (a.denominator * b.numerator))

/-- The number times `10 ^ k`. A power of ten that is not finite takes all
numbers but zero out of the range. -/
def scaledUp (d : Double) (k : Nat) : Double :=
  if k ≤ greatestTenPower then d.roundedProduct (tenTo k)
  else if d.isZero then d
  else withSign false infinityBits

/-- The number divided by `10 ^ k`, which takes several divisions if the power
of ten is not finite. Zero stays as it is. -/
def scaledDown (d : Double) (k : Nat) : Double :=
  if k ≤ greatestTenPower then d.roundedRatio (tenTo k)
  else if d.isZero then d
  else (d.roundedRatio (tenTo greatestTenPower)).scaledDown (k - greatestTenPower)
termination_by k
decreasing_by simp only [greatestTenPower] at *; omega

/-- The decimal `m * 10 ^ e`, rounded step by step. -/
def ofScaled (negative : Bool) (m : Nat) (e : Int) : Double :=
  let whole := ofDecimal false m 0
  let magnitude := if e < 0 then whole.scaledDown (-e).toNat else whole.scaledUp e.toNat
  withSign negative magnitude.bits.toNat

end StructuralTyping.Double
