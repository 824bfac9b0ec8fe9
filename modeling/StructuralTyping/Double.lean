/-!
# Binary64 numbers

A number is kept as its 64 bits, so two numbers are equal exactly when their
bits are: the two zeros differ, and a NaN equals itself. `Double.ofDecimal` gives
the number nearest to a decimal, by exact arithmetic; the arithmetic of the
sample functions goes through the machine's own operations.
-/
set_option autoImplicit false

namespace StructuralTyping

/-- A binary64 number, given by its bits. -/
structure Double where
  bits : UInt64
deriving DecidableEq

namespace Double

/-- The sign bit. -/
def isNegative (d : Double) : Bool := d.bits >>> 63 == 1

/-- The eleven exponent bits. -/
def exponentField (d : Double) : Nat := ((d.bits >>> 52) &&& 0x7FF).toNat

/-- The fifty-two fraction bits. -/
def fractionField (d : Double) : Nat := (d.bits &&& 0xFFFFFFFFFFFFF).toNat

/-- Neither infinite nor a NaN. -/
def isFinite (d : Double) : Bool := d.exponentField != 2047

/-- Not a number. -/
def isNaN (d : Double) : Bool := d.exponentField == 2047 && d.fractionField != 0

/-- Either of the two zeros. -/
def isZero (d : Double) : Bool := d.exponentField == 0 && d.fractionField == 0

/-- The whole number `m` in the absolute value `m * 2 ^ q` of a finite number. -/
def significand (d : Double) : Nat :=
  if d.exponentField = 0 then d.fractionField else d.fractionField + Nat.pow 2 52

/-- The exponent `q` in the absolute value `m * 2 ^ q` of a finite number. -/
def exponent (d : Double) : Int :=
  if d.exponentField = 0 then -1074 else (d.exponentField : Int) - 1075

/-- The same number with the sign bit set as asked. -/
def withSign (negative : Bool) (magnitude : Nat) : Double :=
  ⟨UInt64.ofNat (if negative then Nat.pow 2 63 + magnitude else magnitude)⟩

/-- The bits of positive infinity. -/
def infinityBits : Nat := 2047 * Nat.pow 2 52

/-- The quotient rounded to the nearest whole number, a tie to the even one. -/
def roundedQuotient (numerator denominator : Nat) : Nat :=
  let quotient := numerator / denominator
  let twice := 2 * (numerator % denominator)
  if twice < denominator then quotient
  else if twice = denominator then quotient + quotient % 2
  else quotient + 1

/-- The power `q` for which a positive `numerator / denominator` has 53 binary
digits before the point once it is divided by `2 ^ q`, or the least power that
the format has. -/
def scale (numerator denominator : Nat) : Int :=
  let guess : Int := (Nat.log2 numerator : Int) - (Nat.log2 denominator : Int) - 52
  let fits : Bool :=
    if guess < 0 then numerator * Nat.pow 2 (-guess).toNat < denominator * Nat.pow 2 52
    else numerator < denominator * Nat.pow 2 (guess.toNat + 52)
  max (-1074) (if fits then guess - 1 else guess)

/-- The magnitude bits of the number nearest to `numerator / denominator`. The
significand is added to the exponent steps, so a carry out of the significand
moves to the next exponent by itself, and past the last one to infinity. -/
def nearestMagnitude (numerator denominator : Nat) : Nat :=
  if numerator = 0 then 0
  else
    let q := scale numerator denominator
    let m :=
      if q < 0 then roundedQuotient (numerator * Nat.pow 2 (-q).toNat) denominator
      else roundedQuotient numerator (denominator * Nat.pow 2 q.toNat)
    min infinityBits ((q + 1074).toNat * Nat.pow 2 52 + m)

/-- The number nearest to `m * 10 ^ e`, with a tie to the even significand.
Exponents that are certain to leave the range are answered before the power of
ten is formed. -/
def ofDecimal (negative : Bool) (m : Nat) (e : Int) : Double :=
  withSign negative <|
    if m = 0 then 0
    else if 400 < e then infinityBits
    else if e + (Nat.log2 m : Int) < -400 then 0
    else if e < 0 then nearestMagnitude m (Nat.pow 10 (-e).toNat)
    else nearestMagnitude (m * Nat.pow 10 e.toNat) 1

/-- The number nearest to an integer. -/
def ofInt (i : Int) : Double := ofDecimal (i < 0) i.natAbs 0

/-- The number of a machine value. -/
def ofFloat (x : Float) : Double := ⟨x.toBits⟩

/-- The machine value of a number. -/
def toFloat (d : Double) : Float := Float.ofBits d.bits

/-- The rounded sum. -/
protected def add (a b : Double) : Double := ofFloat (a.toFloat + b.toFloat)

/-- The rounded difference. -/
protected def sub (a b : Double) : Double := ofFloat (a.toFloat - b.toFloat)

/-- The rounded product. -/
protected def mul (a b : Double) : Double := ofFloat (a.toFloat * b.toFloat)

end Double

end StructuralTyping
