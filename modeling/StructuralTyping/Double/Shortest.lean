import StructuralTyping.Double
/-!
# The fewest digits that read back

Every binary64 number owns an interval of reals that round to it. The shortest
decimal of a number is the coarsest decimal grid point in that interval, and of
two such points the nearer one; which of two equally near ones is left to the
caller. All comparisons are between natural numbers: the interval is written in
quarters of the number's last binary place.
-/
set_option autoImplicit false

namespace StructuralTyping.Double

/-- A decimal `digits * 10 ^ power`. -/
structure Decimal where
  digits : Nat
  power : Int
deriving DecidableEq

/-- Which of two neighbours on a decimal grid is taken when they are equally near:
the one with the even last digit, or the larger one. -/
inductive Tie where
  | even
  | up
deriving DecidableEq

/-- The neighbour that a tie goes to. -/
def Tie.between (tie : Tie) (lower upper : Nat) : Nat :=
  match tie with
  | .even => if lower % 2 = 0 then lower else upper
  | .up => upper

/-- The reals that round to a positive number, in units of `2 ^ power`: from
`low` to `high` around `centre`, with both ends or neither. -/
structure Basin where
  low : Nat
  centre : Nat
  high : Nat
  power : Int
  closed : Bool

/-- The interval of reals that round to the number. Below a power of two the
neighbour is half as far away, except at the foot of the range. -/
def basin (d : Double) : Basin :=
  let m := d.significand
  let below := if d.fractionField = 0 ∧ 1 < d.exponentField then 1 else 2
  { low := 4 * m - below, centre := 4 * m, high := 4 * m + 2,
    power := d.exponent - 2, closed := m % 2 = 0 }

/-- What one step of the decimal grid `10 ^ k` is worth, in a common unit. -/
def gridUnit (b : Basin) (k : Int) : Nat :=
  Nat.pow 10 k.toNat * Nat.pow 2 (-b.power).toNat

/-- What one step of the binary grid is worth, in the same common unit. -/
def binaryUnit (b : Basin) (k : Int) : Nat :=
  Nat.pow 2 b.power.toNat * Nat.pow 10 (-k).toNat

/-- Whether `digits * 10 ^ k` lies in the interval. -/
def Basin.holds (b : Basin) (k : Int) (digits : Nat) : Bool :=
  let point := digits * gridUnit b k
  let low := b.low * binaryUnit b k
  let high := b.high * binaryUnit b k
  if b.closed then low ≤ point && point ≤ high else low < point && point < high

/-- The point of the grid `10 ^ k` in the interval that is nearest to the
centre, if the grid has one there. -/
def Basin.onGrid? (b : Basin) (tie : Tie) (k : Int) : Option Nat :=
  let unit := gridUnit b k
  let centre := b.centre * binaryUnit b k
  let lower := centre / unit
  let upper := lower + 1
  match b.holds k lower, b.holds k upper with
  | true, true =>
    let toLower := centre - lower * unit
    let toUpper := upper * unit - centre
    if toLower < toUpper then some lower
    else if toUpper < toLower then some upper
    else some (tie.between lower upper)
  | true, false => some lower
  | false, true => some upper
  | false, false => none

/-- A power of ten at most one step away from the leading digit of the centre. -/
def Basin.topPower (b : Basin) : Int :=
  (((Nat.log2 b.centre : Int) + b.power) * 30103).fdiv 100000 + 1

/-- The first of the grids `10 ^ k`, `10 ^ (k - 1)`, … that meets the interval,
among as many as asked. -/
def Basin.coarsest (b : Basin) (tie : Tie) : Nat → Int → Decimal
  | 0, k => ⟨0, k⟩
  | tries + 1, k =>
    match b.onGrid? tie k with
    | some 0 | none => b.coarsest tie tries (k - 1)
    | some digits => ⟨digits, k⟩

/-- The digits of a natural number, the first one first. -/
def digitsOf (n : Nat) : List Char := Nat.toDigits 10 n

/-- The shortest decimal of a finite number that is not zero. Twenty grids are
enough: the last of them is finer than any interval. -/
def shortest (d : Double) (tie : Tie) : Decimal :=
  let b := d.basin
  b.coarsest tie 20 b.topPower

end StructuralTyping.Double
