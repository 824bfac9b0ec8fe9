import StructuralTyping.Double.Shortest
/-!
# The text of a number

Two written forms of a binary64 number, both with the fewest digits that read
back. They differ in when a power of ten is written out and in where a tie
between two equally short and equally near decimals goes.
-/
set_option autoImplicit false

namespace StructuralTyping.Double

/-- A written form: where a tie between two decimals goes, and which numbers are
written out without a power of ten. With bounds these are the ones whose first
digit stands at a power of ten between the bounds, and otherwise all of them. -/
structure Style where
  tie : Tie
  bounds : Option (Int × Int)

/-- The form without powers of ten, in which a tie goes up. -/
def Style.plain : Style := ⟨.up, none⟩

/-- The form used in JSON text, in which a tie goes to the even digit. From
`0.00001` to below `10000000000000000` the digits are written out, and outside
an exponent with its sign follows. -/
def Style.json : Style := ⟨.even, some (-5, 15)⟩

/-- Whether a number whose first digit stands at `10 ^ leading` is written out. -/
def Style.writesOut (style : Style) (leading : Int) : Bool :=
  match style.bounds with
  | none => true
  | some (least, greatest) => least ≤ leading && leading ≤ greatest

/-- As many zeros as asked. -/
def zeros (n : Nat) : List Char := List.replicate n '0'

/-- The digits with the decimal point `point` places after their start; at least
one digit stands on each side. -/
def writtenOut (digits : List Char) (point : Int) : List Char :=
  if point ≤ 0 then '0' :: '.' :: (zeros (-point).toNat ++ digits)
  else if digits.length ≤ point.toNat then
    digits ++ zeros (point.toNat - digits.length) ++ ['.', '0']
  else digits.take point.toNat ++ '.' :: digits.drop point.toNat

/-- One digit, the others after a point, and the signed power of ten. -/
def withExponent (digits : List Char) (leading : Int) : List Char :=
  let rest := digits.drop 1
  digits.take 1 ++ (if rest.isEmpty then [] else '.' :: rest) ++
    'e' :: (if leading < 0 then '-' else '+') :: digitsOf leading.natAbs

/-- The digits of a decimal without the zeros at its end. -/
def withoutTrailingZeros (digits : List Char) : List Char :=
  (digits.reverse.dropWhile (· == '0')).reverse

/-- The text of the absolute value of a finite number. -/
def magnitudeText (style : Style) (d : Double) : List Char :=
  if d.isZero then ['0', '.', '0']
  else
    let decimal := d.shortest style.tie
    let all := digitsOf decimal.digits
    let point := (all.length : Int) + decimal.power
    let digits := withoutTrailingZeros all
    if style.writesOut (point - 1) then writtenOut digits point
    else withExponent digits (point - 1)

/-- The text of a number. A NaN has no sign. -/
def text (style : Style) (d : Double) : String :=
  if d.isNaN then "NaN"
  else
    let magnitude := if d.isFinite then magnitudeText style d else ['i', 'n', 'f']
    String.ofList (if d.isNegative then '-' :: magnitude else magnitude)

/-- The power of ten at which the first digit of a decimal stands. -/
def Decimal.leading (decimal : Decimal) : Int :=
  (digitsOf decimal.digits).length + decimal.power - 1

/-- A number that both forms write alike: zero, or a number whose shortest decimal does not
depend on where a tie goes, and whose first digit stands within the bounds of JSON text. -/
def WrittenAlike (d : Double) : Prop :=
  d.isZero = true ∨
    d.shortest .up = d.shortest .even ∧
      -5 ≤ (d.shortest .even).leading ∧ (d.shortest .even).leading ≤ 15

/-- The two forms differ in powers of ten and in ties, and in nothing else. -/
theorem WrittenAlike.text_eq {d : Double} (alike : d.WrittenAlike) :
    d.text .plain = d.text .json := by
  have magnitude : magnitudeText .plain d = magnitudeText .json d := by
    rcases alike with zero | ⟨untied, least, greatest⟩
    · simp only [magnitudeText, zero, if_true]
    · have plain : Style.plain.writesOut (d.shortest .even).leading = true := rfl
      have json : Style.json.writesOut (d.shortest .even).leading = true := by
        simp [Style.writesOut, Style.json, least, greatest]
      rw [Decimal.leading] at plain json
      simp only [magnitudeText, show Style.plain.tie = .up from rfl,
        show Style.json.tie = .even from rfl, untied, plain, json, if_true]
  rw [text, text, magnitude]

end StructuralTyping.Double
