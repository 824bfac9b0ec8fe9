import StructuralTyping.Double.Scaled
import StructuralTyping.Json.Fault
/-!
# Numbers in JSON text

A number without fraction and exponent that fits in 64 bits, with or without a
sign, is an integer; any other is a binary64 number. Of its digits those count
that form a whole number below `2 ^ 64`, and this whole number is scaled by a
power of ten, rounded step by step. A number whose scaling ends beyond the
largest binary64 number is out of range. Negative zero is a binary64 number.
-/
set_option autoImplicit false

namespace StructuralTyping.Json

open StructuralTyping.Text

/-- The value of decimal digits read from left to right onto `n`. -/
def decimalValue (n : Nat) (digits : List Char) : Nat :=
  digits.foldl (fun value c => 10 * value + (c.toNat - '0'.toNat)) n

/-- The largest exponent that is still told apart from larger ones. -/
def exponentLimit : Nat := 2147483647

/-- How many of the digits are read before their value exceeds the limit. -/
def digitsUntilLimit : Nat → List Char → Nat
  | _, [] => 0
  | n, c :: rest =>
    if exponentLimit < 10 * n + (c.toNat - '0'.toNat) then 1
    else 1 + digitsUntilLimit (10 * n + (c.toNat - '0'.toNat)) rest

/-- The digits that count, behind the whole number `n`: their value together with
`n`, as long as it stays below `2 ^ 64`, and how many digits are left out. -/
def significant (n : Nat) : List Char → Nat × Nat
  | [] => (n, 0)
  | c :: rest =>
    let longer := 10 * n + (c.toNat - '0'.toNat)
    if longer < Nat.pow 2 64 then significant longer rest else (n, rest.length + 1)

/-- A number that ends behind its whole digits, of which `leftOut` did not count:
an integer, if all digits counted and it fits with its sign. -/
def wholeNumber (negative : Bool) (m leftOut : Nat) : Number :=
  if leftOut = 0 ∧ ¬negative then .integer m
  else if leftOut = 0 ∧ m ≠ 0 ∧ m ≤ Nat.pow 2 63 then .integer (-(m : Int))
  else .double (Double.ofScaled negative m leftOut)

/-- A number that was read up to `rest`, unless it is too large. -/
def inRange {s : List Char} (n : Number) (rest : List Char) (shorter : rest.length < s.length) :
    Scan Number s :=
  match n with
  | .integer i => .ok ⟨.integer i, rest, shorter⟩
  | .double d =>
    if d.isFinite then .ok ⟨.double d, rest, shorter⟩
    else .error (.before .numberOutOfRange rest)

/-- The digits of an exponent, which follow `m * 10 ^ e`. An exponent past the
limit is a fault behind the digit that took it there, unless the number is zero
all the same. -/
def exponentDigits (negative : Bool) (m : Nat) (e : Int) (down : Bool) :
    (s : List Char) → Scan Number s
  | [] => .error (.atEnd .endInValue)
  | c :: rest =>
    if c.isDigit then
      let digits := c :: rest.takeWhile Char.isDigit
      let after := rest.dropWhile Char.isDigit
      have shorter : after.length < (c :: rest).length :=
        Nat.lt_succ_of_le (List.dropWhile_sublist _).length_le
      let value := decimalValue 0 digits
      if exponentLimit < value then
        if m ≠ 0 ∧ ¬down then
          .error ⟨.numberOutOfRange, byteLength (c :: rest) - digitsUntilLimit 0 digits⟩
        else .ok ⟨.double (Double.withSign negative 0), after, shorter⟩
      else
        inRange (.double (Double.ofScaled negative m (if down then e - value else e + value)))
          after shorter
    else .error (.within .invalidNumber (c :: rest))

/-- The sign and digits of an exponent, behind its letter. -/
def exponent (negative : Bool) (m : Nat) (e : Int) : (s : List Char) → Scan Number s
  | c :: rest =>
    if c = '+' ∨ c = '-' then
      match exponentDigits negative m e (c = '-') rest with
      | .ok found => .ok (found.behind c)
      | .error fault => .error fault
    else exponentDigits negative m e false (c :: rest)
  | [] => exponentDigits negative m e false []

/-- What may follow the digits of a fraction. -/
def afterFraction (negative : Bool) (m : Nat) (e : Int) {s : List Char} (rest : List Char)
    (shorter : rest.length < s.length) : Scan Number s :=
  match rest, shorter with
  | c :: later, shorter =>
    if c = 'e' ∨ c = 'E' then
      match exponent negative m e later with
      | .ok found => .ok (found.widen (Nat.le_of_succ_le (Nat.le_of_lt shorter)))
      | .error fault => .error fault
    else inRange (.double (Double.ofScaled negative m e)) (c :: later) shorter
  | [], shorter => inRange (.double (Double.ofScaled negative m e)) [] shorter

/-- The digits of a fraction, behind the point of `m * 10 ^ e`. Each digit that
counts lowers the exponent by one. -/
def fraction (negative : Bool) (m : Nat) (e : Int) (s : List Char) : Scan Number s :=
  let digits := s.takeWhile Char.isDigit
  let rest := s.dropWhile Char.isDigit
  if shorter : rest.length < s.length then
    let (value, leftOut) := significant m digits
    afterFraction negative value (e - (digits.length - leftOut : Nat)) rest shorter
  else
    match s with
    | [] => .error (.atEnd .endInValue)
    | c :: later => .error (.within .invalidNumber (c :: later))

/-- What may follow the digits before the point, of which `leftOut` did not count. -/
def afterWhole (negative : Bool) (m leftOut : Nat) {s : List Char} (rest : List Char)
    (shorter : rest.length < s.length) : Scan Number s :=
  match rest, shorter with
  | c :: later, shorter =>
    if c = '.' then
      match fraction negative m leftOut later with
      | .ok found => .ok (found.widen (Nat.le_of_succ_le (Nat.le_of_lt shorter)))
      | .error fault => .error fault
    else if c = 'e' ∨ c = 'E' then
      match exponent negative m leftOut later with
      | .ok found => .ok (found.widen (Nat.le_of_succ_le (Nat.le_of_lt shorter)))
      | .error fault => .error fault
    else inRange (wholeNumber negative m leftOut) (c :: later) shorter
  | [], shorter => inRange (wholeNumber negative m leftOut) [] shorter

/-- A number behind its sign. A leading zero stands alone. -/
def unsigned (negative : Bool) : (s : List Char) → Scan Number s
  | [] => .error (.atEnd .endInValue)
  | c :: rest =>
    if c = '0' then
      match rest with
      | d :: later =>
        if d.isDigit then .error (.within .invalidNumber (d :: later))
        else afterWhole negative 0 0 (d :: later) (Nat.lt_succ_self _)
      | [] => afterWhole negative 0 0 [] (Nat.lt_succ_self _)
    else if c.isDigit then
      let (value, leftOut) := significant 0 (c :: rest.takeWhile Char.isDigit)
      afterWhole negative value leftOut (rest.dropWhile Char.isDigit)
        (Nat.lt_succ_of_le (List.dropWhile_sublist _).length_le)
    else .error (.within .invalidNumber (c :: rest))

/-- A number, with or without a minus sign. -/
def number : (s : List Char) → Scan Number s
  | c :: rest =>
    if c = '-' then
      match unsigned true rest with
      | .ok found => .ok (found.behind c)
      | .error fault => .error fault
    else unsigned false (c :: rest)
  | [] => unsigned false []

/-- Whether a number begins with this character. -/
def beginsNumber (c : Char) : Bool := c = '-' || c.isDigit

end StructuralTyping.Json
