import StructuralTyping.Text.Scanned
import StructuralTyping.Toml.Item
import StructuralTyping.Json.Number
import StructuralTyping.Json.String
/-!
# Numbers, dates and times in TOML text

Integers fit in 64 bits with a sign. Decimal digits may be grouped by single
underscores. A float past the largest finite one is refused when it is positive.
Dates are checked against the calendar, and a second may be the sixtieth.
-/
set_option autoImplicit false

namespace StructuralTyping.Toml

open StructuralTyping.Text (Scanned)
open StructuralTyping.Json (decimalValue hexDigit?)

/-- Digits of one class, with single underscores between them. The underscores are
left out. -/
def groupedDigits (isDigit : Char → Bool) : (s : List Char) → List Char × List Char
  | [] => ([], [])
  | c :: rest =>
    if isDigit c then
      let (digits, after) := groupedDigits isDigit rest
      (c :: digits, after)
    else if c = '_' then
      match rest with
      | d :: later =>
        if isDigit d then
          let (digits, after) := groupedDigits isDigit later
          (d :: digits, after)
        else ([], c :: d :: later)
      | [] => ([], [c])
    else ([], c :: rest)

/-- A text that begins with a digit, and all digits there. -/
def digits? (isDigit : Char → Bool) (s : List Char) : Option (List Char × List Char) :=
  match s with
  | [] => none
  | c :: rest => if isDigit c then some (groupedDigits isDigit (c :: rest)) else none

/-- A sign, if there is one: whether it is a minus, and the text behind it. -/
def sign (s : List Char) : Bool × List Char :=
  match s with
  | c :: rest => if c = '-' then (true, rest) else if c = '+' then (false, rest) else (false, s)
  | [] => (false, [])

/-- Decimal digits, of which a leading zero stands alone. -/
def wholeDigits? (s : List Char) : Option (List Char × List Char) :=
  match s with
  | [] => none
  | c :: rest => if c = '0' then some ([c], rest) else digits? Char.isDigit (c :: rest)

/-- The fraction behind a point. -/
def fraction? (s : List Char) : Option (List Char × List Char) :=
  match s with
  | c :: rest => if c = '.' then digits? Char.isDigit rest else none
  | [] => none

/-- The power of ten behind its letter. -/
def exponent? (s : List Char) : Option (Int × List Char) :=
  match s with
  | c :: rest =>
    if c = 'e' ∨ c = 'E' then
      let (negative, after) := sign rest
      match digits? Char.isDigit after with
      | some (digits, later) =>
        let value : Int := decimalValue 0 digits
        some (if negative then -value else value, later)
      | none => none
    else none
  | [] => none

/-- A float: the nearest double, unless that is positive infinity. -/
def finiteFloat? (negative : Bool) (m : Nat) (e : Int) : Option Scalar :=
  let d := Double.ofDecimal negative m e
  if d.isFinite || d.isNegative then some (.double d) else none

/-- The text behind a word, if the text begins with it. -/
def word? : List Char → List Char → Option (List Char)
  | [], s => some s
  | expected :: later, c :: rest => if c = expected then word? later rest else none
  | _ :: _, [] => none

/-- Infinity or not a number, behind a sign. -/
def specialFloat? (negative : Bool) (s : List Char) : Option (Scalar × List Char) :=
  match word? ['i', 'n', 'f'] s with
  | some rest => some (.double (Double.withSign negative Double.infinityBits), rest)
  | none =>
    match word? ['n', 'a', 'n'] s with
    | some rest =>
      some (.double (Double.withSign negative (Double.infinityBits + Nat.pow 2 51)), rest)
    | none => none

/-- A float with a fraction, an exponent, or both, or a special one. -/
def float? (s : List Char) : Option (Scalar × List Char) :=
  let (negative, unsigned) := sign s
  match wholeDigits? unsigned with
  | none => specialFloat? negative unsigned
  | some (whole, after) =>
    match fraction? after with
    | some (places, later) =>
      let m := decimalValue 0 (whole ++ places)
      let e : Int := -(places.length : Int)
      match exponent? later with
      | some (power, rest) => (finiteFloat? negative m (e + power)).map (·, rest)
      | none => (finiteFloat? negative m e).map (·, later)
    | none =>
      match exponent? after with
      | some (power, rest) =>
        (finiteFloat? negative (decimalValue 0 whole) power).map (·, rest)
      | none => none

/-- The value of digits in a base. -/
def baseValue (base : Nat) (digits : List Char) : Nat :=
  digits.foldl (fun n c => base * n + (hexDigit? c).getD 0) 0

/-- The digits of the bases that are marked by a letter behind a zero. -/
def baseOf? (c : Char) : Option (Nat × (Char → Bool)) :=
  if c = 'x' then some (16, fun d => (hexDigit? d).isSome)
  else if c = 'o' then some (8, fun d => '0' ≤ d && d ≤ '7')
  else if c = 'b' then some (2, fun d => d = '0' || d = '1')
  else none

/-- An integer that fits. -/
def integer? (negative : Bool) (m : Nat) : Option Scalar :=
  if negative then if m ≤ Nat.pow 2 63 then some (.integer (-(m : Int))) else none
  else if m < Nat.pow 2 63 then some (.integer m) else none

/-- A decimal integer. -/
def decimalInteger? (s : List Char) : Option (Scalar × List Char) :=
  let (negative, unsigned) := sign s
  match wholeDigits? unsigned with
  | some (digits, rest) => (integer? negative (decimalValue 0 digits)).map (·, rest)
  | none => none

/-- An integer in any base. -/
def anyInteger? (s : List Char) : Option (Scalar × List Char) :=
  match s with
  | zero :: mark :: rest =>
    match if zero = '0' then baseOf? mark else none with
    | some (base, isDigit) =>
      match digits? isDigit rest with
      | some (digits, after) => (integer? false (baseValue base digits)).map (·, after)
      | none => none
    | none => decimalInteger? s
  | _ => decimalInteger? s

/-- Exactly so many digits, if they come first, and their value. -/
def fixedDigits? : Nat → List Char → Nat → Option (Nat × List Char)
  | 0, s, n => some (n, s)
  | _ + 1, [], _ => none
  | count + 1, c :: rest, n =>
    if c.isDigit then fixedDigits? count rest (10 * n + (c.toNat - '0'.toNat)) else none

/-- Two digits with a value between two bounds. -/
def twoDigits? (least greatest : Nat) (s : List Char) : Option (Nat × List Char) :=
  match fixedDigits? 2 s 0 with
  | some (n, rest) => if least ≤ n ∧ n ≤ greatest then some (n, rest) else none
  | none => none

/-- Whether the year has a twenty-ninth of February. -/
def isLeapYear (year : Nat) : Bool :=
  year % 4 = 0 && (year % 100 ≠ 0 || year % 400 = 0)

/-- The last day of a month. -/
def lastDay (year month : Nat) : Nat :=
  if month = 2 then if isLeapYear year then 29 else 28
  else if month = 4 ∨ month = 6 ∨ month = 9 ∨ month = 11 then 30
  else 31

/-- A date. -/
def date? (s : List Char) : Option (List Char) :=
  match fixedDigits? 4 s 0 with
  | none => none
  | some (year, afterYear) =>
    match word? ['-'] afterYear with
    | none => none
    | some monthText =>
      match twoDigits? 1 12 monthText with
      | none => none
      | some (month, afterMonth) =>
        match word? ['-'] afterMonth with
        | none => none
        | some dayText =>
          match twoDigits? 1 (lastDay year month) dayText with
          | none => none
          | some (_, rest) => some rest

/-- The fraction of a second, if there is one. -/
def skipSecondFraction (s : List Char) : List Char :=
  match s with
  | point :: digit :: rest =>
    if point = '.' ∧ digit.isDigit then rest.dropWhile Char.isDigit else s
  | _ => s

/-- Hours and minutes. -/
def hourMinute? (s : List Char) : Option (List Char) :=
  match twoDigits? 0 23 s with
  | none => none
  | some (_, afterHour) =>
    match word? [':'] afterHour with
    | none => none
    | some minuteText => (twoDigits? 0 59 minuteText).map Prod.snd

/-- A time. -/
def time? (s : List Char) : Option (List Char) :=
  match hourMinute? s with
  | none => none
  | some afterMinute =>
    match word? [':'] afterMinute with
    | none => none
    | some secondText =>
      match twoDigits? 0 60 secondText with
      | none => none
      | some (_, rest) => some (skipSecondFraction rest)

/-- The offset of a time, if there is one. -/
def skipOffset (s : List Char) : List Char :=
  match s with
  | c :: rest =>
    if c = 'Z' ∨ c = 'z' then rest
    else if c = '+' ∨ c = '-' then (hourMinute? rest).getD s
    else s
  | [] => []

/-- A date, a time, or both with a letter or a space between them and possibly an
offset behind them. -/
def dateTime? (s : List Char) : Option (Scalar × List Char) :=
  match date? s with
  | none => (time? s).map (.dateTime, ·)
  | some afterDate =>
    match afterDate with
    | c :: rest =>
      if c = 'T' ∨ c = 't' ∨ c = ' ' then
        match time? rest with
        | some afterTime => some (.dateTime, skipOffset afterTime)
        | none => some (.dateTime, afterDate)
      else some (.dateTime, afterDate)
    | [] => some (.dateTime, [])

/-- A number, a date or a time: the first of these readings that fits. -/
def numeric? (s : List Char) : Option (Scalar × List Char) :=
  match dateTime? s with
  | some found => some found
  | none =>
    match float? s with
    | some found => some found
    | none => anyInteger? s

end StructuralTyping.Toml
