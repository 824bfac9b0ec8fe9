import StructuralTyping.Json.Fault
/-!
# Strings in JSON text

`stringBody` reads a string from behind its opening quote to its closing quote.
An escape names a character by a letter or by a UTF-16 unit in four hexadecimal
digits; a leading surrogate has to be followed by the escape of a trailing one.
The four digits are taken as four bytes at once, so a fault among them is placed
behind the fourth.
-/
set_option autoImplicit false

namespace StructuralTyping.Json

open StructuralTyping.Text

/-- The value of a hexadecimal digit of either case. -/
def hexDigit? (c : Char) : Option Nat :=
  if '0' ≤ c ∧ c ≤ '9' then some (c.toNat - '0'.toNat)
  else if 'a' ≤ c ∧ c ≤ 'f' then some (c.toNat - 'a'.toNat + 10)
  else if 'A' ≤ c ∧ c ≤ 'F' then some (c.toNat - 'A'.toNat + 10)
  else none

/-- The value of hexadecimal digits read from left to right onto `n`. -/
def hexValue? : Nat → List Char → Option Nat
  | n, [] => some n
  | n, c :: rest =>
    match hexDigit? c with
    | some digit => hexValue? (16 * n + digit) rest
    | none => none

/-- The fault of a text that does not begin with four hexadecimal digits. -/
def badUnit (s : List Char) : Fault :=
  if byteLength s < 4 then .atEnd .endInString else ⟨.invalidEscape, byteLength s - 4⟩

/-- A UTF-16 unit in four hexadecimal digits. -/
def unit : (s : List Char) → Scan Nat s
  | a :: b :: c :: d :: rest =>
    match hexValue? 0 [a, b, c, d] with
    | some n => .ok ⟨n, rest, by simp only [List.length_cons]; omega⟩
    | none => .error (badUnit (a :: b :: c :: d :: rest))
  | s => .error (badUnit s)

/-- Units that begin a pair. -/
def isLeading (n : Nat) : Bool := 0xD800 ≤ n && n ≤ 0xDBFF

/-- Units that end a pair. -/
def isTrailing (n : Nat) : Bool := 0xDC00 ≤ n && n ≤ 0xDFFF

/-- The code point of a pair of surrogates. -/
def pairCode (leading trailing : Nat) : Nat :=
  (leading - 0xD800) * 0x400 + (trailing - 0xDC00) + 0x10000

/-- The expected character, between the two halves of a surrogate pair. -/
def pairMark (mark : Char) : (s : List Char) → Scan Unit s
  | [] => .error (.atEnd .endInString)
  | c :: rest =>
    if c = mark then .ok (.one () c rest)
    else .error (.within .unfinishedSurrogate (c :: rest))

/-- The escape of a trailing surrogate, behind a leading one. -/
def trailingUnit (s : List Char) : Scan Nat s :=
  match pairMark '\\' s with
  | .error fault => .error fault
  | .ok slash =>
    match pairMark 'u' slash.rest with
    | .error fault => .error fault
    | .ok mark =>
      match unit mark.rest with
      | .error fault => .error fault
      | .ok found =>
        if isTrailing found.value then
          .ok ⟨found.value, found.rest,
            Nat.lt_trans found.shorter (Nat.lt_trans mark.shorter slash.shorter)⟩
        else .error (.before .loneSurrogate found.rest)

/-- A character given by one unit or by a pair of them, behind `\u`. -/
def unicodeEscape (s : List Char) : Scan Char s :=
  match unit s with
  | .error fault => .error fault
  | .ok first =>
    if isTrailing first.value then .error (.before .loneSurrogate first.rest)
    else if isLeading first.value then
      match trailingUnit first.rest with
      | .error fault => .error fault
      | .ok second =>
        .ok ⟨Char.ofNat (pairCode first.value second.value), second.rest,
          Nat.lt_trans second.shorter first.shorter⟩
    else .ok (first.map Char.ofNat)

/-- The character that a letter behind a backslash stands for. -/
def letterEscape? (c : Char) : Option Char :=
  if c = '"' ∨ c = '\\' ∨ c = '/' then some c
  else if c = 'b' then some '\x08'
  else if c = 'f' then some '\x0c'
  else if c = 'n' then some '\n'
  else if c = 'r' then some '\r'
  else if c = 't' then some '\t'
  else none

/-- The character that an escape stands for, behind its backslash. -/
def escape : (s : List Char) → Scan Char s
  | [] => .error (.atEnd .endInString)
  | c :: rest =>
    match letterEscape? c with
    | some plain => .ok (.one plain c rest)
    | none =>
      if c = 'u' then
        match unicodeEscape rest with
        | .error fault => .error fault
        | .ok found => .ok (found.behind c)
      else .error (.within .invalidEscape (c :: rest))

/-- The characters of a string up to its closing quote, which is read too. -/
def stringBody : (s : List Char) → Scan (List Char) s
  | [] => .error (.atEnd .endInString)
  | c :: rest =>
    if c = '"' then .ok (.one [] c rest)
    else if c = '\\' then
      match escape rest with
      | .error fault => .error fault
      | .ok found =>
        match stringBody found.rest with
        | .error fault => .error fault
        | .ok later =>
          .ok ⟨found.value :: later.value, later.rest, by
            have := found.shorter
            have := later.shorter
            simp only [List.length_cons]
            omega⟩
    else if c.toNat < 0x20 then .error (.within .controlCharacter (c :: rest))
    else
      match stringBody rest with
      | .error fault => .error fault
      | .ok later => .ok ⟨c :: later.value, later.rest, by
          have := later.shorter
          simp only [List.length_cons]
          omega⟩
termination_by s => s.length
decreasing_by
  · have := found.shorter
    simp only [List.length_cons]
    omega
  · simp

end StructuralTyping.Json
