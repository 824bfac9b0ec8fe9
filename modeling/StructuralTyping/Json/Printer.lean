import StructuralTyping.Interface.Literal
import StructuralTyping.Double.Text
import StructuralTyping.Text.Quoted
/-!
# Values as JSON text

The compact form, without blanks. Quotes, backslashes and the characters below
U+0020 are escaped, the common ones by a letter; everything else stands for
itself.
-/
set_option autoImplicit false

namespace StructuralTyping.Json

/-- A hexadecimal digit in lower case. -/
def hexDigitChar (n : Nat) : Char := Nat.digitChar (n % 16)

/-- One character as it stands in a string. -/
def printedChar (c : Char) : List Char :=
  if c = '"' then ['\\', '"']
  else if c = '\\' then ['\\', '\\']
  else if c = '\x08' then ['\\', 'b']
  else if c = '\x0c' then ['\\', 'f']
  else if c = '\n' then ['\\', 'n']
  else if c = '\r' then ['\\', 'r']
  else if c = '\t' then ['\\', 't']
  else if c.toNat < 0x20 then
    ['\\', 'u', '0', '0', hexDigitChar (c.toNat / 16), hexDigitChar c.toNat]
  else [c]

/-- A string in quotes. -/
def printedString (s : List Char) : List Char :=
  '"' :: s.flatMap printedChar ++ ['"']

/-- The digits of an integer behind its sign. -/
def printedInt (i : Int) : List Char :=
  if i < 0 then '-' :: Nat.toDigits 10 i.natAbs else Nat.toDigits 10 i.natAbs

/-- A number. A double always shows a fraction or an exponent. -/
def printedNumber : Number → List Char
  | .integer i => printedInt i
  | .double d => (d.text .json).toList

/-- Texts with a comma between each two of them. -/
def commaSeparated : List (List Char) → List Char
  | [] => []
  | [last] => last
  | first :: later => first ++ ',' :: commaSeparated later

mutual

/-- The compact text of a value. -/
def printed : Value → List Char
  | .null => ['n', 'u', 'l', 'l']
  | .boolean true => ['t', 'r', 'u', 'e']
  | .boolean false => ['f', 'a', 'l', 's', 'e']
  | .number n => printedNumber n
  | .string s => printedString s.toList
  | .list items => '[' :: commaSeparated (printedItems items) ++ [']']
  | .mapping entries => '\x7b' :: commaSeparated (printedEntries entries) ++ ['\x7d']

/-- The compact texts of the items of a list. -/
def printedItems : List Value → List (List Char)
  | [] => []
  | item :: later => printed item :: printedItems later

/-- The compact texts of the entries of a mapping. -/
def printedEntries : List (String × Value) → List (List Char)
  | [] => []
  | (name, item) :: later =>
    (printedString name.toList ++ ':' :: printed item) :: printedEntries later

end

/-- Items are printed one by one. -/
theorem printedItems_eq_map (items : List Value) : printedItems items = items.map printed := by
  induction items with
  | nil => rfl
  | cons item later inductionHypothesis => rw [printedItems, List.map_cons, inductionHypothesis]

/-- The compact text of an entry: its name, a colon, and its value. -/
def printedEntry (entry : String × Value) : List Char :=
  printedString entry.1.toList ++ ':' :: printed entry.2

/-- Entries are printed one by one. -/
theorem printedEntries_eq_map (entries : List (String × Value)) :
    printedEntries entries = entries.map printedEntry := by
  induction entries with
  | nil => rfl
  | cons entry later inductionHypothesis =>
    obtain ⟨name, item⟩ := entry
    rw [printedEntries, List.map_cons, inductionHypothesis]
    rfl

/-- The compact text of a value, as a string. -/
def print (v : Value) : String := String.ofList (printed v)

end StructuralTyping.Json
