import StructuralTyping.Interface
import StructuralTyping.Json.Printer
/-!
# Interfaces as TOML text

One line for each declaration: the name and the parameter names as basic strings,
with quotes and backslashes escaped and control characters written by number.
-/
set_option autoImplicit false

namespace StructuralTyping.Toml

/-- One character as it stands in a basic string. -/
def printedChar (c : Char) : List Char :=
  if c = '"' then ['\\', '"']
  else if c = '\\' then ['\\', '\\']
  else if c.toNat < 0x20 ∨ c.toNat = 0x7F then
    ['\\', 'u', '0', '0', Json.hexDigitChar (c.toNat / 16), Json.hexDigitChar c.toNat]
  else [c]

/-- A basic string. -/
def printedString (s : String) : List Char := '"' :: s.toList.flatMap printedChar ++ ['"']

/-- Texts with a comma and a space between each two of them. -/
def commaSpaced : List (List Char) → List Char
  | [] => []
  | [last] => last
  | first :: later => first ++ ',' :: ' ' :: commaSpaced later

/-- The line of a declaration. -/
def printedSignature (s : Signature) : List Char :=
  printedString s.name ++ [' ', '=', ' ', '[']
    ++ commaSpaced (s.params.map printedString) ++ [']', '\n']

/-- The lines of declarations. -/
def printedSignatures (signatures : List Signature) : List Char :=
  signatures.flatMap printedSignature

end StructuralTyping.Toml
