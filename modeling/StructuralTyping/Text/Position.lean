/-!
# Places in a text

A place is counted in UTF-8 bytes from the start. Readers report where they
stopped as the number of bytes still ahead of them, so that no reader has to
carry a counter along.
-/
set_option autoImplicit false

namespace StructuralTyping.Text

/-- The number of UTF-8 bytes of a text. -/
def byteLength : List Char → Nat
  | [] => 0
  | c :: rest => c.utf8Size + byteLength rest

/-- A line, counted from one, and the number of bytes already read in it. -/
structure Position where
  line : Nat
  column : Nat
deriving DecidableEq

namespace Position

/-- The position `bytes` further on. A place inside a character counts the bytes
of it that lie before the place. -/
def advance (p : Position) : List Char → Nat → Position
  | [], _ => p
  | c :: rest, bytes =>
    if bytes = 0 then p
    else if c = '\n' then advance ⟨p.line + 1, 0⟩ rest (bytes - 1)
    else if bytes ≤ c.utf8Size then ⟨p.line, p.column + bytes⟩
    else advance ⟨p.line, p.column + c.utf8Size⟩ rest (bytes - c.utf8Size)

/-- The position in `text` at which `left` bytes are still ahead. -/
def ofLeft (text : List Char) (left : Nat) : Position :=
  advance ⟨1, 0⟩ text (byteLength text - left)

end Position

end StructuralTyping.Text
