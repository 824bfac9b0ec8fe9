import StructuralTyping.Text.Position
import StructuralTyping.Toml.Item
/-!
# Showing a place in a text

An excerpt is the line on which a part of a text begins, with its number in front
and carets below the part. Columns count characters, but there is a caret for
every byte of the part, up to the length of the line in bytes.
-/
set_option autoImplicit false

namespace StructuralTyping.Toml

open StructuralTyping.Text (byteLength)

/-- Where a part of a text begins: the number of line ends before it, the
characters before it in its line, and the text from there on. -/
structure Place where
  lineEnds : Nat
  before : List Char
  rest : List Char

/-- The place so many bytes further on. The characters before it are collected in
reverse. -/
def placeAfter (bytes lineEnds : Nat) (reversed : List Char) : List Char → Place
  | [] => ⟨lineEnds, reversed.reverse, []⟩
  | c :: rest =>
    if bytes = 0 then ⟨lineEnds, reversed.reverse, c :: rest⟩
    else if c = '\n' then placeAfter (bytes - c.utf8Size) (lineEnds + 1) [] rest
    else placeAfter (bytes - c.utf8Size) lineEnds (c :: reversed) rest

/-- The place in a text at which a part begins. -/
def placeOf (text : List Char) (span : Span) : Place :=
  placeAfter (byteLength text - span.start) 0 [] text

/-- As many spaces as asked. -/
def spaces (n : Nat) : List Char := List.replicate n ' '

/-- The excerpt for a part of a text. -/
def excerpt (text : List Char) (span : Span) : List Char :=
  let place := placeOf text span
  let line := place.before ++ place.rest.takeWhile (· != '\n')
  let column := place.before.length
  let number := (toString (place.lineEnds + 1)).toList
  let gutter := spaces (number.length + 1) ++ ['|']
  let carets := max 1 (min (span.start - span.stop) (byteLength line - column))
  "TOML parse error at line ".toList ++ number ++ ", column ".toList
    ++ (toString (column + 1)).toList ++ '\n' ::
    gutter ++ '\n' ::
    number ++ " | ".toList ++ line ++ '\n' ::
    gutter ++ spaces (column + 1) ++ List.replicate carets '^' ++ ['\n']

end StructuralTyping.Toml
