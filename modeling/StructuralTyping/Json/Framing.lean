import StructuralTyping.Json.Fault
/-!
# Blanks, brackets and commas

The frame around the items of a list and the entries of an object. A `Turn` says
what comes next inside a frame: its closing bracket, which is then read too, or
a further item or entry, whose text begins there.
-/
set_option autoImplicit false

namespace StructuralTyping.Json

open StructuralTyping.Text

/-- The characters that may stand between two tokens. -/
def isBlank (c : Char) : Bool := c = ' ' || c = '\t' || c = '\n' || c = '\r'

/-- The text from its first character that is no blank. -/
def skipBlanks (s : List Char) : List Char := s.dropWhile isBlank

/-- Skipping blanks leaves no longer text. -/
theorem length_skipBlanks_le (s : List Char) : (skipBlanks s).length ≤ s.length :=
  (List.dropWhile_sublist isBlank).length_le

/-- What comes next inside a frame, in the text `s`. The remaining text follows
the closing bracket, or begins with the next item. -/
inductive Turn (s : List Char) where
  | closed (rest : List Char) (le : rest.length ≤ s.length)
  | more (rest : List Char) (le : rest.length ≤ s.length)

/-- The text from its first character that is no blank, with the bound on its
length that a reader needs to go on. -/
def afterBlanks (s : List Char) : Remainder s :=
  ⟨skipBlanks s, length_skipBlanks_le s⟩

/-- What may follow the opening bracket of a list. -/
def openList (s : List Char) : Except Fault (Turn s) :=
  match afterBlanks s with
  | ⟨[], _⟩ => .error (.atEnd .endInList)
  | ⟨c :: rest, le⟩ =>
    if c = ']' then .ok (.closed rest (Nat.le_of_succ_le le))
    else .ok (.more (c :: rest) le)

/-- What may follow an item of a list. -/
def continueList (s : List Char) : Except Fault (Turn s) :=
  match afterBlanks s with
  | ⟨[], _⟩ => .error (.atEnd .endInList)
  | ⟨c :: rest, le⟩ =>
    if c = ']' then .ok (.closed rest (Nat.le_of_succ_le le))
    else if c = ',' then
      match afterBlanks rest with
      | ⟨[], _⟩ => .error (.atEnd .endInValue)
      | ⟨d :: later, further⟩ =>
        if d = ']' then .error (.within .trailingComma (d :: later))
        else .ok (.more (d :: later) (Nat.le_trans further (Nat.le_of_succ_le le)))
    else .error (.within .expectedCommaOrBracket (c :: rest))

/-- What may follow the opening brace of an object. A further entry begins behind
the opening quote of its key. -/
def openObject (s : List Char) : Except Fault (Turn s) :=
  match afterBlanks s with
  | ⟨[], _⟩ => .error (.atEnd .endInObject)
  | ⟨c :: rest, le⟩ =>
    if c = '\x7d' then .ok (.closed rest (Nat.le_of_succ_le le))
    else if c = '"' then .ok (.more rest (Nat.le_of_succ_le le))
    else .error (.within .keyNotAString (c :: rest))

/-- What may follow an entry of an object. -/
def continueObject (s : List Char) : Except Fault (Turn s) :=
  match afterBlanks s with
  | ⟨[], _⟩ => .error (.atEnd .endInObject)
  | ⟨c :: rest, le⟩ =>
    if c = '\x7d' then .ok (.closed rest (Nat.le_of_succ_le le))
    else if c = ',' then
      match afterBlanks rest with
      | ⟨[], _⟩ => .error (.atEnd .endInValue)
      | ⟨d :: later, further⟩ =>
        if d = '"' then
          .ok (.more later
            (Nat.le_trans (Nat.le_of_succ_le further) (Nat.le_of_succ_le le)))
        else if d = '\x7d' then .error (.within .trailingComma (d :: later))
        else .error (.within .keyNotAString (d :: later))
    else .error (.within .expectedCommaOrBrace (c :: rest))

/-- The colon between a key and its value. -/
def colon (s : List Char) : Scan Unit s :=
  match afterBlanks s with
  | ⟨[], _⟩ => .error (.atEnd .endInObject)
  | ⟨c :: rest, le⟩ =>
    if c = ':' then .ok ⟨(), rest, le⟩ else .error (.within .expectedColon (c :: rest))

/-- Reads the letters of a literal. A fault stands behind the first letter that
differs. -/
def letters (s : List Char) : List Char → Except Fault (Remainder s)
  | [] => .ok (.all s)
  | expected :: later =>
    match s with
    | [] => .error (.atEnd .endInValue)
    | c :: rest =>
      if c = expected then
        match letters rest later with
        | .error fault => .error fault
        | .ok after => .ok (after.behind c)
      else .error (.within .expectedLiteral (c :: rest))

/-- Nothing but blanks may follow the value of a text. -/
def finish {α : Type} {s : List Char} (found : Scanned α s) : Except Fault α :=
  match skipBlanks found.rest with
  | [] => .ok found.value
  | c :: rest => .error (.within .trailingCharacters (c :: rest))

end StructuralTyping.Json
