import StructuralTyping.Json.Items
import StructuralTyping.Json.Number
/-!
# Data values in JSON text

`Json.read` reads a whole text as one value. Objects keep the order of their
keys; a repeated key keeps its first place and its last value. Lists and objects
may be nested up to a limit, at which the bracket of a further one is a fault.
-/
set_option autoImplicit false

namespace StructuralTyping.Json

open StructuralTyping.Text

/-- A value without parts, whose text begins with the given character. -/
def scalar (c : Char) (rest : List Char) : Scan Value (c :: rest) :=
  if c = 'n' then
    match letters rest ['u', 'l', 'l'] with
    | .error fault => .error fault
    | .ok after => .ok (.upTo .null c after)
  else if c = 't' then
    match letters rest ['r', 'u', 'e'] with
    | .error fault => .error fault
    | .ok after => .ok (.upTo (.boolean true) c after)
  else if c = 'f' then
    match letters rest ['a', 'l', 's', 'e'] with
    | .error fault => .error fault
    | .ok after => .ok (.upTo (.boolean false) c after)
  else if beginsNumber c then
    match number (c :: rest) with
    | .error fault => .error fault
    | .ok found => .ok (found.map Value.number)
  else if c = '"' then
    match stringBody rest with
    | .error fault => .error fault
    | .ok found => .ok ((found.map fun s => Value.string (String.ofList s)).behind c)
  else .error (.within .expectedValue (c :: rest))

/-- A value in which lists and objects are nested at most as deep as given, whose text
begins with the given character. -/
def valueFrom : Nat → (c : Char) → (rest : List Char) → Scan Value (c :: rest)
  | 0, c, rest =>
    if c = '[' ∨ c = '\x7b' then .error (.within .nestedTooDeep (c :: rest)) else scalar c rest
  | depth + 1, c, rest =>
    if c = '[' then
      match list (behindBlanks (valueFrom depth)) c rest with
      | .error fault => .error fault
      | .ok found => .ok (found.map Value.list)
    else if c = '\x7b' then
      match object (behindBlanks (valueFrom depth)) c rest with
      | .error fault => .error fault
      | .ok found => .ok (found.map Value.ofEntries)
    else scalar c rest

/-- A value nested at most as deep as given, after any blanks. -/
def value (depth : Nat) (s : List Char) : Scan Value s := behindBlanks (valueFrom depth) s

/-- How deep lists and objects may be nested. -/
def nestingLimit : Nat := 127

/-- The value of a whole text. -/
def read (text : List Char) : Except Fault Value :=
  match value nestingLimit text with
  | .error fault => .error fault
  | .ok found => finish found

end StructuralTyping.Json
