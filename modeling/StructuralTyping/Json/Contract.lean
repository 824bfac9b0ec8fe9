import StructuralTyping.Json.Items
import StructuralTyping.Json.Number
/-!
# Interfaces in JSON text

`Json.contract` reads an interface from a text in one pass, without building the
value first: an object of lists of strings. The first thing that is wrong ends
the reading, be it the syntax, a value of another shape, or a second declaration
of a name, which shows once its list has been read. No blank, item or bracket
behind such a declaration changes that outcome.
-/
set_option autoImplicit false

namespace StructuralTyping.Json

open StructuralTyping.Text

/-- The fault of a value that stands where another shape is due. A value without
parts is read to its end first; a list or an object is not entered. -/
def mismatchAt (expected : Expected) (c : Char) (rest : List Char) : Fault :=
  let mismatch (found : Found) (after : List Char) : Fault :=
    .before (.mismatch ⟨found, expected⟩) after
  if c = '[' then mismatch .sequence (c :: rest)
  else if c = '\x7b' then mismatch .mapping (c :: rest)
  else if c = 'n' then
    match letters rest ['u', 'l', 'l'] with
    | .error fault => fault
    | .ok ⟨after, _⟩ => mismatch .null after
  else if c = 't' then
    match letters rest ['r', 'u', 'e'] with
    | .error fault => fault
    | .ok ⟨after, _⟩ => mismatch (.boolean true) after
  else if c = 'f' then
    match letters rest ['a', 'l', 's', 'e'] with
    | .error fault => fault
    | .ok ⟨after, _⟩ => mismatch (.boolean false) after
  else if beginsNumber c then
    match number (c :: rest) with
    | .error fault => fault
    | .ok ⟨.integer i, after, _⟩ => mismatch (.integer i) after
    | .ok ⟨.double d, after, _⟩ => mismatch (.double d) after
  else if c = '"' then
    match stringBody rest with
    | .error fault => fault
    | .ok found => mismatch (.string (String.ofList found.value)) found.rest
  else .within .expectedValue (c :: rest)

/-- A parameter name, after any blanks. -/
def parameterName (s : List Char) : Scan String s :=
  behindBlanks (fun c rest =>
    if c = '"' then
      match stringBody rest with
      | .error fault => .error fault
      | .ok found => .ok ((found.map String.ofList).behind c)
    else .error (mismatchAt .parameterName c rest)) s

/-- A list of parameter names, after any blanks. -/
def parameterList (s : List Char) : Scan (List String) s :=
  behindBlanks (fun c rest =>
    if c = '[' then list parameterName c rest
    else .error (mismatchAt .parameterList c rest)) s

/-- A declaration, from behind the opening quote of its name. -/
def declaration (s : List Char) : Scan Signature s :=
  match entry parameterList s with
  | .error fault => .error fault
  | .ok found => .ok (found.map fun named => ⟨named.1, named.2⟩)

/-- The text behind the blanks and the closing brace that may follow a declaration. -/
def pastBrace (s : List Char) : List Char :=
  match skipBlanks s with
  | [] => []
  | c :: rest => if c = '\x7d' then rest else c :: rest

/-- Adds declarations to `d` up to the closing brace; there is at least one, and
the opening quote of its name has been read. -/
def declarations (d : Interface) (s : List Char) : Scan Interface s :=
  match declaration s with
  | .error fault => .error fault
  | .ok ⟨signature, rest, shorter⟩ =>
    match d.insert signature with
    | .error cause => .error (.before (.duplicate cause) (pastBrace rest))
    | .ok extended =>
      match continueObject rest with
      | .error fault => .error fault
      | .ok (.closed after le) => .ok ⟨extended, after, by omega⟩
      | .ok (.more next le) =>
        match declarations extended next with
        | .error fault => .error fault
        | .ok later => .ok (later.widen (by omega))
termination_by s.length
decreasing_by omega

/-- An interface, after any blanks. -/
def interface (s : List Char) : Scan Interface s :=
  behindBlanks (fun c rest =>
    if c = '\x7b' then
      match openObject rest with
      | .error fault => .error fault
      | .ok (.closed after le) => .ok (.upTo .empty c ⟨after, le⟩)
      | .ok (.more first le) =>
        match declarations .empty first with
        | .error fault => .error fault
        | .ok found => .ok ((found.widen le).behind c)
    else .error (mismatchAt .contract c rest)) s

/-- The interface that a whole text describes. -/
def contract (text : List Char) : Except Fault Interface :=
  match interface text with
  | .error fault => .error fault
  | .ok found => finish found

end StructuralTyping.Json
