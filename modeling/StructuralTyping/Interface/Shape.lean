import StructuralTyping.Interface
import StructuralTyping.Value
import StructuralTyping.Text.Quoted
import StructuralTyping.Double.Text
/-!
# Interfaces read by shape

The readers of contract texts expect a mapping of lists of strings and stop at
the first value of another shape. A `Mismatch` tells what was found and what was
due there; where it stood is left to the reader of the text. `Interface.read`
applies the same expectations to a value that is already in memory.
-/
set_option autoImplicit false

namespace StructuralTyping

/-- What stood in the place of an expected shape. Mappings include everything
that a format spells as one. -/
inductive Found where
  | null
  | boolean (value : Bool)
  | integer (value : Int)
  | double (value : Double)
  | string (value : String)
  | sequence
  | mapping
deriving DecidableEq

/-- The wording of what was found, with numbers in the given style. -/
def Found.text (style : Double.Style) : Found → String
  | .null => "null"
  | .boolean value => "boolean `" ++ (if value then "true" else "false") ++ "`"
  | .integer value => "integer `" ++ toString value ++ "`"
  | .double value => "floating point `" ++ value.text style ++ "`"
  | .string value => "string " ++ Text.quoted value
  | .sequence => "sequence"
  | .mapping => "map"

/-- The three shapes of a contract. -/
inductive Expected where
  | contract
  | parameterList
  | parameterName
deriving DecidableEq

/-- The wording of an expected shape. -/
def Expected.text : Expected → String
  | .contract => "a mapping of function name to a list of parameter names"
  | .parameterList => "a sequence"
  | .parameterName => "a string"

/-- A value of one shape where another was due. -/
structure Mismatch where
  found : Found
  expected : Expected
deriving DecidableEq

/-- The wording of a mismatch, with numbers in the given style. -/
def Mismatch.message (style : Double.Style) (m : Mismatch) : String :=
  "invalid type: " ++ m.found.text style ++ ", expected " ++ m.expected.text

/-- What a data value is found to be. -/
def Value.found : Value → Found
  | .null => .null
  | .boolean value => .boolean value
  | .number (.integer value) => .integer value
  | .number (.double value) => .double value
  | .string value => .string value
  | .list _ => .sequence
  | .mapping _ => .mapping

/-- Why a value could not be read as an interface. -/
inductive Misshapen where
  | mismatch (cause : Mismatch)
  | duplicate (cause : Interface.Duplicate)
deriving DecidableEq

/-- The wording of a failed read. -/
def Misshapen.message : Misshapen → String
  | .mismatch cause => cause.message .json
  | .duplicate cause => "invalid argument: " ++ cause.message

namespace Interface

/-- The strings of a list, or the first item that is none. -/
def readNames : List Value → Except Mismatch (List String)
  | [] => .ok []
  | .string name :: later =>
    match readNames later with
    | .ok names => .ok (name :: names)
    | .error e => .error e
  | item :: _ => .error ⟨item.found, .parameterName⟩

/-- The parameter names that a value lists. -/
def readParameters : Value → Except Mismatch (List String)
  | .list items => readNames items
  | other => .error ⟨other.found, .parameterList⟩

/-- Declares the entries of a mapping one after the other. -/
def readEntries (d : Interface) : List (String × Value) → Except Misshapen Interface
  | [] => .ok d
  | (name, value) :: later =>
    match readParameters value with
    | .error e => .error (.mismatch e)
    | .ok params =>
      match d.insert ⟨name, params⟩ with
      | .error e => .error (.duplicate e)
      | .ok extended => extended.readEntries later

/-- The interface that a value has the shape of. -/
def read : Value → Except Misshapen Interface
  | .mapping entries => empty.readEntries entries
  | other => .error (.mismatch ⟨other.found, .contract⟩)

end Interface

end StructuralTyping
