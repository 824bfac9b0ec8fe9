import StructuralTyping.Interface
import StructuralTyping.Value
/-!
# Interfaces written as data

An interface is written as a mapping from function names to lists of parameter
names. `Interface.ofValue` reads such a value and says in the reader's words
what is wrong with one that is not of this shape.
-/
set_option autoImplicit false

namespace StructuralTyping

/-- Why a value does not describe an interface. -/
inductive Malformed where
  | notAMapping (found : Value.Kind)
  | parametersNotAList (function : String) (found : Value.Kind)
  | parameterNotAString (function : String) (index : Nat) (found : Value.Kind)
  | duplicate (function : String)
deriving DecidableEq

/-- The wording of a malformed interface. -/
def Malformed.message : Malformed → String
  | .notAMapping found =>
    "interface definition must be a mapping of function name to parameter names, got "
      ++ found.phrase
  | .parametersNotAList function found =>
    "parameters of `" ++ function ++ "` must be a list of names, got " ++ found.phrase
  | .parameterNotAString function index found =>
    "parameter " ++ toString index ++ " of `" ++ function ++ "` must be a string, got "
      ++ found.phrase
  | .duplicate function => Interface.Duplicate.message ⟨function⟩

namespace Interface

/-- The strings of a list, counted from `index`, or the first item that is none. -/
def parameterNames (function : String) : Nat → List Value → Except Malformed (List String)
  | _, [] => .ok []
  | index, .string name :: later =>
    match parameterNames function (index + 1) later with
    | .ok names => .ok (name :: names)
    | .error e => .error e
  | index, item :: _ => .error (.parameterNotAString function index item.kind)

/-- The declaration that one entry of a mapping describes. -/
def signatureOfEntry (name : String) : Value → Except Malformed Signature
  | .list items =>
    match parameterNames name 0 items with
    | .ok params => .ok ⟨name, params⟩
    | .error e => .error e
  | other => .error (.parametersNotAList name other.kind)

/-- Declares the entries of a mapping one after the other. -/
def insertEntries (d : Interface) : List (String × Value) → Except Malformed Interface
  | [] => .ok d
  | (name, params) :: later =>
    match signatureOfEntry name params with
    | .error e => .error e
    | .ok s =>
      match d.insert s with
      | .error e => .error (.duplicate e.name)
      | .ok extended => extended.insertEntries later

/-- The interface that a value describes. -/
def ofValue : Value → Except Malformed Interface
  | .mapping entries => empty.insertEntries entries
  | other => .error (.notAMapping other.kind)

/-- The value that describes an interface. -/
def toValue (d : Interface) : Value :=
  .mapping (d.signatures.map fun s => (s.name, Value.ofStrings s.params))

end Interface

end StructuralTyping
