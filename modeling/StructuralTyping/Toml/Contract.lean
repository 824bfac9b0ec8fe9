import StructuralTyping.Toml.Excerpt
import StructuralTyping.Toml.Reader
/-!
# Interfaces in TOML text

An interface is a document whose root table holds arrays of strings and nothing
else. The first entry of another shape is reported with its place; a table that
has no place of its own is shown at its key. Why a text is no TOML document is
for the reader of documents to say: its report, a cause and perhaps a place, is
a parameter here.
-/
set_option autoImplicit false

namespace StructuralTyping.Toml

/-- Why a text is no document, and the part of the text that this is about, if one
is named. -/
structure SyntaxError where
  cause : String
  span : Option Span
deriving DecidableEq

/-- What is reported of each text that is no document. -/
abbrev Report := List Char → SyntaxError

/-- The report that gives no reason. -/
def Report.silent : Report := fun _ => ⟨"", none⟩

/-- Why a text is not an interface. -/
inductive Fault where
  | malformed (cause : SyntaxError)
  | mismatch (cause : Mismatch) (span : Span)
  | duplicate (cause : Interface.Duplicate)
deriving DecidableEq

/-- The strings of an array, or the first item that is none. The place is that of
an item without one of its own. -/
def parameterNames (place : Span) : List Item → Except Fault (List String)
  | [] => .ok []
  | .scalar _ (.string name) :: later =>
    match parameterNames place later with
    | .ok names => .ok (name :: names)
    | .error fault => .error fault
  | item :: _ =>
    .error (.mismatch ⟨item.found, .parameterName⟩ (item.span?.getD place))

/-- The declaration that an entry of the root table describes. -/
def declaration (key : Key) (item : Item) : Except Fault Signature :=
  let place := item.span?.getD key.span
  let named (items : List Item) : Except Fault Signature :=
    match parameterNames place items with
    | .ok params => .ok ⟨key.name, params⟩
    | .error fault => .error fault
  match item with
  | .array _ items => named items
  | .tables items => named items
  | other => .error (.mismatch ⟨other.found, .parameterList⟩ place)

/-- Adds the entries of a root table to an interface, in their order. -/
def declarations (d : Interface) : Entries → Except Fault Interface
  | [] => .ok d
  | (key, item) :: later =>
    match declaration key item with
    | .error fault => .error fault
    | .ok signature =>
      match d.insert signature with
      | .error cause => .error (.duplicate cause)
      | .ok extended => declarations extended later

/-- The interface that a whole text describes. -/
def contract (report : Report) (text : List Char) : Except Fault Interface :=
  match root? text with
  | none => .error (.malformed (report text))
  | some entries => declarations .empty entries

/-- The wording of a fault in the text that was read: the place, if there is one, and
the cause on a line of its own. -/
def Fault.message (text : List Char) : Fault → String
  | .malformed cause =>
    cause.span.elim "" (fun span => String.ofList (excerpt text span)) ++ cause.cause ++ "\n"
  | .mismatch cause span => String.ofList (excerpt text span) ++ cause.message .plain ++ "\n"
  | .duplicate cause => "invalid argument: " ++ cause.message ++ "\n"

end StructuralTyping.Toml
