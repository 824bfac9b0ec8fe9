import StructuralTyping.Interface.Shape
/-!
# What a TOML document holds

Items with their places in the text. A place is given by the number of bytes
that are still ahead at its start and at its end. Dates and times have no content
here: only that one stands in a place can matter.
-/
set_option autoImplicit false

namespace StructuralTyping.Toml

/-- A part of a text, from where `start` bytes are ahead to where `stop` are. -/
structure Span where
  start : Nat
  stop : Nat
deriving DecidableEq

/-- A name in a key, and its place with any quotes. -/
structure Key where
  name : String
  span : Span
deriving DecidableEq

/-- A value without parts. -/
inductive Scalar where
  | string (value : String)
  | integer (value : Int)
  | double (value : Double)
  | boolean (value : Bool)
  | dateTime
deriving DecidableEq

/-- How a table came to be: written in braces, opened by a header, needed by a
longer header, or needed by a dotted key. -/
inductive Origin where
  | inline
  | header
  | implied
  | dotted
deriving DecidableEq

/-- A value, a table, or the tables of an array of tables. Tables that no text
of their own stands for have no place. -/
inductive Item where
  | scalar (span : Span) (value : Scalar)
  | array (span : Span) (items : List Item)
  | table (origin : Origin) (span : Option Span) (entries : List (Key × Item))
  | tables (items : List Item)

/-- The entries of a table in order. -/
abbrev Entries := List (Key × Item)

/-- The place of an item, if it has one of its own. -/
def Item.span? : Item → Option Span
  | .scalar span _ => some span
  | .array span _ => some span
  | .table _ span _ => span
  | .tables _ => none

/-- What a scalar is found to be. A date or time reads as a mapping. -/
def Scalar.found : Scalar → Found
  | .string value => .string value
  | .integer value => .integer value
  | .double value => .double value
  | .boolean value => .boolean value
  | .dateTime => .mapping

/-- What an item is found to be. -/
def Item.found : Item → Found
  | .scalar _ value => value.found
  | .array _ _ => .sequence
  | .table _ _ _ => .mapping
  | .tables _ => .sequence

/-- The item under a name. -/
def lookup? (name : String) : Entries → Option Item
  | [] => none
  | (key, item) :: later => if key.name = name then some item else lookup? name later

/-- The entries with another item under a name that has one. -/
def replace (name : String) (item : Item) : Entries → Entries
  | [] => []
  | (key, old) :: later =>
    if key.name = name then (key, item) :: later else (key, old) :: replace name item later

/-- The entries without the one of that name. -/
def without (name : String) (entries : Entries) : Entries :=
  entries.filter (fun entry => entry.1.name ≠ name)

end StructuralTyping.Toml
