import StructuralTyping.Double.Text
import StructuralTyping.Text.Quoted
import StructuralTyping.World
/-!
# Descriptions

A text that shows a holder with everything it delegates to. The members of a
prototype are listed by name alone, those of objects and maps in full.
-/
set_option autoImplicit false

namespace StructuralTyping

/-- Texts between brackets, separated by commas. -/
def bracketed (opening closing : String) (items : List String) : String :=
  opening ++ String.intercalate ", " items ++ closing

/-- The text of a number. -/
def Number.text : Number → String
  | .integer i => toString i
  | .double d => d.text .json

namespace Value

mutual

/-- The description of a value. -/
def describe : Value → String
  | .null => "Null"
  | .boolean value => "Bool(" ++ (if value then "true" else "false") ++ ")"
  | .number n => "Number(" ++ n.text ++ ")"
  | .string s => "String(" ++ Text.quoted s ++ ")"
  | .list items => bracketed "Array [" "]" (describeItems items)
  | .mapping entries => bracketed "Object \x7b" "\x7d" (describeEntries entries)

/-- The descriptions of the items of a list. -/
def describeItems : List Value → List String
  | [] => []
  | item :: later => describe item :: describeItems later

/-- The descriptions of the entries of a mapping. -/
def describeEntries : List (String × Value) → List String
  | [] => []
  | (name, item) :: later =>
    (Text.quoted name ++ ": " ++ describe item) :: describeEntries later

end

end Value

/-- The description of a member. A callable shows its arity alone. -/
def Member.describe : Member → String
  | .function f => "Function(Callable \x7b arity: " ++ toString f.arity ++ ", .. \x7d)"
  | .data value => "Value(" ++ value.describe ++ ")"

namespace World

/-- The description of an optional part. -/
def describeOptional : Option String → String
  | none => "None"
  | some text => "Some(" ++ text ++ ")"

/-- The description of a prototype and of what it delegates to, as far as the
given number of links. -/
def describeChain (w : World) : Nat → HolderId → String
  | 0, _ => ""
  | links + 1, id =>
    "Prototype \x7b members: " ++ bracketed "[" "]" ((w.ownNames id).map Text.quoted)
      ++ ", parent: " ++ describeOptional ((w.parent? id).map (w.describeChain links)) ++ " \x7d"

/-- The description of a prototype. -/
def describePrototype (w : World) (id : HolderId) : String := w.describeChain w.holders.size id

/-- The description of members under their names. -/
def describeMembers (members : Table Member) : String :=
  bracketed "\x7b" "\x7d"
    (members.entries.map fun entry => Text.quoted entry.1 ++ ": " ++ entry.2.describe)

/-- The description of an object. -/
def describeObject (w : World) (o : Object) : String :=
  "Object \x7b members: " ++ describeMembers o.members
    ++ ", prototype: " ++ describeOptional (o.prototype.map w.describePrototype) ++ " \x7d"

/-- The description of a holder as what it is. -/
def describe (w : World) (id : HolderId) : String :=
  match w.holder? id with
  | none => ""
  | some (.object o) => w.describeObject o
  | some (.prototype _) => w.describePrototype id
  | some (.sortedMap members) => describeMembers members
  | some (.hashedMap members) => describeMembers members.toTable

end World

end StructuralTyping
