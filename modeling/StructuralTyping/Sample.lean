import StructuralTyping.Function
import StructuralTyping.World.Action
/-!
# Sample objects

Small objects around one interface of two functions, each in one situation that
a check has to tell apart: inherited functions, a misspelled name, too many or
too few parameters, data in the place of a function, nothing at all.
-/
set_option autoImplicit false

namespace StructuralTyping

/-- The sample objects. -/
inductive Sample where
  | withExtraFunctions
  | onPrototype
  | onSuperclassPrototype
  | misspelled
  | extraParams
  | missingParams
  | notAFunction
  | empty
deriving DecidableEq

namespace Sample

/-- Every sample, in a fixed order. -/
def all : List Sample :=
  [.withExtraFunctions, .onPrototype, .onSuperclassPrototype, .misspelled, .extraParams,
    .missingParams, .notAFunction, .empty]

/-- The name of a sample. -/
def name : Sample → String
  | .withExtraFunctions => "with_extra_functions"
  | .onPrototype => "on_prototype"
  | .onSuperclassPrototype => "on_superclass_prototype"
  | .misspelled => "misspelled"
  | .extraParams => "extra_params"
  | .missingParams => "missing_params"
  | .notAFunction => "not_a_function"
  | .empty => "empty"

/-- The sample of that name. -/
def ofName? (name : String) : Option Sample := all.find? (·.name = name)

/-- The interface that the samples are written against. -/
def mathInterface : Interface :=
  ⟨[⟨"add", ["numOne", "numTwo"]⟩, ⟨"subtract", ["numOne", "numTwo"]⟩], by decide⟩

/-- A new `add`. -/
def add : Source := .callable 2 Function.add

/-- A new `subtract`. -/
def subtract : Source := .callable 2 Function.subtract

/-- A new `multiply`. -/
def multiply : Source := .callable 2 Function.multiply

/-- A new function that returns its argument. -/
def identity : Source := .callable 1 Function.identity

/-- A new `add` of three numbers. -/
def addThree : Source := .callable 3 Function.addThree

/-- A new holder with members from sources. -/
def build (w : World) (kind : Kind) (parent : Option HolderId)
    (members : List (String × Source)) : HolderId × World :=
  let (id, created) := w.add (.blank parent kind)
  (id, members.foldl (fun world member => (world.perform (.set id member.1 member.2)).2) created)

/-- The members of the interface's functions on a prototype. -/
def mathMembers : List (String × Source) := [("add", add), ("subtract", subtract)]

/-- A prototype that carries the functions of the interface. -/
def buildMathPrototype (w : World) : HolderId × World := build w .prototype none mathMembers

/-- A new object like the sample, and the prototypes it delegates to. -/
def create (w : World) : Sample → HolderId × World
  | .withExtraFunctions =>
    build w .object none [("add", add), ("subtract", subtract), ("multiply", multiply)]
  | .onPrototype =>
    let (prototype, supplied) := buildMathPrototype w
    build supplied .object (some prototype) []
  | .onSuperclassPrototype =>
    let (base, supplied) := buildMathPrototype w
    let (derived, extended) := build supplied .prototype (some base) [("multiply", multiply)]
    build extended .object (some derived) []
  | .misspelled => build w .object none [("addd", add), ("subtract", subtract)]
  | .extraParams => build w .object none [("add", addThree), ("subtract", subtract)]
  | .missingParams => build w .object none [("add", add), ("subtract", identity)]
  | .notAFunction =>
    build w .object none [("add", .data (Value.ofNat 2)), ("subtract", subtract)]
  | .empty => build w .object none []

end Sample

end StructuralTyping
