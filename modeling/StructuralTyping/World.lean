import StructuralTyping.Diagnosis
import StructuralTyping.Holder
/-!
# Worlds of holders

A world is everything that holds members. Objects and prototypes may delegate to
a prototype: a name that they do not own themselves is looked up there, and so
on along the chain, and the closest owner decides. Prototypes are shared, so a
member set on one is seen by everything that delegates to it; nothing delegates
to an object or to a map.

A chain of delegation visits no holder twice, so a lookup that follows as many
links as there are holders has seen all of it. The links keep to that: relinking
a prototype to one of its own descendants is refused.
-/
set_option autoImplicit false

namespace StructuralTyping

/-- All holders and all callables, in the order in which they came into being. A
callable stays known after the last holder has let go of it. -/
structure World where
  holders : Array Holder
  callables : Array Callable

/-- The refusal to link a prototype to itself or to one of its descendants. -/
inductive LinkError where
  | cycle
deriving DecidableEq

/-- The wording of a refused link. -/
def LinkError.message : LinkError → String
  | .cycle => "invalid argument: prototype chain would form a cycle"

namespace World

/-- The world without holders. -/
def empty : World := ⟨#[], #[]⟩

/-- The holder of that name. -/
def holder? (w : World) (id : HolderId) : Option Holder := w.holders[id]?

/-- The kind of a holder. -/
def kind? (w : World) (id : HolderId) : Option Kind := (w.holder? id).map Holder.kind

/-- The prototype that a holder delegates to. -/
def parent? (w : World) (id : HolderId) : Option HolderId := (w.holder? id).bind Holder.parent?

/-- A member that the holder owns itself. -/
def own? (w : World) (id : HolderId) (name : String) : Option Member :=
  (w.holder? id).bind (·.own? name)

/-- Whether the holder owns a member of that name itself. -/
def hasOwn (w : World) (id : HolderId) (name : String) : Bool := (w.own? id name).isSome

/-- The names of the members that the holder owns itself, in increasing order. -/
def ownNames (w : World) (id : HolderId) : List String :=
  match w.holder? id with
  | some h => h.members.names
  | none => []

/-- What a name stands for after at most `links` links. -/
def resolveWithin (w : World) (name : String) : Nat → HolderId → Option Member
  | 0, id => (w.holder? id).bind (·.resolve (fun _ => none) name)
  | links + 1, id => (w.holder? id).bind (·.resolve (w.resolveWithin name links) name)

/-- What a name stands for on a holder: its own member, or that of the closest
prototype in its chain that has one. -/
def resolve (w : World) (id : HolderId) : Candidate :=
  fun name => w.resolveWithin name w.holders.size id

/-- Calls what a name stands for. -/
def call (w : World) (id : HolderId) (name : String) (arguments : List Value) :
    Except CallError Value :=
  invoke name (w.resolve id name) arguments

/-- Whether `other` is met within at most `links` links. -/
def reachesWithin (w : World) (other : HolderId) : Nat → HolderId → Bool
  | 0, id => id = other
  | links + 1, id =>
    id = other ||
      match w.parent? id with
      | some parent => w.reachesWithin other links parent
      | none => false

/-- Whether `other` is the holder itself or one of the prototypes in its chain. -/
def chainContains (w : World) (id other : HolderId) : Bool :=
  w.reachesWithin other w.holders.size id

/-- A world with one more holder. -/
def add (w : World) (h : Holder) : HolderId × World :=
  (w.holders.size, { w with holders := w.holders.push h })

/-- A world with one holder changed. -/
def update (w : World) (id : HolderId) (change : Holder → Holder) : World :=
  { w with holders := w.holders.modify id change }

/-- Puts a member under a name and returns the one that was there. -/
def set (w : World) (id : HolderId) (name : String) (member : Member) :
    Option Member × World :=
  (w.own? id name, w.update id (·.set name member))

/-- Takes the member of a name away and returns it. -/
def remove (w : World) (id : HolderId) (name : String) : Option Member × World :=
  (w.own? id name, w.update id (·.remove name))

/-- Puts a callable under a name. -/
def define (w : World) (id : HolderId) (name : String) (f : Callable) : World :=
  w.update id (·.define name f)

/-- Puts callables under names, one after the other. -/
def defineAll (w : World) (id : HolderId) : List (String × Callable) → World
  | [] => w
  | (name, f) :: later => (w.define id name f).defineAll id later

/-- Delegates to another prototype, or to none. -/
def link (w : World) (id : HolderId) (parent : Option HolderId) : World :=
  w.update id (·.link parent)

/-- Relinks a prototype, unless the new parent delegates to it already. -/
def setParent (w : World) (id : HolderId) (parent : Option HolderId) :
    Except LinkError World :=
  match parent with
  | none => .ok (w.link id none)
  | some p => if w.chainContains p id then .error .cycle else .ok (w.link id (some p))

/-- A callable that did not exist before. Its identity is its place among all
callables. -/
def newCallable (w : World) (arity : Nat) (body : Body) : Callable × World :=
  let f : Callable := ⟨w.callables.size, arity, body⟩
  (f, { w with callables := w.callables.push f })

/-- Copies the implementation of an interface from a candidate onto a holder. The
candidate is looked at before anything is written, and if it does not conform
nothing is. -/
def apply (w : World) (target : HolderId) (d : Interface) (candidate : HolderId) :
    Except Rejection World :=
  match implementation (w.resolve candidate) d with
  | .ok callables => .ok (w.defineAll target callables)
  | .error rejection => .error rejection

end World

end StructuralTyping
