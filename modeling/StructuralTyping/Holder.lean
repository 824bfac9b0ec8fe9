import StructuralTyping.Member
import StructuralTyping.Table.Hashed
/-!
# Holders

Four kinds of things hold members under names, and each of them has a way of its own to look a
name up and to put a member under it. A sorted and a hashed map are tables and nothing more: a
name stands for the item that is there. An object has a table, too, and may delegate to a
prototype, which is asked for the names that the table does not have. A prototype is an object
that others share; whatever is done to it is done to the object that they all see.

The lemmas say of every operation what it does to three things that can be told of a holder: its
kind, the members that it owns, and the prototype that it delegates to. In these words the kinds
obey the same laws, although each follows them by itself, and a holder is known by the three.
-/
set_option autoImplicit false

namespace StructuralTyping

/-- The kinds of holders. Only prototypes are shared; maps never delegate. -/
inductive Kind where
  | object
  | prototype
  | sortedMap
  | hashedMap
deriving DecidableEq

/-- Whether holders of this kind may delegate to a prototype. -/
def Kind.delegates : Kind → Bool
  | .object | .prototype => true
  | .sortedMap | .hashedMap => false

/-- The name of a holder in its world. -/
abbrev HolderId := Nat

/-- An object: members of its own, and the prototype that it delegates to. -/
@[ext]
structure Object where
  members : Table Member
  prototype : Option HolderId

namespace Object

/-- A member that the object owns itself. -/
def own? (o : Object) (name : String) : Option Member := o.members.get? name

/-- What a name stands for on the object: its own member, or else what the prototype says when
it is asked. -/
def resolve (o : Object) (ask : HolderId → Option Member) (name : String) : Option Member :=
  match o.members.get? name with
  | some member => some member
  | none =>
    match o.prototype with
    | some prototype => ask prototype
    | none => none

/-- Puts a member under a name. -/
def set (o : Object) (name : String) (member : Member) : Object :=
  { o with members := o.members.insert name member }

/-- Puts a callable under a name. -/
def define (o : Object) (name : String) (f : Callable) : Object :=
  { o with members := o.members.insert name (.function f) }

/-- Takes the member of a name away. -/
def remove (o : Object) (name : String) : Object :=
  { o with members := o.members.erase name }

/-- Delegates to another prototype, or to none. -/
def setPrototype (o : Object) (prototype : Option HolderId) : Object :=
  { o with prototype := prototype }

end Object

/-- A prototype: an object that others share and delegate to. -/
structure Prototype where
  shared : Object

namespace Prototype

/-- A member that the prototype owns itself. -/
def own? (p : Prototype) (name : String) : Option Member := p.shared.own? name

/-- The prototype that comes next in the chain. -/
def parent? (p : Prototype) : Option HolderId := p.shared.prototype

/-- What a name stands for on the prototype. The shared object is left, with a member of its own
or with its link, before the parent is asked. -/
def resolve (p : Prototype) (ask : HolderId → Option Member) (name : String) : Option Member :=
  if let some member := p.own? name then some member
  else p.parent?.bind ask

/-- Puts a member under a name. -/
def set (p : Prototype) (name : String) (member : Member) : Prototype :=
  ⟨p.shared.set name member⟩

/-- Puts a callable under a name. -/
def define (p : Prototype) (name : String) (f : Callable) : Prototype :=
  p.set name (.function f)

/-- Takes the member of a name away. -/
def remove (p : Prototype) (name : String) : Prototype := ⟨p.shared.remove name⟩

/-- Continues the chain at another prototype, or ends it. -/
def setParent (p : Prototype) (parent : Option HolderId) : Prototype :=
  ⟨p.shared.setPrototype parent⟩

end Prototype

/-- A holder of members. -/
inductive Holder where
  | object (o : Object)
  | prototype (p : Prototype)
  | sortedMap (members : Table Member)
  | hashedMap (members : HashedTable Member)

namespace Holder

/-- The kind of a holder. -/
def kind : Holder → Kind
  | object _ => .object
  | prototype _ => .prototype
  | sortedMap _ => .sortedMap
  | hashedMap _ => .hashedMap

/-- The prototype that a holder delegates to. -/
def parent? : Holder → Option HolderId
  | object o => o.prototype
  | prototype p => p.parent?
  | sortedMap _ | hashedMap _ => none

/-- A member that the holder owns itself. -/
def own? : Holder → String → Option Member
  | object o, name => o.own? name
  | prototype p, name => p.own? name
  | sortedMap members, name => members.get? name
  | hashedMap members, name => members.get? name

/-- The members that the holder owns itself, in the order of their names. -/
def members : Holder → Table Member
  | object o => o.members
  | prototype p => p.shared.members
  | sortedMap members => members
  | hashedMap members => members.toTable

/-- What a name stands for on a holder, given what it stands for on prototypes. Maps ask none. -/
def resolve (ask : HolderId → Option Member) (name : String) : Holder → Option Member
  | object o => o.resolve ask name
  | prototype p => p.resolve ask name
  | sortedMap members => members.get? name
  | hashedMap members => members.get? name

/-- A new holder of a kind, without members. -/
def blank (parent : Option HolderId) : Kind → Holder
  | .object => object ⟨.empty, parent⟩
  | .prototype => prototype ⟨⟨.empty, parent⟩⟩
  | .sortedMap => sortedMap .empty
  | .hashedMap => hashedMap .empty

/-- A copy of a holder as another kind: objects become objects or prototypes, and maps stay what
they are. A prototype is shared instead. -/
def copyAs? : Kind → Holder → Option Holder
  | .object, object o => some (object o)
  | .prototype, object o => some (prototype ⟨o⟩)
  | .sortedMap, sortedMap members => some (sortedMap members)
  | .hashedMap, hashedMap members => some (hashedMap members)
  | _, _ => none

/-- Puts a member under a name. -/
def set (name : String) (member : Member) : Holder → Holder
  | object o => object (o.set name member)
  | prototype p => prototype (p.set name member)
  | sortedMap members => sortedMap (members.insert name member)
  | hashedMap members => hashedMap (members.insert name member)

/-- Puts a callable under a name. -/
def define (name : String) (f : Callable) : Holder → Holder
  | object o => object (o.define name f)
  | prototype p => prototype (p.define name f)
  | sortedMap members => sortedMap (members.insert name (.function f))
  | hashedMap members => hashedMap (members.insert name (.function f))

/-- Takes the member of a name away. -/
def remove (name : String) : Holder → Holder
  | object o => object (o.remove name)
  | prototype p => prototype (p.remove name)
  | sortedMap members => sortedMap (members.erase name)
  | hashedMap members => hashedMap (members.erase name)

/-- Delegates to another prototype, or to none. Maps have no link to move. -/
def link (parent : Option HolderId) : Holder → Holder
  | object o => object (o.setPrototype parent)
  | prototype p => prototype (p.setParent parent)
  | sortedMap members => sortedMap members
  | hashedMap members => hashedMap members

variable {h g : Holder}

/-- The members in order are those that the holder owns. -/
theorem get?_members (h : Holder) (name : String) : h.members.get? name = h.own? name := by
  cases h with
  | object o => rfl
  | prototype p => rfl
  | sortedMap members => rfl
  | hashedMap members => exact members.get?_toTable name

/-- Holders that own the same members list them alike, however each of them keeps them. -/
theorem members_eq (own : ∀ name, h.own? name = g.own? name) : h.members = g.members :=
  Table.ext fun name => by rw [get?_members, get?_members, own]

/-- On a holder of any kind a name stands for an own member, or else for what the name stands for
on the prototype that the holder delegates to, if it does. -/
theorem resolve_eq (h : Holder) (ask : HolderId → Option Member) (name : String) :
    h.resolve ask name = (h.own? name).or (h.parent?.bind ask) := by
  cases h with
  | object o =>
    simp only [resolve, Object.resolve, own?, Object.own?, parent?]
    cases o.members.get? name <;> cases o.prototype <;> rfl
  | prototype p =>
    simp only [resolve, Prototype.resolve, own?, parent?]
    cases p.own? name <;> rfl
  | sortedMap members => exact (Option.or_none).symm
  | hashedMap members => exact (Option.or_none).symm

/-- A new holder is of the kind that was asked for. -/
@[simp]
theorem kind_blank (parent : Option HolderId) (kind : Kind) : (blank parent kind).kind = kind := by
  cases kind <;> rfl

/-- A new holder owns nothing. -/
@[simp]
theorem own?_blank (parent : Option HolderId) (kind : Kind) (name : String) :
    (blank parent kind).own? name = none := by
  cases kind with
  | object => rfl
  | prototype => rfl
  | sortedMap => rfl
  | hashedMap => exact HashedTable.get?_empty name

/-- A new holder delegates as it was told to, if holders of its kind do. -/
theorem parent?_blank (parent : Option HolderId) (kind : Kind) :
    (blank parent kind).parent? = if kind.delegates = true then parent else none := by
  cases kind <;> rfl

/-- A copy is of the kind that was asked for, owns what the original owns, and delegates where
the original does. -/
theorem eq_of_copyAs? {kind : Kind} (copied : h.copyAs? kind = some g) :
    g.kind = kind ∧ g.own? = h.own? ∧ g.parent? = h.parent? ∧
      g.kind.delegates = h.kind.delegates := by
  cases kind <;> cases h <;> cases copied <;> exact ⟨rfl, rfl, rfl, rfl⟩

/-- Objects can be made prototypes. -/
theorem copyAs?_prototype (object : h.kind = .object) :
    ∃ copy, h.copyAs? .prototype = some copy := by
  cases h with
  | object o => exact ⟨_, rfl⟩
  | _ => cases object

/-- A member that was put under a name is owned there, and under other names nothing changes. -/
theorem own?_set (h : Holder) (name asked : String) (member : Member) :
    (h.set name member).own? asked = if asked = name then some member else h.own? asked := by
  cases h with
  | object o => exact o.members.get?_insert name asked member
  | prototype p => exact p.shared.members.get?_insert name asked member
  | sortedMap members => exact members.get?_insert name asked member
  | hashedMap members => exact members.get?_insert name asked member

/-- Putting a member under a name moves no link. -/
@[simp]
theorem parent?_set (h : Holder) (name : String) (member : Member) :
    (h.set name member).parent? = h.parent? := by
  cases h <;> rfl

/-- Putting a member under a name keeps the kind. -/
@[simp]
theorem kind_set (h : Holder) (name : String) (member : Member) :
    (h.set name member).kind = h.kind := by
  cases h <;> rfl

/-- To define a callable is to put it under its name as a member, whatever the kind. -/
theorem define_eq_set (h : Holder) (name : String) (f : Callable) :
    h.define name f = h.set name (.function f) := by
  cases h <;> rfl

/-- A member that was taken away is not owned, and under other names nothing changes. -/
theorem own?_remove (h : Holder) (name asked : String) :
    (h.remove name).own? asked = if asked = name then none else h.own? asked := by
  cases h with
  | object o => exact o.members.get?_erase name asked
  | prototype p => exact p.shared.members.get?_erase name asked
  | sortedMap members => exact members.get?_erase name asked
  | hashedMap members => exact members.get?_erase name asked

/-- Taking a member away moves no link. -/
@[simp]
theorem parent?_remove (h : Holder) (name : String) : (h.remove name).parent? = h.parent? := by
  cases h <;> rfl

/-- Taking a member away keeps the kind. -/
@[simp]
theorem kind_remove (h : Holder) (name : String) : (h.remove name).kind = h.kind := by
  cases h <;> rfl

/-- Moving a link changes no members. -/
@[simp]
theorem own?_link (h : Holder) (parent : Option HolderId) : (h.link parent).own? = h.own? := by
  cases h <;> rfl

/-- A link that was moved leads where it was told to, on holders that have one. -/
theorem parent?_link (h : Holder) (parent : Option HolderId) :
    (h.link parent).parent? = if h.kind.delegates = true then parent else none := by
  cases h <;> rfl

/-- Moving a link keeps the kind. -/
@[simp]
theorem kind_link (h : Holder) (parent : Option HolderId) : (h.link parent).kind = h.kind := by
  cases h <;> rfl

/-- A holder is known by its kind, its link and the members that it owns. -/
theorem ext (kind : h.kind = g.kind) (link : h.parent? = g.parent?)
    (own : ∀ name, h.own? name = g.own? name) : h = g := by
  cases h with
  | object o =>
    cases g with
    | object other => exact congrArg object (Object.ext (Table.ext own) link)
    | _ => cases kind
  | prototype p =>
    cases g with
    | prototype other =>
      exact congrArg (fun shared => prototype ⟨shared⟩) (Object.ext (Table.ext own) link)
    | _ => cases kind
  | sortedMap members =>
    cases g with
    | sortedMap others => exact congrArg sortedMap (Table.ext own)
    | _ => cases kind
  | hashedMap members =>
    cases g with
    | hashedMap others => exact congrArg hashedMap (HashedTable.ext own)
    | _ => cases kind

end Holder

end StructuralTyping
