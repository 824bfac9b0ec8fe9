import StructuralTyping.World
/-!
# Actions

Everything that can be done to a world, as data. A run is a list of actions, and
a world is reachable when some run leads to it from the empty one. An action that
a holder's kind does not offer leaves the world as it is.
-/
set_option autoImplicit false

namespace StructuralTyping

/-- Where a member comes from: it is data, a new callable, a callable that was made
before, or what a name stands for on some holder. -/
inductive Source where
  | data (value : Value)
  | callable (arity : Nat) (body : Body)
  | made (identity : Nat)
  | resolved (holder : HolderId) (name : String)

/-- One step of a run. -/
inductive Action where
  | create (kind : Kind) (parent : Option HolderId)
  | copy (kind : Kind) (source : HolderId)
  | make (arity : Nat) (body : Body)
  | set (holder : HolderId) (name : String) (source : Source)
  | define (holder : HolderId) (name : String) (source : Source)
  | remove (holder : HolderId) (name : String)
  | relink (holder : HolderId) (parent : Option HolderId)
  | apply (target : HolderId) (interface : Interface) (candidate : HolderId)

/-- What an action answers. -/
inductive Outcome where
  | done
  | created (holder : HolderId)
  | made (callable : Callable)
  | replaced (old : Option Member)
  | cycle (cause : LinkError)
  | rejected (cause : Rejection)
  | unsupported

namespace World

/-- The member that a source gives, and the world after a callable was created
for it. An identity that was not given away and a name that stands for nothing
give none. -/
def obtain (w : World) : Source → Option Member × World
  | .data value => (some (.data value), w)
  | .callable arity body =>
    let (f, after) := w.newCallable arity body
    (some (.function f), after)
  | .made identity => (w.callables[identity]?.map .function, w)
  | .resolved holder name => (w.resolve holder name, w)

/-- Whether a new holder of the kind may delegate as asked: a parent has to be a
prototype. -/
def mayDelegate (w : World) (kind : Kind) : Option HolderId → Bool
  | none => true
  | some parent => kind.delegates && (w.kind? parent == some .prototype)

/-- Performs one action. -/
def perform (w : World) : Action → Outcome × World
  | .create kind parent =>
    if w.mayDelegate kind parent then
      let (id, after) := w.add (.blank parent kind)
      (.created id, after)
    else (.unsupported, w)
  | .copy kind source =>
    match (w.holder? source).bind (·.copyAs? kind) with
    | some copy =>
      let (id, after) := w.add copy
      (.created id, after)
    | none => (.unsupported, w)
  | .make arity body =>
    let (f, after) := w.newCallable arity body
    (.made f, after)
  | .set holder name source =>
    match w.obtain source with
    | (some member, supplied) =>
      let (old, after) := supplied.set holder name member
      (.replaced old, after)
    | (none, _) => (.unsupported, w)
  | .define holder name source =>
    match w.obtain source with
    | (some (.function f), supplied) => (.done, supplied.define holder name f)
    | _ => (.unsupported, w)
  | .remove holder name =>
    if w.kind? holder = some .object then
      let (old, after) := w.remove holder name
      (.replaced old, after)
    else (.unsupported, w)
  | .relink holder parent =>
    match w.kind? holder with
    | some .object =>
      if w.mayDelegate .object parent then (.done, w.link holder parent) else (.unsupported, w)
    | some .prototype =>
      if w.mayDelegate .prototype parent then
        match w.setParent holder parent with
        | .ok after => (.done, after)
        | .error cause => (.cycle cause, w)
      else (.unsupported, w)
    | _ => (.unsupported, w)
  | .apply target interface candidate =>
    match w.apply target interface candidate with
    | .ok after => (.done, after)
    | .error rejection => (.rejected rejection, w)

/-- The world after a run. -/
def run (w : World) (actions : List Action) : World :=
  actions.foldl (fun world action => (world.perform action).2) w

/-- A world that some run leads to from the empty one. -/
def Reachable (w : World) : Prop := ∃ actions : List Action, empty.run actions = w

end World

end StructuralTyping
