import StructuralTyping.Session.Answer
import StructuralTyping.Session.Command
import StructuralTyping.World.Description
/-!
# Sessions

A session works on a world through names of its own choosing. A name is bound to
a holder or to an interface and may be bound anew; two names of one prototype
stand for the same prototype. Callables are shown by a number, in the order in
which the session met them: when a command asks for a new one, or when one that
came with a sample is shown for the first time.
-/
set_option autoImplicit false

namespace StructuralTyping

/-- What a name of a session stands for. -/
inductive Binding where
  | holder (id : HolderId)
  | interface (definition : Interface)

/-- A world, the names for parts of it, and the identities of the callables that
were met, in order. -/
structure Session where
  world : World
  bindings : Table Binding
  met : List Nat

namespace Session

/-- The session that has not been asked anything. -/
def empty : Session := ⟨.empty, .empty, []⟩

/-- The holder that a name is bound to. -/
def holder? (s : Session) (name : String) : Option HolderId :=
  match s.bindings.get? name with
  | some (.holder id) => some id
  | _ => none

/-- The interface that a name is bound to. -/
def interface? (s : Session) (name : String) : Option Interface :=
  match s.bindings.get? name with
  | some (.interface d) => some d
  | _ => none

/-- Binds a name, in the place of what it stood for. -/
def bind (s : Session) (name : String) (binding : Binding) : Session :=
  { s with bindings := s.bindings.insert name binding }

/-- The first name that is bound to the holder. -/
def nameOf? (s : Session) (id : HolderId) : Option String :=
  (s.bindings.entries.find? fun entry =>
    match entry.2 with
    | .holder other => other = id
    | .interface _ => false).map Prod.fst

/-- The number of a callable, which is the next one if it was not met before. -/
def meet (s : Session) (f : Callable) : Nat × Session :=
  match s.met.idxOf? f.identity with
  | some number => (number, s)
  | none => (s.met.length, { s with met := s.met ++ [f.identity] })

/-- Shows a member. -/
def showMember (s : Session) : Option Member → ShownMember × Session
  | none => (.nothing, s)
  | some (.data value) => (.data value, s)
  | some (.function f) =>
    let (number, after) := s.meet f
    (.callable number f.arity, after)

/-- Shows members under their names, in order. -/
def showMembers (s : Session) :
    List (String × Member) → List (String × ShownMember) × Session
  | [] => ([], s)
  | (name, member) :: later =>
    let (shown, next) := s.showMember (some member)
    let (others, after) := next.showMembers later
    ((name, shown) :: others, after)

/-- Shows what a holder delegates to. -/
def showPrototype (s : Session) : Option HolderId → ShownPrototype
  | none => .nothing
  | some id =>
    match s.nameOf? id with
    | some name => .named name
    | none => .unnamed

/-- Shows a holder. -/
def showHolder (s : Session) (id : HolderId) : Answer × Session :=
  match s.world.holder? id with
  | none => (.unknown, s)
  | some (.prototype p) =>
    (.state (.prototype (s.world.describePrototype id) (s.showPrototype p.parent?)), s)
  | some (.object o) =>
    let (own, after) := s.showMembers o.members.entries
    (.state (.object own (s.showPrototype o.prototype)), after)
  | some (.sortedMap members) =>
    let (own, after) := s.showMembers members.entries
    (.state (.map own), after)
  | some (.hashedMap members) =>
    let (own, after) := s.showMembers members.toTable.entries
    (.state (.map own), after)

/-- Shows what a name stands for. -/
def showName (s : Session) (name : String) : Answer × Session :=
  match s.bindings.get? name with
  | some (.holder id) => s.showHolder id
  | some (.interface d) => (.state (.interface d), s)
  | none => (.unknown, s)

/-- Binds a name to a holder in another world, and shows it. -/
def bindHolder (s : Session) (name : String) (created : HolderId × World) : Answer × Session :=
  ({ s with world := created.2 }.bind name (.holder created.1)).showName name

/-- The source that a member specification means, if its names are bound. -/
def source? (s : Session) : MemberSpec → Option Source
  | .data value => some (.data value)
  | .callable arity body => some (.callable arity body)
  | .resolved holder name => (s.holder? holder).map (.resolved · name)

/-- The member that a specification gives. A new callable is met at once. -/
def obtain (s : Session) (spec : MemberSpec) : Option Member × Session :=
  match s.source? spec with
  | none => (none, s)
  | some source =>
    let (member, world) := s.world.obtain source
    let after := { s with world := world }
    match source, member with
    | .callable _ _, some (.function f) => (member, (after.meet f).2)
    | _, _ => (member, after)

/-- A prototype given by name, or none. The outer result is missing if the name is
not bound. -/
def parent? (s : Session) : Option String → Option (Option HolderId)
  | none => some none
  | some name => (s.holder? name).map some

/-- The interface that a specification means. -/
def interfaceOf (s : Session) : InterfaceSpec → Except Answer Interface
  | .named name =>
    match s.interface? name with
    | some d => .ok d
    | none => .error .unknown
  | .literal value =>
    match Interface.ofValue value with
    | .ok d => .ok d
    | .error cause => .error (.malformed cause)

/-- Performs an action on the world and answers with a state, unless the action is
refused. -/
def perform (s : Session) (name : String) (action : Action) : Answer × Session :=
  match s.world.perform action with
  | (.created id, world) => s.bindHolder name (id, world)
  | (.replaced old, world) =>
    let (shown, next) := { s with world := world }.showMember old
    match next.showName name with
    | (.state state, after) => (.replaced shown state, after)
    | other => other
  | (.cycle cause, _) => (.cycle cause, s)
  | (.unsupported, _) => (.unknown, s)
  | (.done, world) | (.made _, world) => { s with world := world }.showName name
  | (.rejected rejection, world) =>
    match { s with world := world }.showName name with
    | (.state state, after) => (.applied (.error rejection) state, after)
    | other => other

/-- Sets members of a new object one after the other. -/
def setMembers (s : Session) (id : HolderId) : List (String × MemberSpec) → Session
  | [] => s
  | (name, spec) :: later =>
    match s.obtain spec with
    | (some member, after) =>
      { after with world := (after.world.set id name member).2 }.setMembers id later
    | (none, after) => after.setMembers id later

/-- Creates prototypes under numbered names, each of which extends the one before. -/
def extendChain (s : Session) (name : String) (number : Nat) (parent : Option HolderId) :
    Nat → Session
  | 0 => s
  | length + 1 =>
    let (id, world) := s.world.add (.blank parent .prototype)
    let next := { s with world := world }.bind (name ++ toString number) (.holder id)
    next.extendChain name (number + 1) (some id) length

/-- Answers with a member. -/
def answerMember (s : Session) (member : Option Member) : Answer × Session :=
  let (shown, after) := s.showMember member
  (.member shown, after)

/-- Answers about a holder by name. -/
def withHolder (s : Session) (name : String) (answer : HolderId → Answer × Session) :
    Answer × Session :=
  match s.holder? name with
  | some id => answer id
  | none => (.unknown, s)

/-- Answers about a holder by name and an interface. -/
def withBoth (s : Session) (name : String) (spec : InterfaceSpec)
    (answer : HolderId → Interface → Answer × Session) : Answer × Session :=
  match s.interfaceOf spec with
  | .error failure => (failure, s)
  | .ok d => s.withHolder name (answer · d)

/-- Carries out one command. -/
def execute (s : Session) : Command → Answer × Session
  | .interface id none => (s.bind id (.interface .empty)).showName id
  | .interface id (some value) =>
    match Interface.ofValue value with
    | .ok d => (s.bind id (.interface d)).showName id
    | .error cause => (.malformed cause, s)
  | .declare id signature =>
    match s.interface? id with
    | none => (.unknown, s)
    | some d =>
      match d.insert signature with
      | .ok extended => (s.bind id (.interface extended)).showName id
      | .error e => (.malformed (.duplicate e.name), s)
  | .declaration id name =>
    match s.interface? id with
    | none => (.unknown, s)
    | some d => (.declaration (d.get? name), s)
  | .equal first second =>
    match s.interfaceOf first, s.interfaceOf second with
    | .ok a, .ok b => (.truth (a = b), s)
    | .error failure, _ => (failure, s)
    | _, .error failure => (failure, s)
  | .object id prototype members =>
    match s.parent? prototype with
    | none => (.unknown, s)
    | some parent =>
      let (holder, world) := s.world.add (.blank parent .object)
      let filled := { s with world := world }.setMembers holder members
      filled.bindHolder id (holder, filled.world)
  | .sample id sample => s.bindHolder id (sample.create s.world)
  | .mathPrototype id => s.bindHolder id (Sample.buildMathPrototype s.world)
  | .prototype id parent =>
    match s.parent? parent with
    | none => (.unknown, s)
    | some link => s.perform id (.create .prototype link)
  | .prototypeFrom id object =>
    s.withHolder object fun source => s.perform id (.copy .prototype source)
  | .chain id length parent =>
    match s.parent? parent with
    | none => (.unknown, s)
    | some link => (.count length, s.extendChain id 0 link length)
  | .map id kind => s.perform id (.create kind none)
  | .copy id source =>
    match s.bindings.get? source with
    | none => (.unknown, s)
    | some (.interface d) => (s.bind id (.interface d)).showName id
    | some (.holder holder) =>
      match s.world.kind? holder with
      | none => (.unknown, s)
      | some .prototype => (s.bind id (.holder holder)).showName id
      | some kind => s.perform id (.copy kind holder)
  | .state id => s.showName id
  | .setConstant id name arity value =>
    s.withHolder id fun holder =>
      let (f, supplied) := s.world.newCallable arity (Function.constant value)
      { s with world := supplied.define holder name f }.showName id
  | .set id name spec =>
    s.withHolder id fun holder =>
      match s.obtain spec with
      | (none, _) => (.unknown, s)
      | (some member, supplied) =>
        let (old, world) := supplied.world.set holder name member
        let (shown, next) := { supplied with world := world }.showMember old
        match next.showName id with
        | (.state state, after) => (.replaced shown state, after)
        | other => other
  | .define id name spec =>
    s.withHolder id fun holder =>
      match s.obtain spec with
      | (some (.function f), supplied) =>
        { supplied with world := supplied.world.define holder name f }.showName id
      | _ => (.unknown, s)
  | .remove id name => s.withHolder id fun holder => s.perform id (.remove holder name)
  | .own id name => s.withHolder id fun holder => s.answerMember (s.world.own? holder name)
  | .hasOwn id name => s.withHolder id fun holder => (.truth (s.world.hasOwn holder name), s)
  | .resolve id name =>
    s.withHolder id fun holder => s.answerMember (s.world.resolve holder name)
  | .same first second =>
    match s.obtain first with
    | (some (.function f), next) =>
      match next.obtain second with
      | (some (.function g), after) => (.truth (f.same g), after)
      | _ => (.unknown, s)
    | _ => (.unknown, s)
  | .call id name arguments =>
    s.withHolder id fun holder =>
      match s.world.call holder name arguments with
      | .ok value => (.value value, s)
      | .error e => (.callFailed e, s)
  | .relink id parent =>
    s.withHolder id fun holder =>
      match s.parent? parent with
      | none => (.unknown, s)
      | some link => s.perform id (.relink holder link)
  | .chainContains id other =>
    s.withHolder id fun holder =>
      s.withHolder other fun ancestor => (.truth (s.world.chainContains holder ancestor), s)
  | .identical first second =>
    s.withHolder first fun a => s.withHolder second fun b => (.truth (a = b), s)
  | .describe id => s.withHolder id fun holder => (.text (s.world.describe holder), s)
  | .diagnose id spec =>
    s.withBoth id spec fun holder d => (.diagnosis (diagnose (s.world.resolve holder) d), s)
  | .conforms id spec =>
    s.withBoth id spec fun holder d =>
      (.truth (StructuralTyping.conforms (s.world.resolve holder) d), s)
  | .assertConforms id spec =>
    s.withBoth id spec fun holder d =>
      (.verdict (StructuralTyping.assertConforms (s.world.resolve holder) d), s)
  | .apply id candidate spec =>
    s.withBoth id spec fun target d =>
      s.withHolder candidate fun source =>
        match s.perform id (.apply target d source) with
        | (.state state, after) => (.applied (.ok ()) state, after)
        | other => other

/-- Carries out commands one after the other. -/
def executeAll (s : Session) : List Command → List Answer
  | [] => []
  | command :: later =>
    let (answer, after) := s.execute command
    answer :: after.executeAll later

end Session

end StructuralTyping
