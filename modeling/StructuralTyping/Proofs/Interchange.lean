import StructuralTyping.Proofs.Provenance
/-!
# Kinds of holders are interchangeable

Maps, objects without a prototype and prototypes without a parent are four kinds of holders, each
with a look-up and an insertion of its own. What these have in common is said by the laws of
holders, and the four are followed by these laws alone: on none of them a name stands for anything
but an own member. So if one holder of each kind starts with the same members, for instance with
none, and every operation is carried out on all four, they own the same members after each of
them, and nothing that can be asked of one tells it from the others. What else is done in between makes no difference as long as it is not done to
one of the four. An object that is turned into a prototype keeps its members and its link, so
names go on to stand for what they stood for.
-/
set_option autoImplicit false

namespace StructuralTyping

/-- Every kind of holders. -/
def Kind.all : List Kind := [.sortedMap, .hashedMap, .object, .prototype]

/-- No kind is listed twice. -/
theorem Kind.nodup_all : Kind.all.Nodup := by decide

/-- No kind is left out. -/
theorem Kind.mem_all (kind : Kind) : kind ∈ Kind.all := by cases kind <;> decide

/-- The holder that an operation looks names up on: the one that it is carried out on, or some
other one. -/
inductive Provider where
  | itself
  | other (id : HolderId)

/-- The holder that is meant where an operation is carried out on a holder. -/
def Provider.of (id : HolderId) : Provider → HolderId
  | itself => id
  | other provider => provider

/-- A member that can be put on several holders: data, a callable that was made before, or what a
name stands for. A callable that was made anew for each holder would be another one on each. -/
inductive Supply where
  | data (value : Value)
  | made (identity : Nat)
  | found (provider : Provider) (name : String)

/-- Where the member comes from that is put on a holder. -/
def Supply.source (id : HolderId) : Supply → Source
  | data value => .data value
  | made identity => .made identity
  | found provider name => .resolved (provider.of id) name

/-- What holders of every kind can be asked to do. -/
inductive Operation where
  | insert (name : String) (supply : Supply)
  | define (name : String) (supply : Supply)
  | apply (d : Interface) (candidate : Provider)

/-- The action that carries an operation out on a holder. -/
def Operation.on (id : HolderId) : Operation → Action
  | insert name supply => .set id name (supply.source id)
  | define name supply => .define id name (supply.source id)
  | apply d candidate => .apply id d (candidate.of id)

/-- One round: an operation that is carried out on one holder of each kind in turn, or any
action. -/
inductive Round where
  | alike (operation : Operation)
  | elsewhere (action : Action)

/-- The actions of a round, given the holder of each kind. -/
def Round.actions (holders : Kind → HolderId) : Round → List Action
  | alike operation => Kind.all.map fun kind => operation.on (holders kind)
  | elsewhere action => [action]

/-- The holder that an action changes, if it changes one. -/
def Action.target? : Action → Option HolderId
  | .set holder _ _ | .define holder _ _ | .remove holder _ | .relink holder _ => some holder
  | .apply target _ _ => some target
  | .create _ _ | .copy _ _ | .make _ _ => none

namespace World

open Relation

variable {w after : World} {id other : HolderId} {name : String}

/-- A holder keeps its kind. -/
theorem Step.kind? (step : Step w after) {kind : Kind} (found : w.kind? id = some kind) :
    after.kind? id = some kind := by
  have old : id ≠ w.holders.size := by
    rintro rfl
    rw [kind?_size] at found
    cases found
  cases step with
  | made arity body => exact found
  | created kind parent allowed => rw [kind?_add, if_neg old, found]
  | copied _ _ => rw [kind?_add, if_neg old, found]
  | written target name member => rw [kind?_set, found]
  | removed target name => rw [kind?_remove, found]
  | relinked parent _ _ _ => rw [kind?_link, found]

/-- A holder keeps its kind over any number of steps. -/
theorem kind?_of_steps (steps : ReflTransGen Step w after) {kind : Kind}
    (found : w.kind? id = some kind) : after.kind? id = some kind := by
  induction steps with
  | refl => exact found
  | tail _ step inductionHypothesis => exact step.kind? inductionHypothesis

/-- A holder that exists still does after an action. -/
theorem holder?_isSome_perform (present : (w.holder? id).isSome = true) (action : Action) :
    ((w.perform action).2.holder? id).isSome = true := by
  obtain ⟨h, found⟩ := Option.isSome_iff_exists.1 present
  have kind : w.kind? id = some h.kind := by rw [kind?, found, Option.map_some]
  have kept := congrArg Option.isSome (kind?_of_steps (w.perform_steps action) kind)
  rwa [kind?, Option.isSome_map] at kept

/-- A new holder takes nobody's place. -/
theorem holder?_add_of_present (h : Holder) (present : (w.holder? id).isSome = true) :
    (w.add h).2.holder? id = w.holder? id := by
  rw [holder?_add, if_neg]
  rintro rfl
  simp [holder?] at present

/-- Callables that are put on another holder do not change a holder. -/
theorem holder?_defineAll_of_ne (apart : id ≠ other) (callables : List (String × Callable)) :
    (w.defineAll other callables).holder? id = w.holder? id := by
  induction callables generalizing w with
  | nil => rfl
  | cons first later inductionHypothesis =>
    rw [defineAll, inductionHypothesis, define, holder?_update, if_neg apart]

/-- An action changes no holder but its target. -/
theorem holder?_perform_of_other {action : Action} (present : (w.holder? id).isSome = true)
    (apart : action.target? ≠ some id) : (w.perform action).2.holder? id = w.holder? id := by
  have differs : ∀ {target}, action.target? = some target → id ≠ target := by
    rintro target named rfl
    exact apart named
  have supplied : ∀ source, (w.obtain source).2.holder? id = w.holder? id := fun source => by
    rw [holder?, holders_obtain, holder?]
  cases action with
  | create kind parent =>
    simp only [perform]
    split
    · exact holder?_add_of_present _ present
    · rfl
  | copy kind source =>
    simp only [perform]
    split
    · exact holder?_add_of_present _ present
    · rfl
  | make arity body => rfl
  | set target name source =>
    have kept := supplied source
    simp only [perform]
    split
    · rename_i obtained
      rw [obtained] at kept
      rw [set, holder?_update, if_neg (differs rfl), kept]
    · rfl
  | define target name source =>
    have kept := supplied source
    simp only [perform]
    split
    · rename_i obtained
      rw [obtained] at kept
      rw [define, holder?_update, if_neg (differs rfl), kept]
    · rfl
  | remove target name =>
    simp only [perform]
    split
    · rw [remove, holder?_update, if_neg (differs rfl)]
    · rfl
  | relink target parent =>
    rcases w.linked_or_refused target parent with moved | kept
    · rw [moved, link, holder?_update, if_neg (differs rfl)]
    · rw [kept]
  | apply target d candidate =>
    cases found : implementation (w.resolve candidate) d with
    | ok callables => rw [perform_apply_of_ok found, holder?_defineAll_of_ne (differs rfl)]
    | error rejection => rw [perform_apply_of_error found]

/-- Nothing is written. -/
theorem overwrites_nothing (w : World) (id : HolderId) : Overwrites w w id fun _ => none where
  size := rfl
  links _ := rfl
  own _ _ := by simp

end World

/-- What an operation writes on a holder, under each name. -/
def Operation.written (w : World) (id : HolderId) : Operation → String → Option Member
  | insert name supply => fun asked =>
    if asked = name then (w.obtain (supply.source id)).1 else none
  | define name supply => fun asked =>
    if asked = name then ((w.obtain (supply.source id)).1.bind Member.callable?).map .function
    else none
  | apply d candidate => fun asked =>
    if conforms (w.resolve (candidate.of id)) d = true ∧ asked ∈ d.names then
      w.resolve (candidate.of id) asked
    else none

/-- What is found gives a callable if it is a function, and no other one. -/
theorem Member.bind_callable?_eq_some_iff {found : Option Member} {f : Callable} :
    found.bind Member.callable? = some f ↔ found = some (.function f) := by
  rcases found with _ | ⟨g | v⟩ <;> simp [Member.callable?]

namespace World

variable {w after : World} {id other : HolderId} {name : String} {operation : Operation}

/-- What is put on several holders is not created for it. -/
theorem obtain_supply (w : World) (supply : Supply) (id : HolderId) :
    (w.obtain (supply.source id)).2 = w := by
  cases supply <;> rfl

/-- A source that gives no member is not set. -/
theorem perform_set_of_none {source : Source} (missing : (w.obtain source).1 = none) :
    w.perform (.set id name source) = (.unsupported, w) := by
  simp only [perform]
  split
  · rename_i obtained
    rw [obtained] at missing
    cases missing
  · rfl

/-- A source that gives no callable is not defined. -/
theorem perform_define_of_none {source : Source}
    (missing : (w.obtain source).1.bind Member.callable? = none) :
    w.perform (.define id name source) = (.unsupported, w) := by
  simp only [perform]
  split
  · rename_i obtained
    rw [obtained] at missing
    cases missing
  · rfl

/-- An operation writes what it is said to write, and changes nothing else. -/
theorem overwrites_of_operation (present : (w.holder? id).isSome = true) (operation : Operation) :
    Overwrites w (w.perform (operation.on id)).2 id (operation.written w id) := by
  have nothing := w.overwrites_nothing id
  cases operation with
  | insert name supply =>
    rw [Operation.on, Operation.written]
    cases given : (w.obtain (supply.source id)).1 with
    | some member => exact overwrites_of_set present given name
    | none =>
      rw [perform_set_of_none given]
      simpa only [ite_self] using nothing
  | define name supply =>
    rw [Operation.on, Operation.written]
    cases given : (w.obtain (supply.source id)).1.bind Member.callable? with
    | some f =>
      have member := Member.bind_callable?_eq_some_iff.1 given
      rw [perform_define member]
      exact overwrites_of_set present member name
    | none =>
      rw [perform_define_of_none given]
      simpa only [Option.map_none, ite_self] using nothing
  | apply d candidate =>
    rw [Operation.on, Operation.written]
    cases found : implementation (w.resolve (candidate.of id)) d with
    | ok callables =>
      have applied := perform_apply_of_ok found id
      have conforming := (conforms_iff_implementation _ d).2 ⟨callables, found⟩
      have writes := (overwrites_of_applied present applied).2
      simpa only [applied, conforming, true_and] using writes
    | error rejection =>
      have failing : conforms (w.resolve (candidate.of id)) d = false := by
        rw [Bool.eq_false_iff, ne_eq, conforms_iff_implementation]
        rintro ⟨callables, implemented⟩
        rw [found] at implemented
        cases implemented
      rw [perform_apply_of_error found]
      simpa only [failing, Bool.false_eq_true, false_and, if_false] using nothing

/-- An operation makes no callable. -/
theorem callables_of_operation (w : World) (id : HolderId) (operation : Operation) :
    (w.perform (operation.on id)).2.callables = w.callables := by
  have nothing : (operation.on id).creation? = none := by
    rcases operation with ⟨_, supply⟩ | ⟨_, supply⟩ | _
    · cases supply <;> rfl
    · cases supply <;> rfl
    · rfl
  rw [callables_perform, created?, nothing, Option.map_none, Option.toArray_none,
    Array.append_empty]

section Turns

variable (acyclic : w.Acyclic) (present : (w.holder? id).isSome = true)
  (root : w.parent? other = none) (apart : id ≠ other)

include acyclic present root apart

/-- A name goes on to stand for the same member on a holder that does not delegate, and on a
holder on which the member that was written is the one that the name stood for. -/
theorem resolve_provider {provider : Provider}
    (same : ∀ p, provider = .other p → ∀ member, operation.written w id name = some member →
      w.resolve p name = some member) :
    (w.perform (operation.on id)).2.resolve (provider.of other) name =
      w.resolve (provider.of other) name := by
  have writes := overwrites_of_operation present operation
  cases provider with
  | itself =>
    refine writes.resolve_of_hidden acyclic ?_
    rintro ⟨closer, further, all, -⟩
    have levels := all.unique (Levels.last root)
    have member : id ∈ [other] := levels ▸ List.mem_append_right _ List.mem_cons_self
    exact apart (List.mem_singleton.1 member)
  | other p => exact writes.resolve_of_same acyclic (same p rfl)

/-- What is put on one holder after another stays what it is: data, a callable that was made
before, and what a name stands for, also if it was just put somewhere else. -/
theorem obtain_supply_after {supply : Supply}
    (same : ∀ p asked, supply = .found (.other p) asked → ∀ member,
      operation.written w id asked = some member → w.resolve p asked = some member) :
    ((w.perform (operation.on id)).2.obtain (supply.source other)).1 =
      (w.obtain (supply.source other)).1 := by
  cases supply with
  | data value => rfl
  | made identity => simp only [Supply.source, obtain, callables_of_operation]
  | found provider asked =>
    refine resolve_provider acyclic present root apart fun p given => ?_
    subst given
    exact same p asked rfl

/-- An operation writes on one holder after another what it would have written there before. -/
theorem written_after (operation : Operation) :
    operation.written (w.perform (operation.on id)).2 other = operation.written w other := by
  cases operation with
  | insert name supply =>
    have given : ((w.perform ((Operation.insert name supply).on id)).2.obtain
        (supply.source other)).1 = (w.obtain (supply.source other)).1 := by
      refine obtain_supply_after acyclic present root apart ?_
      rintro p asked rfl member written
      exact (Option.ite_none_right_eq_some.1 written).2
    simp only [Operation.written, given]
  | define name supply =>
    have given : ((w.perform ((Operation.define name supply).on id)).2.obtain
        (supply.source other)).1 = (w.obtain (supply.source other)).1 := by
      refine obtain_supply_after acyclic present root apart ?_
      rintro p asked rfl member written
      obtain ⟨f, bound, rfl⟩ := Option.map_eq_some_iff.1 (Option.ite_none_right_eq_some.1 written).2
      exact Member.bind_callable?_eq_some_iff.1 bound
    simp only [Operation.written, given]
  | apply d candidate =>
    have same : (w.perform ((Operation.apply d candidate).on id)).2.resolve (candidate.of other) =
        w.resolve (candidate.of other) := by
      funext asked
      refine resolve_provider acyclic present root apart ?_
      rintro p rfl member written
      simp only [Operation.written] at written
      split at written
      · exact written
      · cases written
    simp only [Operation.written, same]

end Turns

/-- One holder of each kind, none of which delegates, all with the same members. -/
structure Counterparts (w : World) (holders : Kind → HolderId) : Prop where
  kind : ∀ k, w.kind? (holders k) = some k
  root : ∀ k, w.parent? (holders k) = none
  own : ∀ k l name, w.own? (holders k) name = w.own? (holders l) name

namespace Counterparts

variable {holders : Kind → HolderId}

/-- Each of the four exists. -/
theorem present (counterparts : Counterparts w holders) (k : Kind) :
    (w.holder? (holders k)).isSome = true := by
  have found := congrArg Option.isSome (counterparts.kind k)
  rwa [kind?, Option.isSome_map] at found

/-- A holder is of one kind. -/
theorem apart (counterparts : Counterparts w holders) {k l : Kind} (differ : k ≠ l) :
    holders k ≠ holders l := by
  intro same
  have kind := counterparts.kind k
  rw [same, counterparts.kind l] at kind
  exact differ (Option.some.inj kind).symm

/-- Without a link a name stands for an own member alone. -/
theorem resolve_eq (counterparts : Counterparts w holders) (acyclic : w.Acyclic) (k l : Kind) :
    w.resolve (holders k) = w.resolve (holders l) := by
  funext name
  rw [acyclic.resolve_eq_own_or, acyclic.resolve_eq_own_or, counterparts.root, counterparts.root,
    counterparts.own k l]

/-- Names are looked up alike, whether on the holder itself or on another one. -/
theorem resolve_provider_eq (counterparts : Counterparts w holders) (acyclic : w.Acyclic)
    (provider : Provider) (k l : Kind) :
    w.resolve (provider.of (holders k)) = w.resolve (provider.of (holders l)) := by
  cases provider with
  | itself => exact counterparts.resolve_eq acyclic k l
  | other p => rfl

/-- The same member is put on each of the four. -/
theorem obtain_supply_eq (counterparts : Counterparts w holders) (acyclic : w.Acyclic)
    (supply : Supply) (k l : Kind) :
    (w.obtain (supply.source (holders k))).1 = (w.obtain (supply.source (holders l))).1 := by
  cases supply with
  | data value => rfl
  | made identity => rfl
  | found provider name => exact congrFun (counterparts.resolve_provider_eq acyclic provider k l) name

/-- An operation writes the same on each of the four. -/
theorem written_eq (counterparts : Counterparts w holders) (acyclic : w.Acyclic)
    (operation : Operation) (k l : Kind) :
    operation.written w (holders k) = operation.written w (holders l) := by
  cases operation with
  | insert name supply =>
    simp only [Operation.written, counterparts.obtain_supply_eq acyclic supply k l]
  | define name supply =>
    simp only [Operation.written, counterparts.obtain_supply_eq acyclic supply k l]
  | apply d candidate =>
    simp only [Operation.written, counterparts.resolve_provider_eq acyclic candidate k l]

/-- What is done elsewhere leaves the four alone. -/
theorem perform_elsewhere (counterparts : Counterparts w holders) {action : Action}
    (elsewhere : ∀ k, action.target? ≠ some (holders k)) :
    Counterparts (w.perform action).2 holders := by
  have kept : ∀ k, (w.perform action).2.holder? (holders k) = w.holder? (holders k) :=
    fun k => holder?_perform_of_other (counterparts.present k) (elsewhere k)
  refine ⟨fun k => ?_, fun k => ?_, fun k l name => ?_⟩
  · rw [World.kind?, kept, ← World.kind?, counterparts.kind]
  · rw [parent?, kept, ← parent?, counterparts.root]
  · rw [own?, kept, own?, kept, ← own?, ← own?, counterparts.own k l]

end Counterparts

/-- An operation that is carried out on holders in turn writes on each of them what it would have
written there at first, and changes no other holder. -/
theorem operations_in_turn {holders : Kind → HolderId} (acyclic : w.Acyclic)
    (present : ∀ k, (w.holder? (holders k)).isSome = true) (root : ∀ k, w.parent? (holders k) = none)
    (apart : ∀ {k l}, k ≠ l → holders k ≠ holders l) (operation : Operation) {kinds : List Kind}
    (once : kinds.Nodup) :
    let after := w.run (kinds.map fun k => operation.on (holders k))
    (∀ id, after.parent? id = w.parent? id) ∧
      (∀ id, (∀ k ∈ kinds, id ≠ holders k) → ∀ name, after.own? id name = w.own? id name) ∧
      ∀ k ∈ kinds, ∀ name, after.own? (holders k) name =
        (operation.written w (holders k) name).or (w.own? (holders k) name) := by
  induction kinds generalizing w with
  | nil => exact ⟨fun _ => rfl, fun _ _ _ => rfl, by simp⟩
  | cons first later inductionHypothesis =>
    obtain ⟨fresh, onceLater⟩ := List.nodup_cons.1 once
    have writes := overwrites_of_operation (present first) operation
    obtain ⟨links, others, own⟩ := inductionHypothesis (writes.acyclic acyclic)
      (fun k => holder?_isSome_perform (present k) _) (fun k => (writes.links _).trans (root k))
      onceLater
    refine ⟨fun id => (links id).trans (writes.links id), fun id differs name => ?_,
      List.forall_mem_cons.2 ⟨fun name => ?_, fun k member name => ?_⟩⟩
    · obtain ⟨differsFirst, differsLater⟩ := List.forall_mem_cons.1 differs
      refine (others id differsLater name).trans ?_
      rw [writes.own, if_neg differsFirst]
    · have behind : ∀ k ∈ later, holders first ≠ holders k := fun k member =>
        apart fun same => fresh (same ▸ member)
      refine (others _ behind name).trans ?_
      rw [writes.own, if_pos rfl]
    · have differs : first ≠ k := fun same => fresh (same ▸ member)
      refine (own k member name).trans ?_
      rw [written_after acyclic (present first) (root k) (apart differs), writes.own,
        if_neg (Ne.symm (apart differs))]

namespace Counterparts

variable {holders : Kind → HolderId}

/-- After a round the four have the same members again. -/
theorem round (counterparts : Counterparts w holders) (acyclic : w.Acyclic) {round : Round}
    (elsewhere : ∀ action, round = .elsewhere action → ∀ k, action.target? ≠ some (holders k)) :
    Counterparts (w.run (round.actions holders)) holders := by
  cases round with
  | alike operation =>
    obtain ⟨links, -, own⟩ := operations_in_turn acyclic counterparts.present counterparts.root
      counterparts.apart operation Kind.nodup_all
    refine ⟨fun k => ?_, fun k => (links _).trans (counterparts.root k), fun k l name => ?_⟩
    · exact kind?_of_steps (w.run_steps _) (counterparts.kind k)
    · refine (own k k.mem_all name).trans (Eq.trans ?_ (own l l.mem_all name).symm)
      rw [counterparts.written_eq acyclic operation k l, counterparts.own k l]
  | elsewhere action => exact counterparts.perform_elsewhere (elsewhere action rfl)

/-- After any number of rounds the four have the same members. -/
theorem rounds (counterparts : Counterparts w holders) (reachable : w.Reachable)
    {rounds : List Round}
    (elsewhere : ∀ action, .elsewhere action ∈ rounds → ∀ k, action.target? ≠ some (holders k)) :
    Counterparts (w.run (rounds.flatMap (Round.actions holders))) holders := by
  induction rounds generalizing w with
  | nil => exact counterparts
  | cons first later inductionHypothesis =>
    rw [List.flatMap_cons, run_append]
    refine inductionHypothesis (counterparts.round reachable.wellLinked.acyclic ?_)
      (reachable.run _) fun action member => elsewhere action (List.mem_cons_of_mem _ member)
    rintro action rfl
    exact elsewhere action List.mem_cons_self

/-- Each of the four owns members under the same names. -/
theorem ownNames_eq (counterparts : Counterparts w holders) (k l : Kind) :
    w.ownNames (holders k) = w.ownNames (holders l) := by
  have own := counterparts.own k l
  obtain ⟨h, found⟩ := Option.isSome_iff_exists.1 (counterparts.present k)
  obtain ⟨g, foundOther⟩ := Option.isSome_iff_exists.1 (counterparts.present l)
  simp only [own?, found, foundOther, Option.bind_some] at own
  simp only [ownNames, found, foundOther, Holder.members_eq own]

/-- An operation gives the same answer on each of the four. -/
theorem outcome_eq (counterparts : Counterparts w holders) (acyclic : w.Acyclic)
    (operation : Operation) (k l : Kind) :
    (w.perform (operation.on (holders k))).1 = (w.perform (operation.on (holders l))).1 := by
  have given : ∀ supply : Supply,
      w.obtain (supply.source (holders k)) = w.obtain (supply.source (holders l)) := fun supply =>
    Prod.ext (counterparts.obtain_supply_eq acyclic supply k l)
      ((w.obtain_supply supply _).trans (w.obtain_supply supply _).symm)
  cases operation with
  | insert name supply =>
    have kept := w.obtain_supply supply (holders l)
    simp only [Operation.on, perform, given]
    split
    · rename_i member supplied obtained
      rw [obtained] at kept
      obtain rfl : supplied = w := kept
      simp only [set, counterparts.own k l]
    · rfl
  | define name supply =>
    simp only [Operation.on, perform, given]
    split <;> rfl
  | apply d candidate =>
    simp only [Operation.on, perform, apply, counterparts.resolve_provider_eq acyclic candidate k l]
    cases implementation (w.resolve (candidate.of (holders l))) d <;> rfl

end Counterparts

/-- A new holder of each kind. -/
def oneOfEach : List Action := Kind.all.map (.create · none)

/-- The holder of a kind among the new ones, which stand behind all others. -/
def newHolder (w : World) (kind : Kind) : HolderId := w.holders.size + Kind.all.idxOf kind

/-- Holders that are created without a prototype come to the end, in this order. -/
theorem holders_run_create (w : World) (kinds : List Kind) :
    (w.run (kinds.map (.create · none))).holders =
      w.holders ++ (kinds.map (Holder.blank none)).toArray := by
  induction kinds generalizing w with
  | nil => simp [run]
  | cons kind later inductionHypothesis =>
    change ((w.add (.blank none kind)).2.run (later.map (.create · none))).holders = _
    rw [inductionHypothesis, add]
    simp

/-- Each of the new holders is blank. -/
theorem holder?_oneOfEach (w : World) (kind : Kind) :
    (w.run oneOfEach).holder? (w.newHolder kind) = some (.blank none kind) := by
  rw [holder?, oneOfEach, holders_run_create, newHolder,
    Array.getElem?_append_right (Nat.le_add_right _ _), Nat.add_sub_cancel_left]
  cases kind <;> rfl

/-- New holders, one of each kind, are counterparts: none of them owns anything or delegates. -/
theorem counterparts_oneOfEach (w : World) : Counterparts (w.run oneOfEach) w.newHolder where
  kind k := by rw [kind?, holder?_oneOfEach, Option.map_some, Holder.kind_blank]
  root k := by rw [parent?, holder?_oneOfEach, Option.bind_some, Holder.parent?_blank, ite_self]
  own k l name := by
    rw [own?, own?, holder?_oneOfEach, holder?_oneOfEach, Option.bind_some, Option.bind_some,
      Holder.own?_blank, Holder.own?_blank]

/-- The kinds of holders are interchangeable. New holders, one of each kind, start with the same
members and delegate to nothing. Let one holder of each kind be given for which this is so, and
let any operations be carried out, each of them on all four, with anything in between that is not
done to them. Then each name stands for the same member on the four, they own members under the
same names, and they have the same diagnosis for every interface; each of them, applied to any
target, leads to the same world and the same answer; and whatever operation comes next gives the
same answer on each. An object can always be turned into a prototype, on which each name stands
for what it stands for on the object. -/
theorem kinds_are_interchangeable (reachable : w.Reachable) :
    Counterparts (w.run oneOfEach) w.newHolder ∧
    (∀ holders : Kind → HolderId, Counterparts w holders → ∀ rounds : List Round,
      (∀ action, .elsewhere action ∈ rounds → ∀ k, action.target? ≠ some (holders k)) →
      ∀ k l, ∀ after, after = w.run (rounds.flatMap (Round.actions holders)) →
        (∀ name, after.resolve (holders k) name = after.resolve (holders l) name) ∧
        after.ownNames (holders k) = after.ownNames (holders l) ∧
        (∀ d, diagnose (after.resolve (holders k)) d = diagnose (after.resolve (holders l)) d) ∧
        (∀ target d, after.perform (.apply target d (holders k)) =
          after.perform (.apply target d (holders l))) ∧
        ∀ operation : Operation, (after.perform (operation.on (holders k))).1 =
          (after.perform (operation.on (holders l))).1) ∧
    ∀ id, w.kind? id = some .object → ∃ copy after,
      w.perform (.copy .prototype id) = (.created copy, after) ∧
        after.kind? copy = some .prototype ∧
        ∀ name, after.resolve copy name = w.resolve id name := by
  refine ⟨w.counterparts_oneOfEach, ?_, ?_⟩
  · rintro holders counterparts rounds elsewhere k l after rfl
    have counterpartsAfter := counterparts.rounds reachable elsewhere
    have acyclicAfter := (reachable.run (rounds.flatMap (Round.actions holders))).wellLinked.acyclic
    have same := counterpartsAfter.resolve_eq acyclicAfter k l
    refine ⟨fun name => congrFun same name, counterpartsAfter.ownNames_eq k l, fun d => by rw [same],
      fun target d => ?_, fun operation => counterpartsAfter.outcome_eq acyclicAfter operation k l⟩
    simp only [perform, apply, same]
  · intro id object
    obtain ⟨h, found, kind⟩ := Option.map_eq_some_iff.1 object
    obtain ⟨copy, made⟩ := Holder.copyAs?_prototype kind
    have copied : w.perform (.copy .prototype id) = (.created w.holders.size, (w.add copy).2) := by
      simp only [perform, found, Option.bind_some, made]
      rfl
    refine ⟨_, _, copied, ?_, fun name => (reachable.wellLinked.resolve_copy copied name).2⟩
    rw [kind?_add, if_pos rfl, (Holder.eq_of_copyAs? made).1]

/-- A function of one parameter. -/
def unaryInterface : Interface := ⟨[⟨"f", ["x"]⟩], by decide⟩

/-- Each of four new holders gets data, and an object is created below the prototype. What it
inherits is no implementation, so giving it to the four fails. Then they get a function in the
place of the data, and in the end the implementation that the object inherits by now. -/
def overwriting : List Round :=
  [.alike (.insert "f" (.data (.boolean true))), .elsewhere (.create .object (some 3)),
    .alike (.apply unaryInterface (.other 4)), .elsewhere (.make 1 fun _ => .ok .null),
    .alike (.define "f" (.made 0)), .alike (.apply unaryInterface (.other 4))]

/-- In the end all of them conform and lead to one world if they are applied to the object below
the prototype; the object is turned into a prototype that has the function, too. -/
theorem function_overwrites_data_on_each_kind :
    Counterparts (empty.run oneOfEach) empty.newHolder ∧
      ∀ after, after = (empty.run oneOfEach).run
          (overwriting.flatMap (Round.actions empty.newHolder)) →
        (∀ k, conforms (after.resolve (empty.newHolder k)) unaryInterface = true) ∧
        (∀ k, after.perform (.apply 4 unaryInterface (empty.newHolder k)) =
          after.perform (.apply 4 unaryInterface 0)) ∧
        ∃ copy last, after.perform (.copy .prototype 2) = (.created copy, last) ∧
          last.resolve copy "f" = after.resolve 0 "f" := by
  have start := (kinds_are_interchangeable ⟨[], rfl⟩).1
  have reachable : (empty.run oneOfEach).Reachable := ⟨oneOfEach, rfl⟩
  have elsewhere : ∀ action, .elsewhere action ∈ overwriting →
      ∀ k, action.target? ≠ some (empty.newHolder k) := by
    intro action member k
    simp only [overwriting, List.mem_cons, reduceCtorEq, Round.elsewhere.injEq, List.not_mem_nil,
      false_or, or_false] at member
    rcases member with rfl | rfl <;> rintro ⟨⟩
  refine ⟨start, fun after same => ?_⟩
  have all := (kinds_are_interchangeable reachable).2.1 empty.newHolder start overwriting elsewhere
  refine ⟨fun k => ?_, fun k => ?_, ?_⟩
  · obtain ⟨-, -, diagnosed, -⟩ := all k .sortedMap after same
    rw [conforms, diagnosed]
    subst same
    decide +kernel
  · obtain ⟨-, -, -, applied, -⟩ := all k .sortedMap after same
    exact applied 4 unaryInterface
  · have reachableAfter := reachable.run (overwriting.flatMap (Round.actions empty.newHolder))
    rw [← same] at reachableAfter
    have object : after.kind? 2 = some .object :=
      same ▸ kind?_of_steps ((empty.run oneOfEach).run_steps _) (start.kind .object)
    obtain ⟨copy, last, copied, -, kept⟩ := (kinds_are_interchangeable reachableAfter).2.2 2 object
    obtain ⟨resolved, -⟩ := all .object .sortedMap after same
    exact ⟨copy, last, copied, (kept "f").trans (resolved "f")⟩

end World

end StructuralTyping
