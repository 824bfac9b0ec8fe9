import Mathlib.Data.List.Induction
import StructuralTyping.Proofs.Inheritance
import StructuralTyping.Proofs.Persistence
/-!
# Where callables come from

A callable comes into being by one action of a run, and its identity is its place among all
callables. From then on it is known under this identity, with its arity and its body, at every
moment of the run, and no other action creates a callable with this identity. Whatever moves a
member from one holder to another moves the callable as it is. So every callable that a holder
has was created by some action, and then put on a holder by that action or a later one; and two
callables with one identity are one callable, wherever and whenever they are met.
-/
set_option autoImplicit false

namespace StructuralTyping

/-- The arity and the body of the callable that a source creates, if it creates one. -/
def Source.creation? : Source → Option (Nat × Body)
  | .callable arity body => some (arity, body)
  | .data _ | .made _ | .resolved _ _ => none

/-- The arity and the body of the callable that an action creates, if it creates one. -/
def Action.creation? : Action → Option (Nat × Body)
  | .make arity body => some (arity, body)
  | .set _ _ source | .define _ _ source => source.creation?
  | .create _ _ | .copy _ _ | .remove _ _ | .relink _ _ | .apply _ _ _ => none

/-- Whether a source takes its member from no holder. -/
def Source.isDirect : Source → Bool
  | .data _ | .callable _ _ | .made _ => true
  | .resolved _ _ => false

namespace World

variable {w after : World} {id other : HolderId} {name : String} {f g : Callable}

/-- The callable that an action creates, if it creates one. -/
def created? (w : World) (action : Action) : Option Callable :=
  action.creation?.map fun kept => ⟨w.callables.size, kept.1, kept.2⟩

/-- The action creates the callable. -/
def Creates (f : Callable) (w : World) (action : Action) : Prop := w.created? action = some f

/-- The action puts a callable on a holder that it takes from no holder. -/
def Inserts (f : Callable) (w : World) (action : Action) : Prop :=
  ∃ id name source, (action = .set id name source ∨ action = .define id name source) ∧
    source.isDirect = true ∧ (w.obtain source).1 = some (.function f) ∧
    (w.perform action).2.own? id name = some (.function f)

/-- The world knows the callable under its identity. -/
def Known (w : World) (f : Callable) : Prop := w.callables[f.identity]? = some f

/-- Some holder owns the callable, or some name stands for it there. -/
def Holds (w : World) (f : Callable) : Prop :=
  ∃ id name, w.own? id name = some (.function f) ∨ w.resolve id name = some (.function f)

/-- What happens at a place of a run: the action there, in the world that it finds. -/
def OccursAt (actions : List Action) (place : Nat) (event : World → Action → Prop) : Prop :=
  ∃ action, actions[place]? = some action ∧ event (empty.run (actions.take place)) action

/-- Supplying a member creates what the source says. -/
theorem callables_obtain (w : World) (source : Source) :
    (w.obtain source).2.callables =
      w.callables ++ (source.creation?.map fun kept =>
        (⟨w.callables.size, kept.1, kept.2⟩ : Callable)).toArray := by
  cases source <;> simp [obtain, Source.creation?, newCallable]

/-- A source that gives no callable creates none. -/
theorem creation?_eq_none_of_obtain {source : Source}
    (missing : ∀ f, (w.obtain source).1 ≠ some (.function f)) : source.creation? = none := by
  cases source with
  | callable arity body => exact absurd rfl (missing _)
  | _ => rfl

/-- An action adds the callable that it creates to those that there are. -/
theorem callables_perform (w : World) (action : Action) :
    (w.perform action).2.callables = w.callables ++ (w.created? action).toArray := by
  cases action with
  | make arity body => simp [perform, newCallable, created?, Action.creation?]
  | set holder name source =>
    have supplied := w.callables_obtain source
    simp only [perform, created?, Action.creation?]
    split
    · rename_i obtained
      rwa [obtained] at supplied
    · rename_i obtained
      have nothing : source.creation? = none :=
        creation?_eq_none_of_obtain (w := w) fun f => by simp [obtained]
      simp [nothing]
  | define holder name source =>
    have supplied := w.callables_obtain source
    simp only [perform, created?, Action.creation?]
    split
    · rename_i obtained
      rwa [obtained] at supplied
    · rename_i notFunction
      have nothing : source.creation? = none :=
        creation?_eq_none_of_obtain fun f obtained =>
          notFunction f (w.obtain source).2 (Prod.ext obtained rfl)
      simp [nothing]
  | create kind parent =>
    simp only [perform]
    split <;> simp [add, created?, Action.creation?]
  | copy kind source =>
    simp only [perform]
    split <;> simp [add, created?, Action.creation?]
  | remove holder name =>
    simp only [perform]
    split <;> simp [remove, update, created?, Action.creation?]
  | relink holder parent =>
    simp only [created?, Action.creation?, Option.map_none, Option.toArray_none, Array.append_empty]
    rcases w.linked_or_refused holder parent with moved | kept
    · rw [moved, link, update]
    · rw [kept]
  | apply target d candidate =>
    simp only [created?, Action.creation?, Option.map_none, Option.toArray_none, Array.append_empty]
    cases found : implementation (w.resolve candidate) d with
    | ok callables => rw [perform_apply_of_ok found, callables_defineAll]
    | error rejection => rw [perform_apply_of_error found]

section Identity

/-- A callable that is created takes the next identity, under which it is known from then on. -/
theorem known_of_creates {action : Action} (creates : Creates f w action) :
    f.identity = w.callables.size ∧ (w.perform action).2.Known f := by
  have identity : f.identity = w.callables.size := by
    obtain ⟨kept, -, rfl⟩ := Option.map_eq_some_iff.1 creates
    rfl
  refine ⟨identity, ?_⟩
  rw [Known, callables_perform, creates, identity, Option.toArray_some,
    Array.getElem?_append_right (Nat.le_refl _), Nat.sub_self]
  rfl

/-- Whoever is known stays known. -/
theorem Known.run (known : w.Known f) (actions : List Action) : (w.run actions).Known f := by
  induction actions generalizing w with
  | nil => exact known
  | cons action later inductionHypothesis =>
    refine inductionHypothesis ?_
    obtain ⟨inside, -⟩ := Array.getElem?_eq_some_iff.1 known
    rw [Known, callables_perform, Array.getElem?_append_left inside]
    exact known

/-- An identity belongs to one callable. -/
theorem Known.eq_of_same (first : w.Known f) (second : w.Known g) (same : f.same g = true) :
    f = g := by
  have identity : f.identity = g.identity := of_decide_eq_true same
  rw [Known, identity] at first
  exact Option.some.inj (first.symm.trans second)

end Identity

section Places

variable {actions : List Action} {place : Nat} {event : World → Action → Prop}

/-- A place of a run cuts it in two. -/
theorem OccursAt.split (occurs : OccursAt actions place event) :
    ∃ before action later, actions = before ++ action :: later ∧ place = before.length ∧
      event (empty.run before) action := by
  obtain ⟨action, found, happened⟩ := occurs
  obtain ⟨inside, rfl⟩ := List.getElem?_eq_some_iff.1 found
  refine ⟨actions.take place, _, actions.drop (place + 1), ?_, ?_, happened⟩
  · rw [List.getElem_cons_drop, List.take_append_drop]
  · rw [List.length_take, Nat.min_eq_left (Nat.le_of_lt inside)]

/-- What happens between two parts of a run happens at the place where the first one ends. -/
theorem occursAt_between (before later : List Action) {action : Action}
    (happens : event (empty.run before) action) :
    OccursAt (before ++ action :: later) before.length event := by
  refine ⟨action, ?_, ?_⟩
  · rw [List.getElem?_append_right (Nat.le_refl _), Nat.sub_self, List.getElem?_cons_zero]
  · rwa [List.take_left]

/-- What has happened has happened, however the run goes on. -/
theorem occursAt_append (inside : place < actions.length) (later : List Action) :
    OccursAt (actions ++ later) place event ↔ OccursAt actions place event := by
  rw [OccursAt, OccursAt, List.getElem?_append_left inside,
    List.take_append_of_le_length (Nat.le_of_lt inside)]

/-- An event occurs at one of the actions. -/
theorem OccursAt.lt_length (occurs : OccursAt actions place event) : place < actions.length := by
  obtain ⟨action, found, -⟩ := occurs
  exact (List.getElem?_eq_some_iff.1 found).1

/-- An event that occurred did so whatever is done later. -/
theorem OccursAt.append (occurs : OccursAt actions place event) (later : List Action) :
    OccursAt (actions ++ later) place event :=
  (occursAt_append occurs.lt_length later).2 occurs

/-- A callable that some action of a run has created is known at the end. -/
theorem OccursAt.known (occurs : OccursAt actions place (Creates f)) :
    (empty.run actions).Known f := by
  obtain ⟨before, action, later, rfl, -, creates⟩ := occurs.split
  rw [run_append]
  exact (known_of_creates creates).2.run later

/-- A callable that is created later gets an identity that no earlier one has. -/
theorem OccursAt.identity_lt {further : Nat} (occurs : OccursAt actions place (Creates f))
    (behind : OccursAt actions further (Creates g)) (apart : place < further) :
    f.identity < g.identity := by
  obtain ⟨before, action, later, rfl, rfl, creates⟩ := behind.split
  have known := ((occursAt_append apart _).1 occurs).known
  rw [(known_of_creates creates).1]
  exact (Array.getElem?_eq_some_iff.1 known).1

/-- Every callable that there is was created by some action. -/
theorem exists_creation (member : f ∈ (empty.run actions).callables) :
    ∃ place, OccursAt actions place (Creates f) := by
  induction actions using List.reverseRecOn with
  | nil => simp [run, empty] at member
  | append_singleton before action inductionHypothesis =>
    rw [run_append] at member
    change f ∈ ((empty.run before).perform action).2.callables at member
    rw [callables_perform, Array.mem_append] at member
    rcases member with old | new
    · obtain ⟨place, occurs⟩ := inductionHypothesis old
      exact ⟨place, occurs.append [action]⟩
    · have creates : Creates f (empty.run before) action := by
        simpa [Creates] using new
      exact ⟨before.length, occursAt_between before [] creates⟩

end Places

section Members

/-- What a name stands for is owned at some level. -/
theorem Holds.owned (holds : w.Holds f) : ∃ id name, w.own? id name = some (.function f) := by
  obtain ⟨id, name, owned | resolved⟩ := holds
  · exact ⟨id, name, owned⟩
  · rw [resolve_eq_findSome?] at resolved
    obtain ⟨level, -, owned⟩ := List.exists_of_findSome?_eq_some resolved
    exact ⟨level, name, owned⟩

/-- A member that is set is either the one that was set, or it was there before. -/
theorem owned_of_set {supplied : World} {target : HolderId} {written : String} {member : Member}
    (same : supplied.holders = w.holders)
    (owned : (supplied.set target written member).2.own? id name = some (.function f)) :
    (w.own? id name = some (.function f)) ∨
      id = target ∧ name = written ∧ member = .function f := by
  rw [own?_set] at owned
  split at owned
  · rename_i here
    obtain ⟨-, -, rfl⟩ := Option.map_eq_some_iff.1 owned
    exact Or.inr ⟨here.1, here.2, rfl⟩
  · rw [own?, holder?, same] at owned
    exact Or.inl owned

/-- Callables that are owned after they were put under names are among them, or they were owned
before. -/
theorem owned_of_defineAll {target : HolderId} {callables : List (String × Callable)}
    (owned : (w.defineAll target callables).own? id name = some (.function f)) :
    w.own? id name = some (.function f) ∨ f ∈ callables.map Prod.snd := by
  induction callables generalizing w with
  | nil => exact Or.inl owned
  | cons first later inductionHypothesis =>
    rcases inductionHypothesis owned with before | among
    · rcases owned_of_set rfl before with kept | ⟨-, -, written⟩
      · exact Or.inl kept
      · exact Or.inr (Member.function.inj written ▸ List.mem_cons_self)
    · exact Or.inr (List.mem_cons_of_mem _ among)

/-- A callable of an implementation is what some name stands for on the candidate. -/
theorem exists_name_of_implements {candidate : Candidate} {signatures : List Signature}
    {callables : List (String × Callable)} (implements : Implements candidate signatures callables)
    (member : f ∈ callables.map Prod.snd) : ∃ name, candidate name = some (.function f) := by
  induction implements with
  | nil => simp at member
  | @cons s entry _ _ first _ inductionHypothesis =>
    rcases List.mem_cons.1 member with rfl | later
    · exact ⟨s.name, first.2.1⟩
    · exact inductionHypothesis later

/-- A callable that is owned after the member of a source was set was on some holder before, or
it is what the source gives, and no holder has given it. -/
theorem holds_or_supplied {source : Source} {target : HolderId} {written : String}
    {member : Member} {supplied : World} (obtained : w.obtain source = (some member, supplied))
    (owned : (supplied.set target written member).2.own? id name = some (.function f)) :
    w.Holds f ∨ id = target ∧ name = written ∧ source.isDirect = true ∧
      (w.obtain source).1 = some (.function f) := by
  have same := w.holders_obtain source
  rw [obtained] at same
  rcases owned_of_set same owned with kept | ⟨rfl, rfl, rfl⟩
  · exact Or.inl ⟨id, name, Or.inl kept⟩
  · have given := congrArg Prod.fst obtained
    cases source with
    | resolved holder asked => exact Or.inl ⟨holder, asked, Or.inr given⟩
    | _ => exact Or.inr ⟨rfl, rfl, rfl, given⟩

/-- A callable that a holder owns after an action was on some holder before, or the action has
put it there. -/
theorem holds_or_inserts {action : Action}
    (owned : (w.perform action).2.own? id name = some (.function f)) :
    w.Holds f ∨ Inserts f w action := by
  have before : ∀ {id name}, w.own? id name = some (.function f) → w.Holds f :=
    fun owned => ⟨_, _, Or.inl owned⟩
  cases action with
  | create kind parent =>
    simp only [perform] at owned
    split at owned
    · rw [own?_add, Holder.own?_blank] at owned
      split at owned
      · cases owned
      · exact Or.inl (before owned)
    · exact Or.inl (before owned)
  | copy kind source =>
    simp only [perform] at owned
    split at owned
    · rename_i h made
      rw [own?_add] at owned
      split at owned
      · obtain ⟨original, found, copied⟩ := Option.bind_eq_some_iff.1 made
        rw [(Holder.eq_of_copyAs? copied).2.1] at owned
        have owner : w.own? source name = some (.function f) := by rwa [own?, found]
        exact Or.inl (before owner)
      · exact Or.inl (before owned)
    · exact Or.inl (before owned)
  | make arity body => exact Or.inl (before owned)
  | set target written source =>
    have performed := owned
    simp only [perform] at owned
    split at owned
    · rename_i member supplied obtained
      rcases holds_or_supplied obtained owned with held | ⟨rfl, rfl, direct, given⟩
      · exact Or.inl held
      · exact Or.inr ⟨id, name, source, Or.inl rfl, direct, given, performed⟩
    · exact Or.inl (before owned)
  | define target written source =>
    have performed := owned
    simp only [perform] at owned
    split at owned
    · rename_i g supplied obtained
      rw [define_eq] at owned
      rcases holds_or_supplied obtained owned with held | ⟨rfl, rfl, direct, given⟩
      · exact Or.inl held
      · exact Or.inr ⟨id, name, source, Or.inr rfl, direct, given, performed⟩
    · exact Or.inl (before owned)
  | remove target written =>
    simp only [perform] at owned
    split at owned
    · rw [own?_remove] at owned
      split at owned
      · cases owned
      · exact Or.inl (before owned)
    · exact Or.inl (before owned)
  | relink target parent =>
    rw [own?_relink] at owned
    exact Or.inl (before owned)
  | apply target d candidate =>
    cases found : implementation (w.resolve candidate) d with
    | ok callables =>
      rw [perform_apply_of_ok found] at owned
      rcases owned_of_defineAll owned with kept | among
      · exact Or.inl (before kept)
      · obtain ⟨asked, resolved⟩ :=
          exists_name_of_implements (implements_of_implementation found) among
        exact Or.inl ⟨candidate, asked, Or.inr resolved⟩
    | error rejection =>
      rw [perform_apply_of_error found] at owned
      exact Or.inl (before owned)

/-- A callable that a holder has was put on some holder by an action that took it from none. -/
theorem exists_insertion {actions : List Action} (holds : (empty.run actions).Holds f) :
    ∃ place, OccursAt actions place (Inserts f) := by
  induction actions using List.reverseRecOn with
  | nil =>
    obtain ⟨id, name, owned⟩ := holds.owned
    simp [run, empty, own?, holder?] at owned
  | append_singleton before action inductionHypothesis =>
    obtain ⟨id, name, owned⟩ := holds.owned
    rw [run_append] at owned
    change ((empty.run before).perform action).2.own? id name = some (.function f) at owned
    rcases holds_or_inserts owned with held | inserts
    · obtain ⟨place, occurs⟩ := inductionHypothesis held
      exact ⟨place, occurs.append [action]⟩
    · exact ⟨before.length, occursAt_between before [] inserts⟩

/-- What is put on a holder was created by then. -/
theorem exists_creation_of_insertion {actions : List Action} {inserted : Nat}
    (occurs : OccursAt actions inserted (Inserts f)) :
    ∃ created ≤ inserted, OccursAt actions created (Creates f) := by
  obtain ⟨before, action, later, rfl, rfl, id, name, source, named, direct, given, -⟩ := occurs.split
  cases source with
  | data value => cases given
  | resolved holder asked => cases direct
  | callable arity body =>
    have creates : Creates f (empty.run before) action := by
      cases given
      rcases named with rfl | rfl <;> rfl
    exact ⟨before.length, Nat.le_refl _, occursAt_between before later creates⟩
  | made identity =>
    obtain ⟨g, found, same⟩ := Option.map_eq_some_iff.1 given
    obtain rfl := Member.function.inj same
    obtain ⟨created, creation⟩ := exists_creation (Array.mem_of_getElem? found)
    exact ⟨created, Nat.le_of_lt creation.lt_length, creation.append _⟩

/-- A callable that a holder has is known. -/
theorem Holds.known {actions : List Action} (holds : (empty.run actions).Holds f) :
    (empty.run actions).Known f := by
  obtain ⟨inserted, insertion⟩ := exists_insertion holds
  obtain ⟨created, -, creation⟩ := exists_creation_of_insertion insertion
  exact creation.known

end Members

/-- What a source gives is what a holder owns after it was set or defined there. -/
theorem own?_of_supplied (present : (w.holder? id).isSome = true) {source : Source}
    (given : (w.obtain source).1 = some (.function f)) {action : Action}
    (named : action = .set id name source ∨ action = .define id name source) :
    (w.perform action).2.own? id name = some (.function f) := by
  have writes := overwrites_of_set present given name
  have own : (w.perform (.set id name source)).2.own? id name = some (.function f) := by
    rw [writes.own, if_pos rfl, if_pos rfl, Option.some_or]
  rcases named with rfl | rfl
  · exact own
  · rwa [perform_define given]

/-- A callable settles by its number of parameters what a check of its name says. -/
theorem checked_by_arity {candidate : Candidate} {s : Signature}
    (found : candidate s.name = some (.function f)) :
    (Satisfies candidate s ↔ f.arity = s.arity) ∧
      ∀ {d : Interface}, s ∈ d.signatures → ∀ declared,
        (.incorrectParameterCount declared s ∈ (diagnose candidate d).reasons ↔
          f.arity ≠ s.arity ∧ declared = f.arity) := by
  constructor
  · rw [Satisfies, found]
    constructor
    · rintro ⟨g, same, arity⟩
      cases same
      exact arity
    · exact fun arity => ⟨f, rfl, arity⟩
  · intro d member declared
    rw [mem_reasons_iff_of_declared member rfl, found]
    by_cases arity : f.arity = s.arity
    · simp [objection?, inspect, Member.isAbsent, arity]
    · simp [objection?, inspect, Member.isAbsent, arity, eq_comm]

/-- Callables keep their identity. Whatever callable a holder has at the end of a run was created
by an action of the run, and put on a holder by this action or a later one that took it from no
holder. Wherever a member is set, defined, copied with its holder, inherited or applied, it is
the same callable as before. Two callables that holders have at the same or at different moments
of a run and that are the same by their identity have one arity and one body. Callables that two
actions of a run have created are never the same, whatever their arity and body. So if two names
stand for the same callable, on whichever holders and at whichever moments, then every check
against a number of parameters ends alike for both. -/
theorem callables_keep_their_identity :
    (∀ actions f, (empty.run actions).Holds f →
      ∃ created inserted, created ≤ inserted ∧ OccursAt actions created (Creates f) ∧
        OccursAt actions inserted (Inserts f)) ∧
    (∀ w : World, w.Reachable →
      (∀ id name source f, (w.holder? id).isSome = true →
        (w.obtain source).1 = some (.function f) →
        ∀ action, (action = .set id name source ∨ action = .define id name source) →
          (w.perform action).2.own? id name = some (.function f)) ∧
      (∀ kind source copy after, w.perform (.copy kind source) = (.created copy, after) →
        ∀ name, after.own? copy name = w.own? source name ∧
          after.resolve copy name = w.resolve source name) ∧
      (∀ id parent name, w.parent? id = some parent → w.own? id name = none →
        w.resolve id name = w.resolve parent name) ∧
      ∀ target candidate d after, (w.holder? target).isSome = true →
        w.perform (.apply target d candidate) = (.done, after) →
        ∀ name ∈ d.names, ∃ f, w.resolve candidate name = some (.function f) ∧
          after.own? target name = some (.function f)) ∧
    (∀ actions later f g, (empty.run actions).Holds f → (empty.run (actions ++ later)).Holds g →
      f.same g = true → f.arity = g.arity ∧ f.body = g.body) ∧
    (∀ actions place other f g, OccursAt actions place (Creates f) →
      OccursAt actions other (Creates g) → place ≠ other → f.same g = false) ∧
    ∀ actions later id other s t f g,
      (empty.run actions).resolve id s.name = some (.function f) →
      (empty.run (actions ++ later)).resolve other t.name = some (.function g) →
      f.same g = true → s.arity = t.arity →
      (Satisfies ((empty.run actions).resolve id) s ↔
        Satisfies ((empty.run (actions ++ later)).resolve other) t) ∧
      ∀ d e : Interface, s ∈ d.signatures → t ∈ e.signatures → ∀ declared,
        (.incorrectParameterCount declared s ∈
            (diagnose ((empty.run actions).resolve id) d).reasons ↔
          .incorrectParameterCount declared t ∈
            (diagnose ((empty.run (actions ++ later)).resolve other) e).reasons) := by
  have one : ∀ {actions later f g}, (empty.run actions).Holds f →
      (empty.run (actions ++ later)).Holds g → f.same g = true → f = g := by
    intro actions later f g first second same
    have known := first.known.run later
    rw [← run_append] at known
    exact known.eq_of_same second.known same
  refine ⟨fun actions f holds => ?_, fun w reachable => ⟨?_, ?_, ?_, ?_⟩, ?_, ?_, ?_⟩
  · obtain ⟨inserted, insertion⟩ := exists_insertion holds
    obtain ⟨created, before, creation⟩ := exists_creation_of_insertion insertion
    exact ⟨created, inserted, before, creation, insertion⟩
  · exact fun id name source f present given action named => own?_of_supplied present given named
  · exact fun kind source copy after copied => reachable.wellLinked.resolve_copy copied
  · intro id parent name link silent
    rw [reachable.wellLinked.acyclic.resolve_eq_own_or, silent, link, Option.none_or,
      Option.bind_some]
  · intro target candidate d after present applied name declared
    obtain ⟨satisfied, writes⟩ := overwrites_of_applied present applied
    obtain ⟨f, found⟩ := exists_function_of_mem_names satisfied declared
    exact ⟨f, found, by rw [writes.own, if_pos rfl, if_pos declared, found, Option.some_or]⟩
  · intro actions later f g first second same
    obtain rfl := one first second same
    exact ⟨rfl, rfl⟩
  · intro actions place other f g first second apart
    have differ : f.identity ≠ g.identity := by
      rcases Nat.lt_or_gt_of_ne apart with before | behind
      · exact Nat.ne_of_lt (first.identity_lt second before)
      · exact Nat.ne_of_gt (second.identity_lt first behind)
    exact decide_eq_false differ
  · intro actions later id other s t f g first second same arity
    obtain rfl := one ⟨id, s.name, Or.inr first⟩ ⟨other, t.name, Or.inr second⟩ same
    obtain ⟨satisfies, counted⟩ := checked_by_arity first
    obtain ⟨satisfiesOther, countedOther⟩ := checked_by_arity second
    refine ⟨by rw [satisfies, satisfiesOther, arity], fun d e declaredFirst declaredSecond n => ?_⟩
    rw [counted declaredFirst, countedOther declaredSecond, arity]

/-- A function of a prototype that an object inherits and that a map gets under another name; and
a second function, created with the same body for the object, which becomes a prototype. -/
def sharedFunctions : List Action :=
  [.create .prototype none, .set 0 "f" (.callable 2 fun _ => .ok .null),
    .create .object (some 0), .set 1 "g" (.callable 2 fun _ => .ok .null),
    .create .sortedMap none, .set 2 "h" (.resolved 1 "f"), .copy .prototype 1]

/-- The map has the function that was created for the first prototype, so both pass the same
checks. The function of the copied object is another one, although it is declared and defined
alike. -/
theorem copied_function_is_told_from_its_like :
    ∃ f g, (empty.run sharedFunctions).resolve 2 "h" = some (.function f) ∧
      (empty.run sharedFunctions).resolve 3 "g" = some (.function g) ∧
      f.arity = g.arity ∧ f.body = g.body ∧ f.same g = false ∧
      (∃ created inserted, created ≤ inserted ∧ OccursAt sharedFunctions created (Creates f) ∧
        OccursAt sharedFunctions inserted (Inserts f)) ∧
      (Satisfies ((empty.run sharedFunctions).resolve 2) ⟨"h", ["x", "y"]⟩ ↔
        Satisfies ((empty.run sharedFunctions).resolve 3) ⟨"f", ["first", "second"]⟩) := by
  obtain ⟨origin, _, _, separate, alike⟩ := callables_keep_their_identity
  refine ⟨⟨0, 2, fun _ => .ok .null⟩, ⟨1, 2, fun _ => .ok .null⟩, rfl, rfl, rfl, rfl, ?_, ?_, ?_⟩
  · exact separate sharedFunctions 1 3 _ _ ⟨_, rfl, rfl⟩ ⟨_, rfl, rfl⟩ (by decide)
  · exact origin sharedFunctions _ ⟨2, "h", Or.inr rfl⟩
  · exact (alike sharedFunctions [] 2 3 ⟨"h", ["x", "y"]⟩ ⟨"f", ["first", "second"]⟩
      ⟨0, 2, fun _ => .ok .null⟩ ⟨0, 2, fun _ => .ok .null⟩ rfl rfl rfl rfl).1

end World

end StructuralTyping
