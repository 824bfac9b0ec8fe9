import StructuralTyping.Proofs.Application
/-!
# Who sees a write

A member that is written on a prototype shows on every holder whose chain leads there,
unless a closer level owns the name: the prototype is exposed under that name. A
holder to which it is not exposed resolves as before, and so does every holder under
every other name. Applying an implementation is such a write under several names at
once. Where the target lies on the chain of the candidate, what it exposes is what the
candidate resolved already, so no candidate is disturbed by being applied; and where
both are one holder, nobody is.
-/
set_option autoImplicit false

namespace StructuralTyping.World

variable {w after : World}

/-- A level is in the chain of a holder, and no closer level owns the name. -/
def Exposed (w : World) (id level : HolderId) (name : String) : Prop :=
  ∃ closer further, w.Levels id (closer ++ level :: further) ∧
    ∀ other ∈ closer, w.own? other name = none

/-- A change that puts members on one holder: what is written under a name replaces what
the holder owned there. No link is moved, and no other member is touched. -/
structure Overwrites (w after : World) (target : HolderId) (written : String → Option Member) :
    Prop where
  size : after.holders.size = w.holders.size
  links : ∀ id, after.parent? id = w.parent? id
  own : ∀ id name, after.own? id name =
    if id = target then (written name).or (w.own? id name) else w.own? id name

/-- Levels that keep their links stay the levels of their holder. -/
theorem Levels.of_kept_links {id : HolderId} {levels : List HolderId} (all : w.Levels id levels)
    (kept : ∀ level ∈ levels, after.parent? level = w.parent? level) :
    after.Levels id levels := by
  induction all with
  | last root => exact Levels.last ((kept _ List.mem_cons_self).trans root)
  | link link _ inductionHypothesis =>
    obtain ⟨first, later⟩ := List.forall_mem_cons.1 kept
    exact Levels.link (first.trans link) (inductionHypothesis later)

/-- Levels follow links. -/
theorem Levels.of_same_links {id : HolderId} {levels : List HolderId} (all : w.Levels id levels)
    (links : ∀ other, after.parent? other = w.parent? other) : after.Levels id levels :=
  all.of_kept_links fun level _ => links level

/-- The levels from some level on are the levels of that level. -/
theorem Levels.from_level {id level : HolderId} {closer further : List HolderId}
    (all : w.Levels id (closer ++ level :: further)) : w.Levels level (level :: further) := by
  induction closer generalizing id with
  | nil =>
    cases all with
    | last root => exact Levels.last root
    | link link rest => exact Levels.link link rest
  | cons first later inductionHypothesis =>
    rw [List.cons_append] at all
    generalize remaining : later ++ level :: further = above at all
    cases all with
    | last _ => simp at remaining
    | link _ rest => exact inductionHypothesis (remaining ▸ rest)

/-- A name stands for the member of the first of the levels that owns one. -/
theorem Acyclic.resolve_eq (acyclic : w.Acyclic) {id : HolderId} {levels : List HolderId}
    (all : w.Levels id levels) (name : String) :
    w.resolve id name = levels.findSome? (w.own? · name) := by
  rw [resolve_eq_findSome?, acyclic.chain_eq all]

/-- Levels of which one owns a name have a first one that does. -/
theorem exists_of_owned {levels : List HolderId} {name : String}
    (owned : ∃ level ∈ levels, w.own? level name ≠ none) :
    ∃ member, levels.findSome? (w.own? · name) = some member := by
  obtain ⟨level, among, owns⟩ := owned
  have answered : (levels.findSome? (w.own? · name)).isSome = true :=
    List.findSome?_isSome_iff.2 ⟨level, among, Option.isSome_iff_ne_none.2 owns⟩
  exact Option.isSome_iff_exists.1 answered

/-- Levels that own what they owned before answer as before. -/
theorem findSome?_of_kept_members {levels : List HolderId} {name : String}
    (kept : ∀ level ∈ levels, after.own? level name = w.own? level name) :
    levels.findSome? (after.own? · name) = levels.findSome? (w.own? · name) := by
  rw [← List.head?_filterMap, ← List.head?_filterMap, List.filterMap_congr kept]

/-- A holder resolves as before if its levels are the same as before and own what they owned. -/
theorem Acyclic.resolve_of_kept (acyclic : w.Acyclic) (acyclicAfter : after.Acyclic)
    {id : HolderId} (same : after.Levels id (w.chain id)) {name : String}
    (kept : ∀ level ∈ w.chain id, after.own? level name = w.own? level name) :
    after.resolve id name = w.resolve id name := by
  rw [acyclicAfter.resolve_eq same, acyclic.resolve_eq (acyclic.levels_chain id),
    findSome?_of_kept_members kept]

/-- Under a name that a level is exposed with, a holder resolves like the level. -/
theorem Exposed.resolve_eq (acyclic : w.Acyclic) {id level : HolderId} {name : String}
    (exposed : w.Exposed id level name) : w.resolve id name = w.resolve level name := by
  obtain ⟨closer, further, all, silent⟩ := exposed
  rw [acyclic.resolve_eq all, acyclic.resolve_eq all.from_level, List.findSome?_append,
    List.findSome?_eq_none_iff.2 silent, Option.none_or]

/-- Without a cycle a level stands in one place among the levels of a holder. -/
theorem Acyclic.level_once (acyclic : w.Acyclic) {id level : HolderId}
    {closer further : List HolderId} (all : w.Levels id (closer ++ level :: further)) :
    level ∉ closer ∧ level ∉ further := by
  have once := acyclic.nodup_chain id
  rw [acyclic.chain_eq all, List.nodup_append, List.nodup_cons] at once
  obtain ⟨_, ⟨behind, _⟩, apart⟩ := once
  exact ⟨fun member => apart level member level List.mem_cons_self rfl, behind⟩

/-- Whether a level is exposed is settled by the closer ones. -/
theorem Acyclic.exposed_iff (acyclic : w.Acyclic) {id level : HolderId}
    {closer further : List HolderId} (all : w.Levels id (closer ++ level :: further))
    (name : String) :
    w.Exposed id level name ↔ ∀ other ∈ closer, w.own? other name = none := by
  constructor
  · rintro ⟨before, behind, split, silent⟩
    have once := acyclic.level_once split
    obtain ⟨rfl, _⟩ :=
      (List.append_cons_inj_of_notMem once.1 once.2).1 (split.unique all)
    exact silent
  · intro silent
    exact ⟨closer, further, all, silent⟩

namespace Overwrites

variable {target : HolderId} {written : String → Option Member}

/-- No link is moved, so none closes a cycle. -/
theorem acyclic (overwrites : Overwrites w after target written) (acyclic : w.Acyclic) :
    after.Acyclic := by
  rwa [Acyclic, delegates_eq_of_same_links overwrites.links]

/-- What is written shows on every holder that the target is exposed to. -/
theorem resolve_of_exposed (overwrites : Overwrites w after target written) (acyclic : w.Acyclic)
    {id : HolderId} {name : String} {member : Member} (given : written name = some member)
    (exposed : w.Exposed id target name) : after.resolve id name = some member := by
  obtain ⟨closer, further, all, silent⟩ := exposed
  have fresh := (acyclic.level_once all).1
  rw [(overwrites.acyclic acyclic).resolve_eq (all.of_same_links overwrites.links),
    List.findSome?_eq_some_iff]
  refine ⟨closer, target, further, rfl, ?_, fun other member => ?_⟩
  · rw [overwrites.own, if_pos rfl, given, Option.some_or]
  · have differs : other ≠ target := fun same => fresh (same ▸ member)
    rw [overwrites.own, if_neg differs, silent other member]

/-- Under a name that is not written every holder resolves as before. -/
theorem resolve_of_unwritten (overwrites : Overwrites w after target written)
    (acyclic : w.Acyclic) (id : HolderId) {name : String} (unwritten : written name = none) :
    after.resolve id name = w.resolve id name := by
  have same := (acyclic.levels_chain id).of_same_links overwrites.links
  refine acyclic.resolve_of_kept (overwrites.acyclic acyclic) same fun level _ => ?_
  rw [overwrites.own, unwritten, Option.none_or, ite_self]

/-- Levels other than the target own what they owned. -/
theorem own_of_absent (overwrites : Overwrites w after target written) {levels : List HolderId}
    (absent : target ∉ levels) (name : String) :
    ∀ level ∈ levels, after.own? level name = w.own? level name := by
  intro level member
  have differs : level ≠ target := fun same => absent (same ▸ member)
  rw [overwrites.own, if_neg differs]

/-- A holder that the target is not exposed to resolves as before: either its chain does
not lead there, or a closer owner answers before and after. -/
theorem resolve_of_hidden (overwrites : Overwrites w after target written) (acyclic : w.Acyclic)
    {id : HolderId} {name : String} (hidden : ¬w.Exposed id target name) :
    after.resolve id name = w.resolve id name := by
  have all := acyclic.levels_chain id
  have same := all.of_same_links overwrites.links
  by_cases met : target ∈ w.chain id
  · obtain ⟨closer, further, split⟩ := List.append_of_mem met
    rw [split] at all same
    rw [acyclic.exposed_iff all] at hidden
    push Not at hidden
    obtain ⟨member, found⟩ := exists_of_owned hidden
    have kept := overwrites.own_of_absent (acyclic.level_once all).1 name
    rw [(overwrites.acyclic acyclic).resolve_eq same, acyclic.resolve_eq all,
      List.findSome?_append, List.findSome?_append, findSome?_of_kept_members kept, found,
      Option.some_or, Option.some_or]
  · exact acyclic.resolve_of_kept (overwrites.acyclic acyclic) same
      (overwrites.own_of_absent met name)

/-- What a holder resolves already does not show on it when it is written once more. -/
theorem resolve_of_same (overwrites : Overwrites w after target written) (acyclic : w.Acyclic)
    {id : HolderId} {name : String}
    (same : ∀ member, written name = some member → w.resolve id name = some member) :
    after.resolve id name = w.resolve id name := by
  cases given : written name with
  | none => exact overwrites.resolve_of_unwritten acyclic id given
  | some member =>
    by_cases exposed : w.Exposed id target name
    · rw [overwrites.resolve_of_exposed acyclic given exposed, same member given]
    · exact overwrites.resolve_of_hidden acyclic exposed

end Overwrites

/-- Setting a member is a write under one name. -/
theorem overwrites_set {target : HolderId} (present : (w.holder? target).isSome = true)
    (name : String) (member : Member) :
    Overwrites w (w.set target name member).2 target
      fun asked => if asked = name then some member else none where
  size := size_update w target _
  links other := w.parent?_set target other name member
  own id asked := by
    obtain ⟨h, found⟩ := Option.isSome_iff_exists.1 present
    rw [own?_set, found]
    by_cases here : id = target <;> by_cases same : asked = name <;> simp [here, same]

/-- An implementation is written under the declared names. -/
theorem overwrites_defineAll {target : HolderId} (present : (w.holder? target).isSome = true)
    {callables : List (String × Callable)} (distinct : (callables.map Prod.fst).Nodup) :
    Overwrites w (w.defineAll target callables) target
      fun asked => (callables.lookup asked).map .function where
  size := w.size_defineAll target callables
  links other := w.parent?_defineAll target other callables
  own := own?_defineAll present distinct

/-- A callable that is created for a member changes no holder. -/
theorem holders_obtain (w : World) (source : Source) :
    (w.obtain source).2.holders = w.holders := by
  cases source <;> rfl

/-- Only holders are written. -/
theorem Overwrites.of_same_holders {before : World} (same : before.holders = w.holders)
    {target : HolderId} {written : String → Option Member}
    (overwrites : Overwrites before after target written) : Overwrites w after target written := by
  have holder : ∀ id, before.holder? id = w.holder? id := fun id => by
    rw [holder?, same, holder?]
  refine ⟨overwrites.size.trans (congrArg Array.size same), fun id => ?_, fun id name => ?_⟩
  · rw [overwrites.links, parent?, holder, parent?]
  · rw [overwrites.own, own?, holder, own?]

/-- Setting what a source gives is a write of that member. -/
theorem overwrites_of_set {target : HolderId} (present : (w.holder? target).isSome = true)
    {source : Source} {member : Member} (given : (w.obtain source).1 = some member)
    (name : String) :
    Overwrites w (w.perform (.set target name source)).2 target
      fun asked => if asked = name then some member else none := by
  have holders := w.holders_obtain source
  cases obtained : w.obtain source with
  | mk found supplied =>
    simp only [obtained] at given holders
    have performed :
        (w.perform (.set target name source)).2 = (supplied.set target name member).2 := by
      simp only [perform, obtained, given]
    rw [performed]
    refine Overwrites.of_same_holders holders (overwrites_set ?_ name member)
    rwa [holder?, holders]

/-- Defining a callable is setting it. -/
theorem perform_define {target : HolderId} {source : Source} {f : Callable}
    (given : (w.obtain source).1 = some (.function f)) (name : String) :
    (w.perform (.define target name source)).2 = (w.perform (.set target name source)).2 := by
  cases obtained : w.obtain source with
  | mk found supplied =>
    simp only [obtained] at given
    simp only [perform, obtained, given, define_eq]

/-- What is written when an implementation is applied: the declared names get what they
stood for on the candidate, all of them callables as declared. -/
theorem overwrites_of_applied {target candidate : HolderId} {d : Interface}
    (present : (w.holder? target).isSome = true)
    (applied : w.perform (.apply target d candidate) = (.done, after)) :
    (∀ s ∈ d.signatures, Satisfies (w.resolve candidate) s) ∧
      Overwrites w after target
        fun name => if name ∈ d.names then w.resolve candidate name else none := by
  simp only [perform, apply_eq] at applied
  by_cases clean : (diagnose (w.resolve candidate) d).reasons = []
  · rw [if_pos clean] at applied
    have implements := implements_survey (diagnose_reasons _ d ▸ clean)
    have distinct := implements.names ▸ d.distinct
    have writes := overwrites_defineAll present distinct
    obtain rfl : w.defineAll target (survey (w.resolve candidate) d.signatures).1 = after :=
      (Prod.mk.inj applied).2
    refine ⟨implements.satisfies, writes.size, writes.links, fun id name => ?_⟩
    rw [writes.own, implements.lookup, Interface.names]
  · rw [if_neg clean] at applied
    cases applied

/-- Writing a member changes what a name stands for on exactly those holders that the
target is exposed to under this name, and there it is the new member; all else resolves
as before. Defining a callable is setting it. So in the world right after an
implementation was applied, every holder in whose chain no level closer than the target
owns a declared name conforms, and every holder whose chain does not lead to the target
resolves as before. -/
theorem exposed_holders_see_a_write (reachable : w.Reachable) {target : HolderId}
    (present : (w.holder? target).isSome = true) :
    (∀ name source member, (w.obtain source).1 = some member →
      (∀ id, w.Exposed id target name →
        (w.perform (.set target name source)).2.resolve id name = some member) ∧
      (∀ id asked, ¬(asked = name ∧ w.Exposed id target name) →
        (w.perform (.set target name source)).2.resolve id asked = w.resolve id asked) ∧
      ∀ f, member = .function f →
        (w.perform (.define target name source)).2 = (w.perform (.set target name source)).2) ∧
    ∀ d candidate after, w.perform (.apply target d candidate) = (.done, after) →
      (∀ id closer further, after.Levels id (closer ++ target :: further) →
        (∀ level ∈ closer, ∀ name ∈ d.names, after.own? level name = none) →
        conforms (after.resolve id) d = true) ∧
      ∀ id levels, after.Levels id levels → target ∉ levels →
        ∀ name, after.resolve id name = w.resolve id name := by
  have acyclic := reachable.wellLinked.acyclic
  constructor
  · intro name source member given
    have writes := overwrites_of_set present given name
    refine ⟨fun id exposed => ?_, fun id asked other => ?_, fun f callable => ?_⟩
    · exact writes.resolve_of_exposed acyclic (if_pos rfl) exposed
    · by_cases same : asked = name
      · exact writes.resolve_of_hidden acyclic fun exposed => other ⟨same, same ▸ exposed⟩
      · exact writes.resolve_of_unwritten acyclic id (if_neg same)
    · exact perform_define (callable ▸ given) name
  · intro d candidate after applied
    obtain ⟨satisfied, writes⟩ := overwrites_of_applied present applied
    have acyclicAfter := writes.acyclic acyclic
    constructor
    · intro id closer further all silent
      refine (conforms_iff_satisfies _ d).2 fun s member => ?_
      have declared : s.name ∈ d.names := List.mem_map_of_mem member
      obtain ⟨f, found, arity⟩ := satisfied s member
      have exposed : after.Exposed id target s.name :=
        ⟨closer, further, all, fun level closerLevel => silent level closerLevel _ declared⟩
      refine ⟨f, ?_, arity⟩
      rw [exposed.resolve_eq acyclicAfter]
      apply resolve_of_own
      rw [writes.own, if_pos rfl, if_pos declared, found, Option.some_or]
    · intro id levels all apart name
      refine writes.resolve_of_hidden acyclic fun exposed => apart ?_
      obtain ⟨closer, further, split, _⟩ := exposed
      rw [all.unique (split.of_same_links writes.links)]
      simp

/-- A prototype with a function, one below it that owns another function, and an object of
each. -/
def family : List Action :=
  inheritingPair ++ [.create .object (some 0), .create .object (some 1)]

/-- Data that is set on the upper prototype shows on its object, but not below the lower
prototype, which owns the name. What the lower one provides is applied to the upper one,
and then the object of the upper one conforms. -/
theorem upper_object_sees_writes :
    ((empty.run family).perform (.set 0 "g" (.data .null))).2.resolve 2 "g" = some (.data .null) ∧
      ((empty.run family).perform (.set 0 "g" (.data .null))).2.resolve 3 "g" =
        (empty.run family).resolve 3 "g" ∧
      conforms (((empty.run family).perform (.apply 0 pairedInterface 1)).2.resolve 2)
        pairedInterface = true := by
  have reachable : (empty.run family).Reachable := ⟨family, rfl⟩
  have upper : (empty.run family).Levels 2 ([2] ++ 0 :: []) := Levels.link rfl (Levels.last rfl)
  have lower : (empty.run family).Levels 3 ([3, 1] ++ 0 :: []) :=
    Levels.link rfl (Levels.link rfl (Levels.last rfl))
  have present : ((empty.run family).holder? 0).isSome = true := rfl
  obtain ⟨written, applied⟩ := exposed_holders_see_a_write reachable present
  obtain ⟨shown, kept, _⟩ := written "g" (.data .null) (.data .null) rfl
  obtain ⟨conforming, _⟩ := applied pairedInterface 1 _ (Prod.ext rfl rfl)
  refine ⟨shown 2 ⟨[2], [], upper, ?_⟩, kept 3 "g" ?_, conforming 2 [2] [] ?_ ?_⟩
  · decide
  · rw [reachable.wellLinked.acyclic.exposed_iff lower]
    decide
  · exact Levels.link rfl (Levels.last rfl)
  · decide

/-- Applying an implementation does not disturb the candidate, wherever the target is: every
name, declared or not, stands on it for the same member as before. A write that shows on
the candidate puts there what the candidate resolved. If target and candidate are one
holder, every holder resolves every name as before. -/
theorem applying_keeps_the_candidate (reachable : w.Reachable) {target candidate : HolderId}
    {d : Interface} (present : (w.holder? target).isSome = true)
    (applied : w.perform (.apply target d candidate) = (.done, after)) :
    (∀ name, after.resolve candidate name = w.resolve candidate name) ∧
      (target = candidate → ∀ id name, after.resolve id name = w.resolve id name) := by
  have acyclic := reachable.wellLinked.acyclic
  obtain ⟨satisfied, writes⟩ := overwrites_of_applied present applied
  -- what shows where the target is exposed is what the name stood for on the candidate
  have shown : ∀ id name, w.Exposed id target name → name ∈ d.names →
      after.resolve id name = w.resolve candidate name := by
    intro id name exposed declared
    obtain ⟨f, found⟩ := exists_function_of_mem_names satisfied declared
    rw [found]
    exact writes.resolve_of_exposed acyclic ((if_pos declared).trans found) exposed
  have kept : ∀ id name, ¬(w.Exposed id target name ∧ name ∈ d.names) →
      after.resolve id name = w.resolve id name := by
    intro id name other
    by_cases declared : name ∈ d.names
    · exact writes.resolve_of_hidden acyclic fun exposed => other ⟨exposed, declared⟩
    · exact writes.resolve_of_unwritten acyclic id (if_neg declared)
  constructor
  · intro name
    by_cases both : w.Exposed candidate target name ∧ name ∈ d.names
    · exact shown candidate name both.1 both.2
    · exact kept candidate name both
  · rintro rfl id name
    by_cases both : w.Exposed id target name ∧ name ∈ d.names
    · rw [shown id name both.1 both.2, both.1.resolve_eq acyclic]
    · exact kept id name both

/-- What the lower prototype provides is applied to the upper one, from which it inherits,
and then to itself, which gives it an own copy of the inherited function. Nothing is
resolved differently on it, or by the second step on its object. -/
theorem lower_prototype_keeps_its_members :
    (∀ name, ((empty.run family).perform (.apply 0 pairedInterface 1)).2.resolve 1 name =
        (empty.run family).resolve 1 name) ∧
      (empty.run family).own? 1 "f" = none ∧
      ((empty.run family).perform (.apply 1 pairedInterface 1)).2.hasOwn 1 "f" = true ∧
      ∀ name, ((empty.run family).perform (.apply 1 pairedInterface 1)).2.resolve 3 name =
        (empty.run family).resolve 3 name := by
  have reachable : (empty.run family).Reachable := ⟨family, rfl⟩
  have upper : ((empty.run family).holder? 0).isSome = true := rfl
  have lower : ((empty.run family).holder? 1).isSome = true := rfl
  have above : (empty.run family).perform (.apply 0 pairedInterface 1) =
      (.done, ((empty.run family).perform (.apply 0 pairedInterface 1)).2) := Prod.ext rfl rfl
  have itself : (empty.run family).perform (.apply 1 pairedInterface 1) =
      (.done, ((empty.run family).perform (.apply 1 pairedInterface 1)).2) := Prod.ext rfl rfl
  obtain ⟨kept, _⟩ := applying_keeps_the_candidate reachable upper above
  obtain ⟨_, unchanged⟩ := applying_keeps_the_candidate reachable lower itself
  exact ⟨kept, by decide, by decide, unchanged rfl 3⟩

end StructuralTyping.World
