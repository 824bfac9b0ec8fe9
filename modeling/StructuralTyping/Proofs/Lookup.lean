import StructuralTyping.Proofs.Acyclicity
/-!
# Walks along a chain

A walk asks the levels of a holder one after the other, closest first. It ends at the
first level that answers, or at the last one. Looking a name up is such a walk, and
so is the search for an ancestor. Nothing in a walk bounds its length. In a
reachable world every walk ends all the same: it meets no prototype twice, so it
asks at most as many as there are. Its answer is that of the closest level that has
one, which is what `resolve` and `chainContains` give.
-/
set_option autoImplicit false

namespace StructuralTyping.World

open Relation

variable {w : World} {α : Type}

/-- A walk from a holder: what each level answers, the levels that were asked, and the
answer in the end. -/
inductive Walk (w : World) (answer : HolderId → Option α) :
    HolderId → List HolderId → Option α → Prop where
  | answered {id : HolderId} {found : α} (given : answer id = some found) :
      Walk w answer id [id] (some found)
  | ended {id : HolderId} (silent : answer id = none) (root : w.parent? id = none) :
      Walk w answer id [id] none
  | passed {id parent : HolderId} {asked : List HolderId} {result : Option α}
      (silent : answer id = none) (link : w.parent? id = some parent)
      (rest : Walk w answer parent asked result) : Walk w answer id (id :: asked) result

/-- What ends the search for an ancestor. -/
def meets (other : HolderId) : HolderId → Option Unit :=
  fun level => if level = other then some () else none

/-- All prototypes of a world. -/
def prototypes (w : World) : List HolderId :=
  (List.range w.holders.size).filter fun id => w.kind? id = some .prototype

/-- A walk that asks no level twice, after its start only prototypes, and of these
at most as many as there are. -/
structure Brief (w : World) (id : HolderId) (asked : List HolderId) : Prop where
  once : asked.Nodup
  upward : ∀ level ∈ asked.tail, level ∈ w.prototypes
  links : asked.tail.length ≤ w.prototypes.length
  steps : w.kind? id = some .prototype → asked.length ≤ w.prototypes.length

/-- The prototypes of a world are the holders of that kind. -/
theorem mem_prototypes_iff {id : HolderId} :
    id ∈ w.prototypes ↔ w.kind? id = some .prototype := by
  simp only [prototypes, List.mem_filter, List.mem_range, decide_eq_true_eq, and_iff_right_iff_imp]
  intro prototype
  obtain ⟨h, found, _⟩ := Option.map_eq_some_iff.1 prototype
  exact (Array.getElem?_eq_some_iff.1 found).1

/-- The next level and the answer in the end are settled at every level. -/
theorem Walk.unique {answer : HolderId → Option α} {id : HolderId} {asked others : List HolderId}
    {result other : Option α} (first : w.Walk answer id asked result)
    (second : w.Walk answer id others other) : asked = others ∧ result = other := by
  induction first generalizing others with
  | answered given =>
    cases second with
    | answered again => exact ⟨rfl, given.symm.trans again⟩
    | ended silent _ => exact absurd (silent.symm.trans given) (by simp)
    | passed silent _ _ => exact absurd (silent.symm.trans given) (by simp)
  | ended silent root =>
    cases second with
    | answered given => exact absurd (silent.symm.trans given) (by simp)
    | ended _ _ => exact ⟨rfl, rfl⟩
    | passed _ link _ => exact absurd (root.symm.trans link) (by simp)
  | passed silent link _ inductionHypothesis =>
    cases second with
    | answered given => exact absurd (silent.symm.trans given) (by simp)
    | ended _ root => exact absurd (root.symm.trans link) (by simp)
    | passed _ onward rest =>
      have same := Option.some.inj (link.symm.trans onward)
      subst same
      obtain ⟨asked_eq, result_eq⟩ := inductionHypothesis rest
      exact ⟨by rw [asked_eq], result_eq⟩

/-- Where the levels come to an end a walk does, too: it asks the first of them, and
answers with the first that has an answer. -/
theorem Levels.walk {id : HolderId} {levels : List HolderId} (all : w.Levels id levels)
    (answer : HolderId → Option α) :
    ∃ asked, id :: asked <+: levels ∧ w.Walk answer id (id :: asked) (levels.findSome? answer) := by
  induction all with
  | @last id root =>
    refine ⟨[], List.prefix_rfl, ?_⟩
    cases given : answer id with
    | none => simpa [given] using Walk.ended given root
    | some found => simpa [given] using Walk.answered given
  | @link id parent above link _ inductionHypothesis =>
    cases given : answer id with
    | none =>
      obtain ⟨asked, inside, walk⟩ := inductionHypothesis
      refine ⟨parent :: asked, by simpa using inside, ?_⟩
      simpa [given] using Walk.passed given link walk
    | some found =>
      refine ⟨[], by simp, ?_⟩
      simpa [given] using Walk.answered given

/-- Every level after the first is a prototype. -/
theorem WellLinked.mem_prototypes_of_mem_tail (linked : w.WellLinked) {id level : HolderId}
    {levels : List HolderId} (all : w.Levels id levels) (above : level ∈ levels.tail) :
    level ∈ w.prototypes := by
  cases all with
  | last _ => cases above
  | link link rest =>
    have reached := rest.mem_iff.1 above
    exact mem_prototypes_iff.2 (linked.prototype_of_reached (linked.prototypes link) reached)

/-- A walk that follows the chain is brief. -/
theorem WellLinked.brief (linked : w.WellLinked) {id : HolderId} {asked : List HolderId}
    (inside : id :: asked <+: w.chain id) : w.Brief id (id :: asked) := by
  have once := (linked.acyclic.nodup_chain id).sublist inside.sublist
  have upward : ∀ level ∈ asked, level ∈ w.prototypes := by
    intro level member
    have all := linked.acyclic.levels_chain id
    refine linked.mem_prototypes_of_mem_tail all ?_
    obtain ⟨further, chain_eq⟩ := inside
    rw [← chain_eq]
    exact List.mem_append_left further member
  refine ⟨once, upward, (List.nodup_cons.1 once).2.length_le_of_subset upward, fun prototype => ?_⟩
  refine once.length_le_of_subset fun level member => ?_
  rcases List.mem_cons.1 member with here | above
  · exact here ▸ mem_prototypes_iff.2 prototype
  · exact upward level above

/-- From every holder there is one walk, it is brief, and its answer is that of the
first level of the chain that has one. -/
theorem WellLinked.walk_iff (linked : w.WellLinked) (answer : HolderId → Option α) (id : HolderId) :
    ∃ asked, w.Brief id asked ∧ ∀ others result,
      w.Walk answer id others result ↔ others = asked ∧ result = (w.chain id).findSome? answer := by
  obtain ⟨asked, inside, walk⟩ := (linked.acyclic.levels_chain id).walk answer
  refine ⟨id :: asked, linked.brief inside, fun others result => ?_⟩
  constructor
  · intro other
    exact other.unique walk
  · rintro ⟨rfl, rfl⟩
    exact walk

/-- The search for an ancestor is answered if the chain contains it. -/
theorem findSome?_meets (w : World) (id other : HolderId) :
    (w.chain id).findSome? (meets other) = if w.chainContains id other then some () else none := by
  by_cases met : other ∈ w.chain id
  · rw [if_pos ((w.chainContains_iff_mem_chain id other).2 met)]
    cases found : (w.chain id).findSome? (meets other) with
    | some answer => rfl
    | none =>
      have silent := List.findSome?_eq_none_iff.1 found other met
      simp [meets] at silent
  · rw [if_neg fun contained => met ((w.chainContains_iff_mem_chain id other).1 contained)]
    refine List.findSome?_eq_none_iff.2 fun level member => if_neg ?_
    rintro rfl
    exact met member

/-- In every reachable world a name stands for the member of the first level that owns
one, whatever member it is, and for nothing exactly if no level owns one. The walk
that looks the name up, and the one that searches for an ancestor, have no bound of
their own; each of them ends after it has asked no prototype twice, with the answer
that the holder gives. -/
theorem closest_owner_decides (reachable : w.Reachable) (id : HolderId) (name : String) :
    w.Levels id (w.chain id) ∧ (w.chain id).Nodup ∧
      (∀ member, w.resolve id name = some member ↔
        ∃ closer level further, w.chain id = closer ++ level :: further ∧
          w.own? level name = some member ∧ ∀ other ∈ closer, w.own? other name = none) ∧
      (w.resolve id name = none ↔ ∀ level ∈ w.chain id, w.own? level name = none) ∧
      (∃ asked, w.Brief id asked ∧ ∀ others result,
        w.Walk (w.own? · name) id others result ↔ others = asked ∧ result = w.resolve id name) ∧
      ∀ ancestor, ∃ asked, w.Brief id asked ∧ ∀ others result,
        w.Walk (meets ancestor) id others result ↔
          others = asked ∧ result = if w.chainContains id ancestor then some () else none := by
  have linked := reachable.wellLinked
  refine ⟨linked.acyclic.levels_chain id, linked.acyclic.nodup_chain id, ?_, ?_, ?_, ?_⟩
  · intro member
    rw [resolve_eq_findSome?, List.findSome?_eq_some_iff]
  · rw [resolve_eq_findSome?, List.findSome?_eq_none_iff]
  · simp only [resolve_eq_findSome?]
    exact linked.walk_iff (w.own? · name) id
  · intro ancestor
    simp only [← findSome?_meets]
    exact linked.walk_iff (meets ancestor) id

/-- Three generations and an object of the last one. The first owns a function that the
second one hides behind null. -/
def hiddenFunction : List Action :=
  threeGenerations ++ [.create .object (some 2),
    .set 0 "f" (.callable 2 fun _ => .ok .null), .set 1 "f" (.data .null)]

/-- The object finds the null, because it is closer than the function. -/
theorem null_hides_function :
    (empty.run hiddenFunction).Levels 3 [3, 2, 1, 0] ∧
      (empty.run hiddenFunction).resolve 3 "f" = some (.data .null) ∧
      (empty.run hiddenFunction).resolve 3 "g" = none := by
  obtain ⟨levels, _, found, _, _, _⟩ := closest_owner_decides ⟨hiddenFunction, rfl⟩ 3 "f"
  obtain ⟨_, _, _, missing, _, _⟩ := closest_owner_decides ⟨hiddenFunction, rfl⟩ 3 "g"
  exact ⟨levels, (found _).2 ⟨[3, 2], 1, [0], rfl, rfl, by decide⟩, missing.2 (by decide)⟩

end StructuralTyping.World
