import StructuralTyping.Proofs.Lookup
/-!
# Ancestors

A prototype is an ancestor of every holder whose chain contains it, so of itself, too. The
question is answered by walking the chain, and the walk ends because no chain returns. That
is also why two different holders are never ancestors of each other. Every holder delegates
to at most one prototype, so of two ancestors of one holder the closer one leads to the
other: ancestors form a forest, in which a chain goes from a holder to its root. A holder
that has just come into being is a leaf.
-/
set_option autoImplicit false

namespace StructuralTyping.World

open Relation

variable {w after : World} {id : HolderId}

/-- Of two holders that links lead to from a third one, links lead from one to the other. -/
theorem reached_or_reached {start first second : HolderId}
    (toFirst : ReflTransGen w.Delegates start first)
    (toSecond : ReflTransGen w.Delegates start second) :
    ReflTransGen w.Delegates first second ∨ ReflTransGen w.Delegates second first :=
  ReflTransGen.total_of_right_unique
    (fun _ _ _ link other => Option.some.inj (link.symm.trans other)) toFirst toSecond

/-- Holders that lead to each other are one. -/
theorem Acyclic.eq_of_reached (acyclic : w.Acyclic) {first second : HolderId}
    (there : ReflTransGen w.Delegates first second)
    (back : ReflTransGen w.Delegates second first) : first = second := by
  rcases reflTransGen_iff_eq_or_transGen.1 there with same | onward
  · exact same.symm
  · exact absurd (onward.trans_left back) (acyclic first)

/-- A holder that was created stands behind all others and delegates to what it may delegate
to, whether it is new or a copy. -/
theorem WellLinked.add_of_created (linked : w.WellLinked) {action : Action}
    (created : w.perform action = (.created id, after)) :
    ∃ h : Holder, w.mayDelegate h.kind h.parent? = true ∧ id = w.holders.size ∧
      after = (w.add h).2 := by
  cases action with
  | create kind parent =>
    simp only [perform] at created
    split at created <;> rename_i allowed <;> cases created
    exact ⟨.blank parent kind, mayDelegate_blank allowed, rfl, rfl⟩
  | copy kind source =>
    simp only [perform] at created
    split at created <;> rename_i made <;> cases created
    rename_i copy
    obtain ⟨h, found, copied⟩ := Option.bind_eq_some_iff.1 made
    exact ⟨copy, linked.mayDelegate_of_copyAs? found copied, rfl, rfl⟩
  | _ =>
    -- no other action answers with a holder
    simp only [perform] at created
    (repeat' split at created) <;> cases created

/-- Nobody else delegates to a holder that was created: links lead to what was there before. -/
theorem WellLinked.eq_of_reached_created (linked : w.WellLinked) {action : Action}
    (created : w.perform action = (.created id, after)) {other : HolderId}
    (reached : ReflTransGen after.Delegates other id) : other = id := by
  obtain ⟨h, allowed, rfl, rfl⟩ := linked.add_of_created created
  rcases reached.cases_tail with same | ⟨last, _, link⟩
  · exact same.symm
  · rw [Delegates, parent?_add] at link
    split at link
    · have prototype := (mayDelegate_some.1 (link ▸ allowed)).2
      rw [kind?_size] at prototype
      cases prototype
    · exact absurd link (linked.not_delegates_size last)

/-- In every reachable world the search for an ancestor decides whether one holder is the other
one or is led to from it by links, and the walk that it is ends with this answer. To be an
ancestor is a forest order: every holder is its own ancestor, the ancestors of an ancestor
are ancestors, two holders that are ancestors of each other are one, and of two ancestors of
a holder one is an ancestor of the other. A holder that has just been created is an ancestor
of no other. -/
theorem ancestry_is_a_forest_order (reachable : w.Reachable) :
    (∀ id other, w.chainContains id other = true ↔ other = id ∨ TransGen w.Delegates id other) ∧
      (∀ id other, ∃ asked, ∀ others result, w.Walk (meets other) id others result ↔
        others = asked ∧ result = if w.chainContains id other then some () else none) ∧
      (∀ id, w.chainContains id id = true) ∧
      (∀ a b c, w.chainContains a b = true → w.chainContains b c = true →
        w.chainContains a c = true) ∧
      (∀ a b, w.chainContains a b = true → w.chainContains b a = true → a = b) ∧
      (∀ a b c, w.chainContains a b = true → w.chainContains a c = true →
        w.chainContains b c = true ∨ w.chainContains c b = true) ∧
      ∀ action id after, w.perform action = (.created id, after) →
        ∀ other, after.chainContains other id = true → other = id := by
  have linked := reachable.wellLinked
  have acyclic := linked.acyclic
  have decides : ∀ {id other}, w.chainContains id other = true ↔
      ReflTransGen w.Delegates id other := acyclic.chainContains_iff
  refine ⟨fun id other => ?_, fun id other => ?_, fun id => ?_, fun a b c first second => ?_,
    fun a b there back => ?_, fun a b c first second => ?_, ?_⟩
  · rw [decides, reflTransGen_iff_eq_or_transGen]
  · obtain ⟨asked, -, only⟩ := linked.walk_iff (meets other) id
    rw [findSome?_meets] at only
    exact ⟨asked, only⟩
  · exact decides.2 ReflTransGen.refl
  · exact decides.2 ((decides.1 first).trans (decides.1 second))
  · exact acyclic.eq_of_reached (decides.1 there) (decides.1 back)
  · rcases reached_or_reached (decides.1 first) (decides.1 second) with onward | back
    · exact Or.inl (decides.2 onward)
    · exact Or.inr (decides.2 back)
  · intro action id after created other contained
    have linkedAfter := (reachable.perform action).wellLinked
    rw [created] at linkedAfter
    exact linked.eq_of_reached_created created (linkedAfter.acyclic.chainContains_iff.1 contained)

/-- Of three generations the first one is an ancestor of the last one, and not the other way
round; a prototype that is added below them is an ancestor of itself alone. -/
theorem generations_are_ordered :
    ((empty.run threeGenerations).chainContains 2 0 = true ∧
        (empty.run threeGenerations).chainContains 0 2 = false) ∧
      ((empty.run threeGenerations).chainContains 1 0 = true ∨
        (empty.run threeGenerations).chainContains 0 1 = true) ∧
      ∀ other, ((empty.run threeGenerations).perform
        (.create .prototype (some 2))).2.chainContains other 3 = true → other = 3 := by
  obtain ⟨_, _, _, _, antisymmetric, comparable, created⟩ :=
    ancestry_is_a_forest_order ⟨threeGenerations, rfl⟩
  have below : (empty.run threeGenerations).chainContains 2 0 = true := by decide
  have notAbove : (empty.run threeGenerations).chainContains 0 2 = false := by
    rw [← Bool.not_eq_true]
    intro above
    cases antisymmetric 2 0 below above
  exact ⟨⟨below, notAbove⟩, comparable 2 1 0 (by decide) below, created _ 3 _ (Prod.ext rfl rfl)⟩

end StructuralTyping.World
