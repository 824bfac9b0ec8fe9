import Mathlib.Logic.Relation
import StructuralTyping.World.Action
import StructuralTyping.World.Change
/-!
# Steps

Whatever an action does to a world is done in steps, of which there are six: a
callable comes into being, a holder comes into being empty or as a copy, a member
is written or taken away, a link is moved. Each step says under which conditions
an action takes it. What holds of the empty world and is kept by every step holds
of every reachable world.
-/
set_option autoImplicit false

namespace StructuralTyping.World

/-- One step, and what an action has made sure of before it takes it. -/
inductive Step (w : World) : World → Prop where
  | made (arity : Nat) (body : Body) : Step w (w.newCallable arity body).2
  | created (kind : Kind) (parent : Option HolderId)
      (allowed : w.mayDelegate kind parent = true) : Step w (w.add (.blank parent kind)).2
  | copied {source : HolderId} {h copy : Holder} {kind : Kind} (found : w.holder? source = some h)
      (copied : h.copyAs? kind = some copy) : Step w (w.add copy).2
  | written (id : HolderId) (name : String) (member : Member) : Step w (w.set id name member).2
  | removed (id : HolderId) (name : String) : Step w (w.remove id name).2
  | relinked {id : HolderId} {kind : Kind} (parent : Option HolderId)
      (found : w.kind? id = some kind) (allowed : w.mayDelegate kind parent = true)
      (free : kind = .prototype → ∀ p ∈ parent, w.chainContains p id = false) :
      Step w (w.link id parent)

open Relation

/-- Finding the member that a source gives takes a step only for a new callable. -/
theorem obtain_steps (w : World) (source : Source) : ReflTransGen Step w (w.obtain source).2 := by
  cases source with
  | callable arity body => exact ReflTransGen.single (Step.made arity body)
  | data value => exact ReflTransGen.refl
  | made identity => exact ReflTransGen.refl
  | resolved holder name => exact ReflTransGen.refl

/-- Callables are written one after the other. -/
theorem defineAll_steps (w : World) (id : HolderId) (callables : List (String × Callable)) :
    ReflTransGen Step w (w.defineAll id callables) := by
  induction callables generalizing w with
  | nil => exact ReflTransGen.refl
  | cons first later inductionHypothesis =>
    have written := Step.written (w := w) id first.1 (.function first.2)
    rw [← define_eq] at written
    exact ReflTransGen.head written (inductionHypothesis _)

/-- A parent is accepted only if it does not delegate to the holder already. -/
theorem setParent_eq_ok {w after : World} {id : HolderId} {parent : Option HolderId}
    (accepted : w.setParent id parent = .ok after) :
    after = w.link id parent ∧ ∀ p ∈ parent, w.chainContains p id = false := by
  cases parent with
  | none =>
    simp only [setParent, Except.ok.injEq] at accepted
    exact ⟨accepted.symm, by simp⟩
  | some p =>
    simp only [setParent] at accepted
    split at accepted
    · cases accepted
    · rename_i notMet
      refine ⟨(Except.ok.inj accepted).symm, fun other same => ?_⟩
      rw [Option.mem_some] at same
      simpa [← same] using notMet

/-- A link that is moved belongs to a holder that may delegate as asked, and for a prototype
the new parent was found not to delegate to it already. -/
theorem link_of_relinked {w after : World} {id : HolderId} {parent : Option HolderId}
    (relinked : w.perform (.relink id parent) = (.done, after)) :
    after = w.link id parent ∧ ∃ kind, w.kind? id = some kind ∧
      w.mayDelegate kind parent = true ∧
      (kind = .prototype → ∀ p ∈ parent, w.chainContains p id = false) := by
  simp only [perform] at relinked
  split at relinked
  · rename_i object
    split at relinked <;> rename_i allowed
    · exact ⟨(Prod.mk.inj relinked).2.symm, .object, object, allowed, by simp⟩
    · cases relinked
  · rename_i prototype
    split at relinked <;> rename_i allowed
    · split at relinked
      · rename_i accepted
        obtain ⟨rfl, free⟩ := setParent_eq_ok accepted
        exact ⟨(Prod.mk.inj relinked).2.symm, .prototype, prototype, allowed, fun _ => free⟩
      · cases relinked
    · cases relinked
  · cases relinked

/-- Moving a link is a step of a holder that may delegate. -/
theorem relink_steps (w : World) (id : HolderId) (parent : Option HolderId) :
    ReflTransGen Step w (w.perform (.relink id parent)).2 := by
  simp only [perform]
  split
  · rename_i object
    split
    · rename_i allowed
      exact ReflTransGen.single (Step.relinked parent object allowed (by simp))
    · exact ReflTransGen.refl
  · rename_i prototype
    split
    · rename_i allowed
      split
      · rename_i accepted
        obtain ⟨rfl, free⟩ := setParent_eq_ok accepted
        exact ReflTransGen.single (Step.relinked parent prototype allowed fun _ => free)
      · exact ReflTransGen.refl
    · exact ReflTransGen.refl
  · exact ReflTransGen.refl

/-- A link is moved, or everything stays as it is. -/
theorem linked_or_refused (w : World) (id : HolderId) (parent : Option HolderId) :
    (w.perform (.relink id parent)).2 = w.link id parent ∨
      (w.perform (.relink id parent)).2 = w := by
  simp only [perform]
  split
  · split
    · exact Or.inl rfl
    · exact Or.inr rfl
  · split
    · split
      · rename_i accepted
        exact Or.inl (setParent_eq_ok accepted).1
      · exact Or.inr rfl
    · exact Or.inr rfl
  · exact Or.inr rfl

/-- Every action is carried out in steps, none if it is refused. -/
theorem perform_steps (w : World) (action : Action) :
    ReflTransGen Step w (w.perform action).2 := by
  cases action with
  | create kind parent =>
    simp only [perform]
    split
    · rename_i allowed
      exact ReflTransGen.single (Step.created kind parent allowed)
    · exact ReflTransGen.refl
  | copy kind source =>
    simp only [perform]
    split
    · rename_i copy made
      obtain ⟨h, found, copied⟩ := Option.bind_eq_some_iff.1 made
      exact ReflTransGen.single (Step.copied found copied)
    · exact ReflTransGen.refl
  | make arity body => exact ReflTransGen.single (Step.made arity body)
  | set holder name source =>
    have supply := w.obtain_steps source
    simp only [perform]
    split
    · rename_i member supplied obtained
      rw [obtained] at supply
      exact supply.tail (Step.written holder name member)
    · exact ReflTransGen.refl
  | define holder name source =>
    have supply := w.obtain_steps source
    simp only [perform]
    split
    · rename_i f supplied obtained
      rw [obtained] at supply
      rw [define_eq]
      exact supply.tail (Step.written holder name (.function f))
    · exact ReflTransGen.refl
  | remove holder name =>
    simp only [perform]
    split
    · exact ReflTransGen.single (Step.removed holder name)
    · exact ReflTransGen.refl
  | relink holder parent => exact w.relink_steps holder parent
  | apply target interface candidate =>
    simp only [perform, apply]
    cases implementation (w.resolve candidate) interface with
    | ok callables => exact w.defineAll_steps target callables
    | error rejection => exact ReflTransGen.refl

/-- A run is a sequence of steps. -/
theorem run_steps (w : World) (actions : List Action) : ReflTransGen Step w (w.run actions) := by
  induction actions generalizing w with
  | nil => exact ReflTransGen.refl
  | cons action later inductionHypothesis =>
    exact (w.perform_steps action).trans (inductionHypothesis _)

/-- A run may be cut in two. -/
theorem run_append (w : World) (actions later : List Action) :
    w.run (actions ++ later) = (w.run actions).run later := List.foldl_append

/-- A run can go on from every reachable world. -/
theorem Reachable.run {w : World} (reachable : w.Reachable) (actions : List Action) :
    (w.run actions).Reachable := by
  obtain ⟨before, rfl⟩ := reachable
  exact ⟨before ++ actions, run_append empty before actions⟩

/-- A run can go on by one action from every reachable world. -/
theorem Reachable.perform {w : World} (reachable : w.Reachable) (action : Action) :
    (w.perform action).2.Reachable := reachable.run [action]

/-- What the empty world satisfies and every step keeps, every reachable world
satisfies. -/
theorem Reachable.invariant {holds : World → Prop} (start : holds empty)
    (kept : ∀ {w after : World}, holds w → Step w after → holds after) {w : World}
    (reachable : w.Reachable) : holds w := by
  obtain ⟨actions, reached⟩ := reachable
  have steps := empty.run_steps actions
  rw [reached] at steps
  clear reached
  induction steps with
  | refl => exact start
  | tail _ step inductionHypothesis => exact kept inductionHypothesis step

end StructuralTyping.World
