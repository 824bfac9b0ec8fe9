import Mathlib.Logic.Relation
import StructuralTyping.World
/-!
# Chains of delegation

The chain of a holder lists the holder and then every prototype that is met by
following links, to the end. `Levels` says so without a bound on the number of
links. `chain` follows as many links as there are holders, which is all of them
once no walk along links returns: a walk that were cut short would have met more
holders than there are. Looking a name up and asking for an ancestor are both
scans of the chain.
-/
set_option autoImplicit false

namespace StructuralTyping.World

/-- One link: the first holder delegates to the second. -/
def Delegates (w : World) (id parent : HolderId) : Prop := w.parent? id = some parent

/-- No holder is met again by following links from it. -/
def Acyclic (w : World) : Prop := ∀ id, ¬ Relation.TransGen w.Delegates id id

/-- The levels of a holder: itself, and then the levels of what it delegates to,
until a holder that delegates to nothing. -/
inductive Levels (w : World) : HolderId → List HolderId → Prop where
  | last {id : HolderId} (root : w.parent? id = none) : Levels w id [id]
  | link {id parent : HolderId} {above : List HolderId} (link : w.parent? id = some parent)
      (rest : Levels w parent above) : Levels w id (id :: above)

/-- The levels that are met within at most `links` links. -/
def chainWithin (w : World) : Nat → HolderId → List HolderId
  | 0, id => [id]
  | links + 1, id =>
    match w.parent? id with
    | some parent => id :: w.chainWithin links parent
    | none => [id]

/-- The holder, and the prototypes that its links lead to, closest first. -/
def chain (w : World) (id : HolderId) : List HolderId := w.chainWithin w.holders.size id

variable {w : World}

/-- Delegation is a matter of links alone. -/
theorem delegates_eq_of_same_links {after : World}
    (links : ∀ id, after.parent? id = w.parent? id) : after.Delegates = w.Delegates := by
  funext id parent
  rw [Delegates, links, Delegates]

/-- A holder has one sequence of levels, because it delegates to one holder at most. -/
theorem Levels.unique {id : HolderId} {levels others : List HolderId}
    (first : w.Levels id levels) (second : w.Levels id others) : levels = others := by
  induction first generalizing others with
  | last root =>
    cases second with
    | last _ => rfl
    | link link _ => exact absurd (root.symm.trans link) (by simp)
  | link link _ inductionHypothesis =>
    cases second with
    | last root => exact absurd (root.symm.trans link) (by simp)
    | link other rest =>
      have same := Option.some.inj (link.symm.trans other)
      subst same
      rw [inductionHypothesis rest]

/-- The levels of a holder are what its links lead to in any number of steps. -/
theorem Levels.mem_iff {id level : HolderId} {levels : List HolderId} (all : w.Levels id levels) :
    level ∈ levels ↔ Relation.ReflTransGen w.Delegates id level := by
  induction all with
  | @last id root =>
    rw [List.mem_singleton]
    constructor
    · rintro rfl
      exact Relation.ReflTransGen.refl
    · intro reached
      rcases reached.cases_head with same | ⟨parent, link, _⟩
      · exact same.symm
      · exact absurd (root.symm.trans link) (by simp)
  | @link id parent above link _ inductionHypothesis =>
    rw [List.mem_cons, inductionHypothesis]
    constructor
    · rintro (same | reached)
      · exact same ▸ Relation.ReflTransGen.refl
      · exact Relation.ReflTransGen.head link reached
    · intro reached
      rcases reached.cases_head with same | ⟨other, first, further⟩
      · exact Or.inl same.symm
      · have same := Option.some.inj (link.symm.trans first)
        subst same
        exact Or.inr further

/-- Whatever is met within some number of links is led to by links. -/
theorem reached_of_mem_chainWithin {links : Nat} {id level : HolderId}
    (member : level ∈ w.chainWithin links id) : Relation.ReflTransGen w.Delegates id level := by
  induction links generalizing id with
  | zero =>
    rw [chainWithin, List.mem_singleton] at member
    exact member ▸ Relation.ReflTransGen.refl
  | succ links inductionHypothesis =>
    cases link : w.parent? id with
    | none =>
      simp only [chainWithin, link, List.mem_singleton] at member
      exact member ▸ Relation.ReflTransGen.refl
    | some parent =>
      simp only [chainWithin, link, List.mem_cons] at member
      rcases member with here | further
      · exact here ▸ Relation.ReflTransGen.refl
      · exact Relation.ReflTransGen.head link (inductionHypothesis further)

/-- Without a cycle no level is met twice: the first level that came again would
lead back to itself. -/
theorem Acyclic.nodup_chainWithin (acyclic : w.Acyclic) (links : Nat) (id : HolderId) :
    (w.chainWithin links id).Nodup := by
  induction links generalizing id with
  | zero => simp [chainWithin]
  | succ links inductionHypothesis =>
    cases link : w.parent? id with
    | none => simp [chainWithin, link]
    | some parent =>
      simp only [chainWithin, link, List.nodup_cons]
      refine ⟨fun member => ?_, inductionHypothesis parent⟩
      exact acyclic id (Relation.TransGen.head' link (reached_of_mem_chainWithin member))

/-- Following links either comes to an end, or meets one holder for each link and
leaves every one of them by another link. -/
theorem levels_or_cut_short (w : World) (links : Nat) (id : HolderId) :
    w.Levels id (w.chainWithin links id) ∨
      (w.chainWithin links id).length = links + 1 ∧
        ∀ level ∈ w.chainWithin links id, ∃ parent, w.parent? level = some parent := by
  induction links generalizing id with
  | zero =>
    cases link : w.parent? id with
    | none => exact Or.inl (Levels.last link)
    | some parent =>
      refine Or.inr ⟨rfl, fun level member => ?_⟩
      rw [chainWithin, List.mem_singleton] at member
      exact ⟨parent, member ▸ link⟩
  | succ links inductionHypothesis =>
    cases link : w.parent? id with
    | none =>
      simp only [chainWithin, link]
      exact Or.inl (Levels.last link)
    | some parent =>
      simp only [chainWithin, link]
      rcases inductionHypothesis parent with ended | ⟨length, onward⟩
      · exact Or.inl (Levels.link link ended)
      · refine Or.inr ⟨by rw [List.length_cons, length], fun level member => ?_⟩
        rcases List.mem_cons.1 member with here | further
        · exact ⟨parent, here ▸ link⟩
        · exact onward level further

/-- Only a holder that exists delegates. -/
theorem lt_size_of_parent? {id parent : HolderId} (link : w.parent? id = some parent) :
    id < w.holders.size := by
  cases found : w.holder? id with
  | none => simp [parent?, found] at link
  | some h => exact (Array.getElem?_eq_some_iff.1 found).1

/-- As many links as there are holders are enough. Had the walk been cut short, it
would have met one holder more than there are, all of them different. -/
theorem Acyclic.levels_chain (acyclic : w.Acyclic) (id : HolderId) :
    w.Levels id (w.chain id) := by
  rcases w.levels_or_cut_short w.holders.size id with ended | ⟨length, onward⟩
  · exact ended
  · have inside : w.chainWithin w.holders.size id ⊆ List.range w.holders.size := by
      intro level member
      obtain ⟨parent, link⟩ := onward level member
      exact List.mem_range.2 (lt_size_of_parent? link)
    have bound := (acyclic.nodup_chainWithin _ id).length_le_of_subset inside
    rw [length, List.length_range] at bound
    omega

/-- There is no other list of levels. -/
theorem Acyclic.chain_eq (acyclic : w.Acyclic) {id : HolderId} {levels : List HolderId}
    (all : w.Levels id levels) : w.chain id = levels :=
  (acyclic.levels_chain id).unique all

/-- No level of a chain comes twice. -/
theorem Acyclic.nodup_chain (acyclic : w.Acyclic) (id : HolderId) : (w.chain id).Nodup :=
  acyclic.nodup_chainWithin _ id

/-- The chain consists of what the links lead to. -/
theorem Acyclic.mem_chain_iff (acyclic : w.Acyclic) {id level : HolderId} :
    level ∈ w.chain id ↔ Relation.ReflTransGen w.Delegates id level :=
  (acyclic.levels_chain id).mem_iff

/-- What is asked of a holder is its own member, or else what is asked of its parent. -/
theorem bind_resolve_eq (w : World) (ask : HolderId → Option Member) (id : HolderId)
    (name : String) : (w.holder? id).bind (·.resolve ask name) =
      (w.own? id name).or ((w.parent? id).bind ask) := by
  rw [own?, parent?]
  cases w.holder? id with
  | none => rfl
  | some h => exact h.resolve_eq ask name

/-- Looking a name up along links is a scan of the levels that they lead to. -/
theorem resolveWithin_eq (w : World) (name : String) (links : Nat) (id : HolderId) :
    w.resolveWithin name links id = (w.chainWithin links id).findSome? (w.own? · name) := by
  induction links generalizing id with
  | zero =>
    rw [resolveWithin, bind_resolve_eq, chainWithin, List.findSome?_singleton]
    cases w.parent? id <;> rw [Option.bind, Option.or_none]
  | succ links inductionHypothesis =>
    rw [resolveWithin, bind_resolve_eq, chainWithin]
    cases link : w.parent? id with
    | none => simp
    | some parent =>
      simp only [Option.bind_some, inductionHypothesis, List.findSome?_cons]
      cases w.own? id name <;> rfl

/-- A name stands for the member of the first level that owns one. -/
theorem resolve_eq_findSome? (w : World) (id : HolderId) (name : String) :
    w.resolve id name = (w.chain id).findSome? (w.own? · name) :=
  w.resolveWithin_eq name w.holders.size id

/-- The holder itself is the first level of its chain. -/
theorem chain_eq_cons (w : World) (id : HolderId) : ∃ above, w.chain id = id :: above := by
  rw [chain]
  cases w.holders.size with
  | zero => exact ⟨[], rfl⟩
  | succ links =>
    cases link : w.parent? id with
    | none => exact ⟨[], by rw [chainWithin, link]⟩
    | some parent => exact ⟨w.chainWithin links parent, by rw [chainWithin, link]⟩

/-- A member of its own is what a name stands for on a holder. -/
theorem resolve_of_own {id : HolderId} {name : String} {member : Member}
    (own : w.own? id name = some member) : w.resolve id name = some member := by
  obtain ⟨above, chain_eq⟩ := w.chain_eq_cons id
  rw [resolve_eq_findSome?, chain_eq, List.findSome?_cons_of_isSome (by simp [own]), own]

/-- Asking for an ancestor along links is a scan of the levels that they lead to. -/
theorem reachesWithin_iff (w : World) (other : HolderId) (links : Nat) (id : HolderId) :
    w.reachesWithin other links id = true ↔ other ∈ w.chainWithin links id := by
  induction links generalizing id with
  | zero => simp [reachesWithin, chainWithin, eq_comm (a := id)]
  | succ links inductionHypothesis =>
    cases link : w.parent? id <;>
      simp [reachesWithin, chainWithin, link, inductionHypothesis, eq_comm (a := id)]

/-- What is asked for as an ancestor is looked for in the chain. -/
theorem chainContains_iff_mem_chain (w : World) (id other : HolderId) :
    w.chainContains id other = true ↔ other ∈ w.chain id :=
  w.reachesWithin_iff other w.holders.size id

/-- The ancestors that are found are those that the links lead to. -/
theorem Acyclic.chainContains_iff (acyclic : w.Acyclic) {id other : HolderId} :
    w.chainContains id other = true ↔ Relation.ReflTransGen w.Delegates id other := by
  rw [chainContains_iff_mem_chain, acyclic.mem_chain_iff]

end StructuralTyping.World
