import Mathlib.Logic.Basic
import StructuralTyping.Proofs.Chain
import StructuralTyping.Proofs.Step
/-!
# No chain returns

Links lead to prototypes, and relinking a prototype is the only step that gives a
link to something that links may lead to already. It asks first whether the new
parent delegates to the prototype, and because no chain returned before, that
question gets its answer and the answer is exact: a link is refused if and only if
it would close a cycle. So no chain returns in any reachable world.
-/
set_option autoImplicit false

namespace StructuralTyping.World

open Relation

variable {w after : World}

/-- What the links of every reachable world keep to. -/
structure WellLinked (w : World) : Prop where
  acyclic : w.Acyclic
  prototypes : ∀ {id parent : HolderId}, w.parent? id = some parent →
    w.kind? parent = some .prototype
  delegating : ∀ {id parent : HolderId}, w.parent? id = some parent →
    ∃ kind, w.kind? id = some kind ∧ kind.delegates = true

/-- A path over links of which one was moved is an old path, or it takes the moved
link: then old links lead to that holder, and from the new parent to the end. -/
theorem path_of_moved_link {id : HolderId} {parent : Option HolderId}
    (moved : ∀ other, after.parent? other = if other = id then parent else w.parent? other)
    {first last : HolderId} (path : TransGen after.Delegates first last) :
    TransGen w.Delegates first last ∨
      ReflTransGen w.Delegates first id ∧ ∃ p ∈ parent, ReflTransGen w.Delegates p last := by
  have one : ∀ {a b : HolderId}, after.Delegates a b →
      w.Delegates a b ∨ a = id ∧ b ∈ parent := by
    intro a b link
    rw [Delegates, moved] at link
    split at link
    · rename_i here
      exact Or.inr ⟨here, link⟩
    · exact Or.inl link
  induction path with
  | single link =>
    rcases one link with old | ⟨here, new⟩
    · exact Or.inl (TransGen.single old)
    · exact Or.inr ⟨here ▸ ReflTransGen.refl, _, new, ReflTransGen.refl⟩
  | tail _ link inductionHypothesis =>
    rcases one link with old | ⟨here, new⟩
    · rcases inductionHypothesis with before | ⟨there, p, new, before⟩
      · exact Or.inl (before.tail old)
      · exact Or.inr ⟨there, p, new, before.tail old⟩
    · refine Or.inr ⟨?_, _, new, ReflTransGen.refl⟩
      rcases inductionHypothesis with before | ⟨there, _⟩
      · exact here ▸ before.to_reflTransGen
      · exact there

/-- Moving one link closes no cycle if the new parent does not lead to the holder. -/
theorem Acyclic.of_moved_link (acyclic : w.Acyclic) {id : HolderId} {parent : Option HolderId}
    (moved : ∀ other, after.parent? other = if other = id then parent else w.parent? other)
    (free : ∀ p ∈ parent, ¬ReflTransGen w.Delegates p id) : after.Acyclic := by
  intro start cycle
  rcases path_of_moved_link moved cycle with old | ⟨there, p, new, back⟩
  · exact acyclic start old
  · exact free p new (back.trans there)

/-- If the new parent does lead to the holder, the way there is still open after the
link was moved, because it ends where the holder is met first. -/
theorem not_acyclic_of_moved_link {id p : HolderId}
    (moved : ∀ other, after.parent? other = if other = id then some p else w.parent? other)
    (reached : ReflTransGen w.Delegates p id) : ¬after.Acyclic := by
  have back : ∀ {first : HolderId}, ReflTransGen w.Delegates first id →
      ReflTransGen after.Delegates first id := by
    intro first path
    induction path using ReflTransGen.head_induction_on with
    | refl => exact ReflTransGen.refl
    | @head a b link _ inductionHypothesis =>
      by_cases here : a = id
      · exact here ▸ ReflTransGen.refl
      · refine ReflTransGen.head ?_ inductionHypothesis
        rw [Delegates, moved, if_neg here]
        exact link
  intro acyclic
  refine acyclic id (TransGen.head' ?_ (back reached))
  rw [Delegates, moved, if_pos rfl]

/-- Only a prototype is delegated to, and by a holder whose kind delegates. -/
theorem mayDelegate_some {kind : Kind} {parent : HolderId} :
    w.mayDelegate kind (some parent) = true ↔
      kind.delegates = true ∧ w.kind? parent = some .prototype := by
  simp [mayDelegate]

/-- The link of a holder that may delegate leads where it was told to. -/
theorem parent?_link_of_delegates {id : HolderId} {kind : Kind} (found : w.kind? id = some kind)
    (delegates : kind.delegates = true) (parent : Option HolderId) (other : HolderId) :
    (w.link id parent).parent? other = if other = id then parent else w.parent? other := by
  rw [parent?_link, found, Option.bind_some, if_pos delegates]

/-- A link leads where it was told to if its holder may delegate as asked. A map, which may not,
can only be told to delegate to nothing, as it does anyway. -/
theorem parent?_link_of_allowed {id : HolderId} {kind : Kind} {parent : Option HolderId}
    (found : w.kind? id = some kind) (allowed : w.mayDelegate kind parent = true)
    (other : HolderId) :
    (w.link id parent).parent? other = if other = id then parent else w.parent? other := by
  cases parent with
  | none => rw [parent?_link, found, Option.bind_some, ite_self]
  | some p => exact parent?_link_of_delegates found (mayDelegate_some.1 allowed).1 _ other

/-- A link may be added exactly if its end does not lead back to its beginning. -/
theorem Acyclic.link_iff (acyclic : w.Acyclic) {id p : HolderId} {kind : Kind}
    (found : w.kind? id = some kind) (delegates : kind.delegates = true) :
    (w.link id (some p)).Acyclic ↔ ¬ReflTransGen w.Delegates p id := by
  have moved := parent?_link_of_delegates found delegates (some p)
  constructor
  · exact fun safe reached => not_acyclic_of_moved_link moved reached safe
  · intro free
    refine acyclic.of_moved_link moved fun other same => ?_
    rw [Option.mem_some] at same
    exact same ▸ free

/-- The next holder to come into being has no kind yet. -/
theorem kind?_size (w : World) : w.kind? w.holders.size = none := by simp [kind?, holder?]

/-- A new holder may delegate as asked if that was allowed for its kind; new maps, of which nothing
else is asked, delegate to nothing. -/
theorem mayDelegate_blank {kind : Kind} {parent : Option HolderId}
    (allowed : w.mayDelegate kind parent = true) :
    w.mayDelegate (Holder.blank parent kind).kind (Holder.blank parent kind).parent? = true := by
  rw [Holder.kind_blank, Holder.parent?_blank]
  split
  · exact allowed
  · rfl

namespace WellLinked

/-- Links that start at a prototype lead to prototypes only. -/
theorem prototype_of_reached (linked : w.WellLinked) {first last : HolderId}
    (prototype : w.kind? first = some .prototype) (reached : ReflTransGen w.Delegates first last) :
    w.kind? last = some .prototype := by
  rcases reached.cases_tail with same | ⟨_, _, link⟩
  · exact same ▸ prototype
  · exact linked.prototypes link

/-- No link leads to the next holder to come into being. -/
theorem not_delegates_size (linked : w.WellLinked) (id : HolderId) :
    ¬w.Delegates id w.holders.size := by
  intro link
  have prototype := linked.prototypes link
  rw [kind?_size] at prototype
  cases prototype

/-- Links and kinds are all that matters. -/
theorem of_same (linked : w.WellLinked) (kinds : ∀ id, after.kind? id = w.kind? id)
    (links : ∀ id, after.parent? id = w.parent? id) : after.WellLinked := by
  have same := delegates_eq_of_same_links links
  refine ⟨?_, ?_, ?_⟩
  · rw [Acyclic, same]
    exact linked.acyclic
  · intro id parent link
    rw [kinds]
    exact linked.prototypes (links id ▸ link)
  · intro id parent link
    rw [kinds]
    exact linked.delegating (links id ▸ link)

/-- A new holder may delegate to a prototype, because no link leads to it yet. -/
theorem add (linked : w.WellLinked) (h : Holder)
    (allowed : w.mayDelegate h.kind h.parent? = true) : (w.add h).2.WellLinked := by
  have known : ∀ {id : HolderId} {kind : Kind}, w.kind? id = some kind →
      (w.add h).2.kind? id = some kind := by
    intro id kind found
    rw [kind?_add, if_neg, found]
    rintro rfl
    rw [kind?_size] at found
    cases found
  have permitted : ∀ {p : HolderId}, h.parent? = some p →
      h.kind.delegates = true ∧ w.kind? p = some .prototype := by
    intro p parent
    exact mayDelegate_some.1 (parent ▸ allowed)
  refine ⟨?_, ?_, ?_⟩
  · refine linked.acyclic.of_moved_link (w.parent?_add h) fun p parent reached => ?_
    have prototype := linked.prototype_of_reached (permitted parent).2 reached
    rw [kind?_size] at prototype
    cases prototype
  · intro id parent link
    rw [parent?_add] at link
    split at link
    · exact known (permitted link).2
    · exact known (linked.prototypes link)
  · intro id parent link
    rw [parent?_add] at link
    split at link
    · rename_i new
      refine ⟨h.kind, ?_, (permitted link).1⟩
      rw [kind?_add, if_pos new]
    · obtain ⟨kind, found, delegates⟩ := linked.delegating link
      exact ⟨kind, known found, delegates⟩

/-- A link may be moved to a prototype that does not lead to the holder. -/
theorem link (linked : w.WellLinked) {id : HolderId} {kind : Kind} {parent : Option HolderId}
    (found : w.kind? id = some kind) (allowed : w.mayDelegate kind parent = true)
    (free : ∀ p ∈ parent, ¬ReflTransGen w.Delegates p id) : (w.link id parent).WellLinked := by
  have moved := parent?_link_of_allowed found allowed
  refine ⟨linked.acyclic.of_moved_link moved free, ?_, ?_⟩
  · intro other p link
    rw [moved] at link
    rw [kind?_link]
    split at link
    · exact (mayDelegate_some.1 (link ▸ allowed)).2
    · exact linked.prototypes link
  · intro other p link
    rw [moved] at link
    rw [kind?_link]
    split at link
    · rename_i here
      exact ⟨kind, here ▸ found, (mayDelegate_some.1 (link ▸ allowed)).1⟩
    · exact linked.delegating link

/-- A copy may delegate to whatever the holder that is copied delegates to. -/
theorem mayDelegate_of_copyAs? (linked : w.WellLinked) {source : HolderId} {h copy : Holder}
    {kind : Kind} (found : w.holder? source = some h) (copied : h.copyAs? kind = some copy) :
    w.mayDelegate copy.kind copy.parent? = true := by
  obtain ⟨-, -, sameLink, sameDelegates⟩ := Holder.eq_of_copyAs? copied
  rw [sameLink]
  cases parent : h.parent? with
  | none => rfl
  | some p =>
    have link : w.parent? source = some p := by simp [parent?, found, parent]
    obtain ⟨original, own, delegates⟩ := linked.delegating link
    have same : h.kind = original := by simpa [kind?, found] using own
    exact mayDelegate_some.2 ⟨sameDelegates.trans (same ▸ delegates), linked.prototypes link⟩

/-- A parent that is accepted does not lead to the holder. Nobody delegates to an object, and a
prototype is looked for in all of the chain. -/
theorem not_reached_of_accepted (linked : w.WellLinked) {id p : HolderId} {kind : Kind}
    (found : w.kind? id = some kind) (allowed : w.mayDelegate kind (some p) = true)
    (free : kind = .prototype → w.chainContains p id = false) :
    ¬ReflTransGen w.Delegates p id := by
  intro reached
  obtain ⟨-, prototype⟩ := mayDelegate_some.1 allowed
  have reachedPrototype := linked.prototype_of_reached prototype reached
  have kind_eq : kind = .prototype := Option.some.inj (found.symm.trans reachedPrototype)
  have met := linked.acyclic.chainContains_iff.2 reached
  rw [free kind_eq] at met
  cases met

/-- Every step keeps the links in order. -/
theorem step (linked : w.WellLinked) (step : Step w after) : after.WellLinked := by
  cases step with
  | made arity body => exact linked.of_same (fun _ => rfl) (fun _ => rfl)
  | created kind parent allowed => exact linked.add _ (mayDelegate_blank allowed)
  | copied found copied => exact linked.add _ (linked.mayDelegate_of_copyAs? found copied)
  | written id name member =>
    exact linked.of_same (fun other => w.kind?_set id other name member)
      (fun other => w.parent?_set id other name member)
  | removed id name =>
    exact linked.of_same (fun other => w.kind?_remove id other name)
      (fun other => w.parent?_remove id other name)
  | @relinked id kind parent found allowed free =>
    refine linked.link found allowed fun p given => ?_
    subst given
    exact linked.not_reached_of_accepted found allowed fun prototype => free prototype p rfl

/-- Without holders there are no links. -/
theorem empty : World.empty.WellLinked := by
  have none_linked : ∀ id, World.empty.parent? id = none := fun id => by
    simp [parent?, holder?, World.empty]
  refine ⟨?_, ?_, ?_⟩
  · intro id cycle
    obtain ⟨parent, link, _⟩ := TransGen.head'_iff.1 cycle
    exact absurd ((none_linked id).symm.trans link) (by simp)
  · intro id parent link
    exact absurd ((none_linked id).symm.trans link) (by simp)
  · intro id parent link
    exact absurd ((none_linked id).symm.trans link) (by simp)

end WellLinked

/-- The links of every reachable world are in order. -/
theorem Reachable.wellLinked (reachable : w.Reachable) : w.WellLinked :=
  reachable.invariant WellLinked.empty fun linked step => linked.step step

/-- Relinking one prototype to another is refused if that one delegates to it, and
then nothing happens; otherwise the link is moved. -/
theorem perform_relink_some {id parent : HolderId} (prototype : w.kind? id = some .prototype)
    (target : w.kind? parent = some .prototype) :
    w.perform (.relink id (some parent)) =
      if w.chainContains parent id then (.cycle .cycle, w)
      else (.done, w.link id (some parent)) := by
  have allowed : w.mayDelegate .prototype (some parent) = true := mayDelegate_some.2 ⟨rfl, target⟩
  by_cases met : w.chainContains parent id = true <;>
    simp [perform, prototype, allowed, setParent, met]

/-- Taking the link of a prototype away is never refused. -/
theorem perform_relink_none {id : HolderId} (prototype : w.kind? id = some .prototype) :
    w.perform (.relink id none) = (.done, w.link id none) := by
  simp [perform, prototype, mayDelegate, setParent]

/-- In every reachable world no walk along links returns. Relinking a prototype is
refused exactly if the new parent is the prototype itself or leads to it, which is
exactly if the link would close a cycle, and a refusal leaves the world as it was.
A link that is not refused is moved, and taking a link away is never refused.

The check walks the chain that it is there to protect. It sees all of it because
no chain returned before. -/
theorem chains_never_return (reachable : w.Reachable) :
    w.Acyclic ∧
      (∀ id parent, w.kind? id = some .prototype → w.kind? parent = some .prototype →
        ((w.perform (.relink id (some parent))).1 = .cycle .cycle ↔
          ReflTransGen w.Delegates parent id) ∧
        ((w.perform (.relink id (some parent))).1 = .cycle .cycle ↔
          ¬(w.link id (some parent)).Acyclic) ∧
        (w.perform (.relink id (some parent)) = (.cycle .cycle, w) ∨
          w.perform (.relink id (some parent)) = (.done, w.link id (some parent)))) ∧
      ∀ id, w.kind? id = some .prototype →
        w.perform (.relink id none) = (.done, w.link id none) := by
  have acyclic := reachable.wellLinked.acyclic
  refine ⟨acyclic, fun id parent prototype target => ?_, fun id => perform_relink_none⟩
  have performed := perform_relink_some prototype target
  have refused : (w.perform (.relink id (some parent))).1 = .cycle .cycle ↔
      ReflTransGen w.Delegates parent id := by
    rw [performed, ← acyclic.chainContains_iff]
    split
    · rename_i met
      exact ⟨fun _ => met, fun _ => rfl⟩
    · rename_i notMet
      exact ⟨fun impossible => (by cases impossible), fun met => absurd met notMet⟩
  refine ⟨refused, ?_, ?_⟩
  · rw [refused, acyclic.link_iff prototype rfl, not_not]
  · rw [performed]
    split
    · exact Or.inl rfl
    · exact Or.inr rfl

/-- Three prototypes, each of which delegates to the one before. -/
def threeGenerations : List Action :=
  [.create .prototype none, .create .prototype (some 0), .create .prototype (some 1)]

/-- The first of three generations cannot delegate to the last one, and the last one
can be freed. -/
theorem generations_never_return :
    (empty.run threeGenerations).Acyclic ∧
      ((empty.run threeGenerations).perform (.relink 0 (some 2))).1 = .cycle .cycle ∧
      ¬((empty.run threeGenerations).link 0 (some 2)).Acyclic ∧
      (empty.run threeGenerations).perform (.relink 2 none) =
        (.done, (empty.run threeGenerations).link 2 none) := by
  obtain ⟨acyclic, relinked, freed⟩ := chains_never_return ⟨threeGenerations, rfl⟩
  obtain ⟨refused, closes, _⟩ := relinked 0 2 rfl rfl
  have back : ReflTransGen (empty.run threeGenerations).Delegates 2 0 :=
    ReflTransGen.head rfl (ReflTransGen.head rfl ReflTransGen.refl)
  exact ⟨acyclic, refused.2 back, closes.1 (refused.2 back), freed 2 rfl⟩

end StructuralTyping.World
