import StructuralTyping.Proofs.Visibility
/-!
# Where a chain goes on

A link that is moved is a link of one holder, and it shows in every chain that leads there.
Such a chain is the same up to this holder, and behind it now come the levels of the new
parent, or none. These are the levels that the new parent had before, because a link to a
prototype that delegates to the holder is refused, so none of them is the holder. A chain
that does not lead to the holder does not take the link. Members stay where they are. So a
name keeps what it stands for if a level up to the holder owns it, and otherwise it stands
for what the new parent makes of it.
-/
set_option autoImplicit false

namespace StructuralTyping.World

open Relation

variable {w after : World} {id other : HolderId} {parent : Option HolderId}

/-- The levels that a link leads to. -/
def levelsBehind (w : World) : Option HolderId → List HolderId
  | some parent => w.chain parent
  | none => []

/-- A change behind which every chain that leads to one holder goes on from there with other
levels. No other chain is touched, and no member. -/
structure Splices (w after : World) (id : HolderId) (above : List HolderId) : Prop where
  own : ∀ holder name, after.own? holder name = w.own? holder name
  through : ∀ {other : HolderId} {closer further : List HolderId},
    w.Levels other (closer ++ id :: further) → after.Levels other (closer ++ id :: above)
  apart : ∀ {other : HolderId} {levels : List HolderId},
    w.Levels other levels → id ∉ levels → after.Levels other levels

/-- Levels that keep their links up to some level go on with what this level has now. -/
theorem Levels.graft {closer further above : List HolderId}
    (all : w.Levels other (closer ++ id :: further))
    (kept : ∀ level ∈ closer, after.parent? level = w.parent? level)
    (rest : after.Levels id (id :: above)) : after.Levels other (closer ++ id :: above) := by
  induction closer generalizing other with
  | nil =>
    cases all with
    | last _ => exact rest
    | link _ _ => exact rest
  | cons first later inductionHypothesis =>
    obtain ⟨keptFirst, keptLater⟩ := List.forall_mem_cons.1 kept
    rw [List.cons_append] at all
    generalize remaining : later ++ id :: further = levels at all
    cases all with
    | last _ => simp at remaining
    | link link behind =>
      exact Levels.link (keptFirst.trans link) (inductionHypothesis (remaining ▸ behind) keptLater)

/-- Moving a link to a parent that does not lead to the holder splices the levels of this
parent into every chain that leads there. -/
theorem Acyclic.splices_link (acyclic : w.Acyclic) {kind : Kind} (found : w.kind? id = some kind)
    (allowed : w.mayDelegate kind parent = true) (free : ∀ p ∈ parent, id ∉ w.chain p) :
    Splices w (w.link id parent) id (w.levelsBehind parent) := by
  have moved := parent?_link_of_allowed found allowed
  have kept : ∀ {levels : List HolderId}, id ∉ levels →
      ∀ level ∈ levels, (w.link id parent).parent? level = w.parent? level := by
    intro levels absent level member
    rw [moved, if_neg]
    rintro rfl
    exact absent member
  have rest : (w.link id parent).Levels id (id :: w.levelsBehind parent) := by
    cases parent with
    | none => exact Levels.last (by rw [moved, if_pos rfl])
    | some p =>
      have behind := (acyclic.levels_chain p).of_kept_links (kept (free p rfl))
      exact Levels.link (by rw [moved, if_pos rfl]) behind
  exact {
    own := fun holder name => own?_link w id holder parent name
    through := fun all => all.graft (kept (acyclic.level_once all).1) rest
    apart := fun all absent => all.of_kept_links (kept absent) }

/-- Behind a link a name stands for what its end makes of it. -/
theorem findSome?_levelsBehind (w : World) (parent : Option HolderId) (name : String) :
    (w.levelsBehind parent).findSome? (w.own? · name) = parent.bind (w.resolve · name) := by
  cases parent with
  | none => rfl
  | some p => exact (w.resolve_eq_findSome? p name).symm

/-- A name that a level up to some level owns stands for what it stands for there; any other
is left to the levels behind. -/
theorem Acyclic.resolve_eq_or (acyclic : w.Acyclic) {closer further : List HolderId}
    (all : w.Levels other (closer ++ id :: further)) (name : String) :
    w.resolve other name =
      ((closer ++ [id]).findSome? (w.own? · name)).or (further.findSome? (w.own? · name)) := by
  rw [acyclic.resolve_eq all, ← List.findSome?_append, List.append_assoc, List.singleton_append]

namespace Splices

variable {above : List HolderId}

/-- A holder whose chain leads there keeps what a level up to there owns, and leaves all else
to the levels that have come behind. -/
theorem resolve_through (splices : Splices w after id above) (acyclic : after.Acyclic)
    {closer further : List HolderId} (all : w.Levels other (closer ++ id :: further))
    (name : String) :
    after.resolve other name =
      ((closer ++ [id]).findSome? (w.own? · name)).or (above.findSome? (w.own? · name)) := by
  have kept : ∀ holder, after.own? holder name = w.own? holder name :=
    fun holder => splices.own holder name
  rw [acyclic.resolve_eq_or (splices.through all)]
  simp only [kept]

/-- A holder whose chain does not lead there keeps its chain, and with it what every name
stands for. -/
theorem resolve_apart (splices : Splices w after id above) (acyclic : w.Acyclic)
    (acyclicAfter : after.Acyclic) (absent : id ∉ w.chain other) (name : String) :
    after.resolve other name = w.resolve other name :=
  acyclic.resolve_of_kept acyclicAfter (splices.apart (acyclic.levels_chain other) absent)
    fun level _ => splices.own level name

end Splices

/-- Moving a link that is not refused splices chains. In every chain that contains the holder,
the levels up to it stay, and behind it comes the chain of the new parent, which does not
contain it and is what it was; if the link is taken away, the chain ends there. A name that
a level up to the holder owns stands for the same member as before, and any other for what
it stands for on the new parent, if there is one. Chains that do not contain the holder, and
what names stand for there, stay as they are, and so do all members. -/
theorem relinking_splices_chains (reachable : w.Reachable)
    (relinked : w.perform (.relink id parent) = (.done, after)) :
    (∀ other, w.Levels other (w.chain other) ∧ after.Levels other (after.chain other)) ∧
      (∀ holder name, after.own? holder name = w.own? holder name) ∧
      (∀ p ∈ parent, id ∉ w.chain p ∧ after.chain p = w.chain p ∧
        ∀ name, after.resolve p name = w.resolve p name) ∧
      (∀ other closer further, w.chain other = closer ++ id :: further →
        (∀ p, parent = some p → after.chain other = closer ++ id :: w.chain p) ∧
        (parent = none → after.chain other = closer ++ [id]) ∧
        (∀ name, (∃ level ∈ closer ++ [id], w.own? level name ≠ none) →
          after.resolve other name = w.resolve other name) ∧
        ∀ name, (∀ level ∈ closer ++ [id], w.own? level name = none) →
          after.resolve other name = parent.bind (w.resolve · name)) ∧
      ∀ other, id ∉ w.chain other → after.chain other = w.chain other ∧
        ∀ name, after.resolve other name = w.resolve other name := by
  have linked := reachable.wellLinked
  have acyclic := linked.acyclic
  have acyclicAfter : after.Acyclic := by
    have further := (reachable.perform (.relink id parent)).wellLinked.acyclic
    rwa [relinked] at further
  obtain ⟨moved, kind, found, allowed, notMet⟩ := link_of_relinked relinked
  have free : ∀ p ∈ parent, id ∉ w.chain p := by
    rintro p rfl member
    exact linked.not_reached_of_accepted found allowed (fun prototype => notMet prototype p rfl)
      (acyclic.mem_chain_iff.1 member)
  have splices : Splices w after id (w.levelsBehind parent) :=
    moved ▸ acyclic.splices_link found allowed free
  have untouched : ∀ other, id ∉ w.chain other → after.chain other = w.chain other ∧
      ∀ name, after.resolve other name = w.resolve other name := fun other absent =>
    ⟨acyclicAfter.chain_eq (splices.apart (acyclic.levels_chain other) absent),
      splices.resolve_apart acyclic acyclicAfter absent⟩
  refine ⟨fun other => ⟨acyclic.levels_chain other, acyclicAfter.levels_chain other⟩, splices.own,
    fun p given => ⟨free p given, untouched p (free p given)⟩, ?_, untouched⟩
  intro other closer further split
  have all := split ▸ acyclic.levels_chain other
  have spliced := acyclicAfter.chain_eq (splices.through all)
  refine ⟨?_, ?_, fun name owned => ?_, fun name silent => ?_⟩
  · rintro p rfl
    exact spliced
  · rintro rfl
    exact spliced
  · obtain ⟨member, first⟩ := exists_of_owned owned
    rw [splices.resolve_through acyclicAfter all, acyclic.resolve_eq_or all, first, Option.some_or,
      Option.some_or]
  · rw [splices.resolve_through acyclicAfter all, List.findSome?_eq_none_iff.2 silent,
      Option.none_or, findSome?_levelsBehind]

/-- Three generations and an object of the last one, with a member on the middle generation;
and a family of two, of which the first one owns a member of this name and another one. -/
def twoFamilies : List Action :=
  threeGenerations ++ [.create .object (some 2), .create .prototype none,
    .create .prototype (some 4), .set 1 "f" (.data (.ofNat 1)), .set 4 "f" (.data (.ofNat 2)),
    .set 4 "g" (.data (.ofNat 3))]

/-- The middle generation is moved to the other family. The object keeps the member that the
middle generation owns, gets the other one from the new family, and loses the way to the
first generation, which stays what it was. -/
theorem object_changes_family :
    ((empty.run twoFamilies).perform (.relink 1 (some 5))).2.chain 3 = [3, 2, 1, 5, 4] ∧
      ((empty.run twoFamilies).perform (.relink 1 (some 5))).2.resolve 3 "f" =
        (empty.run twoFamilies).resolve 3 "f" ∧
      (empty.run twoFamilies).resolve 3 "g" = none ∧
      ((empty.run twoFamilies).perform (.relink 1 (some 5))).2.resolve 3 "g" =
        some (.data (.ofNat 3)) ∧
      ((empty.run twoFamilies).perform (.relink 1 (some 5))).2.chain 0 = [0] := by
  have relinked : (empty.run twoFamilies).perform (.relink 1 (some 5)) =
      (.done, ((empty.run twoFamilies).perform (.relink 1 (some 5))).2) := Prod.ext rfl rfl
  obtain ⟨_, _, _, through, apart⟩ := relinking_splices_chains ⟨twoFamilies, rfl⟩ relinked
  obtain ⟨spliced, _, kept, handed⟩ := through 3 [3, 2] [0] rfl
  refine ⟨spliced 5 rfl, kept "f" ⟨1, by decide, ?_⟩, rfl, handed "g" ?_, (apart 0 ?_).1⟩
  · rintro ⟨⟩
  · decide
  · decide

end StructuralTyping.World
