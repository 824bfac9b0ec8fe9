import StructuralTyping.Proofs.Ancestry
import StructuralTyping.Proofs.Visibility
/-!
# What is inherited

A holder has from an ancestor what no closer level of its chain owns. For such a declaration
its diagnosis says what the diagnosis of the ancestor says. Any other declaration is settled
by the closest member, which may be a good function in the place of a bad one, or null in
the place of a good one; neither the ancestor nor anything above it has a say. So a holder
conforms with an ancestor as long as nothing between them owns a declared name. A holder
that was just created below a prototype owns nothing, so it has the diagnosis of the
prototype.
-/
set_option autoImplicit false

namespace StructuralTyping.World

open Relation

variable {w after : World} {id ancestor : HolderId} {closer further : List HolderId}

/-- A name that is owned below a level stands for the closest member there. -/
theorem Acyclic.resolve_of_owned_below (acyclic : w.Acyclic)
    (all : w.Levels id (closer ++ ancestor :: further)) {name : String} {member : Member}
    (closest : closer.findSome? (w.own? · name) = some member) :
    w.resolve id name = some member := by
  rw [acyclic.resolve_eq all, List.findSome?_append, closest, Option.some_or]

/-- A name stands for an own member, and without one for what it stands for behind the link. -/
theorem Acyclic.resolve_eq_own_or (acyclic : w.Acyclic) (id : HolderId) (name : String) :
    w.resolve id name = (w.own? id name).or ((w.parent? id).bind (w.resolve · name)) := by
  cases link : w.parent? id with
  | none => rw [acyclic.resolve_eq (Levels.last link), List.findSome?_singleton, Option.bind_none,
      Option.or_none]
  | some parent =>
    rw [acyclic.resolve_eq (Levels.link link (acyclic.levels_chain parent)), List.findSome?_cons,
      ← resolve_eq_findSome?, Option.bind_some]
    cases w.own? id name <;> rfl

/-- What is declared under names that no level below an ancestor owns is diagnosed as on the
ancestor. -/
theorem Acyclic.diagnose_of_silent (acyclic : w.Acyclic)
    (all : w.Levels id (closer ++ ancestor :: further)) {d : Interface}
    (silent : ∀ level ∈ closer, ∀ name ∈ d.names, w.own? level name = none) :
    diagnose (w.resolve id) d = diagnose (w.resolve ancestor) d := by
  refine diagnose_congr fun name declared => ?_
  have exposed : w.Exposed id ancestor name :=
    ⟨closer, further, all, fun level member => silent level member name declared⟩
  exact exposed.resolve_eq acyclic

section New

variable {other : HolderId}

/-- The chain of a holder that exists leads to holders that exist. -/
theorem WellLinked.size_notMem_chain (linked : w.WellLinked) (old : other ≠ w.holders.size) :
    w.holders.size ∉ w.chain other := by
  intro member
  rcases (linked.acyclic.mem_chain_iff.1 member).cases_tail with same | ⟨last, _, link⟩
  · exact old same.symm
  · exact linked.not_delegates_size last link

/-- A new holder is not met by those that were there before. -/
theorem WellLinked.levels_add (linked : w.WellLinked) (h : Holder)
    (old : other ≠ w.holders.size) : (w.add h).2.Levels other (w.chain other) := by
  refine (linked.acyclic.levels_chain other).of_kept_links fun level member => ?_
  rw [parent?_add, if_neg]
  rintro rfl
  exact linked.size_notMem_chain old member

/-- Names go on to stand for the same members on the holders that were there before. -/
theorem WellLinked.resolve_add (linked : w.WellLinked) {h : Holder}
    (acyclic : (w.add h).2.Acyclic) (old : other ≠ w.holders.size) (name : String) :
    (w.add h).2.resolve other name = w.resolve other name := by
  refine linked.acyclic.resolve_of_kept acyclic (linked.levels_add h old) fun level member => ?_
  rw [own?_add, if_neg]
  rintro rfl
  exact linked.size_notMem_chain old member

/-- On a new holder a name stands for the member that it came with, and without one for what the
name stands for on the prototype that it delegates to. -/
theorem WellLinked.resolve_new (linked : w.WellLinked) {h : Holder}
    (allowed : w.mayDelegate h.kind h.parent? = true) (name : String) :
    (w.add h).2.resolve w.holders.size name =
      (h.own? name).or (h.parent?.bind (w.resolve · name)) := by
  have acyclic := (linked.add h allowed).acyclic
  rw [acyclic.resolve_eq_own_or, own?_add, if_pos rfl, parent?_add, if_pos rfl]
  cases parent : h.parent? with
  | none => rfl
  | some p =>
    have old : p ≠ w.holders.size := by
      rintro rfl
      have prototype := (mayDelegate_some.1 (parent ▸ allowed)).2
      rw [kind?_size] at prototype
      cases prototype
    rw [Option.bind_some, Option.bind_some, linked.resolve_add acyclic old]

/-- A copy has the members of the original and delegates where the original does, so a name
stands for the same member on both. -/
theorem WellLinked.resolve_copy (linked : w.WellLinked) {kind : Kind} {source copy : HolderId}
    (copied : w.perform (.copy kind source) = (.created copy, after)) (name : String) :
    after.own? copy name = w.own? source name ∧
      after.resolve copy name = w.resolve source name := by
  simp only [perform] at copied
  split at copied <;> rename_i made <;> cases copied
  rename_i h
  obtain ⟨original, found, copied⟩ := Option.bind_eq_some_iff.1 made
  obtain ⟨-, sameOwn, sameLink, -⟩ := Holder.eq_of_copyAs? copied
  have own := w.own?_add h w.holders.size name
  have resolved := linked.resolve_new (linked.mayDelegate_of_copyAs? found copied) name
  constructor
  · refine own.trans ?_
    rw [if_pos rfl, sameOwn, own?, found, Option.bind_some]
  · refine resolved.trans ?_
    rw [sameOwn, sameLink, linked.acyclic.resolve_eq_own_or source, own?, parent?, found,
      Option.bind_some, Option.bind_some]

/-- A new holder below a prototype has the chain of the prototype behind it, which is what it
was, and owns nothing. So it has the diagnosis that the prototype had and has. -/
theorem WellLinked.diagnose_created (linked : w.WellLinked) {kind : Kind}
    (delegates : kind.delegates = true)
    (acyclic : (w.add (.blank (some ancestor) kind)).2.Acyclic)
    (old : ancestor ≠ w.holders.size) (d : Interface) :
    let after := (w.add (.blank (some ancestor) kind)).2
    after.chain w.holders.size = w.holders.size :: after.chain ancestor ∧
      diagnose (after.resolve w.holders.size) d = diagnose (after.resolve ancestor) d ∧
      diagnose (after.resolve ancestor) d = diagnose (w.resolve ancestor) d := by
  intro after
  have link : after.parent? w.holders.size = some ancestor := by
    rw [parent?_add, if_pos rfl, Holder.parent?_blank, if_pos delegates]
  have above := linked.levels_add (.blank (some ancestor) kind) old
  have all : after.Levels w.holders.size (w.holders.size :: w.chain ancestor) :=
    Levels.link link above
  have blank : ∀ name, after.own? w.holders.size name = none := fun name => by
    rw [own?_add, if_pos rfl, Holder.own?_blank]
  refine ⟨?_, ?_, diagnose_congr fun name _ => linked.resolve_add acyclic old name⟩
  · rw [acyclic.chain_eq all, acyclic.chain_eq above]
  · obtain ⟨further, chain_eq⟩ := w.chain_eq_cons ancestor
    have divided : after.Levels w.holders.size ([w.holders.size] ++ ancestor :: further) :=
      chain_eq ▸ all
    refine acyclic.diagnose_of_silent divided fun level member name _ => ?_
    rw [List.mem_singleton.1 member]
    exact blank name

end New

/-- In every reachable world a holder is diagnosed like an ancestor for each declaration whose
name no level below the ancestor owns: a reason against the one is a reason against the other.
For any other declaration it is the verdict on the member of the closest owner below the
ancestor that is reported, whatever the ancestor and the levels above it own. So if no level
below the ancestor owns a declared name, both have one diagnosis and conform together. That
is so for every object and every prototype that was just created below a prototype, which
was not refused and has not changed the diagnosis of this prototype. -/
theorem conformance_is_inherited_unless_shadowed (reachable : w.Reachable) (d : Interface) :
    (∀ id closer ancestor further, w.chain id = closer ++ ancestor :: further →
      (∀ s ∈ d.signatures, (∀ level ∈ closer, w.own? level s.name = none) →
        ∀ reason, reason.signature = s → (reason ∈ (diagnose (w.resolve id) d).reasons ↔
          reason ∈ (diagnose (w.resolve ancestor) d).reasons)) ∧
      (∀ s ∈ d.signatures, ∀ member, closer.findSome? (w.own? · s.name) = some member →
        ∃ verdict, Verdict s (some member) verdict ∧ ∀ reason, reason.signature = s →
          (reason ∈ (diagnose (w.resolve id) d).reasons ↔ verdict = some reason)) ∧
      ((∀ level ∈ closer, ∀ name ∈ d.names, w.own? level name = none) →
        diagnose (w.resolve id) d = diagnose (w.resolve ancestor) d ∧
          (conforms (w.resolve id) d = true ↔ conforms (w.resolve ancestor) d = true))) ∧
    ∀ kind ancestor, kind.delegates = true → w.kind? ancestor = some .prototype →
      ∃ id after, w.perform (.create kind (some ancestor)) = (.created id, after) ∧
        after.chain id = id :: after.chain ancestor ∧
        diagnose (after.resolve id) d = diagnose (after.resolve ancestor) d ∧
        diagnose (after.resolve id) d = diagnose (w.resolve ancestor) d ∧
        (conforms (after.resolve id) d = true ↔ conforms (w.resolve ancestor) d = true) := by
  have linked := reachable.wellLinked
  have acyclic := linked.acyclic
  constructor
  · intro id closer ancestor further split
    have all := split ▸ acyclic.levels_chain id
    refine ⟨fun s declared silent reason about => ?_, fun s declared member closest => ?_,
      fun silent => ?_⟩
    · have exposed : w.Exposed id ancestor s.name := ⟨closer, further, all, silent⟩
      rw [mem_reasons_iff_of_declared declared about, mem_reasons_iff_of_declared declared about,
        exposed.resolve_eq acyclic]
    · refine ⟨objection? (some member) s, verdict_objection? _ s, fun reason about => ?_⟩
      rw [mem_reasons_iff_of_declared declared about, acyclic.resolve_of_owned_below all closest]
    · have same := acyclic.diagnose_of_silent all silent
      exact ⟨same, by rw [conforms, same, conforms]⟩
  · intro kind ancestor delegates prototype
    have allowed : w.mayDelegate kind (some ancestor) = true :=
      mayDelegate_some.2 ⟨delegates, prototype⟩
    have created : w.perform (.create kind (some ancestor)) =
        (.created w.holders.size, (w.add (.blank (some ancestor) kind)).2) := by
      simp only [perform, allowed, if_true]
      rfl
    have acyclicAfter := (linked.add _ (mayDelegate_blank allowed)).acyclic
    have old : ancestor ≠ w.holders.size := by
      rintro rfl
      rw [kind?_size] at prototype
      cases prototype
    obtain ⟨chain_eq, same, kept⟩ := linked.diagnose_created delegates acyclicAfter old d
    have both := same.trans kept
    exact ⟨_, _, created, chain_eq, same, both, by rw [conforms, both, conforms]⟩

/-- Four levels, of which the last one owns a good function that the one below it hides behind
null. The object misses the function although the prototype at the top has it; a second
function both of them miss. An object that is created right below the top misses only that. -/
theorem hidden_function_is_not_inherited :
    Reason.missingFunction ⟨"f", ["x", "y"]⟩ ∈
        (diagnose ((empty.run hiddenFunction).resolve 3) pairedInterface).reasons ∧
      Reason.missingFunction ⟨"f", ["x", "y"]⟩ ∉
        (diagnose ((empty.run hiddenFunction).resolve 0) pairedInterface).reasons ∧
      Reason.missingFunction ⟨"g", []⟩ ∈
        (diagnose ((empty.run hiddenFunction).resolve 3) pairedInterface).reasons ∧
      ∃ id after, (empty.run hiddenFunction).perform (.create .object (some 0)) =
          (.created id, after) ∧
        (diagnose (after.resolve id) pairedInterface).reasons = [.missingFunction ⟨"g", []⟩] := by
  obtain ⟨inherited, created⟩ :=
    conformance_is_inherited_unless_shadowed ⟨hiddenFunction, rfl⟩ pairedInterface
  obtain ⟨alike, shadowed, _⟩ := inherited 3 [3, 2, 1] 0 [] rfl
  obtain ⟨verdict, given, reported⟩ := shadowed ⟨"f", ["x", "y"]⟩ (by decide) (.data .null) rfl
  refine ⟨(reported _ rfl).2 ?_, by decide, (alike ⟨"g", []⟩ (by decide) ?_ _ rfl).2 ?_, ?_⟩
  · cases given with
    | absent _ => rfl
    | data truthy => exact absurd Falsy.null truthy
  · decide
  · decide
  · obtain ⟨id, after, performed, _, _, same, _⟩ := created .object 0 rfl rfl
    exact ⟨id, after, performed, same ▸ by decide⟩

end StructuralTyping.World
