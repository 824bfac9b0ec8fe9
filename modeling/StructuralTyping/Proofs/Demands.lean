import Mathlib.Data.List.Nodup
import Mathlib.Data.List.Perm.Basic
import StructuralTyping.Diagnosis.Finding
import StructuralTyping.Proofs.Application
/-!
# What interfaces demand

An interface demands names with numbers of parameters. In which order it declares them, and
how it labels the parameters, is seen in reports only. Each declaration is looked at on its
own, and the labels are not looked at, so declarations that make the same demands meet with
the same findings in their own order, and lead to the same callables. These go under different
names, so it does not matter in which order they are written, wherever the target is.
-/
set_option autoImplicit false

namespace StructuralTyping

/-- A name and the number of its parameters, whatever their labels. -/
def Signature.demand (s : Signature) : String × Nat := (s.name, s.arity)

/-- What an interface demands, in the order of its declarations. -/
def Interface.demands (d : Interface) : List (String × Nat) := d.signatures.map Signature.demand

section Labels

variable {β : Type} {answer : Signature → Option β}

/-- An answer that goes by the demand is the same for all declarations that make it. -/
theorem filterMap_eq_of_demands (unlabelled : ∀ s t, s.demand = t.demand → answer s = answer t)
    {first second : List Signature}
    (same : first.map Signature.demand = second.map Signature.demand) :
    first.filterMap answer = second.filterMap answer := by
  induction first generalizing second with
  | nil =>
    rw [List.map_nil, eq_comm, List.map_eq_nil_iff] at same
    rw [same]
  | cons s later inductionHypothesis =>
    obtain ⟨t, others, rfl, alike, sameLater⟩ := List.map_eq_cons_iff.1 same.symm
    rw [List.filterMap_cons, List.filterMap_cons, unlabelled s t alike.symm,
      inductionHypothesis sameLater.symm]

/-- Answers that go by the demand come in the order of the declarations that make it. -/
theorem perm_of_demands (unlabelled : ∀ s t, s.demand = t.demand → answer s = answer t)
    {first second : List Signature}
    (same : (first.map Signature.demand).Perm (second.map Signature.demand)) :
    (first.filterMap answer).Perm (second.filterMap answer) := by
  -- the first declarations in the order of the second ones, with their own labels
  obtain ⟨middle, labels, order⟩ : ∃ middle : List Signature, first.map Signature.demand =
      middle.map Signature.demand ∧ middle.Perm second := by
    change Relation.Comp (· = List.map Signature.demand ·) List.Perm _ _
    rwa [List.eq_map_comp_perm]
  rw [filterMap_eq_of_demands unlabelled labels]
  exact order.filterMap answer

end Labels

section Survey

variable {candidate : Candidate} {d e : Interface}

/-- The callable that satisfies a declaration on a candidate, under the declared name. -/
def implementer? (candidate : Candidate) (s : Signature) : Option (String × Callable) :=
  match inspect (candidate s.name) s with
  | .ok f => some (s.name, f)
  | .error _ => none

/-- The callables of a survey implement its declarations, in their order. -/
theorem survey_callables (candidate : Candidate) (signatures : List Signature) :
    (survey candidate signatures).1 = signatures.filterMap (implementer? candidate) := by
  induction signatures with
  | nil => rfl
  | cons s later inductionHypothesis =>
    rw [List.filterMap_cons, ← inductionHypothesis]
    cases inspected : inspect (candidate s.name) s <;> simp [survey, implementer?, inspected]

/-- Labels do not decide whether what was found satisfies a declaration, and they are left out
of what a reason comes down to. -/
theorem inspect_of_demand (found : Option Member) {s t : Signature} (same : s.demand = t.demand) :
    (inspect found s).mapError Reason.finding = (inspect found t).mapError Reason.finding := by
  obtain ⟨sameName, sameArity⟩ := Prod.mk.inj same
  rcases found with _ | ⟨f | v⟩
  · simp [inspect, Except.mapError, sameName, sameArity]
  · by_cases agrees : f.arity = t.arity <;>
      simp [inspect, Member.isAbsent, Except.mapError, sameName, sameArity, agrees]
  · by_cases absent : v.isAbsent = true <;>
      simp [inspect, Member.isAbsent, Except.mapError, sameName, sameArity, absent]

/-- Signatures that demand the same are implemented by the same callable. -/
theorem implementer?_eq_of_demand (s t : Signature) (same : s.demand = t.demand) :
    implementer? candidate s = implementer? candidate t := by
  have sameName : s.name = t.name := congrArg Prod.fst same
  have alike := inspect_of_demand (candidate t.name) same
  rw [implementer?, implementer?, sameName]
  cases first : inspect (candidate t.name) s <;> cases second : inspect (candidate t.name) t <;>
    simp_all [Except.mapError]

/-- Labels do not show in what is found. -/
theorem finding_eq_of_demand (s t : Signature) (same : s.demand = t.demand) :
    (objection? (candidate s.name) s).map Reason.finding =
      (objection? (candidate t.name) t).map Reason.finding := by
  have sameName : s.name = t.name := congrArg Prod.fst same
  have alike := inspect_of_demand (candidate t.name) same
  rw [objection?, objection?, sameName]
  cases first : inspect (candidate t.name) s <;> cases second : inspect (candidate t.name) t <;>
    simp_all [Except.mapError]

/-- The findings of a diagnosis are those of its declarations, in their order. -/
theorem findings_eq (candidate : Candidate) (d : Interface) :
    (diagnose candidate d).findings =
      d.signatures.filterMap fun s => (objection? (candidate s.name) s).map Reason.finding := by
  rw [Diagnosis.findings, diagnose_reasons, survey_reasons, List.map_filterMap]

/-- An interface makes no demand twice. -/
theorem Interface.nodup_demands (d : Interface) : d.demands.Nodup := by
  refine List.Nodup.of_map Prod.fst ?_
  rw [Interface.demands, List.map_map]
  exact d.distinct

/-- Interfaces with the same demands have them in some order each. -/
theorem Interface.perm_demands (same : ∀ demand, demand ∈ d.demands ↔ demand ∈ e.demands) :
    d.demands.Perm e.demands :=
  (List.perm_ext_iff_of_nodup d.nodup_demands e.nodup_demands).2 same

/-- Interfaces with the same demands meet with the same findings, in the order of their own
declarations. -/
theorem findings_perm (candidate : Candidate) (same : d.demands.Perm e.demands) :
    (diagnose candidate e).findings.Perm (diagnose candidate d).findings := by
  rw [findings_eq, findings_eq]
  exact perm_of_demands finding_eq_of_demand same.symm

/-- The functions that fail are declared in the order in which they are reported. -/
theorem sublist_names_findings (candidate : Candidate) (d : Interface) :
    ((diagnose candidate d).findings.map Finding.function).Sublist d.names := by
  have functions : (diagnose candidate d).findings.map Finding.function =
      ((diagnose candidate d).reasons.map Reason.signature).map Signature.name := by
    rw [Diagnosis.findings, List.map_map, List.map_map]
    rfl
  rw [functions, diagnose_signatures]
  exact List.filter_sublist.map Signature.name

/-- Interfaces with the same demands are implemented by the same candidates, and by the same
callables in the order of their own declarations. -/
theorem implementation_of_demands (same : d.demands.Perm e.demands)
    {callables : List (String × Callable)} (found : implementation candidate d = .ok callables) :
    ∃ others, implementation candidate e = .ok others ∧ callables.Perm others := by
  have surveyed := implementation_eq_ok_iff.1 found
  have clean : (diagnose candidate e).findings = [] := by
    have none : (diagnose candidate d).findings = [] := by
      rw [Diagnosis.findings, diagnose_reasons, surveyed, List.map_nil]
    exact List.perm_nil.1 (none ▸ findings_perm candidate same)
  refine ⟨(survey candidate e.signatures).1, ?_, ?_⟩
  · rw [implementation_eq, if_pos (List.map_eq_nil_iff.1 clean)]
  · have first : (survey candidate d.signatures).1 = callables := congrArg Prod.fst surveyed
    rw [← first, survey_callables, survey_callables]
    exact perm_of_demands implementer?_eq_of_demand same

/-- Interfaces with the same demands have the same candidates that conform. -/
theorem conforms_eq_of_demands (candidate : Candidate) (same : d.demands.Perm e.demands) :
    conforms candidate d = conforms candidate e := by
  rw [Bool.eq_iff_iff, conforms_iff_implementation, conforms_iff_implementation]
  constructor
  · rintro ⟨callables, found⟩
    obtain ⟨others, otherFound, _⟩ := implementation_of_demands same found
    exact ⟨others, otherFound⟩
  · rintro ⟨others, otherFound⟩
    obtain ⟨callables, found, _⟩ := implementation_of_demands same.symm otherFound
    exact ⟨callables, found⟩

end Survey

namespace World

variable {d e : Interface}

/-- A callable that was put under a name is owned under it, if there is the holder. -/
theorem own?_define (w : World) (id other : HolderId) (name asked : String) (f : Callable) :
    (w.define id name f).own? other asked =
      if other = id ∧ asked = name ∧ (w.holder? id).isSome = true then some (.function f)
      else w.own? other asked := by
  rw [define_eq, own?_set]
  by_cases here : other = id ∧ asked = name
  · obtain ⟨rfl, rfl⟩ := here
    cases found : w.holder? other with
    | none => simp [own?, found]
    | some h => simp
  · rw [if_neg here, if_neg fun both => here ⟨both.1, both.2.1⟩]

/-- Callables under two names can be put there in either order. -/
theorem define_comm (w : World) (id : HolderId) {name other : String} (differ : name ≠ other)
    (f g : Callable) :
    (w.define id name f).define id other g = (w.define id other g).define id name f := by
  refine ext (fun level => ?_) (fun level => ?_) (fun level asked => ?_) rfl
  · simp only [define_eq, kind?_set]
  · simp only [define_eq, parent?_set]
  · simp only [own?_define, holder?_isSome_define]
    by_cases first : asked = name
    · simp [first, differ]
    · simp [first]

/-- In which order callables are put under different names does not matter. -/
theorem defineAll_perm (w : World) (id : HolderId) {first second : List (String × Callable)}
    (reordered : first.Perm second) (distinct : (first.map Prod.fst).Nodup) :
    w.defineAll id first = w.defineAll id second := by
  induction reordered generalizing w with
  | nil => rfl
  | cons entry _ inductionHypothesis => exact inductionHypothesis _ (List.nodup_cons.1 distinct).2
  | swap entry other later =>
    have differ : other.1 ≠ entry.1 := by
      rintro same
      simp [same] at distinct
    simp only [defineAll, define_comm w id differ]
  | trans reordered _ before after =>
    exact (before w distinct).trans (after w ((reordered.map Prod.fst).nodup_iff.1 distinct))

/-- Interfaces that make the same demands are served alike, in whatever order they declare
their functions and however they label the parameters. A candidate conforms to both or to
neither. To apply it for the one or for the other ends in one world, also where target and
candidate are one holder or delegate to each other, or it is refused for both, and the world
stays. And the same functions fail for the same reasons, reported in the order in which the
interface that was asked about declares them. -/
theorem equal_demands_are_served_alike
    (same : ∀ demand, demand ∈ d.demands ↔ demand ∈ e.demands) (w : World)
    (target candidate : HolderId) :
    conforms (w.resolve candidate) d = conforms (w.resolve candidate) e ∧
      ((∃ after, w.perform (.apply target d candidate) = (.done, after) ∧
          w.perform (.apply target e candidate) = (.done, after)) ∨
        ∃ refusal other, w.perform (.apply target d candidate) = (.rejected refusal, w) ∧
          w.perform (.apply target e candidate) = (.rejected other, w)) ∧
      (diagnose (w.resolve candidate) e).findings.Perm
        (diagnose (w.resolve candidate) d).findings ∧
      ((diagnose (w.resolve candidate) e).findings.map Finding.function).Sublist e.names := by
  have reordered := Interface.perm_demands same
  refine ⟨conforms_eq_of_demands _ reordered, ?_, findings_perm _ reordered,
    sublist_names_findings _ e⟩
  cases found : implementation (w.resolve candidate) d with
  | ok callables =>
    obtain ⟨others, otherFound, permuted⟩ := implementation_of_demands reordered found
    have distinct : (callables.map Prod.fst).Nodup :=
      (implements_of_implementation found).names ▸ d.distinct
    refine Or.inl ⟨_, perform_apply_of_ok found target, ?_⟩
    rw [perform_apply_of_ok otherFound, defineAll_perm w target permuted distinct]
  | error refusal =>
    cases otherFound : implementation (w.resolve candidate) e with
    | ok others =>
      obtain ⟨callables, accepted, _⟩ := implementation_of_demands reordered.symm otherFound
      rw [found] at accepted
      cases accepted
    | error other =>
      exact Or.inr ⟨refusal, other, perform_apply_of_error found target,
        perform_apply_of_error otherFound target⟩

/-- The interface of the pair, declared from behind and with other labels. -/
def relabelledInterface : Interface := ⟨[⟨"g", []⟩, ⟨"f", ["first", "second"]⟩], by decide⟩

/-- The lower prototype of the pair is applied to the upper one, from which it inherits, for
either interface, and nobody can tell afterwards for which. The upper one misses a function by
itself, whichever asks. -/
theorem relabelled_pair_is_served_alike :
    (∃ after, (empty.run inheritingPair).perform (.apply 0 pairedInterface 1) = (.done, after) ∧
        (empty.run inheritingPair).perform (.apply 0 relabelledInterface 1) = (.done, after)) ∧
      (diagnose ((empty.run inheritingPair).resolve 0) relabelledInterface).findings =
        [⟨.missingFunction, "g", 0, none⟩] := by
  have same : ∀ demand, demand ∈ pairedInterface.demands ↔ demand ∈ relabelledInterface.demands := by
    simp [pairedInterface, relabelledInterface, Interface.demands, Signature.demand,
      Signature.arity, or_comm]
  obtain ⟨_, applied, _⟩ := equal_demands_are_served_alike same (empty.run inheritingPair) 0 1
  obtain ⟨_, _, found, _⟩ := equal_demands_are_served_alike same (empty.run inheritingPair) 0 0
  constructor
  · rcases applied with done | ⟨refusal, other, refused, _⟩
    · exact done
    · have accepted : ((empty.run inheritingPair).perform (.apply 0 pairedInterface 1)).1 = .done :=
        rfl
      rw [refused] at accepted
      cases accepted
  · have alone : (diagnose ((empty.run inheritingPair).resolve 0) pairedInterface).findings =
        [⟨.missingFunction, "g", 0, none⟩] := by decide
    exact List.perm_singleton.1 (alone ▸ found)

end World

end StructuralTyping
