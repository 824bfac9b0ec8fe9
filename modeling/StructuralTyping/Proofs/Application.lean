import StructuralTyping.Proofs.Diagnosis
/-!
# Applying an implementation

An implementation is looked up as a whole before the first callable is written, and
what is written afterwards changes nothing that is still to be written. So it does
not matter how the target and the candidate delegate to each other, or whether they
are one: the target ends up with what the declared names stood for on the candidate
beforehand, and everything else stays as it was. If one declaration is not satisfied,
nothing is written.
-/
set_option autoImplicit false

namespace StructuralTyping

/-- The callables of an implementation go under the declared names. -/
theorem Implements.names {candidate : Candidate} {signatures : List Signature}
    {callables : List (String × Callable)}
    (implements : Implements candidate signatures callables) :
    callables.map Prod.fst = signatures.map Signature.name := by
  induction implements with
  | nil => rfl
  | cons first _ inductionHypothesis =>
    rw [List.map_cons, List.map_cons, first.1, inductionHypothesis]

/-- Under a declared name an implementation has what the name stands for on the
candidate, and it has nothing under other names. -/
theorem Implements.lookup {candidate : Candidate} {signatures : List Signature}
    {callables : List (String × Callable)} (implements : Implements candidate signatures callables)
    (name : String) :
    (callables.lookup name).map .function =
      if name ∈ signatures.map Signature.name then candidate name else none := by
  induction implements with
  | nil => rfl
  | @cons s entry _ _ first _ inductionHypothesis =>
    obtain ⟨written, f⟩ := entry
    obtain ⟨same, found, _⟩ := first
    dsimp only at same found
    subst same
    rw [Table.lookup_cons_eq, List.map_cons]
    by_cases here : name = s.name
    · subst here
      simp [found]
    · rw [if_neg here, inductionHypothesis]
      simp only [List.mem_cons, here, false_or]

/-- A candidate with an implementation satisfies every declaration. -/
theorem Implements.satisfies {candidate : Candidate} {signatures : List Signature}
    {callables : List (String × Callable)}
    (implements : Implements candidate signatures callables) :
    ∀ s ∈ signatures, Satisfies candidate s := by
  induction implements with
  | nil => simp
  | @cons s entry _ _ first _ inductionHypothesis =>
    exact List.forall_mem_cons.2 ⟨⟨entry.2, first.2⟩, inductionHypothesis⟩

/-- A declared name that is satisfied stands for a callable. -/
theorem exists_function_of_mem_names {candidate : Candidate} {d : Interface}
    (satisfied : ∀ s ∈ d.signatures, Satisfies candidate s) {name : String}
    (declared : name ∈ d.names) : ∃ f, candidate name = some (.function f) := by
  obtain ⟨s, member, rfl⟩ := List.mem_map.1 declared
  obtain ⟨f, found, _⟩ := satisfied s member
  exact ⟨f, found⟩

namespace World

variable {w : World}

/-- An implementation that is found is written. -/
theorem perform_apply_of_ok {candidate : HolderId} {d : Interface}
    {callables : List (String × Callable)}
    (found : implementation (w.resolve candidate) d = .ok callables) (target : HolderId) :
    w.perform (.apply target d candidate) = (.done, w.defineAll target callables) := by
  simp only [perform, apply, found]

/-- Nothing is written if there is no implementation. -/
theorem perform_apply_of_error {candidate : HolderId} {d : Interface} {rejection : Rejection}
    (refused : implementation (w.resolve candidate) d = .error rejection) (target : HolderId) :
    w.perform (.apply target d candidate) = (.rejected rejection, w) := by
  simp only [perform, apply, refused]

/-- What was applied is an implementation that was found. -/
theorem implementation_of_applied {target candidate : HolderId} {d : Interface} {after : World}
    (applied : w.perform (.apply target d candidate) = (.done, after)) :
    ∃ callables, implementation (w.resolve candidate) d = .ok callables ∧
      after = w.defineAll target callables := by
  cases found : implementation (w.resolve candidate) d with
  | ok callables =>
    rw [perform_apply_of_ok found] at applied
    exact ⟨callables, rfl, (Prod.mk.inj applied).2.symm⟩
  | error rejection =>
    rw [perform_apply_of_error found] at applied
    cases applied

/-- After an implementation was written, its target owns what the declared names stand
for on the candidate, and no other member has changed. -/
theorem own?_implemented {target : HolderId} (present : (w.holder? target).isSome = true)
    {candidate : Candidate} {d : Interface} {callables : List (String × Callable)}
    (implements : Implements candidate d.signatures callables) (id : HolderId) (name : String) :
    (w.defineAll target callables).own? id name =
      if id = target ∧ name ∈ d.names then candidate name else w.own? id name := by
  have distinct : (callables.map Prod.fst).Nodup := implements.names ▸ d.distinct
  rw [own?_defineAll present distinct, implements.lookup, ← Interface.names]
  by_cases here : id = target
  · by_cases declared : name ∈ d.names
    · obtain ⟨f, found⟩ := exists_function_of_mem_names implements.satisfies declared
      rw [if_pos here, if_pos declared, if_pos ⟨here, declared⟩, found]
      rfl
    · rw [if_pos here, if_neg declared, if_neg fun both => declared both.2]
      rfl
  · rw [if_neg here, if_neg fun both => here both.1]

/-- Applying an implementation is all or nothing. If one declaration is not satisfied by
the candidate, the answer is a refusal with the reasons of the diagnosis, and the world
stays as it was. Otherwise the target owns, under each declared name, the very callable
that the name stood for on the candidate before; every other member of every holder,
every link, every kind and the callables in existence stay as they were, and the target
conforms. Target and candidate may be any two holders, or one. -/
theorem apply_copies_a_snapshot (w : World) (target candidate : HolderId) (d : Interface)
    (present : (w.holder? target).isSome = true) :
    ((∃ s ∈ d.signatures, ¬Satisfies (w.resolve candidate) s) →
      w.perform (.apply target d candidate) =
        (.rejected ⟨(diagnose (w.resolve candidate) d).reasons⟩, w)) ∧
      ((∀ s ∈ d.signatures, Satisfies (w.resolve candidate) s) →
        ∃ after, w.perform (.apply target d candidate) = (.done, after) ∧
          (∀ name ∈ d.names, ∃ f, w.resolve candidate name = some (.function f) ∧
            after.own? target name = some (.function f)) ∧
          (∀ id name, ¬(id = target ∧ name ∈ d.names) → after.own? id name = w.own? id name) ∧
          (∀ id, after.parent? id = w.parent? id) ∧ (∀ id, after.kind? id = w.kind? id) ∧
          after.callables = w.callables ∧ conforms (after.resolve target) d = true) := by
  have clean_iff : (diagnose (w.resolve candidate) d).reasons = [] ↔
      ∀ s ∈ d.signatures, Satisfies (w.resolve candidate) s := by
    rw [← conforms_iff, conforms_iff_satisfies]
  constructor
  · rintro ⟨s, member, unsatisfied⟩
    have refused : ¬(diagnose (w.resolve candidate) d).reasons = [] :=
      fun clean => unsatisfied (clean_iff.1 clean s member)
    simp [perform, apply_eq, refused]
  · intro satisfied
    have clean := clean_iff.2 satisfied
    have implements := implements_survey (diagnose_reasons _ d ▸ clean)
    have own := own?_implemented present implements
    have copied : ∀ name ∈ d.names, ∃ f, w.resolve candidate name = some (.function f) ∧
        (w.defineAll target (survey (w.resolve candidate) d.signatures).1).own? target name =
          some (.function f) := by
      intro name declared
      obtain ⟨f, found⟩ := exists_function_of_mem_names satisfied declared
      exact ⟨f, found, by rw [own, if_pos ⟨rfl, declared⟩, found]⟩
    refine ⟨w.defineAll target (survey (w.resolve candidate) d.signatures).1, ?_, copied, ?_,
      fun id => w.parent?_defineAll target id _, fun id => w.kind?_defineAll target id _,
      w.callables_defineAll target _, ?_⟩
    · simp [perform, apply_eq, clean]
    · intro id name other
      rw [own, if_neg other]
    · refine (conforms_iff_satisfies _ d).2 fun s member => ?_
      obtain ⟨f, found, arity⟩ := satisfied s member
      obtain ⟨g, same, written⟩ := copied s.name (List.mem_map_of_mem member)
      rw [found] at same
      cases same
      exact ⟨f, resolve_of_own written, arity⟩

/-- A prototype with one function, and one below it with another. -/
def inheritingPair : List Action :=
  [.create .prototype none, .create .prototype (some 0),
    .set 0 "f" (.callable 2 fun _ => .ok .null), .set 1 "g" (.callable 0 fun _ => .ok .null)]

/-- What the lower of the two provides. -/
def pairedInterface : Interface := ⟨[⟨"f", ["x", "y"]⟩, ⟨"g", []⟩], by decide⟩

/-- What a prototype inherits and owns can be applied to the very prototype that it
inherits from, but not the other way around. -/
theorem descendant_applied_to_ancestor :
    (∃ after, (empty.run inheritingPair).perform (.apply 0 pairedInterface 1) = (.done, after) ∧
        (∃ g, (empty.run inheritingPair).resolve 1 "g" = some (.function g) ∧
          after.own? 0 "g" = some (.function g)) ∧
        conforms (after.resolve 0) pairedInterface = true) ∧
      (empty.run inheritingPair).perform (.apply 1 pairedInterface 0) =
        (.rejected ⟨[.missingFunction ⟨"g", []⟩]⟩, empty.run inheritingPair) := by
  have applied := (apply_copies_a_snapshot (empty.run inheritingPair) 0 1 pairedInterface rfl).2
  have refused := (apply_copies_a_snapshot (empty.run inheritingPair) 1 0 pairedInterface rfl).1
  constructor
  · obtain ⟨after, performed, copied, _, _, _, _, conformed⟩ := applied (by
      intro s member
      rcases List.mem_cons.1 member with rfl | member
      · exact ⟨_, rfl, rfl⟩
      · rw [List.mem_singleton] at member
        exact member ▸ ⟨_, rfl, rfl⟩)
    exact ⟨after, performed, copied "g" (by decide), conformed⟩
  · refine refused ⟨⟨"g", []⟩, by decide, ?_⟩
    rintro ⟨f, found, _⟩
    cases found

end World

end StructuralTyping
