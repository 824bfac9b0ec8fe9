import StructuralTyping.Proofs.Visibility
/-!
# Implementations applied one after the other

Applying an implementation looks at the candidate first and then writes callables on the
target under the declared names. Another application sees that only where it asks for one
of these names. So two applications of interfaces that declare no name in common do not
notice each other, wherever their targets and candidates are, and their order does not
matter: neither for what they answer nor for the world in the end.

A candidate is not disturbed by being applied, also where the target is one of its own
levels. So a second application finds the callables of the first one and writes what is
there already; and to apply an interface is to apply the parts that it is made of.
-/
set_option autoImplicit false

namespace StructuralTyping.World

variable {w after : World} {target other : HolderId} {first second : List (String × Callable)}

/-- A name that comes in one of two lots of callables does not come in the other. -/
theorem lookup_eq_none_of_apart
    (apart : ∀ name ∈ first.map Prod.fst, name ∉ second.map Prod.fst) (name : String) :
    first.lookup name = none ∨ second.lookup name = none := by
  by_cases given : name ∈ first.map Prod.fst
  · right
    rw [← Option.not_isSome_iff_eq_none, Table.lookup_isSome_iff]
    exact apart name given
  · left
    rwa [← Option.not_isSome_iff_eq_none, Table.lookup_isSome_iff]

/-- Callables under names of which none comes twice can be put there in either order, on
one holder or on two. -/
theorem defineAll_comm (present : (w.holder? target).isSome = true)
    (otherPresent : (w.holder? other).isSome = true) (distinct : (first.map Prod.fst).Nodup)
    (otherDistinct : (second.map Prod.fst).Nodup)
    (apart : ∀ name ∈ first.map Prod.fst, name ∉ second.map Prod.fst) :
    (w.defineAll target first).defineAll other second =
      (w.defineAll other second).defineAll target first := by
  refine ext (fun id => ?_) (fun id => ?_) (fun id name => ?_) ?_
  · simp only [kind?_defineAll]
  · simp only [parent?_defineAll]
  · have presentAfter := (w.holder?_isSome_defineAll other target second).trans present
    have otherPresentAfter := (w.holder?_isSome_defineAll target other first).trans otherPresent
    rw [own?_defineAll otherPresentAfter otherDistinct, own?_defineAll present distinct,
      own?_defineAll presentAfter distinct, own?_defineAll otherPresent otherDistinct]
    -- under each name at most one of the two lots has something to write
    rcases lookup_eq_none_of_apart apart name with silent | silent
    · simp [silent]
    · simp [silent]
  · simp only [callables_defineAll]

/-- Callables that are put where they are already change nothing. -/
theorem defineAll_again (present : (w.holder? target).isSome = true)
    (distinct : (first.map Prod.fst).Nodup) :
    (w.defineAll target first).defineAll target first = w.defineAll target first := by
  refine ext (fun id => ?_) (fun id => ?_) (fun id name => ?_) ?_
  · simp only [kind?_defineAll]
  · simp only [parent?_defineAll]
  · have presentAfter := (w.holder?_isSome_defineAll target target first).trans present
    rw [own?_defineAll presentAfter distinct, own?_defineAll present distinct]
    split
    · rw [← Option.or_assoc, Option.or_self]
    · rfl
  · simp only [callables_defineAll]

variable {candidate : HolderId} {d e : Interface}

/-- An application is not noticed by one of an interface that declares other names. -/
theorem implementation_of_apart (acyclic : w.Acyclic) (present : (w.holder? target).isSome = true)
    (apart : ∀ name ∈ d.names, name ∉ e.names) (candidate otherCandidate : HolderId) :
    implementation ((w.perform (.apply target d candidate)).2.resolve otherCandidate) e =
      implementation (w.resolve otherCandidate) e := by
  cases found : implementation (w.resolve candidate) d with
  | ok callables =>
    have applied := perform_apply_of_ok found target
    obtain ⟨_, writes⟩ := overwrites_of_applied present applied
    rw [applied]
    refine implementation_congr fun name declared => ?_
    have unwritten : name ∉ d.names := fun given => apart name given declared
    exact writes.resolve_of_unwritten acyclic otherCandidate (if_neg unwritten)
  | error rejection => rw [perform_apply_of_error found]

/-- A candidate resolves every name as before it was applied. -/
theorem resolve_candidate (acyclic : w.Acyclic) (present : (w.holder? target).isSome = true)
    (applied : w.perform (.apply target d candidate) = (.done, after)) :
    after.resolve candidate = w.resolve candidate := by
  obtain ⟨_, writes⟩ := overwrites_of_applied present applied
  funext name
  refine writes.resolve_of_same acyclic fun member given => ?_
  split at given
  · exact given
  · cases given

/-- Applications of interfaces that declare no name in common commute: each gives the answer
that it gives on its own, and both orders end in one world. Their targets may be one
holder, and targets and candidates may delegate to each other in any way. -/
theorem disjoint_applications_commute (reachable : w.Reachable)
    (present : (w.holder? target).isSome = true) (otherPresent : (w.holder? other).isSome = true)
    (apart : ∀ name ∈ d.names, name ∉ e.names) (candidate otherCandidate : HolderId) :
    ∃ answer otherAnswer between otherBetween after,
      w.perform (.apply target d candidate) = (answer, between) ∧
      between.perform (.apply other e otherCandidate) = (otherAnswer, after) ∧
      w.perform (.apply other e otherCandidate) = (otherAnswer, otherBetween) ∧
      otherBetween.perform (.apply target d candidate) = (answer, after) := by
  have acyclic := reachable.wellLinked.acyclic
  have unnoticed := implementation_of_apart acyclic present apart candidate otherCandidate
  have otherUnnoticed := implementation_of_apart acyclic otherPresent
    (fun name given declared => apart name declared given) otherCandidate candidate
  cases found : implementation (w.resolve candidate) d with
  | ok callables =>
    have applied := perform_apply_of_ok found target
    rw [applied] at unnoticed
    rw [found] at otherUnnoticed
    cases otherFound : implementation (w.resolve otherCandidate) e with
    | ok others =>
      have otherApplied := perform_apply_of_ok otherFound other
      rw [otherFound] at unnoticed
      rw [otherApplied] at otherUnnoticed
      have names := (implements_of_implementation found).names
      have otherNames := (implements_of_implementation otherFound).names
      refine ⟨_, _, _, _, _, applied, perform_apply_of_ok unnoticed other, otherApplied, ?_⟩
      rw [perform_apply_of_ok otherUnnoticed target, defineAll_comm present otherPresent]
      · exact names ▸ d.distinct
      · exact otherNames ▸ e.distinct
      · rw [names, otherNames]
        exact apart
    | error rejection =>
      have otherRefused := perform_apply_of_error otherFound other
      rw [otherFound] at unnoticed
      exact ⟨_, _, _, _, _, applied, perform_apply_of_error unnoticed other, otherRefused, applied⟩
  | error rejection =>
    have refused := perform_apply_of_error found target
    rw [found] at otherUnnoticed
    refine ⟨_, _, _, _, _, refused, Prod.ext rfl rfl, Prod.ext rfl rfl, ?_⟩
    exact perform_apply_of_error otherUnnoticed target

/-- The two functions of the pair, in an interface each. -/
def upperInterface : Interface := ⟨[⟨"f", ["x", "y"]⟩], by decide⟩

/-- What the lower of the pair provides and does not inherit. -/
def lowerInterface : Interface := ⟨[⟨"g", []⟩], by decide⟩

/-- Two prototypes, of which one delegates to the other, get a function from each other:
each is the target of one application and the candidate of the other one. -/
theorem exchange_commutes :
    ∃ between otherBetween after,
      (empty.run inheritingPair).perform (.apply 1 upperInterface 0) = (.done, between) ∧
      between.perform (.apply 0 lowerInterface 1) = (.done, after) ∧
      (empty.run inheritingPair).perform (.apply 0 lowerInterface 1) = (.done, otherBetween) ∧
      otherBetween.perform (.apply 1 upperInterface 0) = (.done, after) := by
  have apart : ∀ name ∈ upperInterface.names, name ∉ lowerInterface.names := by decide
  have lower : ((empty.run inheritingPair).holder? 1).isSome = true := rfl
  have upper : ((empty.run inheritingPair).holder? 0).isSome = true := rfl
  obtain ⟨answer, otherAnswer, between, otherBetween, after, first, second, otherFirst,
    otherSecond⟩ := disjoint_applications_commute ⟨inheritingPair, rfl⟩ lower upper apart 0 1
  obtain rfl : .done = answer := congrArg Prod.fst first
  obtain rfl : .done = otherAnswer := congrArg Prod.fst otherFirst
  exact ⟨between, otherBetween, after, first, second, otherFirst, otherSecond⟩

/-- Applying once more changes nothing: if an implementation could be applied, it can be
applied again right after, and the world stays as it is. And a candidate that conforms to
two interfaces which declare no name in common is applied for both of them, one after the
other, to the same effect as for the one interface that declares the functions of the
first and then those of the second. Target and candidate may be any two holders, or one. -/
theorem applying_again_changes_nothing (reachable : w.Reachable)
    (present : (w.holder? target).isSome = true) (candidate : HolderId) :
    (∀ d after, w.perform (.apply target d candidate) = (.done, after) →
      after.perform (.apply target d candidate) = (.done, after)) ∧
    ∀ d e, conforms (w.resolve candidate) d = true → conforms (w.resolve candidate) e = true →
      (∀ name ∈ d.names, name ∉ e.names) →
      ∃ both between after, d.insertAll e.signatures = .ok both ∧
        both.signatures = d.signatures ++ e.signatures ∧
        w.perform (.apply target d candidate) = (.done, between) ∧
        between.perform (.apply target e candidate) = (.done, after) ∧
        w.perform (.apply target both candidate) = (.done, after) := by
  have acyclic := reachable.wellLinked.acyclic
  constructor
  · intro d after applied
    have kept := resolve_candidate acyclic present applied
    obtain ⟨callables, found, rfl⟩ := implementation_of_applied applied
    have distinct : (callables.map Prod.fst).Nodup :=
      (implements_of_implementation found).names ▸ d.distinct
    rw [← kept] at found
    rw [perform_apply_of_ok found, defineAll_again present distinct]
  · intro d e conforming otherConforming apart
    obtain ⟨callables, found⟩ := (conforms_iff_implementation _ d).1 conforming
    obtain ⟨others, otherFound⟩ := (conforms_iff_implementation _ e).1 otherConforming
    have distinct : ((d.signatures ++ e.signatures).map Signature.name).Nodup := by
      rw [List.map_append, List.nodup_append]
      refine ⟨d.distinct, e.distinct, fun name given another declared same => ?_⟩
      exact apart name given (same ▸ declared)
    have applied := perform_apply_of_ok found target
    have bothFound : implementation (w.resolve candidate) ⟨_, distinct⟩ =
        .ok (callables ++ others) := by
      rw [implementation_eq_ok_iff] at found otherFound ⊢
      rw [survey_append, found, otherFound, List.append_nil]
    refine ⟨⟨_, distinct⟩, _, _, Interface.insertAll_eq_ok_iff.2 rfl, rfl, applied, ?_,
      perform_apply_of_ok bothFound target⟩
    rw [← resolve_candidate acyclic present applied] at otherFound
    rw [perform_apply_of_ok otherFound, defineAll_append]

/-- What the lower prototype provides is applied to the upper one, from which it inherits
part of it: all at once, once more, or function by function. -/
theorem upper_prototype_implemented_again :
    (∃ after, (empty.run inheritingPair).perform (.apply 0 pairedInterface 1) = (.done, after) ∧
        after.perform (.apply 0 pairedInterface 1) = (.done, after)) ∧
      ∃ between after,
        (empty.run inheritingPair).perform (.apply 0 upperInterface 1) = (.done, between) ∧
        between.perform (.apply 0 lowerInterface 1) = (.done, after) ∧
        (empty.run inheritingPair).perform (.apply 0 pairedInterface 1) = (.done, after) := by
  have upper : ((empty.run inheritingPair).holder? 0).isSome = true := rfl
  obtain ⟨again, split⟩ := applying_again_changes_nothing ⟨inheritingPair, rfl⟩ upper 1
  have applied : (empty.run inheritingPair).perform (.apply 0 pairedInterface 1) =
      (.done, ((empty.run inheritingPair).perform (.apply 0 pairedInterface 1)).2) :=
    Prod.ext rfl rfl
  refine ⟨⟨_, applied, again pairedInterface _ applied⟩, ?_⟩
  obtain ⟨both, between, after, _, listed, first, second, together⟩ :=
    split upperInterface lowerInterface (by decide) (by decide) (by decide)
  obtain rfl : pairedInterface = both := Interface.ext listed.symm
  exact ⟨between, after, first, second, together⟩

end StructuralTyping.World
