import StructuralTyping.Proofs.Succession
/-!
# What a diagnosis says about calls

A diagnosis and a call look a name up in the same way, and then each of them decides on its
own what to make of the member that it found. They agree: a function that is missing for the
one is no member for the other, and what is not a function for the one cannot be called. In
every other case the call runs the callable that the name stands for, also if the number of
its parameters is not the declared one, and whatever it answers is its own doing. Where an
implementation was applied, calls under the declared names are the calls of the candidate.
-/
set_option autoImplicit false

namespace StructuralTyping

variable {s : Signature} {found : Option Member}

/-- A function that is missing cannot be found by a call. -/
theorem invoke_of_missing (verdict : Verdict s found (some (.missingFunction s)))
    (arguments : List Value) : invoke s.name found arguments = .error (.noSuchMember s.name) := by
  cases verdict with
  | unknown => rfl
  | @absent v falsy =>
    have isAbsent : v.isAbsent = true := v.isAbsent_iff_falsy.2 falsy
    simp [invoke, Member.isAbsent, isAbsent]

/-- What is not a function cannot be called. -/
theorem invoke_of_data (verdict : Verdict s found (some (.notAFunction s)))
    (arguments : List Value) : invoke s.name found arguments = .error (.notCallable s.name) := by
  cases verdict with
  | @data v truthy =>
    have present : ¬v.isAbsent = true := fun isAbsent => truthy (v.isAbsent_iff_falsy.1 isAbsent)
    simp [invoke, Member.isAbsent, present]

/-- A callable is what was found, if it is neither missing nor something else. -/
theorem function_of_verdict {verdict : Option Reason} (given : Verdict s found verdict)
    (notMissing : verdict ≠ some (.missingFunction s))
    (notData : verdict ≠ some (.notAFunction s)) : ∃ f, found = some (.function f) := by
  cases given with
  | unknown => exact absurd rfl notMissing
  | absent falsy => exact absurd rfl notMissing
  | data truthy => exact absurd rfl notData
  | @arity f differs => exact ⟨f, rfl⟩
  | @passed f agrees => exact ⟨f, rfl⟩

/-- A call runs the callable that was found. Its arguments are not looked at. -/
theorem invoke_function (name : String) (f : Callable) (arguments : List Value) :
    invoke name (some (.function f)) arguments = f.call arguments := rfl

namespace World

variable {w after : World} {target candidate : HolderId} {d : Interface}

/-- Under the declared names, the target of an application resolves what the candidate
resolved. -/
theorem resolve_target (present : (w.holder? target).isSome = true)
    (applied : w.perform (.apply target d candidate) = (.done, after)) {name : String}
    (declared : name ∈ d.names) : after.resolve target name = w.resolve candidate name := by
  obtain ⟨satisfied, writes⟩ := overwrites_of_applied present applied
  obtain ⟨f, found⟩ := exists_function_of_mem_names satisfied declared
  rw [found]
  apply resolve_of_own
  rw [writes.own, if_pos rfl, if_pos declared, found, Option.some_or]

/-- Calls depend on a holder by what it resolves. -/
theorem call_congr {id other : HolderId} {name : String}
    (same : after.resolve id name = w.resolve other name) (arguments : List Value) :
    after.call id name arguments = w.call other name arguments := by
  rw [call, same, call]

/-- The diagnosis of a holder foretells every call of a declared function. Where the function
is missing, there is no such member; where it is not a function, it cannot be called; and in
every other case, right or wrong number of parameters, the call gives what the callable that
the name stands for makes of the same arguments. So on a holder that conforms no such call
fails to find its callable, and every answer is the callable's own. After an application,
calls of the declared functions on the target and on the candidate give what they gave on
the candidate before. -/
theorem diagnosis_foretells_calls (reachable : w.Reachable) (id : HolderId) (d : Interface) :
    (∀ s ∈ d.signatures, ∀ arguments,
      (.missingFunction s ∈ (diagnose (w.resolve id) d).reasons →
        w.call id s.name arguments = .error (.noSuchMember s.name)) ∧
      (.notAFunction s ∈ (diagnose (w.resolve id) d).reasons →
        w.call id s.name arguments = .error (.notCallable s.name)) ∧
      (.missingFunction s ∉ (diagnose (w.resolve id) d).reasons →
        .notAFunction s ∉ (diagnose (w.resolve id) d).reasons →
        ∃ f, w.resolve id s.name = some (.function f) ∧
          w.call id s.name arguments = f.call arguments)) ∧
    (conforms (w.resolve id) d = true → ∀ s ∈ d.signatures,
      ∃ f, w.resolve id s.name = some (.function f) ∧ f.arity = s.arity ∧
        ∀ arguments, w.call id s.name arguments = f.call arguments) ∧
    ∀ target after, (w.holder? target).isSome = true →
      w.perform (.apply target d id) = (.done, after) →
      ∀ s ∈ d.signatures, ∀ arguments,
        after.call target s.name arguments = w.call id s.name arguments ∧
        after.call id s.name arguments = w.call id s.name arguments := by
  refine ⟨fun s declared arguments => ?_, fun conforming s declared => ?_,
    fun target after present applied s declared arguments => ?_⟩
  · have verdict := verdict_objection? (w.resolve id s.name) s
    refine ⟨fun missing => ?_, fun data => ?_, fun notMissing notData => ?_⟩
    · have objected : objection? (w.resolve id s.name) s = some (.missingFunction s) :=
        (mem_reasons_iff.1 missing).2
      rw [objected] at verdict
      exact invoke_of_missing verdict arguments
    · have objected : objection? (w.resolve id s.name) s = some (.notAFunction s) :=
        (mem_reasons_iff.1 data).2
      rw [objected] at verdict
      exact invoke_of_data verdict arguments
    · obtain ⟨f, found⟩ := function_of_verdict verdict
        (fun objected => notMissing (mem_reasons_iff.2 ⟨declared, objected⟩))
        (fun objected => notData (mem_reasons_iff.2 ⟨declared, objected⟩))
      exact ⟨f, found, by rw [call, found, invoke_function]⟩
  · obtain ⟨f, found, arity⟩ := (conforms_iff_satisfies _ d).1 conforming s declared
    exact ⟨f, found, arity, fun arguments => by rw [call, found, invoke_function]⟩
  · have named : s.name ∈ d.names := List.mem_map_of_mem declared
    have kept := resolve_candidate reachable.wellLinked.acyclic present applied
    exact ⟨call_congr (resolve_target present applied named) arguments,
      call_congr (congrFun kept s.name) arguments⟩

/-- A prototype with a function that lists its arguments and one that refuses every call, and
an object of it that hides one more function behind a list. -/
def partlyHidden : List Action :=
  [.create .prototype none, .create .object (some 0),
    .set 0 "collect" (.callable 2 fun arguments => .ok (.list arguments)),
    .set 0 "refuse" (.callable 0 fun _ => .error (.wrongType 0 "number")),
    .set 0 "hidden" (.callable 0 fun _ => .ok .null), .set 1 "hidden" (.data (.list []))]

/-- What the object should provide. -/
def callingInterface : Interface :=
  ⟨[⟨"collect", ["x"]⟩, ⟨"hidden", []⟩, ⟨"absent", []⟩], by decide⟩

/-- What it provides. -/
def refusingInterface : Interface := ⟨[⟨"refuse", []⟩], by decide⟩

/-- Calls on the object: one with fewer arguments than parameters runs all the same, one
meets the list, one meets nothing. The refusal that was inherited is the callable's own, and
is what the prototype answers once it was given the implementation of the object. -/
theorem hidden_function_cannot_be_called :
    (empty.run partlyHidden).call 1 "collect" [.null] = .ok (.list [.null]) ∧
      (empty.run partlyHidden).call 1 "hidden" [] = .error (.notCallable "hidden") ∧
      (empty.run partlyHidden).call 1 "absent" [] = .error (.noSuchMember "absent") ∧
      (empty.run partlyHidden).call 1 "refuse" [] = .error (.wrongType 0 "number") ∧
      ((empty.run partlyHidden).perform (.apply 0 refusingInterface 1)).2.call 0 "refuse" [] =
        .error (.wrongType 0 "number") := by
  have reachable : (empty.run partlyHidden).Reachable := ⟨partlyHidden, rfl⟩
  obtain ⟨foretold, _, _⟩ := diagnosis_foretells_calls reachable 1 callingInterface
  obtain ⟨_, own, applied⟩ := diagnosis_foretells_calls reachable 1 refusingInterface
  obtain ⟨f, found, _, calls⟩ := own (by decide) ⟨"refuse", []⟩ (by decide)
  have refused : (empty.run partlyHidden).call 1 "refuse" [] = .error (.wrongType 0 "number") := by
    cases found
    exact calls []
  refine ⟨?_, (foretold ⟨"hidden", []⟩ (by decide) []).2.1 (by decide),
    (foretold ⟨"absent", []⟩ (by decide) []).1 (by decide), refused, ?_⟩
  · obtain ⟨g, collecting, called⟩ :=
      (foretold ⟨"collect", ["x"]⟩ (by decide) [.null]).2.2 (by decide) (by decide)
    cases collecting
    exact called
  · have present : ((empty.run partlyHidden).holder? 0).isSome = true := rfl
    have performed : (empty.run partlyHidden).perform (.apply 0 refusingInterface 1) =
        (.done, ((empty.run partlyHidden).perform (.apply 0 refusingInterface 1)).2) :=
      Prod.ext rfl rfl
    rw [(applied 0 _ present performed ⟨"refuse", []⟩ (by decide) []).1]
    exact refused

end World

end StructuralTyping
