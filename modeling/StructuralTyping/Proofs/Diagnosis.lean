import Mathlib.Data.List.Forall2
import StructuralTyping.Proofs.Lookup
import StructuralTyping.Proofs.Zero
/-!
# What a diagnosis says

A declared name stands for the member of the closest level that owns one, and that
member alone decides. If there is none, or if it is data that stands for nothing, the
function is missing, also where a level further up owns a good one. Other data is not
a function, and a callable passes exactly with the declared number of parameters. A
diagnosis lists what is found in the order of the declarations. To conform, to pass
an assertion and to be applied are one condition, and they fail with one refusal.
-/
set_option autoImplicit false

namespace StructuralTyping

/-- The data that stands for nothing: null, false, the empty string, and every number
whose value is zero. -/
inductive Falsy : Value → Prop where
  | null : Falsy .null
  | negative : Falsy (.boolean false)
  | blank : Falsy (.string "")
  | zero {n : Number} (vanishes : n.value = 0) : Falsy (.number n)

/-- What the closest member that a declared name stands for says about the declaration. -/
inductive Verdict (s : Signature) : Option Member → Option Reason → Prop where
  | unknown : Verdict s none (some (.missingFunction s))
  | absent {v : Value} (falsy : Falsy v) :
      Verdict s (some (.data v)) (some (.missingFunction s))
  | data {v : Value} (truthy : ¬Falsy v) : Verdict s (some (.data v)) (some (.notAFunction s))
  | arity {f : Callable} (differs : f.arity ≠ s.arity) :
      Verdict s (some (.function f)) (some (.incorrectParameterCount f.arity s))
  | passed {f : Callable} (agrees : f.arity = s.arity) : Verdict s (some (.function f)) none

/-- A name that stands for a callable with the declared number of parameters. -/
def Satisfies (candidate : Candidate) (s : Signature) : Prop :=
  ∃ f, candidate s.name = some (.function f) ∧ f.arity = s.arity

/-- The reason against what a declared name stands for, if there is one. -/
def objection? (found : Option Member) (s : Signature) : Option Reason :=
  match inspect found s with
  | .ok _ => none
  | .error reason => some reason

/-- Callables that implement declarations, in the same order and each under its declared
name. -/
def Implements (candidate : Candidate) : List Signature → List (String × Callable) → Prop :=
  List.Forall₂ fun s entry =>
    entry.1 = s.name ∧ candidate s.name = some (.function entry.2) ∧ entry.2.arity = s.arity

/-- The values that count as absent are those that stand for nothing. -/
theorem Value.isAbsent_iff_falsy (v : Value) : v.isAbsent = true ↔ Falsy v := by
  constructor
  · intro isAbsent
    cases v with
    | null => exact Falsy.null
    | boolean b =>
      cases b with
      | false => exact Falsy.negative
      | true => cases isAbsent
    | number n => exact Falsy.zero (n.isZero_iff_value.1 isAbsent)
    | string s =>
      have blank : s = "" := by simpa [Value.isAbsent] using isAbsent
      exact blank ▸ Falsy.blank
    | list items => cases isAbsent
    | mapping entries => cases isAbsent
  · intro falsy
    cases falsy with
    | null => rfl
    | negative => rfl
    | blank => rfl
    | zero vanishes => exact (Number.isZero_iff_value _).2 vanishes

/-- A declaration passes exactly with a callable of the declared number of parameters. -/
theorem inspect_eq_ok_iff {found : Option Member} {s : Signature} {f : Callable} :
    inspect found s = .ok f ↔ found = some (.function f) ∧ f.arity = s.arity := by
  rcases found with _ | ⟨g | v⟩
  · simp [inspect]
  · by_cases agrees : g.arity = s.arity
    · simp only [inspect, Member.isAbsent, Bool.false_eq_true, if_false, if_pos agrees,
        Except.ok.injEq, Option.some.injEq, Member.function.injEq]
      constructor
      · rintro rfl
        exact ⟨rfl, agrees⟩
      · exact And.left
    · simp only [inspect, Member.isAbsent, Bool.false_eq_true, if_false, if_neg agrees,
        Option.some.injEq, Member.function.injEq, reduceCtorEq, false_iff, not_and]
      rintro rfl
      exact agrees
  · simp only [inspect]
    split <;> simp

/-- What an inspection objects to is the verdict on what was found. -/
theorem verdict_objection? (found : Option Member) (s : Signature) :
    Verdict s found (objection? found s) := by
  rcases found with _ | ⟨f | v⟩
  · exact Verdict.unknown
  · by_cases agrees : f.arity = s.arity
    · simpa [objection?, inspect, Member.isAbsent, agrees] using Verdict.passed agrees
    · simpa [objection?, inspect, Member.isAbsent, agrees] using Verdict.arity agrees
  · by_cases falsy : Falsy v
    · have isAbsent := v.isAbsent_iff_falsy.2 falsy
      simpa [objection?, inspect, Member.isAbsent, isAbsent] using Verdict.absent falsy
    · have present : v.isAbsent = false :=
        Bool.eq_false_iff.2 fun isAbsent => falsy (v.isAbsent_iff_falsy.1 isAbsent)
      simpa [objection?, inspect, Member.isAbsent, present] using Verdict.data falsy

/-- There is no objection exactly to a declaration that is satisfied. -/
theorem objection?_eq_none_iff {candidate : Candidate} {s : Signature} :
    objection? (candidate s.name) s = none ↔ Satisfies candidate s := by
  constructor
  · intro silent
    cases inspected : inspect (candidate s.name) s with
    | ok f => exact ⟨f, inspect_eq_ok_iff.1 inspected⟩
    | error reason => simp [objection?, inspected] at silent
  · rintro ⟨f, found⟩
    rw [objection?, inspect_eq_ok_iff.2 found]

/-- The reasons of a survey are its objections, in the order of the declarations. -/
theorem survey_reasons (candidate : Candidate) (signatures : List Signature) :
    (survey candidate signatures).2 =
      signatures.filterMap fun s => objection? (candidate s.name) s := by
  induction signatures with
  | nil => rfl
  | cons s later inductionHypothesis =>
    rw [List.filterMap_cons, ← inductionHypothesis]
    cases inspected : inspect (candidate s.name) s <;> simp [survey, objection?, inspected]

/-- A survey gives one verdict on each declaration, and keeps those that are reasons in
the order of the declarations. -/
theorem survey_verdicts (candidate : Candidate) (signatures : List Signature) :
    ∃ verdicts,
      List.Forall₂ (fun s verdict => Verdict s (candidate s.name) verdict) signatures verdicts ∧
      (survey candidate signatures).2 = verdicts.filterMap id := by
  refine ⟨signatures.map fun s => objection? (candidate s.name) s, ?_, ?_⟩
  · rw [List.forall₂_map_right_iff, List.forall₂_same]
    intro s _
    exact verdict_objection? _ s
  · rw [survey_reasons, List.filterMap_map]
    rfl

/-- A survey has no reasons exactly if every declaration is satisfied. -/
theorem survey_clean_iff (candidate : Candidate) (signatures : List Signature) :
    (survey candidate signatures).2 = [] ↔ ∀ s ∈ signatures, Satisfies candidate s := by
  rw [survey_reasons, List.filterMap_eq_nil_iff]
  simp only [objection?_eq_none_iff]

/-- A survey without reasons has found an implementation. -/
theorem implements_survey {candidate : Candidate} {signatures : List Signature}
    (clean : (survey candidate signatures).2 = []) :
    Implements candidate signatures (survey candidate signatures).1 := by
  induction signatures with
  | nil => exact List.Forall₂.nil
  | cons s later inductionHypothesis =>
    cases inspected : inspect (candidate s.name) s with
    | ok f =>
      simp only [survey, inspected] at clean ⊢
      exact List.Forall₂.cons ⟨rfl, inspect_eq_ok_iff.1 inspected⟩ (inductionHypothesis clean)
    | error reason => simp [survey, inspected] at clean

/-- A survey asks the candidate for the declared names only. -/
theorem survey_congr {candidate other : Candidate} {signatures : List Signature}
    (alike : ∀ s ∈ signatures, candidate s.name = other s.name) :
    survey candidate signatures = survey other signatures := by
  induction signatures with
  | nil => rfl
  | cons s later inductionHypothesis =>
    obtain ⟨same, sameLater⟩ := List.forall_mem_cons.1 alike
    rw [survey, survey, same, inductionHypothesis sameLater]

/-- Each declaration is looked at on its own. -/
theorem survey_append (candidate : Candidate) (first second : List Signature) :
    survey candidate (first ++ second) =
      ((survey candidate first).1 ++ (survey candidate second).1,
        (survey candidate first).2 ++ (survey candidate second).2) := by
  induction first with
  | nil => rfl
  | cons s later inductionHypothesis =>
    rw [List.cons_append, survey, survey, inductionHypothesis]
    cases inspect (candidate s.name) s <;> rfl

/-- A diagnosis consists of the reasons of the survey. -/
theorem diagnose_reasons (candidate : Candidate) (d : Interface) :
    (diagnose candidate d).reasons = (survey candidate d.signatures).2 := by
  cases reasons : (survey candidate d.signatures).2 <;> simp [diagnose, implementation, reasons]

/-- A reason is about the declaration that it was found against. -/
theorem signature_of_verdict {s : Signature} {found : Option Member} {reason : Reason}
    (verdict : Verdict s found (some reason)) : reason.signature = s := by
  cases verdict <;> rfl

/-- A diagnosis has one reason for each declaration that meets with an objection, in their
order. -/
theorem diagnose_signatures (candidate : Candidate) (d : Interface) :
    (diagnose candidate d).reasons.map Reason.signature =
      d.signatures.filter fun s => (objection? (candidate s.name) s).isSome := by
  rw [diagnose_reasons, survey_reasons]
  induction d.signatures with
  | nil => rfl
  | cons s later inductionHypothesis =>
    rw [List.filterMap_cons, List.filter_cons]
    cases objected : objection? (candidate s.name) s with
    | none => simpa using inductionHypothesis
    | some reason =>
      have verdict := verdict_objection? (candidate s.name) s
      rw [objected] at verdict
      simp [signature_of_verdict verdict, inductionHypothesis]

/-- The functions that a diagnosis is about have different names. -/
theorem nodup_names_reasons (candidate : Candidate) (d : Interface) :
    ((diagnose candidate d).reasons.map fun reason => reason.signature.name).Nodup := by
  have names : (diagnose candidate d).reasons.map (fun reason => reason.signature.name) =
      ((diagnose candidate d).reasons.map Reason.signature).map Signature.name := by
    rw [List.map_map]
    rfl
  rw [names, diagnose_signatures]
  exact d.distinct.sublist (List.filter_sublist.map Signature.name)

/-- A diagnosis gives a reason exactly if its declaration is one of the interface, and what
the name stands for on the candidate meets with this objection. -/
theorem mem_reasons_iff {candidate : Candidate} {d : Interface} {reason : Reason} :
    reason ∈ (diagnose candidate d).reasons ↔
      reason.signature ∈ d.signatures ∧
        objection? (candidate reason.signature.name) reason.signature = some reason := by
  rw [diagnose_reasons, survey_reasons, List.mem_filterMap]
  constructor
  · rintro ⟨s, declared, objected⟩
    have verdict := verdict_objection? (candidate s.name) s
    rw [objected] at verdict
    obtain rfl := signature_of_verdict verdict
    exact ⟨declared, objected⟩
  · rintro ⟨declared, objected⟩
    exact ⟨reason.signature, declared, objected⟩

/-- A reason of a diagnosis is the verdict on what its name stands for. -/
theorem verdict_of_mem {candidate : Candidate} {d : Interface} {reason : Reason}
    (member : reason ∈ (diagnose candidate d).reasons) :
    Verdict reason.signature (candidate reason.signature.name) (some reason) := by
  have verdict := verdict_objection? (candidate reason.signature.name) reason.signature
  rwa [(mem_reasons_iff.1 member).2] at verdict

/-- What a diagnosis says about a declaration is the objection to what its name stands for. -/
theorem mem_reasons_iff_of_declared {candidate : Candidate} {d : Interface} {s : Signature}
    (declared : s ∈ d.signatures) {reason : Reason} (about : reason.signature = s) :
    reason ∈ (diagnose candidate d).reasons ↔
      objection? (candidate s.name) s = some reason := by
  rw [mem_reasons_iff, about, and_iff_right declared]

/-- An implementation is found exactly if the diagnosis is empty, and is refused with
the reasons of the diagnosis. -/
theorem implementation_eq (candidate : Candidate) (d : Interface) :
    implementation candidate d =
      if (diagnose candidate d).reasons = [] then .ok (survey candidate d.signatures).1
      else .error ⟨(diagnose candidate d).reasons⟩ := by
  rw [diagnose_reasons]
  cases reasons : (survey candidate d.signatures).2 <;> simp [implementation, reasons]

/-- An implementation is what a survey without reasons has found. -/
theorem implementation_eq_ok_iff {candidate : Candidate} {d : Interface}
    {callables : List (String × Callable)} :
    implementation candidate d = .ok callables ↔
      survey candidate d.signatures = (callables, []) := by
  rw [implementation_eq, diagnose_reasons, Prod.ext_iff]
  split <;> simp [*]

/-- The implementation that is found implements the declarations. -/
theorem implements_of_implementation {candidate : Candidate} {d : Interface}
    {callables : List (String × Callable)} (found : implementation candidate d = .ok callables) :
    Implements candidate d.signatures callables := by
  have surveyed := implementation_eq_ok_iff.1 found
  have implements := implements_survey (congrArg Prod.snd surveyed)
  rwa [surveyed] at implements

/-- Candidates that agree on the declared names have the same implementation, or the same
reasons against them. -/
theorem implementation_congr {candidate other : Candidate} {d : Interface}
    (alike : ∀ name ∈ d.names, candidate name = other name) :
    implementation candidate d = implementation other d := by
  have surveyed : survey candidate d.signatures = survey other d.signatures :=
    survey_congr fun s member => alike s.name (List.mem_map_of_mem member)
  rw [implementation, implementation, surveyed]

/-- Candidates that agree on the declared names have the same diagnosis. -/
theorem diagnose_congr {candidate other : Candidate} {d : Interface}
    (alike : ∀ name ∈ d.names, candidate name = other name) :
    diagnose candidate d = diagnose other d := by
  rw [diagnose, diagnose, implementation_congr alike]

/-- To conform is to be diagnosed without reasons. -/
theorem conforms_iff (candidate : Candidate) (d : Interface) :
    conforms candidate d = true ↔ (diagnose candidate d).reasons = [] := by
  simp [conforms, Diagnosis.conforms]

/-- An implementation is found exactly on a candidate that conforms. -/
theorem conforms_iff_implementation (candidate : Candidate) (d : Interface) :
    conforms candidate d = true ↔ ∃ callables, implementation candidate d = .ok callables := by
  rw [conforms_iff, implementation_eq]
  split <;> simp [*]

/-- A candidate conforms exactly if it satisfies every declaration. -/
theorem conforms_iff_satisfies (candidate : Candidate) (d : Interface) :
    conforms candidate d = true ↔ ∀ s ∈ d.signatures, Satisfies candidate s := by
  rw [conforms_iff, diagnose_reasons, survey_clean_iff]

/-- An assertion fails with the reasons of the diagnosis. -/
theorem assertConforms_eq (candidate : Candidate) (d : Interface) :
    assertConforms candidate d =
      if (diagnose candidate d).reasons = [] then .ok ()
      else .error ⟨(diagnose candidate d).reasons⟩ := by
  simp [assertConforms, Diagnosis.result, Diagnosis.conforms]

namespace World

variable {w : World}

/-- An implementation is copied exactly if the candidate conforms, and refused with the
reasons of the diagnosis. -/
theorem apply_eq (w : World) (target candidate : HolderId) (d : Interface) :
    w.apply target d candidate =
      if (diagnose (w.resolve candidate) d).reasons = [] then
        .ok (w.defineAll target (survey (w.resolve candidate) d.signatures).1)
      else .error ⟨(diagnose (w.resolve candidate) d).reasons⟩ := by
  rw [apply, implementation_eq]
  by_cases clean : (diagnose (w.resolve candidate) d).reasons = [] <;> simp [clean]

/-- Maps are their own only level. -/
theorem WellLinked.chain_of_not_delegates (linked : w.WellLinked) {id : HolderId} {kind : Kind}
    (found : w.kind? id = some kind) (map : kind.delegates = false) : w.chain id = [id] := by
  cases link : w.parent? id with
  | none => exact linked.acyclic.chain_eq (Levels.last link)
  | some parent =>
    obtain ⟨other, same, delegates⟩ := linked.delegating link
    rw [Option.some.inj (found.symm.trans same), delegates] at map
    cases map

/-- In every reachable world the diagnosis of a holder is, in the order of the
declarations, what the closest members that its chain owns say about them. The
holder conforms if and only if the diagnosis is empty, if and only if an assertion
succeeds, and if and only if its implementation can be applied to any one target, or to
all; otherwise both fail with one refusal, which has the reasons of the diagnosis and
their messages joined. -/
theorem closest_members_decide_conformance (reachable : w.Reachable) (candidate : HolderId)
    (d : Interface) :
    w.Levels candidate (w.chain candidate) ∧
      (∀ kind, w.kind? candidate = some kind → kind.delegates = false →
        w.chain candidate = [candidate]) ∧
      (∃ verdicts,
        List.Forall₂ (fun s verdict =>
            Verdict s ((w.chain candidate).findSome? (w.own? · s.name)) verdict)
          d.signatures verdicts ∧
        (diagnose (w.resolve candidate) d).reasons = verdicts.filterMap id) ∧
      (conforms (w.resolve candidate) d = true ↔ (diagnose (w.resolve candidate) d).reasons = []) ∧
      (conforms (w.resolve candidate) d = true ↔
        assertConforms (w.resolve candidate) d = .ok ()) ∧
      (∀ target, conforms (w.resolve candidate) d = true ↔
        ∃ after, w.apply target d candidate = .ok after) ∧
      ((diagnose (w.resolve candidate) d).reasons ≠ [] →
        ∃ refusal : Rejection, refusal.reasons = (diagnose (w.resolve candidate) d).reasons ∧
          refusal.message = String.intercalate " | " (diagnose (w.resolve candidate) d).messages ∧
          (diagnose (w.resolve candidate) d).joined = some refusal.message ∧
          assertConforms (w.resolve candidate) d = .error refusal ∧
          ∀ target, w.apply target d candidate = .error refusal) := by
  have linked := reachable.wellLinked
  refine ⟨linked.acyclic.levels_chain candidate, fun _ => linked.chain_of_not_delegates, ?_,
    conforms_iff _ d, ?_, fun target => ?_, fun unsatisfied => ?_⟩
  · obtain ⟨verdicts, each, reasons⟩ := survey_verdicts (w.resolve candidate) d.signatures
    simp only [resolve_eq_findSome?] at each
    exact ⟨verdicts, each, by rw [diagnose_reasons, reasons]⟩
  · rw [conforms_iff, assertConforms_eq]
    split <;> simp_all
  · rw [conforms_iff, apply_eq]
    split <;> simp_all
  · refine ⟨⟨(diagnose (w.resolve candidate) d).reasons⟩, rfl, rfl, ?_, ?_, fun target => ?_⟩
    · simp [Diagnosis.joined, Diagnosis.conforms, unsatisfied, Rejection.message]
    · rw [assertConforms_eq, if_neg unsatisfied]
    · rw [apply_eq, if_neg unsatisfied]

/-- A prototype with a function, and an object of it that hides the function behind null,
holds a list, and has a function of its own. -/
def threeFaults : List Action :=
  [.create .prototype none, .create .object (some 0),
    .set 0 "f" (.callable 2 fun _ => .ok .null), .set 1 "f" (.data .null),
    .set 1 "g" (.data (.list [])), .set 1 "h" (.callable 3 fun _ => .ok .null)]

/-- What the object fails to provide. -/
def faultyInterface : Interface := ⟨[⟨"f", ["x", "y"]⟩, ⟨"g", []⟩, ⟨"h", ["x"]⟩], by decide⟩

/-- The object fails in each of the three ways, and its implementation is refused for all
of them, whatever the target. -/
theorem three_faults_refused :
    ∃ refusal : Rejection,
      refusal.reasons = [.missingFunction ⟨"f", ["x", "y"]⟩, .notAFunction ⟨"g", []⟩,
        .incorrectParameterCount 3 ⟨"h", ["x"]⟩] ∧
      assertConforms ((empty.run threeFaults).resolve 1) faultyInterface = .error refusal ∧
      ∀ target, (empty.run threeFaults).apply target faultyInterface 1 = .error refusal := by
  obtain ⟨_, _, _, _, _, _, refused⟩ :=
    closest_members_decide_conformance ⟨threeFaults, rfl⟩ 1 faultyInterface
  obtain ⟨refusal, reasons, _, _, asserted, applied⟩ := refused (by decide)
  exact ⟨refusal, reasons.trans (by decide), asserted, applied⟩

end World

end StructuralTyping
