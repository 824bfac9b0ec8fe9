import StructuralTyping.Diagnosis.Finding
import StructuralTyping.Proofs.Diagnosis
import StructuralTyping.Proofs.ValuePrinting
/-!
# Diagnoses come back from their texts

The text of a diagnosis is read as the records of its reasons, in their order. Names and labels
may hold any characters, and every number of parameters that fits in 64 bits is shown with all
its digits. So the findings of a diagnosis can be had from its text alone. A record has a
declared arity only where it differs from the one that is due; the records themselves would
allow for more, but no diagnosis finds a callable wrong that has the right number of parameters.
-/
set_option autoImplicit false

namespace StructuralTyping

open StructuralTyping.Json (Plain nestingLimit)

/-- All numbers of parameters fit in 64 bits, those that are declared as well as those of the
callables that stand for the declared names. -/
structure Measured (candidate : Candidate) (d : Interface) : Prop where
  expected {s : Signature} (member : s ∈ d.signatures) : s.arity < 2 ^ 64
  declared {s : Signature} {f : Callable} (member : s ∈ d.signatures)
    (found : candidate s.name = some (.function f)) : f.arity < 2 ^ 64

/-- What a record shows of a reason that a diagnosis of the candidate gives. -/
structure Shows (candidate : Candidate) (reason : Reason) (message : String) (record : Value) :
    Prop where
  category : record.field? "class" = some (.string reason.category.name)
  function : record.field? "function" = some (.string reason.signature.name)
  expected : record.field? "expectedArity" = some (.ofNat reason.signature.params.length)
  message : record.field? "message" = some (.string message)
  declared :
    (reason.category = .incorrectParameterCount ∧
      ∃ f, candidate reason.signature.name = some (.function f) ∧
        f.arity ≠ reason.signature.params.length ∧
        record.field? "declaredArity" = some (.ofNat f.arity)) ∨
    (reason.category ≠ .incorrectParameterCount ∧ record.field? "declaredArity" = none)

section Records

variable {candidate : Candidate} {d : Interface} {reason : Reason}

/-- A number below `2 ^ 64` is printed as an integer. -/
theorem plain_ofNat {depth n : Nat} (small : n < 2 ^ 64) : Plain depth (.ofNat n) :=
  Plain.integer (by omega) (by omega)

/-- A record comes back from its text if its numbers do. -/
theorem plain_record {depth : Nat} (expected : reason.signature.arity < 2 ^ 64)
    (declared : ∀ n, reason.declaredArity? = some n → n < 2 ^ 64) :
    Plain (depth + 1) reason.record := by
  have three : ["class", "function", "expectedArity", "message"].Nodup := by decide
  have four : ["class", "function", "expectedArity", "declaredArity", "message"].Nodup := by decide
  rw [Reason.record]
  cases given : reason.declaredArity? with
  | none =>
    refine Plain.mapping three fun entry member => ?_
    simp only [List.append_nil, List.cons_append, List.nil_append, List.mem_cons, List.not_mem_nil,
      or_false] at member
    rcases member with rfl | rfl | rfl | rfl
    · exact Plain.string _
    · exact Plain.string _
    · exact plain_ofNat expected
    · exact Plain.string _
  | some n =>
    refine Plain.mapping four fun entry member => ?_
    simp only [List.cons_append, List.nil_append, List.mem_cons, List.not_mem_nil,
      or_false] at member
    rcases member with rfl | rfl | rfl | rfl | rfl
    · exact Plain.string _
    · exact Plain.string _
    · exact plain_ofNat expected
    · exact plain_ofNat (declared n given)
    · exact Plain.string _

/-- A number that was found belongs to a callable, and differs from the one that is due. -/
theorem function_of_declaredArity {s : Signature} {found : Option Member} {n : Nat}
    (verdict : Verdict s found (some reason)) (declared : reason.declaredArity? = some n) :
    ∃ f, found = some (.function f) ∧ f.arity = n ∧ f.arity ≠ s.arity := by
  cases verdict with
  | unknown => cases declared
  | absent => cases declared
  | data => cases declared
  | arity differs =>
    cases declared
    exact ⟨_, rfl, rfl, differs⟩

/-- Every reason of a diagnosis is shown by its message and by its record. -/
theorem shows_record (member : reason ∈ (diagnose candidate d).reasons) :
    Shows candidate reason reason.message reason.record := by
  have verdict := verdict_of_mem member
  cases reason with
  | missingFunction s => exact ⟨rfl, rfl, rfl, rfl, Or.inr ⟨nofun, rfl⟩⟩
  | notAFunction s => exact ⟨rfl, rfl, rfl, rfl, Or.inr ⟨nofun, rfl⟩⟩
  | incorrectParameterCount n s =>
    obtain ⟨f, found, rfl, differs⟩ := function_of_declaredArity verdict rfl
    exact ⟨rfl, rfl, rfl, rfl, Or.inl ⟨rfl, f, found, differs, rfl⟩⟩

/-- The record of a diagnosis is read back from its text. -/
theorem read_text (measured : Measured candidate d) :
    Json.read (diagnose candidate d).text.toList =
      .ok (.mapping [("reasons", .list ((diagnose candidate d).reasons.map Reason.record))]) := by
  have plain : Plain nestingLimit (diagnose candidate d).record := by
    refine Plain.mapping (by decide : ["reasons"].Nodup) fun entry member => ?_
    rw [List.mem_singleton.1 member]
    refine Plain.list fun record recorded => ?_
    obtain ⟨reason, member, rfl⟩ := List.mem_map.1 recorded
    have due := (mem_reasons_iff.1 member).1
    refine plain_record (measured.expected due) fun n declared => ?_
    obtain ⟨f, found, rfl, -⟩ := function_of_declaredArity (verdict_of_mem member) declared
    exact measured.declared due found
  rw [Diagnosis.text, Json.print, String.toList_ofList]
  exact Json.read_printed plain

/-- The findings of a diagnosis are read back from its text. -/
theorem listOfText?_text (measured : Measured candidate d) :
    Finding.listOfText? (diagnose candidate d).text = some (diagnose candidate d).findings := by
  rw [Finding.listOfText?, read_text measured]
  change ((diagnose candidate d).reasons.map Reason.record).mapM Finding.ofRecord? =
    some ((diagnose candidate d).reasons.map Reason.finding)
  induction (diagnose candidate d).reasons with
  | nil => rfl
  | cons reason later inductionHypothesis =>
    simp [Finding.ofRecord?_record, inductionHypothesis]

end Records

/-- The text of a diagnosis is faithful, where all numbers of parameters fit in 64 bits. It is
read as a mapping with the records of the report and nothing else, one for each reason in order.
Each shows the class of its reason, the name of the function as it was declared, the number of
declared parameters, and the message. A declared arity is shown exactly for a wrong number of
parameters; it is that of the callable that was found, and differs from the one that is due. So
the findings can be read back from the text, and two diagnoses with one text have the same
findings. -/
theorem diagnosis_text_is_faithful {candidate : Candidate} {d : Interface}
    (measured : Measured candidate d) :
    let g := diagnose candidate d
    (∃ records : List Value, Json.read g.text.toList = .ok (.mapping [("reasons", .list records)]) ∧
      g.report.field? "reasons" = some (.list records) ∧ records.length = g.reasons.length ∧
      ∀ (i : Nat) (reason : Reason), g.reasons[i]? = some reason →
        ∃ (message : String) (record : Value), g.messages[i]? = some message ∧
          records[i]? = some record ∧ Shows candidate reason message record) ∧
    Finding.listOfText? g.text = some g.findings ∧
    ∀ other e, Measured other e → (diagnose other e).text = g.text →
      (diagnose other e).findings = g.findings := by
  intro g
  refine ⟨⟨_, read_text measured, rfl, List.length_map _, fun i reason given => ?_⟩,
    listOfText?_text measured, fun other e otherMeasured same => ?_⟩
  · refine ⟨reason.message, reason.record, ?_, ?_, shows_record (List.mem_of_getElem? given)⟩
    · rw [Diagnosis.messages, List.getElem?_map, given, Option.map_some]
    · rw [List.getElem?_map, given, Option.map_some]
  · have findings := listOfText?_text otherMeasured
    rw [same, listOfText?_text measured] at findings
    exact (Option.some.inj findings).symm

/-- An object with one function, which has a quote, a line break and a letter beyond the first
plane in its name, and as many parameters as can be counted. -/
def wideFunction : List Action :=
  [.create .object none, .set 0 "\"\n𝒻" (.callable (2 ^ 64 - 1) fun _ => .ok .null)]

/-- The function with one parameter. -/
def narrowInterface : Interface := ⟨[⟨"\"\n𝒻", ["x"]⟩], by decide⟩

/-- The number of parameters is read back to its last digit, and so is the name. -/
theorem wide_function_is_read_back :
    Finding.listOfText? (diagnose ((World.empty.run wideFunction).resolve 0) narrowInterface).text =
      some [⟨.incorrectParameterCount, "\"\n𝒻", 1, some 18446744073709551615⟩] := by
  have measured : Measured ((World.empty.run wideFunction).resolve 0) narrowInterface := by
    constructor
    · intro s member
      rw [List.mem_singleton.1 member]
      decide
    · intro s f member found
      rw [List.mem_singleton.1 member] at found
      cases found
      decide
  exact (diagnosis_text_is_faithful measured).2.1

end StructuralTyping
