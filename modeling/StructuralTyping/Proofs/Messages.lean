import Mathlib.Data.List.Basic
import Mathlib.Data.List.Nodup
import StructuralTyping.Proofs.Diagnosis
import StructuralTyping.World.Action
/-!
# When two messages are the same

A message shows a declaration as `name(first, second)` and puts no quotes around the parts.
So the bracket that opens the labels can also be a part of the name, or of a label, and two
declarations may read alike although their names differ. There is no other way: the class of
a reason shows in the first letter of its message, the number of parameters that was found ends
at a bracket, and the last bracket closes the labels.
-/
set_option autoImplicit false

namespace StructuralTyping

namespace Signature

/-- The labels of the parameters as messages show them. -/
def labels (s : Signature) : String := String.intercalate ", " s.params

/-- The text of `s` can be read as that of `t`: the name of `t` is longer, by the bracket behind
the name of `s` and a part of the labels of `s`, and another bracket follows this part. -/
def RunsInto (s t : Signature) : Prop :=
  ∃ inner, t.name = s.name ++ "(" ++ inner ∧ s.labels = inner ++ "(" ++ t.labels

variable {s t : Signature}

/-- Whether one signature runs into another can be told from their characters. -/
theorem runsInto_iff :
    s.RunsInto t ↔ ∃ inner, t.name.toList = s.name.toList ++ '(' :: inner ∧
      s.labels.toList = inner ++ '(' :: t.labels.toList := by
  constructor
  · rintro ⟨inner, name, labels⟩
    exact ⟨inner.toList, by simp [name], by simp [labels]⟩
  · rintro ⟨inner, name, labels⟩
    exact ⟨String.ofList inner, by simp [String.ext_iff, name], by simp [String.ext_iff, labels]⟩

/-- Two declarations read alike exactly if they have one name and the same labels in one line,
or one of them runs into the other. -/
theorem text_eq_iff :
    s.text = t.text ↔ s.name = t.name ∧ s.labels = t.labels ∨ s.RunsInto t ∨ t.RunsInto s := by
  have opened : s.text = t.text ↔ s.name.toList ++ '(' :: s.labels.toList =
      t.name.toList ++ '(' :: t.labels.toList := by
    rw [text, text, String.append_left_inj, ← String.toList_inj]
    simp [labels]
  rw [opened, runsInto_iff, runsInto_iff, ← String.toList_inj, ← String.toList_inj]
  constructor
  · intro alike
    rcases List.append_eq_append_iff.1 alike with ⟨more, name, behind⟩ | ⟨more, name, behind⟩
    · cases more with
      | nil => simp_all
      | cons c inner =>
        obtain ⟨rfl, labels⟩ := List.cons.inj behind
        exact Or.inr (Or.inl ⟨inner, name, labels⟩)
    · cases more with
      | nil => simp_all
      | cons c inner =>
        obtain ⟨rfl, labels⟩ := List.cons.inj behind
        exact Or.inr (Or.inr ⟨inner, name, labels⟩)
  · rintro (⟨name, labels⟩ | ⟨inner, name, labels⟩ | ⟨inner, name, labels⟩)
    · rw [name, labels]
    · simp [name, labels]
    · simp [name, labels]

/-- A bracket that shows among the labels is a part of one of them. -/
theorem exists_label_of_mem_labels (shown : '(' ∈ s.labels.toList) :
    ∃ label ∈ s.params, '(' ∈ label.toList := by
  rw [labels, String.toList_intercalate] at shown
  generalize s.params = params at shown ⊢
  induction params with
  | nil => simp at shown
  | cons first later inductionHypothesis =>
    cases later with
    | nil => simpa using shown
    | cons second others =>
      rw [List.map_cons, List.map_cons, List.intercalate_cons_cons, List.mem_append,
        List.mem_append] at shown
      rcases shown with (here | separator) | there
      · exact ⟨first, List.mem_cons_self, here⟩
      · exact absurd separator (by decide)
      · obtain ⟨label, member, inside⟩ := inductionHypothesis there
        exact ⟨label, List.mem_cons_of_mem _ member, inside⟩

end Signature

namespace Reason

section Wording

variable (declared : Nat) (s : Signature)

/-- The message about a missing function shows the signature. -/
theorem message_missingFunction :
    (missingFunction s).message = "Missing Function: " ++ s.text := rfl

/-- The message about a member that is no function shows the name. -/
theorem message_notAFunction : (notAFunction s).message = "Not a function: " ++ s.name := rfl

/-- The message about a wrong number of parameters shows this number and the signature. -/
theorem message_incorrectParameterCount :
    (incorrectParameterCount declared s).message =
      "Incorrect number of parameters (" ++ toString declared
        ++ ") in implementation for function: " ++ s.text := rfl

end Wording

/-- The first letter of the messages of a class. -/
def Category.initial : Category → Char
  | .missingFunction => 'M'
  | .notAFunction => 'N'
  | .incorrectParameterCount => 'I'

/-- The first letter of a message tells its category. -/
theorem head_message (r : Reason) : r.message.toList.head? = some r.category.initial := by
  cases r with
  | missingFunction s =>
    rw [message_missingFunction, String.toList_append]
    rfl
  | notAFunction s =>
    rw [message_notAFunction, String.toList_append]
    rfl
  | incorrectParameterCount declared s =>
    rw [message_incorrectParameterCount, String.append_assoc, String.append_assoc,
      String.toList_append]
    rfl

/-- Messages of different classes differ. -/
theorem category_eq_of_message {r other : Reason} (same : r.message = other.message) :
    r.category = other.category := by
  have initial : r.category.initial = other.category.initial := by
    rw [← Option.some.injEq, ← head_message, ← head_message, same]
  generalize r.category = first at initial ⊢
  generalize other.category = second at initial ⊢
  cases first <;> cases second <;> first | rfl | exact absurd initial (by decide)

/-- The number that was found ends at the bracket behind it. -/
theorem number_and_text_of_message {declared found : Nat} {s t : Signature}
    (same : (incorrectParameterCount declared s).message =
      (incorrectParameterCount found t).message) : declared = found ∧ s.text = t.text := by
  have onlyDigits : ∀ n, ∀ c ∈ Nat.toDigits 10 n, c.isDigit = true :=
    fun n c member => Nat.isDigit_of_mem_toDigits (by decide) (by decide) member
  have opening : ") in implementation for function: ".toList =
      ')' :: " in implementation for function: ".toList := by decide
  rw [message_incorrectParameterCount, message_incorrectParameterCount] at same
  simp only [String.append_assoc, String.append_right_inj] at same
  rw [← String.toList_inj] at same
  simp only [String.toList_append, Nat.toString_eq_ofList_toDigits, String.toList_ofList, opening,
    List.cons_append] at same
  have digits := congrArg (List.takeWhile Char.isDigit) same
  rw [List.takeWhile_append_of_pos (onlyDigits declared),
    List.takeWhile_append_of_pos (onlyDigits found)] at digits
  have sameDigits : Nat.toDigits 10 declared = Nat.toDigits 10 found := by simpa using digits
  rw [sameDigits, List.append_right_inj, List.cons.injEq, List.append_right_inj,
    String.toList_inj] at same
  refine ⟨?_, same.2⟩
  rw [← @Nat.ofDigitChars_ten_toDigits declared, sameDigits, Nat.ofDigitChars_ten_toDigits]

/-- Two reasons have one message exactly if they are of one class, found one number of
parameters, and show one name, or one name with labels. -/
theorem message_eq_iff {r other : Reason} :
    r.message = other.message ↔ r.category = other.category ∧
      r.declaredArity? = other.declaredArity? ∧
      (if r.category = .notAFunction then r.signature.name = other.signature.name
        else r.signature.text = other.signature.text) := by
  constructor
  · intro same
    have category := category_eq_of_message same
    cases r <;> cases other <;> cases category
    · rw [message_missingFunction, message_missingFunction, String.append_right_inj] at same
      exact ⟨rfl, rfl, same⟩
    · rw [message_notAFunction, message_notAFunction, String.append_right_inj] at same
      exact ⟨rfl, rfl, same⟩
    · obtain ⟨number, text⟩ := number_and_text_of_message same
      exact ⟨rfl, congrArg some number, text⟩
  · rintro ⟨category, declared, shown⟩
    cases r <;> cases other <;> cases category
    · rw [message_missingFunction, message_missingFunction]
      exact congrArg _ shown
    · rw [message_notAFunction, message_notAFunction]
      exact congrArg _ shown
    · rw [message_incorrectParameterCount, message_incorrectParameterCount,
        Option.some.inj declared]
      exact congrArg _ shown

/-- Two reasons of one class that shows labels, with one number of parameters where it is shown,
of which the first is about a declaration that runs into that of the second. -/
def Clash (r other : Reason) : Prop :=
  r.category = other.category ∧ r.category ≠ .notAFunction ∧
    r.declaredArity? = other.declaredArity? ∧ r.signature.RunsInto other.signature

/-- Reasons that clash have one message, but they are about different functions. -/
theorem Clash.message_eq {r other : Reason} (clash : r.Clash other) :
    r.message = other.message ∧ r.signature.name ≠ other.signature.name := by
  obtain ⟨category, labelled, declared, runs⟩ := clash
  constructor
  · rw [message_eq_iff, if_neg labelled, Signature.text_eq_iff]
    exact ⟨category, declared, Or.inr (Or.inl runs)⟩
  · obtain ⟨inner, name, -⟩ := Signature.runsInto_iff.1 runs
    intro same
    rw [← same] at name
    simpa using congrArg List.length name

/-- Reasons about different functions have one message only if they clash. -/
theorem clash_of_message {r other : Reason} (same : r.message = other.message)
    (differ : r.signature.name ≠ other.signature.name) : r.Clash other ∨ other.Clash r := by
  obtain ⟨category, declared, shown⟩ := message_eq_iff.1 same
  split at shown
  · exact absurd shown differ
  · rename_i labelled
    rcases Signature.text_eq_iff.1 shown with ⟨name, -⟩ | runs | runs
    · exact absurd name differ
    · exact Or.inl ⟨category, labelled, declared, runs⟩
    · exact Or.inr ⟨category.symm, category ▸ labelled, declared.symm, runs⟩

end Reason

section Diagnosis

variable {candidate : Candidate} {d : Interface}

/-- A diagnosis has one reason at most for each name. -/
theorem reason_eq_of_name {r other : Reason} (member : r ∈ (diagnose candidate d).reasons)
    (otherMember : other ∈ (diagnose candidate d).reasons)
    (same : r.signature.name = other.signature.name) : r = other :=
  List.inj_on_of_nodup_map (nodup_names_reasons candidate d) member otherMember same

/-- Two messages of a diagnosis are the same exactly if they are that of one reason, or of two that
clash. -/
theorem message_eq_iff_of_mem {r other : Reason} (member : r ∈ (diagnose candidate d).reasons)
    (otherMember : other ∈ (diagnose candidate d).reasons) :
    r.message = other.message ↔ r = other ∨ r.Clash other ∨ other.Clash r := by
  constructor
  · intro same
    by_cases name : r.signature.name = other.signature.name
    · exact Or.inl (reason_eq_of_name member otherMember name)
    · exact Or.inr (Reason.clash_of_message same name)
  · rintro (same | clash | clash)
    · rw [same]
    · exact clash.message_eq.1
    · exact clash.message_eq.1.symm

/-- The messages of a diagnosis differ exactly if no two of its reasons clash. -/
theorem nodup_messages_iff :
    (diagnose candidate d).messages.Nodup ↔
      ∀ r ∈ (diagnose candidate d).reasons, ∀ other ∈ (diagnose candidate d).reasons,
        ¬r.Clash other := by
  have reasons : (diagnose candidate d).reasons.Nodup :=
    List.Nodup.of_map _ (nodup_names_reasons candidate d)
  rw [Diagnosis.messages, List.nodup_map_iff_inj_on reasons]
  constructor
  · intro injective r member other otherMember clash
    obtain ⟨same, differ⟩ := clash.message_eq
    exact differ (congrArg (fun reason => reason.signature.name)
      (injective r member other otherMember same))
  · intro noClash r member other otherMember same
    rcases (message_eq_iff_of_mem member otherMember).1 same with one | clash | clash
    · exact one
    · exact absurd clash (noClash r member other otherMember)
    · exact absurd clash (noClash other otherMember r member)

/-- Every declaration that is not satisfied has its message, in the order of the declarations. -/
theorem messages_of_failing (candidate : Candidate) (d : Interface) :
    ∃ failing, failing.Sublist d.signatures ∧
      (∀ s ∈ d.signatures, s ∈ failing ↔ ¬Satisfies candidate s) ∧
      List.Forall₂ (fun s message => ∃ reason, Verdict s (candidate s.name) (some reason) ∧
        reason.message = message) failing (diagnose candidate d).messages := by
  refine ⟨(diagnose candidate d).reasons.map Reason.signature, ?_, fun s declared => ?_, ?_⟩
  · rw [diagnose_signatures]
    exact List.filter_sublist
  · rw [diagnose_signatures, List.mem_filter, and_iff_right declared, ← objection?_eq_none_iff,
      Option.isSome_iff_ne_none]
  · rw [Diagnosis.messages, List.forall₂_map_left_iff, List.forall₂_map_right_iff,
      List.forall₂_same]
    intro reason member
    exact ⟨reason, verdict_of_mem member, rfl⟩

/-- Two messages of a diagnosis are the same only through brackets. Every declaration that is not
satisfied has its message, in the order of the declarations. Two of these are the same exactly if
their reasons clash: both functions are missing, or both are provided with one wrong number of
parameters, and the name of the one is the name of the other with a bracket behind it and then a
part of the other's labels, which goes on with a bracket and the labels of the one. So the
messages all differ exactly if no reasons clash, and they do where no name has a bracket in it, or
no label has. -/
theorem messages_repeat_only_through_brackets (candidate : Candidate) (d : Interface) :
    (∃ failing, failing.Sublist d.signatures ∧
      (∀ s ∈ d.signatures, s ∈ failing ↔ ¬Satisfies candidate s) ∧
      List.Forall₂ (fun s message => ∃ reason, Verdict s (candidate s.name) (some reason) ∧
        reason.message = message) failing (diagnose candidate d).messages) ∧
    (∀ r ∈ (diagnose candidate d).reasons, ∀ other ∈ (diagnose candidate d).reasons,
      (r.message = other.message ↔ r = other ∨ r.Clash other ∨ other.Clash r)) ∧
    ((diagnose candidate d).messages.Nodup ↔
      ∀ r ∈ (diagnose candidate d).reasons, ∀ other ∈ (diagnose candidate d).reasons,
        ¬r.Clash other) ∧
    ((∀ s ∈ d.signatures, '(' ∉ s.name.toList) ∨
        (∀ s ∈ d.signatures, ∀ label ∈ s.params, '(' ∉ label.toList) →
      (diagnose candidate d).messages.Nodup) := by
  refine ⟨messages_of_failing candidate d, fun r member other => message_eq_iff_of_mem member,
    nodup_messages_iff, fun unbracketed => ?_⟩
  rw [nodup_messages_iff]
  rintro r member other otherMember ⟨-, -, -, runs⟩
  have declared := (mem_reasons_iff.1 member).1
  have otherDeclared := (mem_reasons_iff.1 otherMember).1
  obtain ⟨inner, name, labels⟩ := Signature.runsInto_iff.1 runs
  rcases unbracketed with names | noLabel
  · exact names _ otherDeclared (by simp [name])
  · obtain ⟨label, shown, inside⟩ :=
      Signature.exists_label_of_mem_labels (s := r.signature) (by simp [labels])
    exact noLabel _ declared label shown inside

end Diagnosis

/-- Two functions of which one has a bracket in its name, and the other one in a label. -/
def bracketedInterface : Interface := ⟨[⟨"f", ["a("]⟩, ⟨"f(a", []⟩], by decide⟩

/-- An object without members misses both functions, and is told so twice in the same words. -/
theorem two_functions_share_a_message :
    Interface.empty.insertAll [⟨"f", ["a("]⟩, ⟨"f(a", []⟩] = .ok bracketedInterface ∧
      (diagnose ((World.empty.run [.create .object none]).resolve 0) bracketedInterface).messages =
        ["Missing Function: f(a()", "Missing Function: f(a()"] ∧
      ¬(diagnose ((World.empty.run [.create .object none]).resolve 0)
        bracketedInterface).messages.Nodup := by
  have messages : (diagnose ((World.empty.run [.create .object none]).resolve 0)
      bracketedInterface).messages = ["Missing Function: f(a()", "Missing Function: f(a()"] := by
    decide
  refine ⟨Interface.insertAll_empty_eq_ok_iff.2 rfl, messages, ?_⟩
  rw [messages]
  decide

/-- Without the bracket in the label the same object is told two different things. -/
theorem bracket_in_a_name_alone_is_harmless :
    (diagnose ((World.empty.run [.create .object none]).resolve 0)
      ⟨[⟨"f", ["a"]⟩, ⟨"f(a", []⟩], by decide⟩).messages.Nodup :=
  (messages_repeat_only_through_brackets _ _).2.2.2 (Or.inr (by decide))

end StructuralTyping
