import StructuralTyping.Diagnosis.Record
import StructuralTyping.Json.Reader
/-!
# Findings

The labels of parameters show in messages only. Without them a reason comes down to four
facts: its class, the function, the number of parameters that is due, and the number that was
found where it is what differs. A record shows these facts, and so does the text of a
diagnosis, so they can be read back from either.
-/
set_option autoImplicit false

namespace StructuralTyping

/-- The class of that name. -/
def Reason.Category.ofName? (name : String) : Option Reason.Category :=
  all.find? (·.name = name)

/-- What a reason comes down to without the labels of parameters. -/
structure Finding where
  category : Reason.Category
  function : String
  expectedArity : Nat
  declaredArity? : Option Nat
deriving DecidableEq

/-- The facts that a reason states. -/
def Reason.finding (r : Reason) : Finding :=
  ⟨r.category, r.signature.name, r.signature.arity, r.declaredArity?⟩

section Reasons

variable (declared : Nat) (s : Signature)

/-- A missing function is recorded with its name and the arity that was asked for. -/
@[simp]
theorem Reason.finding_missingFunction :
    (Reason.missingFunction s).finding = ⟨.missingFunction, s.name, s.arity, none⟩ := rfl

/-- A member that is no function is recorded with its name and the arity that was asked for. -/
@[simp]
theorem Reason.finding_notAFunction :
    (Reason.notAFunction s).finding = ⟨.notAFunction, s.name, s.arity, none⟩ := rfl

/-- A wrong number of parameters is recorded with both arities. -/
@[simp]
theorem Reason.finding_incorrectParameterCount :
    (Reason.incorrectParameterCount declared s).finding =
      ⟨.incorrectParameterCount, s.name, s.arity, some declared⟩ := rfl

end Reasons

/-- The facts that a diagnosis states, one finding for each reason. -/
def Diagnosis.findings (g : Diagnosis) : List Finding := g.reasons.map Reason.finding

namespace Finding

/-- The string under a name in a record. -/
def string? (name : String) (record : Value) : Option String :=
  match record.field? name with
  | some (.string s) => some s
  | _ => none

/-- The natural number under a name in a record. -/
def natural? (name : String) (record : Value) : Option Nat :=
  match record.field? name with
  | some (.number (.integer (.ofNat n))) => some n
  | _ => none

/-- The finding that a record shows. -/
def ofRecord? (record : Value) : Option Finding :=
  match (string? "class" record).bind Reason.Category.ofName?, string? "function" record,
    natural? "expectedArity" record with
  | some category, some function, some expected =>
    some ⟨category, function, expected, natural? "declaredArity" record⟩
  | _, _, _ => none

/-- The findings that the JSON text of a diagnosis shows. -/
def listOfText? (text : String) : Option (List Finding) :=
  match Json.read text.toList with
  | .ok value =>
    match value.field? "reasons" with
    | some (.list records) => records.mapM ofRecord?
    | _ => none
  | .error _ => none

/-- A record shows what its reason comes down to. -/
theorem ofRecord?_record (r : Reason) : ofRecord? r.record = some r.finding := by
  cases r <;> rfl

end Finding

end StructuralTyping
