import StructuralTyping.Interface
import StructuralTyping.Member
/-!
# Diagnosing a candidate

A candidate is anything that can tell what a name stands for on it. It conforms
to an interface when every declared name stands for a callable with exactly the
declared number of parameters. A diagnosis lists, in the order of the
declarations, why the others are not satisfied.
-/
set_option autoImplicit false

namespace StructuralTyping

/-- What each name stands for on a candidate. -/
abbrev Candidate := String → Option Member

/-- Why a declared function is not satisfied. -/
inductive Reason where
  | missingFunction (signature : Signature)
  | notAFunction (signature : Signature)
  | incorrectParameterCount (declared : Nat) (signature : Signature)
deriving DecidableEq

namespace Reason

/-- The declaration that is not satisfied. -/
def signature : Reason → Signature
  | missingFunction s => s
  | notAFunction s => s
  | incorrectParameterCount _ s => s

/-- The three classes of reasons. -/
inductive Category where
  | missingFunction
  | notAFunction
  | incorrectParameterCount
deriving DecidableEq

/-- Every class, in a fixed order. -/
def Category.all : List Category := [.missingFunction, .notAFunction, .incorrectParameterCount]

/-- The name of a class in records. -/
def Category.name : Category → String
  | .missingFunction => "missing_function"
  | .notAFunction => "not_a_function"
  | .incorrectParameterCount => "incorrect_parameter_count"

/-- The class of a reason. -/
def category : Reason → Category
  | missingFunction _ => .missingFunction
  | notAFunction _ => .notAFunction
  | incorrectParameterCount _ _ => .incorrectParameterCount

/-- The number of parameters of the callable that was found, where it is what
differs. -/
def declaredArity? : Reason → Option Nat
  | incorrectParameterCount declared _ => some declared
  | _ => none

/-- The wording of a reason. -/
def message : Reason → String
  | missingFunction s => "Missing Function: " ++ s.text
  | notAFunction s => "Not a function: " ++ s.name
  | incorrectParameterCount declared s =>
    "Incorrect number of parameters (" ++ toString declared
      ++ ") in implementation for function: " ++ s.text

end Reason

/-- The callable that satisfies a declaration, or the reason why what was found
does not. -/
def inspect (found : Option Member) (s : Signature) : Except Reason Callable :=
  match found with
  | none => .error (.missingFunction s)
  | some member =>
    if member.isAbsent then .error (.missingFunction s)
    else
      match member with
      | .data _ => .error (.notAFunction s)
      | .function f =>
        if f.arity = s.arity then .ok f else .error (.incorrectParameterCount f.arity s)

/-- The callables that satisfy declarations, each under its declared name, and
the reasons for the declarations that are not satisfied; both in order. -/
def survey (candidate : Candidate) : List Signature → List (String × Callable) × List Reason
  | [] => ([], [])
  | s :: later =>
    let (callables, reasons) := survey candidate later
    match inspect (candidate s.name) s with
    | .ok f => ((s.name, f) :: callables, reasons)
    | .error reason => (callables, reason :: reasons)

/-- The reasons why a candidate does not conform; none if it does. -/
structure Diagnosis where
  reasons : List Reason
deriving DecidableEq

/-- A candidate was refused, for at least one reason. -/
structure Rejection where
  reasons : List Reason
deriving DecidableEq

/-- The messages of reasons, joined. -/
def joinedMessages (reasons : List Reason) : String :=
  String.intercalate " | " (reasons.map Reason.message)

/-- The wording of a refusal. -/
def Rejection.message (r : Rejection) : String := joinedMessages r.reasons

/-- The callables that implement an interface on a candidate, or all reasons why
it does not conform. -/
def implementation (candidate : Candidate) (d : Interface) :
    Except Rejection (List (String × Callable)) :=
  let (callables, reasons) := survey candidate d.signatures
  if reasons.isEmpty then .ok callables else .error ⟨reasons⟩

/-- Why a candidate does not conform to an interface. -/
def diagnose (candidate : Candidate) (d : Interface) : Diagnosis :=
  match implementation candidate d with
  | .ok _ => ⟨[]⟩
  | .error rejection => ⟨rejection.reasons⟩

namespace Diagnosis

/-- Whether nothing stands against the candidate. -/
def conforms (g : Diagnosis) : Bool := g.reasons.isEmpty

/-- One message for each reason. -/
def messages (g : Diagnosis) : List String := g.reasons.map Reason.message

/-- All messages in one line, if there are any. -/
def joined (g : Diagnosis) : Option String :=
  if g.conforms then none else some (joinedMessages g.reasons)

/-- Success, or a refusal with all reasons. -/
def result (g : Diagnosis) : Except Rejection Unit :=
  if g.conforms then .ok () else .error ⟨g.reasons⟩

end Diagnosis

/-- Whether a candidate provides every declared function with the declared number
of parameters. -/
def conforms (candidate : Candidate) (d : Interface) : Bool := (diagnose candidate d).conforms

/-- Fails with every reason unless the candidate conforms. -/
def assertConforms (candidate : Candidate) (d : Interface) : Except Rejection Unit :=
  (diagnose candidate d).result

end StructuralTyping
