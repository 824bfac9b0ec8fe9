import StructuralTyping.Diagnosis
import StructuralTyping.Json.Printer
/-!
# Diagnoses as data

The record of a reason names its class, the function and the arities. Only a
wrong number of parameters has a declared arity; elsewhere the field is left out.
-/
set_option autoImplicit false

namespace StructuralTyping

/-- The record of a reason. -/
def Reason.record (r : Reason) : Value :=
  let declared : List (String × Value) :=
    match r.declaredArity? with
    | some arity => [("declaredArity", Value.ofNat arity)]
    | none => []
  .mapping ([("class", .string r.category.name),
      ("function", .string r.signature.name),
      ("expectedArity", Value.ofNat r.signature.arity)]
    ++ declared ++ [("message", .string r.message)])

namespace Diagnosis

/-- The records of all reasons. -/
def records (g : Diagnosis) : Value := .list (g.reasons.map Reason.record)

/-- A diagnosis as plain data: its reasons. -/
def record (g : Diagnosis) : Value := .mapping [("reasons", g.records)]

/-- A diagnosis as JSON text. -/
def text (g : Diagnosis) : String := Json.print g.record

/-- A diagnosis as a report with its outcome and its messages. -/
def report (g : Diagnosis) : Value :=
  .mapping [("schema", Value.ofNat 1),
    ("result", .string (if g.conforms then "conforms" else "rejected")),
    ("messages", Value.ofStrings g.messages),
    ("reasons", g.records)]

end Diagnosis

end StructuralTyping
