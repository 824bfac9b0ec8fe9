import StructuralTyping.Member
/-!
# Sample functions

Bodies of callables for trying things out: arithmetic on binary64 numbers, and
functions that return or refuse without looking at their arguments. Arithmetic
reads its arguments from left to right and fails at the first that is missing or
no number; a result that is no finite number is null.
-/
set_option autoImplicit false

namespace StructuralTyping.Function

/-- The number among the arguments at an index, for the function of that name. -/
def numberAt (function : String) (arguments : List Value) (index : Nat) :
    Except CallError Double :=
  match arguments[index]? with
  | none => .error (.missingArgument function index)
  | some (.number n) => .ok n.toDouble
  | some _ => .error (.wrongType index "number")

/-- Combines the first two arguments. -/
def binary (function : String) (combine : Double → Double → Double) : Body :=
  fun arguments =>
    match numberAt function arguments 0 with
    | .error e => .error e
    | .ok a =>
      match numberAt function arguments 1 with
      | .error e => .error e
      | .ok b => .ok (Value.ofDouble (combine a b))

/-- The sum of two numbers. -/
def add : Body := binary "add" Double.add

/-- The difference of two numbers. -/
def subtract : Body := binary "subtract" Double.sub

/-- The product of two numbers. -/
def multiply : Body := binary "multiply" Double.mul

/-- The sum of three numbers, added from the left. -/
def addThree : Body :=
  fun arguments =>
    match numberAt "add" arguments 0 with
    | .error e => .error e
    | .ok a =>
      match numberAt "add" arguments 1 with
      | .error e => .error e
      | .ok b =>
        match numberAt "add" arguments 2 with
        | .error e => .error e
        | .ok c => .ok (Value.ofDouble ((a.add b).add c))

/-- The first argument, or null without one. -/
def identity : Body := fun arguments => .ok (arguments.head?.getD .null)

/-- Always the same value. -/
def constant (value : Value) : Body := fun _ => .ok value

/-- The list of the arguments. -/
def collect : Body := fun arguments => .ok (.list arguments)

/-- Always the same failure. -/
def failing (error : CallError) : Body := fun _ => .error error

end StructuralTyping.Function
