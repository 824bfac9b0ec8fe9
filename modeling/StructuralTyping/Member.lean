import StructuralTyping.Value
/-!
# Members

What an object holds under a name: a callable, or data. A callable carries the
number of parameters it was declared with, because nothing else could tell it,
and an identity of its own: two callables are the same function exactly when
their identities agree.
-/
set_option autoImplicit false

namespace StructuralTyping

/-- Why a call fails. The first two are failures to find a callable, the others
are raised by callables themselves. -/
inductive CallError where
  | noSuchMember (name : String)
  | notCallable (name : String)
  | missingArgument (function : String) (index : Nat)
  | wrongType (index : Nat) (expected : String)
deriving DecidableEq

/-- The wording of a failed call. -/
def CallError.message : CallError → String
  | .noSuchMember name => "no member named `" ++ name ++ "`"
  | .notCallable name => "`" ++ name ++ "` is not a function"
  | .missingArgument function index =>
    "missing argument " ++ toString index ++ " for `" ++ function ++ "`"
  | .wrongType index expected =>
    "argument " ++ toString index ++ " has the wrong type: expected " ++ expected

/-- What a callable does with its arguments, whatever their number. -/
abbrev Body := List Value → Except CallError Value

/-- A function value with a declared number of parameters. -/
structure Callable where
  identity : Nat
  arity : Nat
  body : Body

namespace Callable

/-- Runs the body. The declared arity is not compared with the arguments. -/
def call (f : Callable) (arguments : List Value) : Except CallError Value := f.body arguments

/-- Whether two callables are the very same function. -/
def same (f g : Callable) : Bool := f.identity = g.identity

end Callable

/-- What a name stands for. -/
inductive Member where
  | function (callable : Callable)
  | data (value : Value)

/-- Whether a value stands for nothing: null, false, zero, or the empty string. -/
def Value.isAbsent : Value → Bool
  | .null => true
  | .boolean value => !value
  | .number n => n.isZero
  | .string s => s.isEmpty
  | .list _ => false
  | .mapping _ => false

namespace Member

/-- The callable, if the member is one. -/
def callable? : Member → Option Callable
  | function f => some f
  | data _ => none

/-- Whether the member stands for nothing. A callable never does. -/
def isAbsent : Member → Bool
  | function _ => false
  | data value => value.isAbsent

end Member

/-- What calling a name does, given what the name stands for. -/
def invoke (name : String) (found : Option Member) (arguments : List Value) :
    Except CallError Value :=
  match found with
  | none => .error (.noSuchMember name)
  | some member =>
    if member.isAbsent then .error (.noSuchMember name)
    else
      match member with
      | .function f => f.call arguments
      | .data _ => .error (.notCallable name)

end StructuralTyping
