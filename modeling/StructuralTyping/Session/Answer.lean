import StructuralTyping.Interface.Literal
import StructuralTyping.World.Action
/-!
# Answers

What a session says to a command. A callable is shown by a number and its arity,
a prototype by a name that is bound to it: identities of the world stay inside.
-/
set_option autoImplicit false

namespace StructuralTyping

/-- A member as a session shows it. -/
inductive ShownMember where
  | nothing
  | data (value : Value)
  | callable (number : Nat) (arity : Nat)

/-- A prototype as a session names it, if there is one and if a name is bound to it. -/
inductive ShownPrototype where
  | nothing
  | named (name : String)
  | unnamed

/-- What a name stands for, as a session shows it. -/
inductive ShownState where
  | object (own : List (String × ShownMember)) (prototype : ShownPrototype)
  | map (own : List (String × ShownMember))
  | prototype (description : String) (parent : ShownPrototype)
  | interface (definition : Interface)

/-- What a session answers to a command. -/
inductive Answer where
  | state (state : ShownState)
  | replaced (old : ShownMember) (state : ShownState)
  | member (member : ShownMember)
  | declaration (signature : Option Signature)
  | truth (value : Bool)
  | count (n : Nat)
  | text (text : String)
  | value (value : Value)
  | diagnosis (diagnosis : Diagnosis)
  | verdict (result : Except Rejection Unit)
  | applied (result : Except Rejection Unit) (state : ShownState)
  | malformed (cause : Malformed)
  | callFailed (error : CallError)
  | cycle (error : LinkError)
  | unknown

end StructuralTyping
