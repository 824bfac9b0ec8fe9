import StructuralTyping.Interface.Literal
import StructuralTyping.Sample
/-!
# Commands

What a session can be asked to do. Commands name holders and interfaces by words
of the session's choosing; members and interfaces may be written out in place.
-/
set_option autoImplicit false

namespace StructuralTyping

/-- A member as a command gives it. -/
inductive MemberSpec where
  | data (value : Value)
  | callable (arity : Nat) (body : Body)
  | resolved (holder : String) (name : String)

/-- An interface as a command gives it: under a name, or written out. -/
inductive InterfaceSpec where
  | named (name : String)
  | literal (value : Value)

/-- What a session can be asked to do. -/
inductive Command where
  | interface (id : String) (literal : Option Value)
  | declare (id : String) (signature : Signature)
  | declaration (id : String) (name : String)
  | equal (first second : InterfaceSpec)
  | object (id : String) (prototype : Option String) (members : List (String × MemberSpec))
  | sample (id : String) (sample : Sample)
  | mathPrototype (id : String)
  | prototype (id : String) (parent : Option String)
  | prototypeFrom (id : String) (object : String)
  | chain (id : String) (length : Nat) (parent : Option String)
  | map (id : String) (kind : Kind)
  | copy (id : String) (source : String)
  | state (id : String)
  | setConstant (id : String) (name : String) (arity : Nat) (value : Value)
  | set (id : String) (name : String) (member : MemberSpec)
  | define (id : String) (name : String) (member : MemberSpec)
  | remove (id : String) (name : String)
  | own (id : String) (name : String)
  | hasOwn (id : String) (name : String)
  | resolve (id : String) (name : String)
  | same (first second : MemberSpec)
  | call (id : String) (name : String) (arguments : List Value)
  | relink (id : String) (parent : Option String)
  | chainContains (id : String) (other : String)
  | identical (first second : String)
  | describe (id : String)
  | diagnose (id : String) (interface : InterfaceSpec)
  | conforms (id : String) (interface : InterfaceSpec)
  | assertConforms (id : String) (interface : InterfaceSpec)
  | apply (id : String) (candidate : String) (interface : InterfaceSpec)

end StructuralTyping
