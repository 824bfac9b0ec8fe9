import StructuralTyping.Interface.Shape
import StructuralTyping.Text.Position
import StructuralTyping.Text.Scanned
/-!
# What can be wrong with a JSON text

A fault is a cause together with the number of bytes that were still ahead when
it was met. The causes cover the syntax of JSON, values of a shape that was not
due, and a function that is declared twice.
-/
set_option autoImplicit false

namespace StructuralTyping.Json

open StructuralTyping.Text (byteLength Position Scanned)

/-- Why reading stopped. -/
inductive Cause where
  | endInValue
  | endInList
  | endInObject
  | endInString
  | expectedValue
  | expectedColon
  | expectedCommaOrBracket
  | expectedCommaOrBrace
  | expectedLiteral
  | trailingComma
  | trailingCharacters
  | keyNotAString
  | invalidNumber
  | numberOutOfRange
  | invalidEscape
  | unfinishedSurrogate
  | loneSurrogate
  | controlCharacter
  | nestedTooDeep
  | mismatch (cause : Mismatch)
  | duplicate (cause : Interface.Duplicate)
deriving DecidableEq

/-- The wording of a cause. -/
def Cause.message : Cause → String
  | .endInValue => "EOF while parsing a value"
  | .endInList => "EOF while parsing a list"
  | .endInObject => "EOF while parsing an object"
  | .endInString => "EOF while parsing a string"
  | .expectedValue => "expected value"
  | .expectedColon => "expected `:`"
  | .expectedCommaOrBracket => "expected `,` or `]`"
  | .expectedCommaOrBrace => "expected `,` or `\x7d`"
  | .expectedLiteral => "expected ident"
  | .trailingComma => "trailing comma"
  | .trailingCharacters => "trailing characters"
  | .keyNotAString => "key must be a string"
  | .invalidNumber => "invalid number"
  | .numberOutOfRange => "number out of range"
  | .invalidEscape => "invalid escape"
  | .unfinishedSurrogate => "unexpected end of hex escape"
  | .loneSurrogate => "lone leading surrogate in hex escape"
  | .controlCharacter => "control character (\\u0000-\\u001F) found while parsing a string"
  | .nestedTooDeep => "recursion limit exceeded"
  | .mismatch cause => cause.message .json
  | .duplicate cause => "invalid argument: " ++ cause.message

/-- A cause, and the number of bytes that were still ahead of it. -/
structure Fault where
  cause : Cause
  left : Nat
deriving DecidableEq

namespace Fault

/-- A fault met with all of `s` still ahead. -/
def before (cause : Cause) (s : List Char) : Fault := ⟨cause, byteLength s⟩

/-- A fault met one byte into `s`, or at its end if it is empty. -/
def within (cause : Cause) (s : List Char) : Fault := ⟨cause, byteLength s - 1⟩

/-- A fault met at the end of the text. -/
def atEnd (cause : Cause) : Fault := ⟨cause, 0⟩

section Causes

variable (cause : Cause) (s : List Char)

/-- A fault that is met before a text has the cause that it was made with. -/
@[simp]
theorem cause_before : (before cause s).cause = cause := rfl

/-- A fault that is met inside a text has the cause that it was made with. -/
@[simp]
theorem cause_within : (within cause s).cause = cause := rfl

/-- A fault that is met at the end has the cause that it was made with. -/
@[simp]
theorem cause_atEnd : (atEnd cause).cause = cause := rfl

end Causes

/-- The place of a fault in the text that was read. -/
def position (f : Fault) (text : List Char) : Position := Position.ofLeft text f.left

/-- The wording of a fault, with its place in the text that was read. -/
def message (f : Fault) (text : List Char) : String :=
  let place := f.position text
  f.cause.message ++ " at line " ++ toString place.line ++ " column " ++ toString place.column

end Fault

/-- The outcome of reading an `α` at the front of `s`. -/
abbrev Scan (α : Type) (s : List Char) := Except Fault (Scanned α s)

end StructuralTyping.Json
