import StructuralTyping.Interface
/-!
# The texts of interfaces

What the JSON text of an interface looks like, said without a reader. Each relation
stands between a text, what is written at its front, and the text that follows. An
interface is an object of lists of strings, with blanks between any two tokens. Nothing
is said here about names that are written twice.
-/
set_option autoImplicit false

namespace StructuralTyping.Json

/-- Any number of blanks. -/
inductive Blanks : List Char → List Char → Prop where
  | done {s : List Char} : Blanks s s
  | more {c : Char} {s rest : List Char} (blank : c ∈ [' ', '\t', '\n', '\r'])
      (later : Blanks s rest) : Blanks (c :: s) rest

/-- One character, after any blanks. -/
def Token (c : Char) (s rest : List Char) : Prop := Blanks s (c :: rest)

/-- The sixteen hexadecimal digits in order, in lower case. -/
def lowerDigits : List Char :=
  ['0', '1', '2', '3', '4', '5', '6', '7', '8', '9', 'a', 'b', 'c', 'd', 'e', 'f']

/-- The sixteen hexadecimal digits in order, in upper case. -/
def upperDigits : List Char :=
  ['0', '1', '2', '3', '4', '5', '6', '7', '8', '9', 'A', 'B', 'C', 'D', 'E', 'F']

/-- A hexadecimal digit of either case, and its value. -/
def HexDigit (c : Char) (n : Nat) : Prop := lowerDigits[n]? = some c ∨ upperDigits[n]? = some c

/-- A UTF-16 unit: four hexadecimal digits, the most significant one first. -/
inductive UnitText : List Char → Nat → List Char → Prop where
  | digits {a b c d : Char} {w x y z : Nat} {rest : List Char} (first : HexDigit a w)
      (second : HexDigit b x) (third : HexDigit c y) (fourth : HexDigit d z) :
      UnitText (a :: b :: c :: d :: rest) (((w * 16 + x) * 16 + y) * 16 + z) rest

/-- The letters that may stand behind a backslash, and the characters they stand for. -/
def escapeLetters : List (Char × Char) :=
  [('"', '"'), ('\\', '\\'), ('/', '/'), ('b', '\x08'), ('f', '\x0c'), ('n', '\n'),
    ('r', '\r'), ('t', '\t')]

/-- What may stand behind a backslash, and the character it stands for: a letter, a unit
that is no surrogate, or a leading and a trailing surrogate. -/
inductive EscapeText : List Char → Char → List Char → Prop where
  | letter {mark c : Char} {rest : List Char} (named : (mark, c) ∈ escapeLetters) :
      EscapeText (mark :: rest) c rest
  | unit {s rest : List Char} {n : Nat} (digits : UnitText s n rest)
      (single : n < 0xD800 ∨ 0xDFFF < n) : EscapeText ('u' :: s) (Char.ofNat n) rest
  | pair {s middle rest : List Char} {high low n : Nat}
      (first : UnitText s high ('\\' :: 'u' :: middle)) (leading : 0xD800 ≤ high ∧ high ≤ 0xDBFF)
      (second : UnitText middle low rest) (trailing : 0xDC00 ≤ low ∧ low ≤ 0xDFFF)
      (code : n = 0x10000 + (high - 0xD800) * 0x400 + (low - 0xDC00)) :
      EscapeText ('u' :: s) (Char.ofNat n) rest

/-- The characters of a string up to its closing quote, from behind the opening one. -/
inductive StringText : List Char → List Char → List Char → Prop where
  | close {rest : List Char} : StringText ('"' :: rest) [] rest
  | plain {c : Char} {s rest later : List Char} (visible : 0x20 ≤ c.toNat) (noQuote : c ≠ '"')
      (noBackslash : c ≠ '\\') (further : StringText s later rest) :
      StringText (c :: s) (c :: later) rest
  | escaped {c : Char} {s middle rest later : List Char} (escape : EscapeText s c middle)
      (further : StringText middle later rest) : StringText ('\\' :: s) (c :: later) rest

/-- A string in its quotes. -/
def QuotedText (s : List Char) (text : String) (rest : List Char) : Prop :=
  ∃ body, Token '"' s body ∧ StringText body text.toList rest

section Frames

variable {α : Type}

/-- One or more items with commas between them, up to the closing bracket. -/
inductive ItemsText (item : List Char → α → List Char → Prop) (closing : Char) :
    List Char → List α → List Char → Prop where
  | last {s middle rest : List Char} {x : α} (first : item s x middle)
      (closed : Token closing middle rest) : ItemsText item closing s [x] rest
  | more {s middle next rest : List Char} {x : α} {later : List α} (first : item s x middle)
      (comma : Token ',' middle next) (further : ItemsText item closing next later rest) :
      ItemsText item closing s (x :: later) rest

/-- Items between two brackets, or none. -/
inductive FrameText (opening closing : Char) (item : List Char → α → List Char → Prop) :
    List Char → List α → List Char → Prop where
  | empty {s middle rest : List Char} (opened : Token opening s middle)
      (closed : Token closing middle rest) : FrameText opening closing item s [] rest
  | filled {s middle rest : List Char} {xs : List α} (opened : Token opening s middle)
      (items : ItemsText item closing middle xs rest) :
      FrameText opening closing item s xs rest

end Frames

/-- A list of strings. -/
def ListText : List Char → List String → List Char → Prop := FrameText '[' ']' QuotedText

/-- An entry of an object: its key, a colon, and what belongs to the key. -/
def EntryText {α : Type} (item : List Char → α → List Char → Prop) (s : List Char)
    (entry : String × α) (rest : List Char) : Prop :=
  ∃ afterName afterColon, QuotedText s entry.1 afterName ∧ Token ':' afterName afterColon ∧
    item afterColon entry.2 rest

/-- The declaration of a function: its name, a colon, and the list of its parameters. -/
def DeclarationText (s : List Char) (signature : Signature) (rest : List Char) : Prop :=
  ∃ afterName afterColon, QuotedText s signature.name afterName ∧
    Token ':' afterName afterColon ∧ ListText afterColon signature.params rest

/-- A whole text: an object of declarations, and nothing but blanks around it. -/
def ContractText (text : List Char) (signatures : List Signature) : Prop :=
  ∃ rest, FrameText '\x7b' '\x7d' DeclarationText text signatures rest ∧ Blanks rest []

end StructuralTyping.Json
