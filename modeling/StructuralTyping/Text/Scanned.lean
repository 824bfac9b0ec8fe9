/-!
# What a reader found

A reader looks at the front of a text and returns what it found there together with the text
that follows. The result carries the proof that something was read, which is why a reader that
calls itself on the rest comes to an end. Where a reader may also find nothing to read, as one
that skips blanks does, it returns what is left of the text, with a proof that this is no more
than there was. The operations below carry these proofs along, so readers do not have to.
-/
set_option autoImplicit false

namespace StructuralTyping.Text

/-- A value found at the front of `s`, and the shorter text after it. -/
structure Scanned (α : Type) (s : List Char) where
  value : α
  rest : List Char
  shorter : rest.length < s.length

/-- What is left of `s`: all of it, or a shorter text. -/
abbrev Remainder (s : List Char) := { t : List Char // t.length ≤ s.length }

namespace Remainder

/-- All of a text, nothing of which was read. -/
def all (s : List Char) : Remainder s := ⟨s, Nat.le_refl _⟩

/-- What is left of a text is left of the text with a first character as well. -/
def behind {s : List Char} (c : Char) (left : Remainder s) : Remainder (c :: s) :=
  ⟨left.val, Nat.le_succ_of_le left.property⟩

/-- Of a text that was not read, all is left. -/
@[simp]
theorem val_all (s : List Char) : (all s).val = s := rfl

/-- Behind a first character the same is left. -/
@[simp]
theorem val_behind {s : List Char} (c : Char) (left : Remainder s) :
    (left.behind c).val = left.val :=
  rfl

end Remainder

namespace Scanned

/-- A value that the first character stands for. -/
def one {α : Type} (value : α) (c : Char) (rest : List Char) : Scanned α (c :: rest) :=
  ⟨value, rest, Nat.lt_succ_self _⟩

/-- A value that was read to the end with a first character and what was skipped behind it. -/
def upTo {α : Type} {s : List Char} (value : α) (c : Char) (left : Remainder s) :
    Scanned α (c :: s) :=
  ⟨value, left.val, Nat.lt_succ_of_le left.property⟩

/-- Another value in the same place. -/
def map {α β : Type} {s : List Char} (f : α → β) (found : Scanned α s) : Scanned β s :=
  ⟨f found.value, found.rest, found.shorter⟩

/-- What was found in a shorter text was also found in the text it ends. -/
def widen {α : Type} {s t : List Char} (found : Scanned α t) (le : t.length ≤ s.length) :
    Scanned α s :=
  ⟨found.value, found.rest, Nat.lt_of_lt_of_le found.shorter le⟩

/-- What was found behind a first character, which was read, too. -/
def behind {α : Type} {s : List Char} (c : Char) (found : Scanned α s) : Scanned α (c :: s) :=
  found.widen (Nat.le_succ _)

/-- What is left of a text in which something was found. -/
def left {α : Type} {s : List Char} (found : Scanned α s) : Remainder s :=
  ⟨found.rest, Nat.le_of_lt found.shorter⟩

section Fields

variable {α β : Type} {s t : List Char} (f : α → β) (found : Scanned α s)

/-- A first character stands for the value that is told. -/
@[simp]
theorem value_one (value : α) (c : Char) (rest : List Char) : (one value c rest).value = value :=
  rfl

/-- Behind a first character the rest of the text follows. -/
@[simp]
theorem rest_one (value : α) (c : Char) (rest : List Char) : (one value c rest).rest = rest := rfl

/-- Whatever is skipped, the value is the one that is told. -/
@[simp]
theorem value_upTo (value : α) (c : Char) (left : Remainder s) :
    (upTo value c left).value = value :=
  rfl

/-- Behind what is skipped follows what is left. -/
@[simp]
theorem rest_upTo (value : α) (c : Char) (left : Remainder s) :
    (upTo value c left).rest = left.val :=
  rfl

/-- Changing the value changes what was found. -/
@[simp]
theorem value_map : (found.map f).value = f found.value := rfl

/-- Changing the value leaves the rest of the text alone. -/
@[simp]
theorem rest_map : (found.map f).rest = found.rest := rfl

/-- In a longer text the same is found. -/
@[simp]
theorem value_widen (le : s.length ≤ t.length) : (found.widen le).value = found.value := rfl

/-- In a longer text the same follows. -/
@[simp]
theorem rest_widen (le : s.length ≤ t.length) : (found.widen le).rest = found.rest := rfl

/-- Behind a first character the same is found. -/
@[simp]
theorem value_behind (c : Char) : (found.behind c).value = found.value := rfl

/-- Behind a first character the same follows. -/
@[simp]
theorem rest_behind (c : Char) : (found.behind c).rest = found.rest := rfl

end Fields

end Scanned

end StructuralTyping.Text
