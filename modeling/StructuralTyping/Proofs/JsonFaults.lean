import StructuralTyping.Json.Contract
/-!
# Faults that are not about a name

Only the reader of declarations reports that a name was declared before. Every reader below
it, of a string, a number, a frame, a list of parameters or a single declaration, refuses a
text for other causes; and a fault that it was handed by one of its parts is passed on as it
is. So whatever is wrong inside a declaration cannot be taken for a name that returns.
-/
set_option autoImplicit false

namespace StructuralTyping.Json

open StructuralTyping.Text

/-- A reading that is not refused for a name that was declared before. -/
def Unrepeated {α : Type} (result : Except Fault α) : Prop :=
  ∀ cause left, result ≠ .error ⟨.duplicate cause, left⟩

section Results

variable {α β : Type}

/-- A reading that succeeds is not refused at all. -/
@[simp]
theorem unrepeated_ok (x : α) : Unrepeated (.ok x : Except Fault α) := by
  rintro cause left ⟨⟩

/-- A fault is not about a name if its cause is not. -/
@[simp]
theorem unrepeated_error {fault : Fault} :
    Unrepeated (.error fault : Except Fault α) ↔ ∀ cause, fault.cause ≠ .duplicate cause := by
  obtain ⟨_, left⟩ := fault
  simp [Unrepeated]

/-- A fault of a part is passed on as it is. -/
theorem Unrepeated.passed {part : Except Fault β} (unrepeated : Unrepeated part) {fault : Fault}
    (refused : part = .error fault) : Unrepeated (.error fault : Except Fault α) := by
  rintro cause left ⟨⟩
  exact unrepeated cause left refused

end Results

section Strings

/-- Four digits are refused for the escape they belong to, or for the end of the text. -/
theorem unrepeated_unit (s : List Char) : Unrepeated (unit s) := by
  have bad : ∀ cause, (badUnit s).cause ≠ .duplicate cause := by
    rw [badUnit]
    split <;> simp
  fun_cases unit s <;> simp [unit, *]

/-- A character between the halves of a pair is refused because it is another one. -/
theorem unrepeated_pairMark (mark : Char) (s : List Char) : Unrepeated (pairMark mark s) := by
  fun_cases pairMark mark s <;> simp [pairMark, *]

/-- The second half of a pair is refused for its marks, its digits, or being no second half. -/
theorem unrepeated_trailingUnit (s : List Char) : Unrepeated (trailingUnit s) := by
  fun_cases trailingUnit s with
  | case1 fault refused => exact (unrepeated_pairMark _ _).passed refused
  | case2 slash _ fault refused => exact (unrepeated_pairMark _ _).passed refused
  | case3 slash _ mark _ fault refused => exact (unrepeated_unit _).passed refused
  | _ => simp

/-- An escape by units is refused for one of its units. -/
theorem unrepeated_unicodeEscape (s : List Char) : Unrepeated (unicodeEscape s) := by
  fun_cases unicodeEscape s with
  | case1 fault refused => exact (unrepeated_unit _).passed refused
  | case3 first _ _ _ fault refused => exact (unrepeated_trailingUnit _).passed refused
  | _ => simp

/-- An escape is refused for its letter or its units. -/
theorem unrepeated_escape (s : List Char) : Unrepeated (escape s) := by
  cases s with
  | nil => simp [escape]
  | cons c rest =>
    rw [escape]
    split
    · simp
    · split
      · split <;> rename_i read
        · exact (unrepeated_unicodeEscape rest).passed read
        · simp
      · simp

/-- A string is refused for an escape, a control character, or its missing end. -/
theorem unrepeated_stringBody (s : List Char) : Unrepeated (stringBody s) := by
  fun_induction stringBody s with
  | case3 rest fault refused => exact (unrepeated_escape rest).passed refused
  | case4 rest found _ fault refused _ inductionHypothesis =>
    exact inductionHypothesis.passed refused
  | case7 c rest _ _ _ fault refused inductionHypothesis => exact inductionHypothesis.passed refused
  | _ => simp

end Strings

section Numbers

variable {s rest : List Char} {shorter : rest.length < s.length} (negative : Bool) (m : Nat)
  (e : Int)

/-- A number that was read can only be too large. -/
theorem unrepeated_inRange (n : Number) : Unrepeated (inRange n rest shorter) := by
  cases n with
  | integer i => simp [inRange]
  | double d =>
    rw [inRange]
    split <;> simp

/-- The digits of an exponent can be missing or make the number too large. -/
theorem unrepeated_exponentDigits (down : Bool) (s : List Char) :
    Unrepeated (exponentDigits negative m e down s) := by
  cases s with
  | nil => simp [exponentDigits]
  | cons c rest =>
    rw [exponentDigits]
    dsimp only
    split
    · split
      · split <;> simp
      · exact unrepeated_inRange _
    · simp

/-- An exponent is refused for its digits. -/
theorem unrepeated_exponent (s : List Char) : Unrepeated (exponent negative m e s) := by
  cases s with
  | nil => exact unrepeated_exponentDigits negative m e false []
  | cons c rest =>
    rw [exponent]
    split
    · split <;> rename_i read
      · simp
      · exact (unrepeated_exponentDigits _ _ _ _ _).passed read
    · exact unrepeated_exponentDigits _ _ _ _ _

/-- Behind a fraction only an exponent can be refused, or the number for its size. -/
theorem unrepeated_afterFraction : Unrepeated (afterFraction negative m e rest shorter) := by
  cases rest with
  | nil =>
    rw [afterFraction]
    exact unrepeated_inRange _
  | cons c later =>
    rw [afterFraction]
    split
    · split <;> rename_i read
      · simp
      · exact (unrepeated_exponent _ _ _ _).passed read
    · exact unrepeated_inRange _

/-- A fraction is refused for missing digits or for what follows them. -/
theorem unrepeated_fraction (s : List Char) : Unrepeated (fraction negative m e s) := by
  rw [fraction]
  split
  · exact unrepeated_afterFraction _ _ _
  · split <;> simp

/-- Behind the whole digits a fraction or an exponent can be refused, or the number for its size. -/
theorem unrepeated_afterWhole (leftOut : Nat) :
    Unrepeated (afterWhole negative m leftOut rest shorter) := by
  cases rest with
  | nil =>
    rw [afterWhole]
    exact unrepeated_inRange _
  | cons c later =>
    rw [afterWhole]
    split
    · split <;> rename_i read
      · simp
      · exact (unrepeated_fraction _ _ _ _).passed read
    · split
      · split <;> rename_i read
        · simp
        · exact (unrepeated_exponent _ _ _ _).passed read
      · exact unrepeated_inRange _

/-- A number without sign is refused for its digits or for what follows them. -/
theorem unrepeated_unsigned (s : List Char) : Unrepeated (unsigned negative s) := by
  cases s with
  | nil => simp [unsigned]
  | cons c rest =>
    rw [unsigned.eq_def]
    dsimp only
    split
    · split
      · split
        · simp
        · exact unrepeated_afterWhole _ _ _
      · exact unrepeated_afterWhole _ _ _
    · split
      · exact unrepeated_afterWhole _ _ _
      · simp

/-- A number is refused for what is behind its sign. -/
theorem unrepeated_number (s : List Char) : Unrepeated (number s) := by
  cases s with
  | nil => exact unrepeated_unsigned false []
  | cons c rest =>
    rw [number]
    split
    · split <;> rename_i read
      · simp
      · exact (unrepeated_unsigned _ _).passed read
    · exact unrepeated_unsigned _ _

end Numbers

section Frames

/-- A literal is refused for a letter that differs or is missing. -/
theorem unrepeated_letters (s expected : List Char) : Unrepeated (letters s expected) := by
  fun_induction letters s expected with
  | case3 c rest later fault refused inductionHypothesis => exact inductionHypothesis.passed refused
  | _ => simp

/-- Behind the bracket of a list only the end of the text is refused. -/
theorem unrepeated_openList (s : List Char) : Unrepeated (openList s) := by
  fun_cases openList s <;> simp

/-- Behind an item of a list only what is neither a comma nor its bracket is refused. -/
theorem unrepeated_continueList (s : List Char) : Unrepeated (continueList s) := by
  fun_cases continueList s <;> simp

/-- Behind the brace of an object only what begins no key is refused. -/
theorem unrepeated_openObject (s : List Char) : Unrepeated (openObject s) := by
  fun_cases openObject s <;> simp

/-- Behind an entry of an object only what is neither a comma nor its brace is refused. -/
theorem unrepeated_continueObject (s : List Char) : Unrepeated (continueObject s) := by
  fun_cases continueObject s <;> simp

/-- Behind a key only what is no colon is refused. -/
theorem unrepeated_colon (s : List Char) : Unrepeated (colon s) := by
  fun_cases colon s <;> simp

/-- Behind a whole value only further characters are refused. -/
theorem unrepeated_finish {α : Type} {s : List Char} (found : Scanned α s) :
    Unrepeated (finish found) := by
  fun_cases finish found <;> simp

end Frames

section Items

variable {α : Type} {item : (s : List Char) → Scan α s}

/-- Blanks add no cause but the end of the text. -/
theorem unrepeated_behindBlanks {read : (c : Char) → (rest : List Char) → Scan α (c :: rest)}
    (each : ∀ c rest, Unrepeated (read c rest)) (s : List Char) :
    Unrepeated (behindBlanks read s) := by
  fun_cases behindBlanks read s with
  | case2 c rest _ _ fault refused => exact (each c rest).passed refused
  | _ => simp

/-- The items of a list are refused for one of them or for what stands between them. -/
theorem unrepeated_items (each : ∀ s, Unrepeated (item s)) (s : List Char) :
    Unrepeated (items item s) := by
  fun_induction items item s with
  | case1 s fault refused => exact (each s).passed refused
  | case2 s first rest _ _ fault refused => exact (unrepeated_continueList rest).passed refused
  | case4 s first rest _ _ next _ _ fault refused inductionHypothesis =>
    exact inductionHypothesis.passed refused
  | _ => simp

/-- A list is refused for its items or for its brackets. -/
theorem unrepeated_list (each : ∀ s, Unrepeated (item s)) (c : Char) (rest : List Char) :
    Unrepeated (list item c rest) := by
  fun_cases list item c rest with
  | case1 fault refused => exact (unrepeated_openList rest).passed refused
  | case3 first _ _ fault refused => exact (unrepeated_items each first).passed refused
  | _ => simp

/-- An entry is refused for its key, its colon, or its value. -/
theorem unrepeated_entry (each : ∀ s, Unrepeated (item s)) (s : List Char) :
    Unrepeated (entry item s) := by
  fun_cases entry item s with
  | case1 fault refused => exact (unrepeated_stringBody s).passed refused
  | case2 key afterKey _ _ fault refused => exact (unrepeated_colon afterKey).passed refused
  | case3 key afterKey _ _ _ afterColon _ _ fault refused => exact (each afterColon).passed refused
  | _ => simp

end Items

section Declarations

/-- Neither the fault of a value of another shape nor one inside that value. -/
theorem unrepeated_mismatchAt {α : Type} (expected : Expected) (c : Char) (rest : List Char) :
    Unrepeated (.error (mismatchAt expected c rest) : Except Fault α) := by
  fun_cases mismatchAt expected c rest with
  | case3 _ _ _ fault refused => exact (unrepeated_letters _ _).passed refused
  | case5 _ _ _ _ fault refused => exact (unrepeated_letters _ _).passed refused
  | case7 _ _ _ _ _ fault refused => exact (unrepeated_letters _ _).passed refused
  | case9 _ _ _ _ _ _ fault refused => exact (unrepeated_number _).passed refused
  | case12 _ _ _ _ _ _ _ fault refused => exact (unrepeated_stringBody _).passed refused
  | _ => simp +zetaDelta

/-- A parameter name is refused as a string or for being none. -/
theorem unrepeated_parameterName (s : List Char) : Unrepeated (parameterName s) := by
  refine unrepeated_behindBlanks (fun c rest => ?_) s
  split
  · split <;> rename_i read
    · exact (unrepeated_stringBody rest).passed read
    · simp
  · exact unrepeated_mismatchAt _ c rest

/-- A parameter list is refused for one of its names or for being no list. -/
theorem unrepeated_parameterList (s : List Char) : Unrepeated (parameterList s) := by
  refine unrepeated_behindBlanks (fun c rest => ?_) s
  split
  · exact unrepeated_list unrepeated_parameterName c rest
  · exact unrepeated_mismatchAt _ c rest

/-- A single declaration is refused as an entry, and is not compared with others. -/
theorem unrepeated_declaration (s : List Char) : Unrepeated (declaration s) := by
  fun_cases declaration s with
  | case1 fault refused => exact (unrepeated_entry unrepeated_parameterList s).passed refused
  | _ => simp

end Declarations

end StructuralTyping.Json
