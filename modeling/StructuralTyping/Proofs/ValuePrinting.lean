import Mathlib.Algebra.Ring.Int.Defs
import StructuralTyping.Proofs.JsonPrinting
import StructuralTyping.Proofs.JsonRoutes
/-!
# Printed values are read back

What the printer writes for a value, the reader reads as that value again: strings with
whatever characters, integers that fit in 64 bits, lists, and mappings in which no name comes
twice, nested as deep as the reader goes. A number has no end mark of its own. It is read as far
as digits go, so what follows it must not look like more of it; in a list or a mapping that is
a comma or a bracket.
-/
set_option autoImplicit false

namespace StructuralTyping.Json

open StructuralTyping.Text

/-- The values that come back from their text, with lists and mappings nested at most as deep
as given: there are no doubles, integers fit in 64 bits with or without a sign, and no name
comes twice in a mapping. -/
inductive Plain : Nat → Value → Prop where
  | null {depth : Nat} : Plain depth .null
  | boolean {depth : Nat} (value : Bool) : Plain depth (.boolean value)
  | integer {depth : Nat} {i : Int} (least : -2 ^ 63 ≤ i) (most : i < 2 ^ 64) :
      Plain depth (.number (.integer i))
  | string {depth : Nat} (s : String) : Plain depth (.string s)
  | list {depth : Nat} {items : List Value} (plain : ∀ item ∈ items, Plain depth item) :
      Plain (depth + 1) (.list items)
  | mapping {depth : Nat} {entries : List (String × Value)}
      (distinct : (entries.map Prod.fst).Nodup) (plain : ∀ entry ∈ entries, Plain depth entry.2) :
      Plain (depth + 1) (.mapping entries)

/-- A text that does not go on with a part of a number. -/
def Stops (rest : List Char) : Prop :=
  ∀ c later, rest = c :: later → c.isDigit = false ∧ c ≠ '.' ∧ c ≠ 'e' ∧ c ≠ 'E'

section Numbers

variable {negative : Bool} {n m : Nat} {i : Int} {digits rest : List Char}

/-- More digits make no smaller number. -/
theorem le_decimalValue (m : Nat) (digits : List Char) : m ≤ decimalValue m digits := by
  induction digits generalizing m with
  | nil => exact Nat.le_refl m
  | cons c later inductionHypothesis =>
    have longer := inductionHypothesis (10 * m + (c.toNat - '0'.toNat))
    exact Nat.le_trans (by omega) longer

/-- All digits count of a number below `2 ^ 64`. -/
theorem significant_of_small (small : decimalValue m digits < Nat.pow 2 64) :
    significant m digits = (decimalValue m digits, 0) := by
  induction digits generalizing m with
  | nil => rfl
  | cons c later inductionHypothesis =>
    have counted := Nat.lt_of_le_of_lt (le_decimalValue _ later) small
    rw [significant, if_pos counted]
    exact inductionHypothesis small

/-- Decimal digits stand for the number that they were made of. -/
theorem decimalValue_toDigits (n : Nat) : decimalValue 0 (Nat.toDigits 10 n) = n :=
  Nat.ofDigitChars_eq_foldl.symm.trans Nat.ofDigitChars_ten_toDigits

/-- A number is shown with one digit at least. -/
theorem exists_toDigits_eq_cons (n : Nat) :
    ∃ c later, Nat.toDigits 10 n = c :: later ∧ c.isDigit = true ∧
      ∀ d ∈ later, d.isDigit = true := by
  have all : ∀ c ∈ Nat.toDigits 10 n, c.isDigit = true :=
    fun c member => Nat.isDigit_of_mem_toDigits (by decide) (by decide) member
  cases digits : Nat.toDigits 10 n with
  | nil => exact absurd digits Nat.toDigits_ne_nil
  | cons c later =>
    rw [digits] at all
    exact ⟨c, later, rfl, List.forall_mem_cons.1 all⟩

/-- Only zero begins with a zero. -/
theorem head_toDigits (positive : 0 < n) : (Nat.toDigits 10 n).head? ≠ some '0' := by
  induction n using Nat.strongRecOn with
  | ind n inductionHypothesis =>
    rw [Nat.toDigits_eq_if (by decide)]
    split
    · rename_i small
      have digits : ∀ k < 10, 0 < k → Nat.digitChar k ≠ '0' := by decide
      simpa using digits n small positive
    · have leading := inductionHypothesis (n / 10) (by omega) (by omega)
      obtain ⟨c, later, digits, -⟩ := exists_toDigits_eq_cons (n / 10)
      simpa [digits] using leading

/-- Whole digits that stop are a number. -/
theorem finds_afterWhole {s : List Char} (shorter : rest.length < s.length) (stops : Stops rest)
    (whole : wholeNumber negative m 0 = .integer i) :
    Finds (afterWhole negative m 0 rest shorter) (.integer i) rest := by
  cases rest with
  | nil => simp [afterWhole, whole, inRange]
  | cons c later =>
    obtain ⟨-, noPoint, noLower, noUpper⟩ := stops c later rfl
    simp [afterWhole, noPoint, noLower, noUpper, whole, inRange]

/-- Digits are taken up to where they stop. -/
theorem takeWhile_isDigit_append (all : ∀ c ∈ digits, c.isDigit = true) (stops : Stops rest) :
    (digits ++ rest).takeWhile Char.isDigit = digits ∧
      (digits ++ rest).dropWhile Char.isDigit = rest := by
  rw [List.takeWhile_append_of_pos all, List.dropWhile_append_of_pos all]
  cases rest with
  | nil => simp
  | cons c later => simp [(stops c later rfl).1]

/-- The digits of a number below `2 ^ 64` are read as this number. -/
theorem finds_unsigned_printed (stops : Stops rest) (small : n < Nat.pow 2 64)
    (whole : wholeNumber negative n 0 = .integer i) :
    Finds (unsigned negative (Nat.toDigits 10 n ++ rest)) (.integer i) rest := by
  rcases Nat.eq_zero_or_pos n with rfl | positive
  · rw [Nat.toDigits_zero]
    cases rest with
    | nil => exact finds_afterWhole (Nat.lt_succ_self _) stops whole
    | cons d later =>
      have noDigit := (stops d later rfl).1
      simp only [List.cons_append, List.nil_append, unsigned, noDigit]
      exact finds_afterWhole (Nat.lt_succ_self _) stops whole
  · have value := decimalValue_toDigits n
    have leading := head_toDigits positive
    obtain ⟨c, later, digits, isDigit, allLater⟩ := exists_toDigits_eq_cons n
    rw [digits] at value leading ⊢
    have noZero : c ≠ '0' := fun zero => leading (congrArg some zero)
    obtain ⟨taken, dropped⟩ := takeWhile_isDigit_append allLater stops
    have counted : significant 0 (c :: later) = (n, 0) := by
      rw [significant_of_small (value.symm ▸ small), value]
    simp only [List.cons_append, unsigned, if_neg noZero, isDigit, if_true, taken, counted]
    simp only [dropped]
    exact finds_afterWhole _ stops whole

/-- A printed integer that fits in 64 bits is read as itself. -/
theorem finds_number_printed (stops : Stops rest) (least : -2 ^ 63 ≤ i) (most : i < 2 ^ 64) :
    Finds (number (printedInt i ++ rest)) (.integer i) rest := by
  by_cases below : i < 0
  · have whole : wholeNumber true i.natAbs 0 = .integer i := by
      have fits : i.natAbs ≤ Nat.pow 2 63 := by
        rw [Nat.pow_eq]
        omega
      have nonzero : i.natAbs ≠ 0 := by omega
      have sign : -(i.natAbs : Int) = i := by omega
      rw [wholeNumber, if_neg (by simp), if_pos ⟨rfl, nonzero, fits⟩, sign]
    have small : i.natAbs < Nat.pow 2 64 := by
      rw [Nat.pow_eq]
      omega
    obtain ⟨_, read⟩ := finds_unsigned_printed stops small whole
    rw [printedInt, if_pos below, List.cons_append, number, if_pos rfl, read]
    exact finds_ok.2 ⟨rfl, rfl⟩
  · have whole : wholeNumber false i.natAbs 0 = .integer i := by
      have sign : (i.natAbs : Int) = i := by omega
      rw [wholeNumber, if_pos ⟨rfl, by simp⟩, sign]
    have small : i.natAbs < Nat.pow 2 64 := by
      rw [Nat.pow_eq]
      omega
    have read := finds_unsigned_printed stops small whole
    obtain ⟨c, later, digits, isDigit, -⟩ := exists_toDigits_eq_cons i.natAbs
    have noSign : c ≠ '-' := by
      rintro rfl
      exact absurd isDigit (by decide)
    rw [printedInt, if_neg below]
    rw [digits] at read ⊢
    rwa [List.cons_append, number, if_neg noSign]

/-- A printed integer begins like a number. -/
theorem exists_printedInt_eq_cons (i : Int) :
    ∃ c later, printedInt i = c :: later ∧ beginsNumber c = true := by
  by_cases below : i < 0
  · exact ⟨_, _, if_pos below, rfl⟩
  · obtain ⟨c, later, digits, isDigit, -⟩ := exists_toDigits_eq_cons i.natAbs
    exact ⟨c, later, (if_neg below).trans digits, by simp [beginsNumber, isDigit]⟩

end Numbers

section Values

variable {depth : Nat} {c : Char} {s rest : List Char} {v : Value}

/-- Digits stop before a comma or a closing bracket. -/
theorem stops_cons (mark : c = ',' ∨ c = ']' ∨ c = '\x7d') : Stops (c :: rest) := by
  rintro _ _ ⟨⟩
  rcases mark with rfl | rfl | rfl <;> decide

/-- What has no parts is a value at every depth. -/
theorem valueText_of_scalar (visible : isBlank c = false) (found : Finds (scalar c s) v rest) :
    ValueText depth (c :: s) v rest := by
  refine valueText_iff.2 ⟨c, s, (token_iff visible).1 .done, ?_⟩
  cases depth with
  | zero => exact finds_valueFrom_zero_iff.2 found
  | succ depth => exact finds_valueFrom_iff.2 (Or.inr (Or.inr found))

/-- A printed integer of 64 bits, with or without sign, is written as this integer. -/
theorem valueText_integer {i : Int} (stops : Stops rest) (least : -2 ^ 63 ≤ i)
    (most : i < 2 ^ 64) :
    ValueText depth (printedInt i ++ rest) (.number (.integer i)) rest := by
  have found := finds_number_printed stops least most
  obtain ⟨c, later, printed, begins⟩ := exists_printedInt_eq_cons i
  rw [printed, List.cons_append] at found ⊢
  obtain ⟨_, read⟩ := found
  have differs : ∀ d, beginsNumber d = false → c ≠ d := by
    rintro d noNumber rfl
    exact absurd begins (by simp [noNumber])
  have visible : isBlank c = false := by
    simp [isBlank, differs ' ' rfl, differs '\t' rfl, differs '\n' rfl, differs '\r' rfl]
  refine valueText_of_scalar visible ?_
  simp [scalar, differs 'n' rfl, differs 't' rfl, differs 'f' rfl, begins, read]

/-- A value without doubles stands where it was printed, whatever stops its last number. -/
theorem valueText_printed (plain : Plain depth v) (stops : Stops rest) :
    ValueText depth (printed v ++ rest) v rest := by
  induction plain generalizing rest with
  | null => exact valueText_of_scalar rfl (by simp [scalar, letters])
  | boolean value =>
    cases value with
    | true => exact valueText_of_scalar rfl (by simp [scalar, letters])
    | false => exact valueText_of_scalar rfl (by simp [scalar, letters])
  | integer least most =>
    rw [printed, printedNumber]
    exact valueText_integer stops least most
  | string s =>
    rw [printed]
    exact valueText_string_iff.2 (quotedText_printed s rest)
  | list _ inductionHypothesis =>
    rw [printed, printedItems_eq_map, List.append_assoc]
    refine valueText_list_iff.2 (frameText_printed (fun item member c following mark => ?_) rest)
    exact inductionHypothesis item member (stops_cons (mark.imp_right Or.inl))
  | mapping distinct _ inductionHypothesis =>
    rw [printed, printedEntries_eq_map, List.append_assoc]
    refine valueText_mapping_iff.2 ⟨_, frameText_printed (fun entry member c following mark => ?_)
      rest, Value.ofEntries_of_nodup distinct⟩
    rw [printedEntry, List.append_assoc]
    exact ⟨_, _, quotedText_printed entry.1 _, Blanks.done,
      inductionHypothesis entry member (stops_cons (mark.imp_right Or.inr))⟩

/-- A printed value without doubles is read as itself. -/
theorem read_printed (plain : Plain nestingLimit v) : read (printed v) = .ok v := by
  have ends : Stops [] := by
    rintro _ _ ⟨⟩
  have written := valueText_printed plain ends
  rw [List.append_nil] at written
  exact read_eq_ok_iff.2 ⟨[], written, Blanks.done⟩

end Values

end StructuralTyping.Json
