import StructuralTyping.Json.Grammar
import StructuralTyping.Json.String
/-!
# Strings are read as they are written

For every reader of a part of a string: what it finds in a text is what the grammar says is
written there, and it finds that wherever it is written. This goes from the single digit to
the unit, the pair of surrogates and the escape, and from there over the characters of a
string up to its closing quote. Places of faults do not come in.
-/
set_option autoImplicit false

namespace StructuralTyping.Json

open StructuralTyping.Text

/-- A reader found a value at the front of its text, and another text behind it. -/
def Finds {α : Type} {s : List Char} (scan : Scan α s) (x : α) (rest : List Char) : Prop :=
  ∃ shorter, scan = .ok ⟨x, rest, shorter⟩

section Finds

variable {α : Type} {s rest : List Char} {x : α}

/-- A reader finds the value that it returns, and the text that it leaves. -/
@[simp]
theorem finds_ok {found : Scanned α s} :
    Finds (.ok found) x rest ↔ found.value = x ∧ found.rest = rest := by
  constructor
  · rintro ⟨_, same⟩
    cases same
    exact ⟨rfl, rfl⟩
  · rintro ⟨rfl, rfl⟩
    exact ⟨found.shorter, rfl⟩

/-- A reader that refuses its text finds nothing. -/
@[simp]
theorem not_finds_error {fault : Fault} : ¬Finds (.error fault : Scan α s) x rest := by
  rintro ⟨_, found⟩
  cases found

end Finds

/-- A lower or upper bound on a character bounds its number. -/
theorem char_le_iff {a b : Char} : a ≤ b ↔ a.toNat ≤ b.toNat := by
  rw [Char.le_def, UInt32.le_iff_toNat_le]
  rfl

/-- A digit is read as the number that it is written for. -/
theorem hexDigit?_eq_some_iff {c : Char} {n : Nat} : hexDigit? c = some n ↔ HexDigit c n := by
  constructor
  · have decimal : ∀ k < 10, lowerDigits[k]? = some (Char.ofNat (k + 48)) := by decide
    have lower : ∀ k < 6, lowerDigits[k + 10]? = some (Char.ofNat (k + 97)) := by decide
    have upper : ∀ k < 6, upperDigits[k + 10]? = some (Char.ofNat (k + 65)) := by decide
    have known : ∀ k, c.toNat = k → Char.ofNat k = c := by
      rintro _ rfl
      exact Char.ofNat_toNat c
    intro read
    simp only [hexDigit?, char_le_iff, Char.reduceToNat] at read
    split at read
    · rename_i bounds
      cases read
      exact Or.inl ((decimal _ (by omega)).trans (congrArg some (known _ (by omega))))
    · split at read
      · rename_i bounds
        cases read
        exact Or.inl ((lower _ (by omega)).trans (congrArg some (known _ (by omega))))
      · split at read
        · rename_i bounds
          cases read
          exact Or.inr ((upper _ (by omega)).trans (congrArg some (known _ (by omega))))
        · cases read
  · have lower : ∀ k : Fin 16, hexDigit? lowerDigits[k] = some k.val := by decide
    have upper : ∀ k : Fin 16, hexDigit? upperDigits[k] = some k.val := by decide
    rintro (listed | listed)
    · obtain ⟨inside, rfl⟩ := List.getElem?_eq_some_iff.1 listed
      exact lower ⟨n, inside⟩
    · obtain ⟨inside, rfl⟩ := List.getElem?_eq_some_iff.1 listed
      exact upper ⟨n, inside⟩

/-- Digits are read from left to right. -/
theorem hexValue?_cons {n m : Nat} {c : Char} {later : List Char} :
    hexValue? n (c :: later) = some m ↔
      ∃ digit, HexDigit c digit ∧ hexValue? (16 * n + digit) later = some m := by
  simp only [← hexDigit?_eq_some_iff]
  cases digit : hexDigit? c <;> simp [hexValue?, digit]

/-- Four digits are read as the number to base sixteen that they are written for. -/
theorem hexValue?_four {n : Nat} {a b c d : Char} :
    hexValue? 0 [a, b, c, d] = some n ↔
      ∃ w x y z, HexDigit a w ∧ HexDigit b x ∧ HexDigit c y ∧ HexDigit d z ∧
        n = ((w * 16 + x) * 16 + y) * 16 + z := by
  rw [hexValue?_cons]
  constructor
  · rintro ⟨w, first, read⟩
    obtain ⟨x, second, read⟩ := hexValue?_cons.1 read
    obtain ⟨y, third, read⟩ := hexValue?_cons.1 read
    obtain ⟨z, fourth, read⟩ := hexValue?_cons.1 read
    have value := Option.some.inj read
    exact ⟨w, x, y, z, first, second, third, fourth, by omega⟩
  · rintro ⟨w, x, y, z, first, second, third, fourth, value⟩
    refine ⟨w, first, hexValue?_cons.2 ⟨x, second, hexValue?_cons.2 ⟨y, third,
      hexValue?_cons.2 ⟨z, fourth, congrArg some ?_⟩⟩⟩⟩
    omega

/-- A unit is read exactly where four hexadecimal digits stand. -/
theorem finds_unit_iff {s rest : List Char} {n : Nat} :
    Finds (unit s) n rest ↔ UnitText s n rest := by
  constructor
  · rw [unit.eq_def]
    split
    · rename_i a b c d after
      split
      · rename_i m read
        rw [finds_ok]
        rintro ⟨rfl, rfl⟩
        obtain ⟨w, x, y, z, first, second, third, fourth, rfl⟩ := hexValue?_four.1 read
        exact UnitText.digits first second third fourth
      · simp
    · simp
  · rintro ⟨first, second, third, fourth⟩
    have value := hexValue?_four.2 ⟨_, _, _, _, first, second, third, fourth, rfl⟩
    simp [unit, value]

/-- Leading surrogates are a range of units. -/
theorem isLeading_iff {n : Nat} : isLeading n = true ↔ 0xD800 ≤ n ∧ n ≤ 0xDBFF := by
  simp [isLeading]

/-- Trailing surrogates are a range of units. -/
theorem isTrailing_iff {n : Nat} : isTrailing n = true ↔ 0xDC00 ≤ n ∧ n ≤ 0xDFFF := by
  simp [isTrailing]

/-- The code point of a pair, with its summands in the order of the grammar. -/
theorem pairCode_eq (leading trailing : Nat) :
    pairCode leading trailing = 0x10000 + (leading - 0xD800) * 0x400 + (trailing - 0xDC00) := by
  rw [pairCode]
  omega

/-- A mark was read where it stands. -/
theorem pairMark_eq_ok {mark : Char} {s : List Char} {found : Scanned Unit s}
    (read : pairMark mark s = .ok found) : s = mark :: found.rest := by
  cases s with
  | nil => cases read
  | cons c rest =>
    rw [pairMark] at read
    split at read
    · rename_i here
      cases read
      rw [here, Scanned.rest_one]
    · cases read

/-- The second half of a pair is a trailing surrogate behind its backslash and letter. -/
theorem finds_trailingUnit_iff {s rest : List Char} {n : Nat} :
    Finds (trailingUnit s) n rest ↔
      ∃ middle, s = '\\' :: 'u' :: middle ∧ UnitText middle n rest ∧ 0xDC00 ≤ n ∧ n ≤ 0xDFFF := by
  constructor
  · fun_cases trailingUnit s with
    | case4 slash slashRead mark markRead digits digitsRead trailing =>
      rw [finds_ok]
      rintro ⟨rfl, rfl⟩
      refine ⟨mark.rest, ?_, finds_unit_iff.1 ⟨digits.shorter, digitsRead⟩,
        isTrailing_iff.1 trailing⟩
      exact (pairMark_eq_ok slashRead).trans (congrArg _ (pairMark_eq_ok markRead))
    | _ => simp
  · rintro ⟨middle, rfl, read, trailing⟩
    obtain ⟨_, second⟩ := finds_unit_iff.2 read
    simp [trailingUnit, pairMark, second, isTrailing_iff.2 trailing]

/-- Behind the letter of a numbered escape stands a unit that is no surrogate, or a pair. -/
theorem finds_unicodeEscape_iff {s rest : List Char} {c : Char} :
    Finds (unicodeEscape s) c rest ↔ EscapeText ('u' :: s) c rest := by
  constructor
  · fun_cases unicodeEscape s with
    | case4 first firstRead notTrailing leading second secondRead =>
      rw [finds_ok]
      rintro ⟨rfl, rfl⟩
      obtain ⟨middle, behind, digits, trailing⟩ :=
        finds_trailingUnit_iff.1 ⟨second.shorter, secondRead⟩
      have digitsFirst := finds_unit_iff.1 ⟨first.shorter, firstRead⟩
      rw [behind] at digitsFirst
      have code := pairCode_eq first.value second.value
      -- the character of the pair is compared by its number, without computing it
      generalize pairCode first.value second.value = n at code ⊢
      exact EscapeText.pair digitsFirst (isLeading_iff.1 leading) digits trailing code
    | case5 first firstRead notTrailing notLeading =>
      rw [finds_ok]
      rintro ⟨rfl, rfl⟩
      rw [isTrailing_iff] at notTrailing
      rw [isLeading_iff] at notLeading
      exact EscapeText.unit (finds_unit_iff.1 ⟨first.shorter, firstRead⟩) (by omega)
    | _ => simp
  · intro text
    cases text with
    | letter named => simp [escapeLetters] at named
    | @unit _ _ n digits single =>
      obtain ⟨_, read⟩ := finds_unit_iff.2 digits
      have notTrailing : ¬isTrailing n = true := mt isTrailing_iff.1 (by omega)
      have notLeading : ¬isLeading n = true := mt isLeading_iff.1 (by omega)
      simp only [unicodeEscape, read, if_neg notTrailing, if_neg notLeading]
      exact finds_ok.2 ⟨rfl, rfl⟩
    | @pair _ _ _ high low n first leading second trailing code =>
      obtain ⟨_, firstRead⟩ := finds_unit_iff.2 first
      obtain ⟨_, secondRead⟩ := finds_trailingUnit_iff.2 ⟨_, rfl, second, trailing⟩
      have notTrailing : ¬isTrailing high = true := mt isTrailing_iff.1 (by omega)
      simp only [unicodeEscape, firstRead, if_neg notTrailing, if_pos (isLeading_iff.2 leading),
        secondRead, pairCode_eq, ← code]
      exact finds_ok.2 ⟨rfl, rfl⟩

/-- The letters of escapes are those of the table. -/
theorem letterEscape?_eq_some_iff {mark c : Char} :
    letterEscape? mark = some c ↔ (mark, c) ∈ escapeLetters := by
  constructor
  · fun_cases letterEscape? mark with
    | case1 same =>
      rintro ⟨⟩
      rcases same with rfl | rfl | rfl <;> decide
    | case7 => rintro ⟨⟩
    | _ =>
      rintro ⟨⟩
      subst mark
      decide
  · intro listed
    simp only [escapeLetters, List.mem_cons, Prod.mk.injEq, List.not_mem_nil, or_false] at listed
    rcases listed with ⟨rfl, rfl⟩ | ⟨rfl, rfl⟩ | ⟨rfl, rfl⟩ | ⟨rfl, rfl⟩ | ⟨rfl, rfl⟩ |
      ⟨rfl, rfl⟩ | ⟨rfl, rfl⟩ | ⟨rfl, rfl⟩ <;> rfl

/-- The letter of a numbered escape stands for no character of its own. -/
theorem letterEscape?_unit : letterEscape? 'u' = none := rfl

/-- An escape is read exactly where one stands. -/
theorem finds_escape_iff {s rest : List Char} {c : Char} :
    Finds (escape s) c rest ↔ EscapeText s c rest := by
  constructor
  · fun_cases escape s with
    | case2 mark after plain named =>
      simp only [escape, named, finds_ok]
      rintro ⟨rfl, rfl⟩
      exact EscapeText.letter (letterEscape?_eq_some_iff.1 named)
    | case4 after found read =>
      simp only [escape, letterEscape?_unit, read, if_true, finds_ok]
      rintro ⟨rfl, rfl⟩
      exact finds_unicodeEscape_iff.1 ⟨found.shorter, read⟩
    | _ => simp [escape, *]
  · intro text
    cases text with
    | letter listed =>
      rw [escape, letterEscape?_eq_some_iff.2 listed]
      simp
    | unit digits single =>
      obtain ⟨_, read⟩ := finds_unicodeEscape_iff.2 (EscapeText.unit digits single)
      simp [escape, letterEscape?_unit, read]
    | pair first leading second trailing code =>
      obtain ⟨_, read⟩ :=
        finds_unicodeEscape_iff.2 (EscapeText.pair first leading second trailing code)
      simp [escape, letterEscape?_unit, read]

/-- A string is read exactly where one stands. -/
theorem finds_stringBody_iff {s rest text : List Char} :
    Finds (stringBody s) text rest ↔ StringText s text rest := by
  constructor
  · fun_induction stringBody s generalizing text with
    | case2 after =>
      rw [finds_ok]
      rintro ⟨rfl, rfl⟩
      exact StringText.close
    | case5 after found escapeRead later read _ inductionHypothesis =>
      rw [finds_ok]
      rintro ⟨rfl, rfl⟩
      exact StringText.escaped (finds_escape_iff.1 ⟨found.shorter, escapeRead⟩)
        (inductionHypothesis ⟨later.shorter, read⟩)
    | case8 c after noQuote noBackslash visible later read inductionHypothesis =>
      rw [finds_ok]
      rintro ⟨rfl, rfl⟩
      exact StringText.plain (Nat.not_lt.1 visible) noQuote noBackslash
        (inductionHypothesis ⟨later.shorter, read⟩)
    | _ => simp
  · intro body
    induction body with
    | close => simp [stringBody]
    | plain visible noQuote noBackslash further inductionHypothesis =>
      obtain ⟨_, read⟩ := inductionHypothesis
      simp [stringBody, noQuote, noBackslash, Nat.not_lt.2 visible, read]
    | escaped escape further inductionHypothesis =>
      obtain ⟨_, escapeRead⟩ := finds_escape_iff.2 escape
      obtain ⟨_, read⟩ := inductionHypothesis
      simp [stringBody, escapeRead, read]

end StructuralTyping.Json
