import Mathlib.Data.List.Forall2
import StructuralTyping.Proofs.JsonPrinting
import StructuralTyping.Toml.Printer
/-!
# Printed interfaces are read in TOML

What the printer writes for declarations, the TOML reader finds there, step by step: each
character of a basic string, the string as a key and as a value, the array of the
parameters, the line, and the lines one after the other. The places of what was read do not
matter, so lines are compared with declarations by what they say. The root table refuses a
name that returns, and so does an interface; on names that differ neither refuses anything.
Together with the JSON reader this gives that both formats carry declarations unchanged.
-/
set_option autoImplicit false

namespace StructuralTyping.Toml

open StructuralTyping.Text

/-- A reader found a value at the front of its text, and another text behind it. -/
def Finds {α : Type} {s : List Char} (found? : Option (Scanned α s)) (x : α) (rest : List Char) :
    Prop :=
  ∃ shorter, found? = some ⟨x, rest, shorter⟩

/-- A reader finds the value that it returns, and the text that it leaves. -/
@[simp]
theorem finds_some {α : Type} {s rest : List Char} {x : α} {found : Scanned α s} :
    Finds (some found) x rest ↔ found.value = x ∧ found.rest = rest := by
  constructor
  · rintro ⟨_, same⟩
    cases same
    exact ⟨rfl, rfl⟩
  · rintro ⟨rfl, rfl⟩
    exact ⟨found.shorter, rfl⟩

section Strings

variable {c : Char} {s rest text : List Char}

/-- The printed digit of a number is read as its last four bits. -/
theorem hexDigit?_hexDigitChar (n : Nat) : Json.hexDigit? (Json.hexDigitChar n) = some (n % 16) :=
  Json.hexDigit?_eq_some_iff.2 (Json.hexDigit_hexDigitChar n)

/-- The number of a character is the code point of this character. -/
theorem char?_toNat (c : Char) : char? c.toNat = some c := by
  have valid : c.toNat < 0xD800 ∨ 0xDFFF < c.toNat ∧ c.toNat < 0x110000 := c.valid
  rw [char?, if_pos valid, Char.ofNat_toNat]

/-- The letter of an escape stands for its character. -/
theorem finds_escape_letter {plain : Char} (letter : letterEscape? c = some plain)
    (rest : List Char) : Finds (escape? (c :: rest)) plain rest := by
  simp [escape?, letter]

/-- A character below U+0100 is read back from the four digits of its number. -/
theorem finds_escape_printed (c : Char) (rest : List Char) (small : c.toNat < 0x100) :
    Finds (escape? ('u' :: '0' :: '0' :: Json.hexDigitChar (c.toNat / 16) ::
      Json.hexDigitChar c.toNat :: rest)) c rest := by
  have value : 16 * (c.toNat / 16 % 16) + c.toNat % 16 = c.toNat := by omega
  have letter : letterEscape? 'u' = none := rfl
  have zero : Json.hexDigit? '0' = some 0 := rfl
  simp [escape?, letter, hexEscape?, zero, hexDigit?_hexDigitChar, value, char?_toNat]

/-- A character is read as it is printed. -/
theorem finds_basicBody_printedChar (further : Finds (basicBody? s) text rest) :
    Finds (basicBody? (printedChar c ++ s)) (c :: text) rest := by
  obtain ⟨_, laterRead⟩ := further
  fun_cases printedChar c with
  | case1 quote =>
    obtain ⟨_, escapeRead⟩ := finds_escape_letter (rfl : letterEscape? '"' = some '"') s
    simp [basicBody?, quote, escapeRead, laterRead]
  | case2 noQuote backslash =>
    obtain ⟨_, escapeRead⟩ := finds_escape_letter (rfl : letterEscape? '\\' = some '\\') s
    simp [basicBody?, backslash, escapeRead, laterRead]
  | case3 noQuote noBackslash control =>
    obtain ⟨_, escapeRead⟩ := finds_escape_printed c s (by omega)
    simp [basicBody?, escapeRead, laterRead]
  | case4 noQuote noBackslash visible =>
    have plain : isPlain c = true := by
      simp [isPlain]
      omega
    simp [basicBody?, noQuote, noBackslash, plain, laterRead]

/-- Printed characters are read up to the quote behind them. -/
theorem finds_basicBody_printed (text rest : List Char) :
    Finds (basicBody? (text.flatMap printedChar ++ '"' :: rest)) text rest := by
  induction text with
  | nil =>
    rw [List.flatMap_nil, List.nil_append, basicBody?]
    simp
  | cons c later inductionHypothesis =>
    rw [List.flatMap_cons, List.append_assoc]
    exact finds_basicBody_printedChar inductionHypothesis

/-- A printed string begins with its quote, whatever follows it. -/
theorem printedString_append (text : String) (rest : List Char) :
    printedString text ++ rest = '"' :: (text.toList.flatMap printedChar ++ '"' :: rest) := by
  simp [printedString]

/-- A printed character is no quote. -/
theorem head_printedChar (c : Char) : ∃ d later, printedChar c = d :: later ∧ d ≠ '"' := by
  fun_cases printedChar c with
  | case4 noQuote => exact ⟨_, _, rfl, noQuote⟩
  | _ => exact ⟨_, _, rfl, by decide⟩

/-- A string that two further quotes do not follow is one on a single line. -/
theorem anyString?_eq_short {quote : Char} (single : ∀ later, s ≠ quote :: quote :: later) :
    anyString? quote s = shortString? quote s := by
  match s with
  | [] => rfl
  | [_] => rfl
  | a :: b :: later =>
    rw [anyString?, if_neg]
    rintro ⟨rfl, rfl⟩
    exact single later rfl

/-- Behind its first quote, a printed string is read, if no quote follows it: only the empty
string begins with its closing quote. -/
theorem finds_anyString_printed (text rest : List Char) (noQuote : c ≠ '"') :
    Finds (anyString? '"' (text.flatMap printedChar ++ '"' :: c :: rest)) text (c :: rest) := by
  rw [anyString?_eq_short]
  · exact finds_basicBody_printed text (c :: rest)
  · cases text with
    | nil =>
      rintro later ⟨⟩
      exact noQuote rfl
    | cons first others =>
      obtain ⟨d, following, printedFirst, differs⟩ := head_printedChar first
      rw [List.flatMap_cons, printedFirst]
      intro later same
      exact differs (List.cons.inj same).1

end Strings

section Lines

variable {c : Char} {s rest : List Char}

/-- A character that is no space is not skipped. -/
theorem skipSpaces_cons (visible : isSpace c = false) : skipSpaces (c :: s) = c :: s := by
  rw [skipSpaces, List.dropWhile_cons_of_neg (by simp [visible])]

/-- Between items, nothing is skipped but spaces where a token follows them. -/
theorem skipLines_eq (token : skipSpaces s = c :: rest)
    (visible : c ≠ '#' ∧ c ≠ '\n' ∧ c ≠ '\r') : (skipLines s).val = c :: rest := by
  have noEnd : lineEnd? (skipComment (skipSpaces s)) = none := by
    rw [token, skipComment, if_neg visible.1]
    simp [lineEnd?, visible]
  rw [skipLines]
  split
  · rename_i lineEnd
    rw [noEnd] at lineEnd
    cases lineEnd
  · exact token

/-- A printed name is one part of a key. -/
theorem finds_keyPart_printed (name : String) (rest : List Char) :
    ∃ key : Key, key.name = name ∧ Finds (keyPart? (printedString name ++ rest)) key rest := by
  rw [printedString_append]
  obtain ⟨_, read⟩ := finds_basicBody_printed name.toList rest
  simp [keyPart?, shortString?, read]

/-- A printed string does not begin with a space. -/
theorem skipSpaces_printedString (text : String) (rest : List Char) :
    skipSpaces (printedString text ++ rest) = printedString text ++ rest := by
  rw [printedString_append]
  exact skipSpaces_cons rfl

/-- A printed name is read as a key of one part. -/
theorem finds_keyParts_printed (name : String) (rest : List Char) :
    ∃ key : Key, key.name = name ∧
      Finds (keyParts? (printedString name ++ ' ' :: '=' :: rest)) [key] ('=' :: rest) := by
  obtain ⟨key, named, part⟩ := finds_keyPart_printed name (' ' :: '=' :: rest)
  refine ⟨key, named, ?_⟩
  rw [← skipSpaces_printedString] at part
  obtain ⟨_, read⟩ := part
  rw [keyParts?, read]
  simp only
  split <;> rename_i ended _ <;> cases ended
  split
  · contradiction
  · exact finds_some.2 ⟨rfl, rfl⟩

/-- A printed name is read as a key without a path. -/
theorem finds_key_printed (name : String) (rest : List Char) :
    ∃ key : Key, key.name = name ∧
      Finds (key? (printedString name ++ ' ' :: '=' :: rest)) ([], key) ('=' :: rest) := by
  obtain ⟨key, named, _, read⟩ := finds_keyParts_printed name rest
  refine ⟨key, named, ?_⟩
  simp [key?, read, splitKey?, keyLimit]

end Lines

section Arrays

variable {c : Char} {s rest : List Char} {room : Nat} {item : Item} {items : List Item}

/-- A printed string is read as a value, if no quote follows it. -/
theorem finds_value_printed (room : Nat) (text : String) (rest : List Char) (noQuote : c ≠ '"') :
    ∃ span, Finds (value? room (printedString text ++ c :: rest)) (.scalar span (.string text))
      (c :: rest) := by
  rw [printedString_append]
  obtain ⟨_, read⟩ := finds_anyString_printed text.toList rest noQuote
  have scalar : Finds (scalar? ('"' :: (text.toList.flatMap printedChar ++ '"' :: c :: rest)))
      (.string text) (c :: rest) := by
    simp [scalar?, read]
  obtain ⟨_, scalarRead⟩ := scalar
  rw [value?.eq_def]
  simp [scalarRead]

/-- An array that is closed at once has no items. -/
theorem finds_items_nil (closed : (skipLines s).val = ']' :: rest) :
    Finds (items? room s) [] rest := by
  rw [items?]
  split <;> rename_i view <;> rw [view] at closed <;> cases closed
  simp

/-- An item with the closing bracket behind it is the last of an array. -/
theorem finds_items_last {body after : List Char} (next : (skipLines s).val = c :: body)
    (open' : c ≠ ']') (read : Finds (value? room (c :: body)) item after)
    (closed : (skipLines after).val = ']' :: rest) : Finds (items? room s) [item] rest := by
  obtain ⟨_, read⟩ := read
  rw [items?]
  split <;> rename_i view <;> rw [view] at next <;> cases next
  rw [if_neg open', read]
  simp only
  split <;> rename_i laterView <;> rw [laterView] at closed <;> cases closed
  simp

/-- An item with a comma behind it is followed by the items behind the comma. -/
theorem finds_items_more {body after later : List Char} (next : (skipLines s).val = c :: body)
    (open' : c ≠ ']') (read : Finds (value? room (c :: body)) item after)
    (comma : (skipLines after).val = ',' :: later)
    (further : Finds (items? room later) items rest) :
    Finds (items? room s) (item :: items) rest := by
  obtain ⟨_, read⟩ := read
  obtain ⟨_, furtherRead⟩ := further
  rw [items?]
  split <;> rename_i view <;> rw [view] at next <;> cases next
  rw [if_neg open', read]
  simp only
  split <;> rename_i laterView <;> rw [laterView] at comma <;> cases comma
  simp [furtherRead]

/-- Items that are strings, and these strings. -/
def Spells (items : List Item) (names : List String) : Prop :=
  List.Forall₂ (fun item name => ∃ span, item = .scalar span (.string name)) items names

/-- An array of strings, and these strings. -/
def Lists (item : Item) (names : List String) : Prop :=
  ∃ span items, item = .array span items ∧ Spells items names

/-- Printed strings begin with no space. -/
theorem skipSpaces_commaSpaced (first : String) (later : List String) (rest : List Char) :
    skipSpaces (commaSpaced ((first :: later).map printedString) ++ rest) =
      commaSpaced ((first :: later).map printedString) ++ rest := by
  cases later with
  | nil => exact skipSpaces_printedString first rest
  | cons second later =>
    simp only [List.map_cons, commaSpaced, List.append_assoc]
    exact skipSpaces_printedString first _

/-- Printed strings with commas between them are read as items, behind any spaces. -/
theorem finds_items_printed (room : Nat) (first : String) (later : List String)
    (spaced : skipSpaces s =
      commaSpaced ((first :: later).map printedString) ++ ']' :: rest) :
    ∃ items, Spells items (first :: later) ∧ Finds (items? room s) items rest := by
  induction later generalizing first s with
  | nil =>
    obtain ⟨span, read⟩ := finds_value_printed room first rest (c := ']') (by decide)
    have next : skipSpaces s = printedString first ++ ']' :: rest := spaced
    rw [printedString_append] at next read
    exact ⟨[_], List.Forall₂.cons ⟨span, rfl⟩ List.Forall₂.nil,
      finds_items_last (skipLines_eq next (by decide)) (by decide) read
        (skipLines_eq rfl (by decide))⟩
  | cons second later inductionHypothesis =>
    -- the further items are read from behind the comma, where a space comes first
    let following := commaSpaced ((second :: later).map printedString) ++ ']' :: rest
    obtain ⟨span, read⟩ :=
      finds_value_printed room first (' ' :: following) (c := ',') (by decide)
    obtain ⟨items, spelled, further⟩ := inductionHypothesis (s := ' ' :: following) second
      (skipSpaces_commaSpaced second later (']' :: rest))
    have next : skipSpaces s = printedString first ++ ',' :: ' ' :: following := by
      simpa [commaSpaced, following] using spaced
    rw [printedString_append] at next read
    exact ⟨_ :: items, List.Forall₂.cons ⟨span, rfl⟩ spelled,
      finds_items_more (skipLines_eq next (by decide)) (by decide) read
        (skipLines_eq rfl (by decide)) further⟩

/-- A printed list of strings is read as an array of them. -/
theorem finds_array_printed (room : Nat) (names : List String) (rest : List Char) :
    ∃ array, Lists array names ∧
      Finds (value? (room + 1) ('[' :: (commaSpaced (names.map printedString) ++ ']' :: rest)))
        array rest := by
  have inside : ∃ items, Spells items names ∧
      Finds (items? room (commaSpaced (names.map printedString) ++ ']' :: rest)) items rest := by
    cases names with
    | nil => exact ⟨[], List.Forall₂.nil, finds_items_nil (skipLines_eq rfl (by decide))⟩
    | cons first later =>
      exact finds_items_printed room first later (skipSpaces_commaSpaced first later _)
  obtain ⟨items, spelled, _, read⟩ := inside
  have found : ∃ span, Finds
      (value? (room + 1) ('[' :: (commaSpaced (names.map printedString) ++ ']' :: rest)))
      (.array span items) rest := by
    rw [value?.eq_def]
    simp [read]
  obtain ⟨span, found⟩ := found
  exact ⟨.array span items, ⟨span, items, rfl, spelled⟩, found⟩

end Arrays

section Documents

variable {s rest : List Char}

/-- An assignment that says what a declaration says. -/
structure Declares (line : Assignment) (s : Signature) : Prop where
  path : line.path = []
  name : line.key.name = s.name
  params : Lists line.value s.params

/-- A line end ends a line. -/
theorem restOfLine?_lineEnd (rest : List Char) :
    ∃ le, restOfLine? ('\n' :: rest) = some ⟨rest, le⟩ :=
  ⟨_, rfl⟩

/-- The line of a declaration is read as an assignment that says the same. -/
theorem finds_assignment_printed (s : Signature) (rest : List Char) :
    ∃ line, Declares line s ∧ Finds (assignment? (printedSignature s ++ rest)) line rest := by
  let params := '[' :: (commaSpaced (s.params.map printedString) ++ ']' :: '\n' :: rest)
  have laid : printedSignature s ++ rest = printedString s.name ++ ' ' :: '=' :: ' ' :: params := by
    simp [printedSignature, params]
  obtain ⟨inner, limit⟩ : ∃ inner, nestingLimit = inner + 1 := ⟨_, rfl⟩
  obtain ⟨key, named, _, keyRead⟩ := finds_key_printed s.name (' ' :: params)
  obtain ⟨array, lists, found⟩ := finds_array_printed inner s.params ('\n' :: rest)
  have afterSign : Finds (value? (inner + 1) (skipSpaces (' ' :: params))) array ('\n' :: rest) :=
    found
  obtain ⟨_, valueRead⟩ := afterSign
  obtain ⟨_, lineEnd⟩ := restOfLine?_lineEnd rest
  refine ⟨⟨[], key, array⟩, ⟨rfl, named, lists⟩, ?_⟩
  rw [laid, assignment?, keyRead]
  simp [expect?, limit, valueRead, lineEnd]

/-- The line of a declaration begins with the quote of its name. -/
theorem printedSignature_append (s : Signature) (rest : List Char) :
    ∃ body, printedSignature s ++ rest = '"' :: body :=
  ⟨_, rfl⟩

/-- A printed declaration is read as an assignment that declares it. -/
theorem finds_statement_printed (s : Signature) (rest : List Char) :
    ∃ line, Declares line s ∧
      Finds (statement? (printedSignature s ++ rest)) (.assignment line) rest := by
  obtain ⟨line, declares, read⟩ := finds_assignment_printed s rest
  obtain ⟨body, laid⟩ := printedSignature_append s rest
  rw [laid] at read ⊢
  obtain ⟨_, read⟩ := read
  exact ⟨line, declares, by simp [statement?, read]⟩

/-- A line that was read is followed by the lines behind it. -/
theorem statements?_cons {c : Char} {body after : List Char} {line : Statement}
    {later : List Statement} (next : skipSpaces s = c :: body)
    (read : Finds (statement? (c :: body)) line after) (further : statements? after = some later) :
    statements? s = some (line :: later) := by
  obtain ⟨_, read⟩ := read
  rw [statements?]
  split <;> rename_i skipped _ <;> rw [next] at skipped <;> cases skipped
  simp [read, further]

/-- The lines of declarations are read as assignments that say the same. -/
theorem statements?_printed (signatures : List Signature) :
    ∃ lines, List.Forall₂ Declares lines signatures ∧
      statements? (printedSignatures signatures) = some (lines.map .assignment) := by
  induction signatures with
  | nil =>
    refine ⟨[], List.Forall₂.nil, ?_⟩
    rw [printedSignatures, List.flatMap_nil, statements?]
    rfl
  | cons s later inductionHypothesis =>
    obtain ⟨lines, declare, further⟩ := inductionHypothesis
    obtain ⟨line, declares, read⟩ := finds_statement_printed s (printedSignatures later)
    obtain ⟨body, laid⟩ := printedSignature_append s (printedSignatures later)
    refine ⟨line :: lines, List.Forall₂.cons declares declare, ?_⟩
    have next : skipSpaces (printedSignatures (s :: later)) = '"' :: body :=
      laid ▸ skipSpaces_cons rfl
    rw [laid] at read
    exact statements?_cons next read further

/-- Assignments alone make no sections. -/
theorem documentOf_assignments (lines : List Assignment) :
    documentOf (lines.map .assignment) = ⟨lines, []⟩ := by
  induction lines with
  | nil => rfl
  | cons line later inductionHypothesis => simp [documentOf, inductionHypothesis]

/-- What is printed does not begin with a byte order mark. -/
theorem skipMark_printed (signatures : List Signature) :
    skipMark (printedSignatures signatures) = printedSignatures signatures := by
  cases signatures with
  | nil => rfl
  | cons s later => rfl

end Documents

section Contracts

variable {report : Report} {d e : Interface} {entries extended : Entries} {lines : List Assignment}
  {signatures : List Signature}

/-- The names of the entries of a table. -/
def entryNames (entries : Entries) : List String := entries.map fun entry => entry.1.name

/-- Nothing is found under a name that no entry has. -/
theorem lookup?_eq_none_iff {name : String} :
    lookup? name entries = none ↔ name ∉ entryNames entries := by
  induction entries with
  | nil => simp [lookup?, entryNames]
  | cons entry later inductionHypothesis =>
    obtain ⟨key, item⟩ := entry
    rw [entryNames, List.map_cons, List.mem_cons, not_or, ← entryNames, ← inductionHypothesis,
      lookup?]
    split
    · rename_i here
      simp [here]
    · rename_i differs
      simp [Ne.symm differs]

/-- An entry under a name that a table does not have leaves its names different. -/
theorem nodup_entryNames_append {key : Key} (distinct : (entryNames entries).Nodup)
    (fresh : lookup? key.name entries = none) (item : Item) :
    (entryNames (entries ++ [(key, item)])).Nodup := by
  have names : entryNames (entries ++ [(key, item)]) = entryNames entries ++ [key.name] := by
    simp [entryNames]
  rw [names, List.nodup_append]
  refine ⟨distinct, by simp, ?_⟩
  intro name member other last same
  exact lookup?_eq_none_iff.1 fresh (List.mem_singleton.1 last ▸ same ▸ member)

/-- Lines are taken into a table, in their order, exactly if no name returns. -/
theorem addLines_eq_some_iff (declare : List.Forall₂ Declares lines signatures)
    (distinct : (entryNames entries).Nodup) :
    addLines entries lines = some extended ↔
      (entryNames entries ++ signatures.map Signature.name).Nodup ∧
        extended = entries ++ lines.map fun line => (line.key, line.value) := by
  induction declare generalizing entries with
  | nil => simp [addLines, distinct, eq_comm]
  | @cons line s others later declares _ inductionHypothesis =>
    rw [addLines, declares.path, addDotted, if_pos rfl, addNew]
    cases found : lookup? line.key.name entries with
    | none =>
      have names : entryNames (entries ++ [(line.key, line.value)]) =
          entryNames entries ++ [s.name] := by
        simp [entryNames, declares.name]
      have stillDistinct := nodup_entryNames_append distinct found line.value
      simp only [inductionHypothesis stillDistinct, names, List.map_cons, List.append_assoc,
        List.singleton_append]
    | some old =>
      -- the table refuses the line, and the name stands twice in the list
      have taken : s.name ∈ entryNames entries := by
        by_contra fresh
        rw [← declares.name, ← lookup?_eq_none_iff, found] at fresh
        cases fresh
      constructor
      · rintro ⟨⟩
      · intro all
        have apart := (List.nodup_append.1 all.1).2.2 s.name taken s.name (by simp)
        contradiction

/-- The items of an array, also of an array of tables. -/
def Item.elements? : Item → Option (List Item)
  | .array _ items | .tables items => some items
  | .scalar _ _ | .table _ _ _ => none

/-- An entry that states what a declaration states: the parameter names in an array under the
name. -/
def States (entry : Key × Item) (s : Signature) : Prop :=
  entry.1.name = s.name ∧ ∃ items, entry.2.elements? = some items ∧ Spells items s.params

/-- The strings of an array are read in their order, and there is nothing else in it. -/
theorem parameterNames_eq_ok_iff {place : Span} {items : List Item} {names : List String} :
    parameterNames place items = .ok names ↔ Spells items names := by
  constructor
  · intro read
    fun_induction parameterNames place items generalizing names with
    | case1 =>
      cases read
      exact List.Forall₂.nil
    | case2 span name later found further inductionHypothesis =>
      cases read
      exact List.Forall₂.cons ⟨span, rfl⟩ (inductionHypothesis further)
    | case3 => cases read
    | case4 => cases read
  · intro spelled
    induction spelled with
    | nil => rfl
    | cons scalar _ inductionHypothesis =>
      obtain ⟨span, rfl⟩ := scalar
      rw [parameterNames, inductionHypothesis]

/-- An array declares what its items spell, or is refused for one of them. -/
theorem declaration_of_elements {key : Key} {item : Item} {items : List Item}
    (elements : item.elements? = some items) :
    declaration key item =
      match parameterNames (item.span?.getD key.span) items with
      | .ok params => .ok ⟨key.name, params⟩
      | .error fault => .error fault := by
  cases item with
  | array span all =>
    cases elements
    rfl
  | tables all =>
    cases elements
    rfl
  | scalar span value => cases elements
  | table origin span inner => cases elements

/-- What is no array is refused as a whole. -/
theorem declaration_of_no_elements {key : Key} {item : Item} (other : item.elements? = none) :
    declaration key item =
      .error (.mismatch ⟨item.found, .parameterList⟩ (item.span?.getD key.span)) := by
  cases item with
  | array span all => cases other
  | tables all => cases other
  | scalar span value => rfl
  | table origin span inner => rfl

/-- An entry declares a function exactly if it states one. -/
theorem declaration_eq_ok_iff {key : Key} {item : Item} {s : Signature} :
    declaration key item = .ok s ↔ States (key, item) s := by
  constructor
  · intro declared
    cases elements : item.elements? with
    | none =>
      rw [declaration_of_no_elements elements] at declared
      cases declared
    | some items =>
      rw [declaration_of_elements elements] at declared
      split at declared <;> rename_i named <;> cases declared
      exact ⟨rfl, items, elements, parameterNames_eq_ok_iff.1 named⟩
  · rintro ⟨name, items, elements, spelled⟩
    rw [declaration_of_elements elements, parameterNames_eq_ok_iff.2 spelled]
    exact congrArg (fun name => Except.ok (Signature.mk name s.params)) name

/-- Entries are declared one after the other, whatever follows. -/
theorem declarations_of_stated (stated : List.Forall₂ States entries signatures)
    (later : Entries) :
    declarations d (entries ++ later) =
      match d.insertAll signatures with
      | .ok extended => declarations extended later
      | .error cause => .error (.duplicate cause) := by
  induction stated generalizing d with
  | nil => rfl
  | @cons entry s others rest first _ inductionHypothesis =>
    simp only [List.cons_append, declarations, declaration_eq_ok_iff.2 first, Interface.insertAll]
    cases d.insert s with
    | ok extended => exact inductionHypothesis
    | error cause => rfl

/-- A root table of entries that state what declarations state makes the interface that these
declarations make. -/
theorem declarations_eq_ok_iff (stated : List.Forall₂ States entries signatures) :
    declarations d entries = .ok e ↔ d.insertAll signatures = .ok e := by
  have read := declarations_of_stated (d := d) stated []
  rw [List.append_nil] at read
  rw [read]
  cases d.insertAll signatures with
  | ok extended => simp [declarations]
  | error cause => simp

/-- A line that says what a declaration says is an entry that states it. -/
theorem Declares.states {line : Assignment} {s : Signature} (declares : Declares line s) :
    States (line.key, line.value) s := by
  obtain ⟨span, items, value, spelled⟩ := declares.params
  exact ⟨declares.name, items, by rw [value, Item.elements?], spelled⟩

/-- The root table of a document without sections is made of its lines. -/
theorem root?_of_lines {text : List Char} (read : document? text = some ⟨lines, []⟩) :
    root? text = addLines [] lines := by
  simp only [root?, read, Document.root?, addSections]
  cases addLines [] lines <;> rfl

/-- A text whose lines say what declarations say is read as the interface that holds
exactly these, in their order, if there is one: their names have to differ. -/
theorem contract_eq_ok_iff_of_declare {text : List Char}
    (read : document? text = some ⟨lines, []⟩) (declare : List.Forall₂ Declares lines signatures) :
    contract report text = .ok d ↔ d.signatures = signatures := by
  have stated : List.Forall₂ States (lines.map fun line => (line.key, line.value)) signatures :=
    List.forall₂_map_left_iff.2 (declare.imp fun _ _ => Declares.states)
  rw [← Interface.insertAll_empty_eq_ok_iff, ← declarations_eq_ok_iff stated, contract,
    root?_of_lines read]
  have added : ∀ extended, addLines [] lines = some extended ↔
      (entryNames [] ++ signatures.map Signature.name).Nodup ∧
        extended = [] ++ lines.map fun line => (line.key, line.value) :=
    fun _ => addLines_eq_some_iff declare List.nodup_nil
  constructor
  · intro accepted
    split at accepted <;> rename_i table
    · cases accepted
    · rwa [((added _).1 table).2] at accepted
  · intro accepted
    have distinct := d.distinct
    rw [Interface.insertAll_empty_eq_ok_iff.1 ((declarations_eq_ok_iff stated).1 accepted)]
      at distinct
    rw [(added _).2 ⟨distinct, rfl⟩]
    exact accepted

/-- Printed declarations are a document of lines that say the same. -/
theorem document?_printed (signatures : List Signature) :
    ∃ lines, document? (printedSignatures signatures) = some ⟨lines, []⟩ ∧
      List.Forall₂ Declares lines signatures := by
  obtain ⟨lines, declare, read⟩ := statements?_printed signatures
  refine ⟨lines, ?_, declare⟩
  simp only [document?, skipMark_printed, read, Option.map_some, documentOf_assignments]

/-- Printed declarations are read as the interface that holds exactly them, in their
order, if there is one. -/
theorem contract_printed_eq_ok_iff :
    contract report (printedSignatures signatures) = .ok d ↔ d.signatures = signatures := by
  obtain ⟨lines, read, declare⟩ := document?_printed signatures
  exact contract_eq_ok_iff_of_declare read declare

example : printedSignatures [⟨"say \"it\"", ["what", "\x7f"]⟩, ⟨"", []⟩] =
    "\"say \\\"it\\\"\" = [\"what\", \"\\u007f\"]\n\"\" = []\n".toList := by decide

end Contracts

end StructuralTyping.Toml

namespace StructuralTyping.Interface

/-- Printed declarations are read as the interface that holds exactly them, in their
order, if there is one. -/
theorem ofToml_printed_eq_ok_iff {report : Toml.Report} {signatures : List Signature}
    {d : Interface} :
    ofToml report (String.ofList (Toml.printedSignatures signatures)) = .ok d ↔
      d.signatures = signatures := by
  rw [ofToml, ofTomlAt_eq_ok_iff, String.toList_ofList, Toml.contract_printed_eq_ok_iff]

/-- Declarations make an interface exactly if their names differ. -/
theorem exists_signatures_eq_iff {signatures : List Signature} :
    (∃ d : Interface, d.signatures = signatures) ↔ (signatures.map Signature.name).Nodup := by
  constructor
  · rintro ⟨d, rfl⟩
    exact d.distinct
  · intro distinct
    exact ⟨⟨signatures, distinct⟩, rfl⟩

/-- Both formats give back what was written in them. Declarations in any number, with any
names and labels, are read from their JSON text and from their TOML text alike: as the
interface with exactly these declarations in this order, if their names differ, and not at
all otherwise. In particular every interface is read back from its own text. -/
theorem written_declarations_are_read_back (report : Toml.Report) (signatures : List Signature) :
    ((∃ d, ofJson (Json.print (valueOfSignatures signatures)) = .ok d) ↔
      (signatures.map Signature.name).Nodup) ∧
    ((∃ d, ofToml report (String.ofList (Toml.printedSignatures signatures)) = .ok d) ↔
      (signatures.map Signature.name).Nodup) ∧
    (∀ d, ofJson (Json.print (valueOfSignatures signatures)) = .ok d ↔
      d.signatures = signatures) ∧
    (∀ d, ofToml report (String.ofList (Toml.printedSignatures signatures)) = .ok d ↔
      d.signatures = signatures) ∧
    ∀ d : Interface, ofJson (Json.print d.toValue) = .ok d := by
  simp only [ofJson_printed_eq_ok_iff, ofToml_printed_eq_ok_iff, exists_signatures_eq_iff]
  refine ⟨trivial, trivial, fun _ => trivial, fun _ => trivial, fun d => ?_⟩
  exact ofJson_printed_eq_ok_iff.2 rfl

end StructuralTyping.Interface
