import StructuralTyping.Json.Reader
import StructuralTyping.Proofs.ValueContracts
/-!
# Interfaces by way of a value

A text can be read as an interface at once, or as a value first that is then read as an
interface. The two ways look at a text with different readers. A value is a list or a mapping
exactly if one is written, item by item and entry by entry, so a mapping of lists of strings
comes from a text of declarations. Only the entries that a text has under one name are treated
differently: they take each other's place in the value, but an interface declares a name once.
-/
set_option autoImplicit false

namespace StructuralTyping.Json

open StructuralTyping.Text

/-- A value whose lists and objects are nested at most as deep as given. -/
def ValueText (depth : Nat) (s : List Char) (v : Value) (rest : List Char) : Prop :=
  Finds (value depth s) v rest

/-- A whole text: an object of any values, and nothing but blanks around it. The entries are
those of the text, in their order, and none takes the place of another. -/
def ObjectText (text : List Char) (entries : List (String × Value)) : Prop :=
  ∃ rest, FrameText '\x7b' '\x7d' (EntryText (ValueText (nestingLimit - 1))) text entries rest ∧
    Blanks rest []

section Values

variable {depth : Nat} {s t rest : List Char} {c : Char} {v : Value}

/-- A value without parts is no list and no mapping. -/
theorem kind_of_scalar (found : Finds (scalar c s) v rest) :
    v.kind ≠ .list ∧ v.kind ≠ .mapping := by
  revert found
  fun_cases scalar c s <;> simp [*] <;> rintro rfl - <;> simp [Value.kind]

/-- A value without parts begins with no bracket. -/
theorem begins_of_scalar (found : Finds (scalar c s) v rest) : c ≠ '[' ∧ c ≠ ']' ∧ c ≠ '\x7b' := by
  refine ⟨?_, ?_, ?_⟩ <;> rintro rfl <;> simp [scalar, beginsNumber] at found

/-- Only what stands in quotes is a string. -/
theorem finds_scalar_string_iff {text : String} :
    Finds (scalar c s) (.string text) rest ↔ c = '"' ∧ Finds (stringBody s) text.toList rest := by
  constructor
  · fun_cases scalar c s with
    | case10 noNull noTrue noFalse noNumber quote found read =>
      simp [quote, read, String.ext_iff]
    | _ => simp
  · rintro ⟨rfl, _, read⟩
    simp [scalar, beginsNumber, read]

/-- Where lists and objects may still be nested, a value is a list, an object, or has no
parts. -/
theorem finds_valueFrom_iff :
    Finds (valueFrom (depth + 1) c s) v rest ↔
      (c = '[' ∧ ∃ items, Finds (list (value depth) c s) items rest ∧ .list items = v) ∨
      (c = '\x7b' ∧ ∃ entries, Finds (object (value depth) c s) entries rest ∧
        Value.ofEntries entries = v) ∨
      Finds (scalar c s) v rest := by
  have inside : behindBlanks (valueFrom depth) = value depth := rfl
  rw [valueFrom, inside]
  split
  · rename_i bracket
    have noScalar : ¬Finds (scalar c s) v rest :=
      fun found => (begins_of_scalar found).1 bracket
    split <;> rename_i read <;> simp [bracket, read, noScalar, and_assoc, and_comm]
  · split
    · rename_i brace
      have noScalar : ¬Finds (scalar c s) v rest :=
        fun found => (begins_of_scalar found).2.2 brace
      split <;> rename_i read <;> simp [brace, read, noScalar, and_assoc, and_comm]
    · simp [*]

/-- Where nothing may be nested, a value without parts is found. -/
theorem finds_valueFrom_zero_iff :
    Finds (valueFrom 0 c s) v rest ↔ Finds (scalar c s) v rest := by
  rw [valueFrom]
  split
  · rename_i opened
    have noScalar : ¬Finds (scalar c s) v rest := by
      intro found
      obtain ⟨noBracket, -, noBrace⟩ := begins_of_scalar found
      exact opened.elim noBracket noBrace
    simp [noScalar]
  · rfl

/-- A value is written from the first character that is no blank. -/
theorem valueText_iff :
    ValueText depth s v rest ↔
      ∃ c later, skipBlanks s = c :: later ∧ Finds (valueFrom depth c later) v rest :=
  finds_behindBlanks_iff

/-- The reader of values reads what it finds. -/
theorem reads_value : Reads (value depth) (ValueText depth) where
  finds := Iff.rfl
  behind same written := by
    rw [valueText_iff] at written ⊢
    rwa [← same]
  begins {s rest v} written := by
    obtain ⟨c, later, skipped, found⟩ := valueText_iff.1 written
    refine ⟨c, later, skipped, ?_⟩
    cases depth with
    | zero => exact (begins_of_scalar (finds_valueFrom_zero_iff.1 found)).2.1
    | succ depth =>
      obtain ⟨rfl, -⟩ | ⟨rfl, -⟩ | scalarFound := finds_valueFrom_iff.1 found
      · decide
      · decide
      · exact (begins_of_scalar scalarFound).2.1

/-- A value is a string exactly if it is written as one. -/
theorem valueText_string_iff {text : String} :
    ValueText depth s (.string text) rest ↔ QuotedText s text rest := by
  have onlyScalar : ∀ {c later}, Finds (valueFrom depth c later) (.string text) rest ↔
      Finds (scalar c later) (.string text) rest := by
    cases depth with
    | zero => exact finds_valueFrom_zero_iff
    | succ depth => simp [finds_valueFrom_iff, Value.ofEntries]
  simp [valueText_iff, onlyScalar, finds_scalar_string_iff, QuotedText, token_iff (c := '"') rfl,
    finds_stringBody_iff]

/-- A value is a list exactly if its items are written in brackets. -/
theorem valueText_list_iff {items : List Value} :
    ValueText (depth + 1) s (.list items) rest ↔
      FrameText '[' ']' (ValueText depth) s items rest := by
  have noScalar : ∀ {c later}, ¬Finds (scalar c later) (.list items) rest :=
    fun found => (kind_of_scalar found).1 rfl
  simp [valueText_iff, finds_valueFrom_iff, noScalar, Value.ofEntries,
    reads_value.frameText_list_iff]

/-- A value is a mapping exactly if it is made up of entries that are written in braces. -/
theorem valueText_mapping_iff {all : List (String × Value)} :
    ValueText (depth + 1) s (.mapping all) rest ↔
      ∃ entries, FrameText '\x7b' '\x7d' (EntryText (ValueText depth)) s entries rest ∧
        Value.ofEntries entries = .mapping all := by
  constructor
  · intro written
    obtain ⟨c, later, skipped, found⟩ := valueText_iff.1 written
    obtain ⟨-, _, -, noMapping⟩ | ⟨rfl, entries, read, made⟩ | scalarFound :=
      finds_valueFrom_iff.1 found
    · cases noMapping
    · exact ⟨entries, reads_value.frameText_object_iff.2 ⟨later, skipped, read⟩, made⟩
    · exact absurd rfl (kind_of_scalar scalarFound).2
  · rintro ⟨entries, frame, made⟩
    obtain ⟨later, skipped, read⟩ := reads_value.frameText_object_iff.1 frame
    exact valueText_iff.2 ⟨_, later, skipped,
      finds_valueFrom_iff.2 (Or.inr (Or.inl ⟨rfl, entries, read, made⟩))⟩

/-- Strings in a list are values in a list. -/
theorem valueText_strings_iff {strings : List String} :
    ValueText (depth + 1) s (Value.ofStrings strings) rest ↔ ListText s strings rest := by
  rw [Value.ofStrings, valueText_list_iff, frameText_map_iff fun _ _ _ => valueText_string_iff]
  rfl

end Values

section Objects

variable {text : List Char} {entries : List (String × Value)}

/-- A text has one object at most. -/
theorem ObjectText.unique {others : List (String × Value)} (written : ObjectText text entries)
    (also : ObjectText text others) : others = entries := by
  obtain ⟨_, frame, -⟩ := written
  obtain ⟨_, otherFrame, -⟩ := also
  obtain ⟨later, skipped, read⟩ := reads_value.frameText_object_iff.1 frame
  obtain ⟨otherLater, otherSkipped, otherRead⟩ := reads_value.frameText_object_iff.1 otherFrame
  rw [skipped] at otherSkipped
  cases otherSkipped
  exact (read.unique otherRead).1

/-- Declarations are written as an object of lists of strings. -/
theorem objectText_signatures_iff {signatures : List Signature} :
    ObjectText text (signatures.map fun s => (s.name, Value.ofStrings s.params)) ↔
      ContractText text signatures := by
  have entry : ∀ (s : List Char) (signature : Signature) (rest : List Char),
      EntryText (ValueText (nestingLimit - 1)) s
        (signature.name, Value.ofStrings signature.params) rest ↔
      DeclarationText s signature rest := by
    intro s signature rest
    exact exists_congr fun _ => exists_congr fun _ => and_congr_right fun _ =>
      and_congr_right fun _ => valueText_strings_iff
  rw [ObjectText, ContractText]
  simp only [frameText_map_iff entry]

/-- A text is read as a value exactly if the value is written there with nothing but blanks
behind it. -/
theorem read_eq_ok_iff {v : Value} :
    read text = .ok v ↔ ∃ rest, ValueText nestingLimit text v rest ∧ Blanks rest [] := by
  rw [read]
  split <;> rename_i found
  · simp [ValueText, found]
  · simp [ValueText, found, finish_eq_ok_iff, and_assoc]

/-- A text is read as a mapping exactly if it is an object of the entries that make up the
mapping. -/
theorem read_eq_mapping_iff {all : List (String × Value)} :
    read text = .ok (.mapping all) ↔
      ∃ entries, ObjectText text entries ∧ Value.ofEntries entries = .mapping all := by
  simp only [read_eq_ok_iff, nestingLimit, valueText_mapping_iff, ObjectText]
  constructor
  · rintro ⟨rest, ⟨entries, frame, made⟩, blanks⟩
    exact ⟨entries, ⟨rest, frame, blanks⟩, made⟩
  · rintro ⟨entries, ⟨rest, frame, blanks⟩, made⟩
    exact ⟨rest, ⟨entries, frame, made⟩, blanks⟩

end Objects

end StructuralTyping.Json

namespace StructuralTyping.Interface

open StructuralTyping.Json (ObjectText)

/-- The way by a value leads where the direct one leads, but for names that return. What is
read as an interface at once is a value too, and the same interface is read from it. If a value
is read from a text and an interface from the value, then the text is an object of entries
that make up the value. If their names differ, once their escapes are resolved, the same
interface is read from the text at once; if one returns, the text is refused there with a fault
of its own, whatever was written under the name first. -/
theorem both_routes_agree (text : String) :
    (∀ d, ofJson text = .ok d → ∃ v, Json.read text.toList = .ok v ∧ ofValue v = .ok d) ∧
    ∀ v d, Json.read text.toList = .ok v → ofValue v = .ok d →
      ∃ entries, (∀ others, ObjectText text.toList others ↔ others = entries) ∧
        v = Value.ofEntries entries ∧
        ((entries.map Prod.fst).Nodup → ofJson text = .ok d) ∧
        (¬(entries.map Prod.fst).Nodup →
          ∃ fault, ofJson text = .error (.json inlinePath text.toList fault)) := by
  constructor
  · intro d accepted
    have written := Json.objectText_signatures_iff.2 (ofJson_eq_ok_iff.1 accepted)
    have made := Value.ofEntries_of_nodup d.distinct_entries
    exact ⟨d.toValue, Json.read_eq_mapping_iff.2 ⟨_, written, made⟩, ofValue_eq_ok_iff.2 rfl⟩
  · intro v d read accepted
    rw [ofValue_eq_ok_iff] at accepted
    subst accepted
    obtain ⟨entries, written, made⟩ := Json.read_eq_mapping_iff.1 read
    have only : ∀ others, ObjectText text.toList others ↔ others = entries :=
      fun others => ⟨written.unique, fun same => same ▸ written⟩
    refine ⟨entries, only, made.symm, ?_, ?_⟩
    · intro distinct
      rw [Value.ofEntries_of_nodup distinct] at made
      cases made
      exact ofJson_eq_ok_iff.2 (Json.objectText_signatures_iff.1 written)
    · intro repeated
      refine exists_fault_of_refused fun e directly => repeated ?_
      -- what the text declares are its entries, and declarations differ in their names
      rw [← (only _).1 (Json.objectText_signatures_iff.2 (ofJson_eq_ok_iff.1 directly))]
      exact e.distinct_entries

/-- Null is written under `a` first, which is lost in the value, and then a list. -/
theorem later_entry_hides_null :
    ∃ v d fault, Json.read "\x7b\"a\":null,\"a\":[]\x7d".toList = .ok v ∧ ofValue v = .ok d ∧
      ofJson "\x7b\"a\":null,\"a\":[]\x7d" =
        .error (.json inlinePath "\x7b\"a\":null,\"a\":[]\x7d".toList fault) := by
  have null : Json.ValueText 126 "null,\"a\":[]\x7d".toList .null ",\"a\":[]\x7d".toList :=
    ⟨by decide, rfl⟩
  have empty : Json.ValueText 126 "[]\x7d".toList (.list []) "\x7d".toList :=
    Json.valueText_list_iff.2 (.empty .done .done)
  have first : Json.EntryText (Json.ValueText 126) "\"a\":null,\"a\":[]\x7d".toList ("a", .null)
      ",\"a\":[]\x7d".toList :=
    ⟨_, _, ⟨_, .done, .plain (by decide) (by decide) (by decide) .close⟩, .done, null⟩
  have second : Json.EntryText (Json.ValueText 126) "\"a\":[]\x7d".toList ("a", .list [])
      "\x7d".toList :=
    ⟨_, _, ⟨_, .done, .plain (by decide) (by decide) (by decide) .close⟩, .done, empty⟩
  have written : ObjectText "\x7b\"a\":null,\"a\":[]\x7d".toList [("a", .null), ("a", .list [])] :=
    ⟨_, Json.FrameText.filled .done (.more first .done (.last second .done)), .done⟩
  have read : Json.read "\x7b\"a\":null,\"a\":[]\x7d".toList = .ok (.mapping [("a", .list [])]) :=
    Json.read_eq_mapping_iff.2 ⟨_, written, rfl⟩
  have accepted : ofValue (.mapping [("a", .list [])]) = .ok ⟨[⟨"a", []⟩], by decide⟩ := rfl
  obtain ⟨entries, only, -, -, refused⟩ := (both_routes_agree _).2 _ _ read accepted
  obtain rfl := (only _).1 written
  obtain ⟨fault, directly⟩ := refused (by decide)
  exact ⟨_, _, fault, read, accepted, directly⟩

end StructuralTyping.Interface
