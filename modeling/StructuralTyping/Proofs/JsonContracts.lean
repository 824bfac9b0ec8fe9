import StructuralTyping.Contract.Load
import StructuralTyping.Proofs.JsonItems
/-!
# Interfaces are read as they are written

The JSON reader accepts exactly the texts of interfaces. Lists and objects are read item by
item, and each reader finds in a text what the grammar says is written there. Whether names
are repeated does not show in the grammar; the reader of declarations adds them to an
interface one after the other, which refuses the second one of a name.
-/
set_option autoImplicit false

namespace StructuralTyping.Json

open StructuralTyping.Text

section Lists

variable {s t rest : List Char} {name : String} {names : List String}

/-- A string is the same behind blanks. -/
theorem quotedText_congr (same : skipBlanks s = skipBlanks t) :
    QuotedText s name rest ↔ QuotedText t name rest := by
  simp only [QuotedText, token_iff (c := '"') rfl, same]

/-- A parameter name is read as it is written. -/
theorem finds_parameterName_iff : Finds (parameterName s) name rest ↔ QuotedText s name rest := by
  simp only [parameterName, finds_behindBlanks_only_iff, QuotedText, token_iff (c := '"') rfl,
    ← finds_stringBody_iff]
  refine exists_congr fun body => and_congr_right fun _ => ?_
  split <;> rename_i read
  · simp [read]
  · simp [read, String.ext_iff]

/-- The reader of parameter names reads texts in quotes. -/
theorem reads_parameterName : Reads parameterName QuotedText where
  finds := finds_parameterName_iff
  behind same written := (quotedText_congr same).1 written
  begins := by
    rintro s rest name ⟨body, opened, -⟩
    exact ⟨_, body, (token_iff rfl).1 opened, by decide⟩

/-- A list of parameters is read exactly where a list of strings stands. -/
theorem finds_parameterList_iff : Finds (parameterList s) names rest ↔ ListText s names rest := by
  rw [parameterList, finds_behindBlanks_only_iff, ListText, reads_parameterName.frameText_list_iff]

/-- The reader of parameter lists reads lists of texts in quotes. -/
theorem reads_parameterList : Reads parameterList ListText where
  finds := finds_parameterList_iff
  behind {s t rest names} same written := by
    rw [ListText, reads_parameterName.frameText_list_iff] at written ⊢
    rwa [← same]
  begins {s rest names} written := by
    rw [ListText, reads_parameterName.frameText_list_iff] at written
    obtain ⟨later, skipped, -⟩ := written
    exact ⟨_, later, skipped, by decide⟩

end Lists

section Declarations

variable {d e : Interface} {s t rest : List Char} {signature : Signature}
  {entries : List Signature}

/-- A declaration is the entry of a name and a list of parameters. -/
theorem declarationText_iff (quote : Token '"' s t) :
    DeclarationText s signature rest ↔ Finds (declaration t) signature rest := by
  obtain ⟨name, params⟩ := signature
  change EntryText ListText s (name, params) rest ↔ _
  rw [reads_parameterList.entryText_iff quote, declaration]
  split <;> rename_i read
  · simp [read]
  · simp [read, Prod.ext_iff]

/-- Declarations that follow each other begin with the quote of a name. -/
theorem quote_of_items (items : ItemsText DeclarationText '\x7d' s entries rest) :
    ∃ body, Token '"' s body := by
  obtain ⟨_, _, _, _, ⟨body, quote, _⟩, _⟩ := first_of_items items
  exact ⟨body, quote⟩

/-- What is read as declarations of an interface `e` stands in the text, and leads from the
declarations there were to those of `e`. -/
theorem items_of_declarations (read : Finds (declarations d t) e rest) (quote : Token '"' s t) :
    ∃ entries, ItemsText DeclarationText '\x7d' s entries rest ∧ d.insertAll entries = .ok e := by
  -- two cases succeed: the object closes behind a declaration, or it goes on
  fun_induction declarations d t generalizing s e with
  | case4 d t signature afterOne shorter oneRead extended once after le closed =>
    obtain ⟨rfl, rfl⟩ := finds_ok.1 read
    have first := (declarationText_iff quote).2 ⟨shorter, oneRead⟩
    exact ⟨[signature], ItemsText.last first (continueObject_closes_iff.1 ⟨le, closed⟩),
      by simp [Interface.insertAll, once]⟩
  | case6 d t signature afterOne shorter oneRead extended once next le goesOn later laterRead
      inductionHypothesis =>
    obtain ⟨rfl, rfl⟩ := finds_ok.1 read
    have first := (declarationText_iff quote).2 ⟨shorter, oneRead⟩
    obtain ⟨middle, comma, laterQuote⟩ := continueObject_goesOn_iff.1 ⟨le, goesOn⟩
    obtain ⟨others, further, inserted⟩ :=
      inductionHypothesis ⟨later.shorter, laterRead⟩ laterQuote
    exact ⟨signature :: others, ItemsText.more first comma further,
      by simpa [Interface.insertAll, once] using inserted⟩
  | _ => exact absurd read not_finds_error

/-- A declaration whose name is taken ends the reading, whatever follows it. -/
theorem declarations_of_taken {cause : Interface.Duplicate}
    (first : DeclarationText s signature rest) (quote : Token '"' s t)
    (taken : d.insert signature = .error cause) :
    declarations d t = .error (.before (.duplicate cause) (pastBrace rest)) := by
  obtain ⟨_, read⟩ := (declarationText_iff quote).1 first
  rw [declarations, read]
  simp [taken]

/-- The last declaration of an object completes the interface. -/
theorem declarations_of_last {after : List Char} (first : DeclarationText s signature rest)
    (quote : Token '"' s t) (inserted : d.insert signature = .ok e)
    (closed : Token '\x7d' rest after) : Finds (declarations d t) e after := by
  obtain ⟨_, read⟩ := (declarationText_iff quote).1 first
  obtain ⟨_, closes⟩ := continueObject_closes_iff.2 closed
  rw [declarations, read]
  simp [inserted, closes]

/-- Behind a declaration and a comma, reading goes on from the next name as it would from
the start. -/
theorem declarations_of_more {extended : Interface} {middle next : List Char}
    (first : DeclarationText s signature rest) (quote : Token '"' s t)
    (inserted : d.insert signature = .ok extended) (comma : Token ',' rest middle)
    (nextQuote : Token '"' middle next) :
    (∀ {e after}, Finds (declarations extended next) e after → Finds (declarations d t) e after) ∧
      ∀ {fault}, declarations extended next = .error fault → declarations d t = .error fault := by
  obtain ⟨_, read⟩ := (declarationText_iff quote).1 first
  obtain ⟨_, goesOn⟩ := continueObject_goesOn_iff.2 ⟨_, comma, nextQuote⟩
  constructor
  · rintro e after ⟨_, later⟩
    rw [declarations, read]
    simp [inserted, goesOn, later]
  · intro fault later
    rw [declarations, read]
    simp [inserted, goesOn, later]

/-- Declarations that stand in a text are read, if none repeats a name. -/
theorem finds_of_declarations (items : ItemsText DeclarationText '\x7d' s entries rest)
    (quote : Token '"' s t) (inserted : d.insertAll entries = .ok e) :
    Finds (declarations d t) e rest := by
  induction items generalizing d t with
  | last first closed =>
    rw [Interface.insertAll] at inserted
    split at inserted
    · cases inserted
      exact declarations_of_last first quote ‹_› closed
    · cases inserted
  | more first comma further inductionHypothesis =>
    obtain ⟨next, nextQuote⟩ := quote_of_items further
    rw [Interface.insertAll] at inserted
    split at inserted
    · exact (declarations_of_more first quote ‹_› comma nextQuote).1
        (inductionHypothesis nextQuote inserted)
    · cases inserted

/-- Declarations that stand in a text are refused, if one repeats a name. -/
theorem duplicate_of_declarations {cause : Interface.Duplicate}
    (items : ItemsText DeclarationText '\x7d' s entries rest)
    (quote : Token '"' s t) (refused : d.insertAll entries = .error cause) :
    ∃ left, declarations d t = .error ⟨.duplicate cause, left⟩ := by
  induction items generalizing d t with
  | last first closed =>
    rw [Interface.insertAll] at refused
    split at refused
    · cases refused
    · cases refused
      exact ⟨_, declarations_of_taken first quote ‹_›⟩
  | more first comma further inductionHypothesis =>
    obtain ⟨next, nextQuote⟩ := quote_of_items further
    rw [Interface.insertAll] at refused
    split at refused
    · obtain ⟨left, later⟩ := inductionHypothesis nextQuote refused
      exact ⟨left, (declarations_of_more first quote ‹_› comma nextQuote).2 later⟩
    · cases refused
      exact ⟨_, declarations_of_taken first quote ‹_›⟩

/-- Declarations stand in an object exactly if it goes on and they are read from there. -/
theorem declarations_iff :
    ItemsText DeclarationText '\x7d' s e.signatures rest ↔
      ∃ first, GoesOn (openObject s) first ∧ Finds (declarations .empty first) e rest := by
  simp only [openObject_goesOn_iff]
  constructor
  · intro items
    obtain ⟨first, quote⟩ := quote_of_items items
    exact ⟨first, quote,
      finds_of_declarations items quote (Interface.insertAll_empty_eq_ok_iff.2 rfl)⟩
  · rintro ⟨first, quote, read⟩
    obtain ⟨entries, items, inserted⟩ := items_of_declarations read quote
    rwa [Interface.insertAll_empty_eq_ok_iff.1 inserted]

/-- An interface is read exactly where the object of its declarations stands. -/
theorem finds_interface_iff :
    Finds (interface s) e rest ↔ FrameText '\x7b' '\x7d' DeclarationText s e.signatures rest := by
  simp only [interface, finds_behindBlanks_only_iff, frameText_iff, declarations_iff,
    ← openObject_closes_iff, token_iff (c := '\x7b') rfl]
  refine exists_congr fun later => and_congr_right fun _ => ?_
  split <;> rename_i turn
  · simp [turn]
  · simp [turn, Interface.ext_iff, eq_comm, Interface.empty]
  · split <;> rename_i read <;> simp [turn, read]

/-- Declarations that are refused make the whole object a fault. -/
theorem interface_of_refused {fault : Fault} (opened : Token '\x7b' s t) (quote : Token '"' t rest)
    (refused : declarations .empty rest = .error fault) : interface s = .error fault := by
  have skipped := (token_iff rfl).1 opened
  obtain ⟨_, turn⟩ := openObject_goesOn_iff.2 quote
  rw [interface, behindBlanks]
  split <;> rename_i view <;> rw [skipBlanks_eq_of_afterBlanks view] at skipped <;> cases skipped
  simp [turn, refused]

end Declarations

/-- A whole text is accepted exactly if it is the text of an interface. -/
theorem contract_eq_ok_iff {text : List Char} {d : Interface} :
    contract text = .ok d ↔ ContractText text d.signatures := by
  simp only [ContractText, ← finds_interface_iff]
  rw [contract]
  split <;> rename_i read
  · simp [read]
  · simp [read, finish_eq_ok_iff, and_assoc]

/-- Declarations of which one repeats a name are refused as such, in whatever escapes the
names are written. -/
theorem contract_of_repeated {text : List Char} {entries : List Signature}
    (written : ContractText text entries) (repeated : ¬(entries.map Signature.name).Nodup) :
    ∃ cause left, contract text = .error ⟨.duplicate cause, left⟩ := by
  obtain ⟨rest, frame, -⟩ := written
  obtain ⟨middle, opened, ⟨rfl, -⟩ | items⟩ := frameText_iff.1 frame
  · exact absurd List.nodup_nil repeated
  · obtain ⟨first, quote⟩ := quote_of_items items
    cases inserted : Interface.empty.insertAll entries with
    | ok e =>
      have distinct := e.distinct
      rw [Interface.insertAll_empty_eq_ok_iff.1 inserted] at distinct
      exact absurd distinct repeated
    | error cause =>
      obtain ⟨left, refused⟩ := duplicate_of_declarations items quote inserted
      exact ⟨cause, left, by rw [contract, interface_of_refused opened quote refused]⟩

/-- Written declarations are read as the interface that holds exactly them, if there is one:
no text can be taken for the text of other declarations. -/
theorem contract_eq_ok_iff_of_written {text : List Char} {entries : List Signature}
    {d : Interface} (written : ContractText text entries) :
    contract text = .ok d ↔ d.signatures = entries := by
  by_cases distinct : (entries.map Signature.name).Nodup
  · have accepted : contract text = .ok ⟨entries, distinct⟩ := contract_eq_ok_iff.2 written
    rw [accepted, Except.ok.injEq, Interface.ext_iff, eq_comm]
  · obtain ⟨cause, left, refused⟩ := contract_of_repeated written distinct
    rw [refused]
    constructor
    · rintro ⟨⟩
    · rintro rfl
      exact absurd d.distinct distinct

end StructuralTyping.Json

namespace StructuralTyping.Interface

open StructuralTyping.Json (ContractText)

/-- A text is read as an interface if and only if it is written as one. -/
theorem ofJson_eq_ok_iff {text : String} {d : Interface} :
    ofJson text = .ok d ↔ ContractText text.toList d.signatures := by
  rw [ofJson, ofJsonAt_eq_ok_iff, Json.contract_eq_ok_iff]

/-- A text that is not accepted is refused with a fault of this text. -/
theorem exists_fault_of_refused {text : String} (refused : ∀ d, ofJson text ≠ .ok d) :
    ∃ fault, ofJson text = .error (.json inlinePath text.toList fault) := by
  cases read : Json.contract text.toList with
  | ok d => exact absurd (ofJsonAt_eq_ok_iff.2 read) (refused d)
  | error fault => exact ⟨fault, by rw [ofJson, ofJsonAt, read]⟩

/-- The JSON reader accepts exactly the texts of interfaces. A text is read as `d` if and
only if it is an object of declarations that are those of `d`, in their order, under names
that differ once their escapes are resolved. Every other text is refused with a fault of
that text; and if all that is wrong is that a name returns, the fault says so. -/
theorem json_texts_of_interfaces (text : String) :
    (∀ d, ofJson text = .ok d ↔
      ∃ entries, ContractText text.toList entries ∧ (entries.map Signature.name).Nodup ∧
        d.signatures = entries) ∧
    ((∃ fault, ofJson text = .error (.json inlinePath text.toList fault)) ↔
      ¬∃ entries, ContractText text.toList entries ∧ (entries.map Signature.name).Nodup) ∧
    ∀ entries, ContractText text.toList entries → ¬(entries.map Signature.name).Nodup →
      ∃ cause left,
        ofJson text = .error (.json inlinePath text.toList ⟨.duplicate cause, left⟩) := by
  refine ⟨fun d => ?_, ?_, fun entries written repeated => ?_⟩
  · rw [ofJson_eq_ok_iff]
    constructor
    · intro written
      exact ⟨d.signatures, written, d.distinct, rfl⟩
    · rintro ⟨entries, written, -, rfl⟩
      exact written
  · constructor
    · rintro ⟨fault, refused⟩ ⟨entries, written, distinct⟩
      have accepted : ofJson text = .ok ⟨entries, distinct⟩ := ofJson_eq_ok_iff.2 written
      rw [refused] at accepted
      cases accepted
    · intro noInterface
      exact exists_fault_of_refused fun d accepted =>
        noInterface ⟨d.signatures, ofJson_eq_ok_iff.1 accepted, d.distinct⟩
  · obtain ⟨cause, left, refused⟩ := Json.contract_of_repeated written repeated
    exact ⟨cause, left, by rw [ofJson, ofJsonAt, refused]⟩

/-- Two declarations of `a`, of which the second one escapes the letter. -/
theorem escaped_name_returns :
    ∃ cause left, ofJson "\x7b\"a\":[],\"\\u0061\":[]\x7d" =
      .error (.json inlinePath "\x7b\"a\":[],\"\\u0061\":[]\x7d".toList
        ⟨.duplicate cause, left⟩) := by
  have empty : ∀ rest, Json.ListText ('[' :: ']' :: rest) [] rest :=
    fun rest => Json.FrameText.empty .done .done
  have first : Json.DeclarationText "\"a\":[],\"\\u0061\":[]\x7d".toList ⟨"a", []⟩
      ",\"\\u0061\":[]\x7d".toList :=
    ⟨_, _, ⟨_, .done, .plain (by decide) (by decide) (by decide) .close⟩, .done, empty _⟩
  have digits : Json.UnitText "0061\":[]\x7d".toList 0x61 "\":[]\x7d".toList :=
    Json.UnitText.digits (w := 0) (x := 0) (y := 6) (z := 1) (Or.inl rfl) (Or.inl rfl) (Or.inl rfl)
      (Or.inl rfl)
  have second : Json.DeclarationText "\"\\u0061\":[]\x7d".toList ⟨"a", []⟩ "\x7d".toList :=
    ⟨_, _, ⟨_, .done, .escaped (.unit digits (by decide)) .close⟩, .done, empty _⟩
  have written : ContractText "\x7b\"a\":[],\"\\u0061\":[]\x7d".toList [⟨"a", []⟩, ⟨"a", []⟩] :=
    ⟨_, Json.FrameText.filled .done (.more first .done (.last second .done)), .done⟩
  exact (json_texts_of_interfaces _).2.2 _ written (by decide)

end StructuralTyping.Interface
