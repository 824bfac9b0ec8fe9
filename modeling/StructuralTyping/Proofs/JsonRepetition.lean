import StructuralTyping.Proofs.JsonContracts
import StructuralTyping.Proofs.JsonFaults
import StructuralTyping.Proofs.JsonPrefixes
/-!
# The first name that returns

A contract is refused for a name that was declared before exactly if this is the first thing
that is wrong in its text. Up to the closing bracket of the second declaration everything is
written as it should be; what stands behind that bracket does not count. The reader looks a
name up as soon as its list is closed, before it asks for a comma or a brace, and no other
reader reports such a name.
-/
set_option autoImplicit false

namespace StructuralTyping.Json

open StructuralTyping.Text

/-- Declarations, each with a comma behind it. -/
inductive LeadingText : List Char → List Signature → List Char → Prop where
  | none {s : List Char} : LeadingText s [] s
  | more {s middle next rest : List Char} {signature : Signature} {later : List Signature}
      (first : DeclarationText s signature middle) (comma : Token ',' middle next)
      (further : LeadingText next later rest) : LeadingText s (signature :: later) rest

/-- An object that declares functions of different names, and then a function of the given
name, which is one of theirs, up to the closing bracket of its list. -/
def RepetitionText (name : String) (s rest : List Char) : Prop :=
  ∃ opened entries next signature, Token '\x7b' s opened ∧ LeadingText opened entries next ∧
    (entries.map Signature.name).Nodup ∧ DeclarationText next signature rest ∧
    signature.name = name ∧ name ∈ entries.map Signature.name

section Prefixes

/-- Declarations are written with their commas, whatever follows. -/
theorem selfContained_leading (entries : List Signature) :
    SelfContained (LeadingText · entries ·) := by
  intro s rest written
  induction written with
  | none => exact ⟨[], rfl, fun _ => .none⟩
  | more first comma _ inductionHypothesis =>
    obtain ⟨front, rfl, firstAnywhere⟩ := selfContained_declaration _ first
    obtain ⟨mark, rfl, commaAnywhere⟩ := selfContained_token _ comma
    obtain ⟨others, rfl, anywhere⟩ := inductionHypothesis
    refine ⟨front ++ mark ++ others, by simp, fun after => ?_⟩
    simpa using LeadingText.more (firstAnywhere _) (commaAnywhere _) (anywhere after)

/-- A name is repeated by the time its second list is closed, whatever follows. -/
theorem selfContained_repetition (name : String) : SelfContained (RepetitionText name) := by
  rintro s rest ⟨_, entries, _, signature, opened, leading, distinct, declared, named, returns⟩
  obtain ⟨brace, rfl, openedAnywhere⟩ := selfContained_token _ opened
  obtain ⟨before, rfl, leadingAnywhere⟩ := selfContained_leading _ leading
  obtain ⟨last, rfl, declaredAnywhere⟩ := selfContained_declaration _ declared
  exact ⟨brace ++ before ++ last, by simp, fun after =>
    ⟨before ++ (last ++ after), entries, last ++ after, signature, by simpa using openedAnywhere _,
      leadingAnywhere _, distinct, declaredAnywhere after, named, returns⟩⟩

end Prefixes

section Readers

variable {d e : Interface} {s t next rest : List Char} {signature : Signature}
  {entries : List Signature}

/-- What leads to a declaration begins with the quote of a name. -/
theorem quote_of_leading (leading : LeadingText s entries next)
    (declared : DeclarationText next signature rest) : ∃ t, Token '"' s t := by
  cases leading with
  | none =>
    obtain ⟨_, _, ⟨body, quote, _⟩, _⟩ := declared
    exact ⟨body, quote⟩
  | more first _ _ =>
    obtain ⟨_, _, ⟨body, quote, _⟩, _⟩ := first
    exact ⟨body, quote⟩

/-- Behind declarations that are accepted, one whose name is taken ends the reading. -/
theorem declarations_of_leading (leading : LeadingText s entries next) (quote : Token '"' s t)
    (inserted : d.insertAll entries = .ok e) (declared : DeclarationText next signature rest)
    (returns : signature.name ∈ e.names) :
    declarations d t = .error (.before (.duplicate ⟨signature.name⟩) (pastBrace rest)) := by
  induction leading generalizing d t with
  | none =>
    cases inserted
    exact declarations_of_taken declared quote (Interface.insert_eq_error_iff.2 ⟨returns, rfl⟩)
  | more first comma further inductionHypothesis =>
    obtain ⟨_, laterQuote⟩ := quote_of_leading further declared
    rw [Interface.insertAll] at inserted
    split at inserted
    · exact (declarations_of_more first quote ‹_› comma laterQuote).2
        (inductionHypothesis laterQuote inserted declared)
    · cases inserted

/-- A name that is reported as taken stands in the text, behind declarations that were
accepted, and one of these has it. -/
theorem leading_of_refused {name : String} {left : Nat}
    (refused : declarations d t = .error ⟨.duplicate ⟨name⟩, left⟩) (quote : Token '"' s t) :
    ∃ entries next signature rest e, LeadingText s entries next ∧ d.insertAll entries = .ok e ∧
      DeclarationText next signature rest ∧ signature.name = name ∧ name ∈ e.names := by
  -- two cases can report a name: its own insertion is refused, or a later one is
  fun_induction declarations d t generalizing s with
  | case1 d t fault unread =>
    cases refused
    exact absurd unread (unrepeated_declaration t _ _)
  | case2 d t signature rest shorter read cause taken =>
    obtain ⟨member, rfl⟩ := Interface.insert_eq_error_iff.1 taken
    cases refused
    exact ⟨[], s, signature, rest, d, .none, rfl, (declarationText_iff quote).2 ⟨shorter, read⟩,
      rfl, member⟩
  | case3 d t signature rest shorter read extended once fault stuck =>
    cases refused
    exact absurd stuck (unrepeated_continueObject rest _ _)
  | case4 => cases refused
  | case5 d t signature rest shorter read extended once next le goesOn fault laterRefused
      inductionHypothesis =>
    cases refused
    obtain ⟨middle, comma, laterQuote⟩ := continueObject_goesOn_iff.1 ⟨le, goesOn⟩
    obtain ⟨others, later, last, after, e, leading, inserted, declared, named, returns⟩ :=
      inductionHypothesis laterRefused laterQuote
    exact ⟨signature :: others, later, last, after, e,
      .more ((declarationText_iff quote).2 ⟨shorter, read⟩) comma leading,
      by simpa [Interface.insertAll, once] using inserted, declared, named, returns⟩
  | case6 => cases refused

/-- Blanks are not refused for a name. -/
theorem first_of_refused {α : Type} {read : (c : Char) → (rest : List Char) → Scan α (c :: rest)}
    {cause : Interface.Duplicate} {left : Nat}
    (refused : behindBlanks read s = .error ⟨.duplicate cause, left⟩) :
    ∃ c later, skipBlanks s = c :: later ∧ read c later = .error ⟨.duplicate cause, left⟩ := by
  rw [behindBlanks] at refused
  split at refused <;> rename_i view
  · cases refused
  · refine ⟨_, _, skipBlanks_eq_of_afterBlanks view, ?_⟩
    split at refused <;> rename_i found
    · cases refused
      exact found
    · cases refused

/-- A name is reported as taken only while the declarations of an object are read. -/
theorem declarations_of_refused {cause : Interface.Duplicate} {left : Nat}
    (refused : interface s = .error ⟨.duplicate cause, left⟩) :
    ∃ opened first, Token '\x7b' s opened ∧ Token '"' opened first ∧
      declarations .empty first = .error ⟨.duplicate cause, left⟩ := by
  rw [interface] at refused
  obtain ⟨c, later, skipped, stopped⟩ := first_of_refused refused
  split at stopped <;> rename_i brace
  · subst brace
    have opened : Token '\x7b' s later := (token_iff rfl).2 skipped
    split at stopped <;> rename_i turn
    · cases stopped
      exact absurd turn (unrepeated_openObject _ _ _)
    · cases stopped
    · rename_i first le
      refine ⟨later, first, opened, openObject_goesOn_iff.1 ⟨le, turn⟩, ?_⟩
      split at stopped <;> rename_i inside
      · cases stopped
        exact inside
      · cases stopped
  · exact absurd stopped (unrepeated_mismatchAt _ _ _ _ _)

end Readers

/-- A text is refused for a name exactly if it begins with a repetition of that name. -/
theorem contract_eq_repetition_iff {text : List Char} {name : String} :
    (∃ left, contract text = .error ⟨.duplicate ⟨name⟩, left⟩) ↔
      ∃ rest, RepetitionText name text rest := by
  constructor
  · rintro ⟨left, refused⟩
    have inside : interface text = .error ⟨.duplicate ⟨name⟩, left⟩ := by
      rw [contract] at refused
      split at refused <;> rename_i read
      · cases refused
        exact read
      · exact absurd refused (unrepeated_finish _ _ _)
    obtain ⟨opened, first, brace, quote, stopped⟩ := declarations_of_refused inside
    obtain ⟨entries, next, signature, rest, e, leading, inserted, declared, named, returns⟩ :=
      leading_of_refused stopped quote
    have same := Interface.insertAll_empty_eq_ok_iff.1 inserted
    refine ⟨rest, opened, entries, next, signature, brace, leading, ?_, declared, named, ?_⟩
    · exact same ▸ e.distinct
    · exact same ▸ returns
  · rintro ⟨rest, opened, entries, next, signature, brace, leading, distinct, declared, rfl,
      returns⟩
    obtain ⟨first, quote⟩ := quote_of_leading leading declared
    have inserted : Interface.empty.insertAll entries = .ok ⟨entries, distinct⟩ :=
      Interface.insertAll_empty_eq_ok_iff.2 rfl
    have stopped := declarations_of_leading leading quote inserted declared returns
    exact ⟨_, by rw [contract, interface_of_refused brace quote stopped]; rfl⟩

/-- The second `a` is escaped, and what follows its list is no JSON at all. -/
example :
    contract "\x7b\"a\": [\"x\"], \"\\u0061\": []?".toList = .error ⟨.duplicate ⟨"a"⟩, 1⟩ := by
  cbv

end StructuralTyping.Json

namespace StructuralTyping.Interface

open StructuralTyping.Json (RepetitionText)

/-- A name that returns is reported exactly if it is the first problem, whatever follows it. A
text is refused because the given name is declared twice if and only if it begins with an
object in which functions of different names are declared, and then, up to the closing bracket
of its parameters, a function whose name is the given one and one of theirs, once all escapes
are resolved. No fault behind that bracket replaces the report, and any fault before it does. -/
theorem repeated_name_is_the_first_problem (text name : String) :
    (∃ left, ofJson text =
      .error (.json inlinePath text.toList ⟨.duplicate ⟨name⟩, left⟩)) ↔
      ∃ before rest, text.toList = before ++ rest ∧ RepetitionText name before [] := by
  simp only [ofJson, ofJsonAt_eq_error_iff]
  calc (∃ left, Json.contract text.toList = .error ⟨.duplicate ⟨name⟩, left⟩)
    _ ↔ ∃ rest, RepetitionText name text.toList rest := Json.contract_eq_repetition_iff
    _ ↔ ∃ rest before, text.toList = before ++ rest ∧ RepetitionText name before [] :=
      exists_congr fun _ => (Json.selfContained_repetition name).iff
    _ ↔ ∃ before rest, text.toList = before ++ rest ∧ RepetitionText name before [] := exists_comm

end StructuralTyping.Interface
