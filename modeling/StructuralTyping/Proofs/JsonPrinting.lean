import StructuralTyping.Json.Printer
import StructuralTyping.Proofs.JsonContracts
/-!
# Printed interfaces are texts of interfaces

What the printer writes for declarations, the grammar of interfaces reads as the same
declarations. A character is printed as itself, or as an escape of it; the rest is laid out
without blanks, so each token follows at once.
-/
set_option autoImplicit false

namespace StructuralTyping

/-- What declarations are written as, also where a name returns. -/
def valueOfSignatures (signatures : List Signature) : Value :=
  .mapping (signatures.map fun s => (s.name, Value.ofStrings s.params))

namespace Json

section Characters

variable {c : Char} {s rest text : List Char}

/-- The printed digit of a number stands for its last four bits. -/
theorem hexDigit_hexDigitChar (n : Nat) : HexDigit (hexDigitChar n) (n % 16) := by
  have digits : ∀ k < 16, lowerDigits[k]? = some (Nat.digitChar k) := by decide
  exact Or.inl (digits (n % 16) (Nat.mod_lt n (by decide)))

/-- A character below U+0020 is escaped as a unit of which two digits are zero. -/
theorem escapeText_printed (below : c.toNat < 0x20) :
    EscapeText ('u' :: '0' :: '0' :: hexDigitChar (c.toNat / 16) :: hexDigitChar c.toNat :: rest)
      c rest := by
  have unit : UnitText
      ('0' :: '0' :: hexDigitChar (c.toNat / 16) :: hexDigitChar c.toNat :: rest)
      (((0 * 16 + 0) * 16 + c.toNat / 16 % 16) * 16 + c.toNat % 16) rest :=
    UnitText.digits (Or.inl rfl) (Or.inl rfl) (hexDigit_hexDigitChar _) (hexDigit_hexDigitChar _)
  have value : ((0 * 16 + 0) * 16 + c.toNat / 16 % 16) * 16 + c.toNat % 16 = c.toNat := by omega
  rw [value] at unit
  have escape := EscapeText.unit unit (by omega)
  rwa [Char.ofNat_toNat] at escape

/-- A printed character may stand in front of a string. -/
theorem stringText_printedChar (further : StringText s text rest) :
    StringText (printedChar c ++ s) (c :: text) rest := by
  fun_cases printedChar c with
  | case8 noQuote noBackslash _ _ _ _ _ below =>
    exact StringText.escaped (escapeText_printed below) further
  | case9 noQuote noBackslash _ _ _ _ _ visible =>
    exact StringText.plain (Nat.not_lt.1 visible) noQuote noBackslash further
  | _ =>
    subst c
    exact StringText.escaped (EscapeText.letter (by decide)) further

/-- Printed characters and a quote are a string. -/
theorem stringText_printed (text rest : List Char) :
    StringText (text.flatMap printedChar ++ '"' :: rest) text rest := by
  induction text with
  | nil => exact StringText.close
  | cons c later inductionHypothesis =>
    rw [List.flatMap_cons, List.append_assoc]
    exact stringText_printedChar inductionHypothesis

/-- A printed string is that string in quotes. -/
theorem quotedText_printed (text : String) (rest : List Char) :
    QuotedText (printedString text.toList ++ rest) text rest := by
  have laid : printedString text.toList ++ rest =
      '"' :: (text.toList.flatMap printedChar ++ '"' :: rest) := by
    simp [printedString]
  rw [laid]
  exact ⟨_, Blanks.done, stringText_printed text.toList rest⟩

end Characters

section Frames

variable {α : Type} {opening closing : Char} {item : List Char → α → List Char → Prop}
  {print : α → List Char}

/-- Printed items with commas between them are the items of a list. Behind an item stands a
comma or the closing bracket, and nothing else needs to be known of what follows it. -/
theorem itemsText_printed {first : α} {later : List α}
    (printed : ∀ x ∈ first :: later, ∀ c rest, c = ',' ∨ c = closing →
      item (print x ++ c :: rest) x (c :: rest)) (rest : List Char) :
    ItemsText item closing (commaSeparated ((first :: later).map print) ++ closing :: rest)
      (first :: later) rest := by
  induction later generalizing first with
  | nil =>
    exact ItemsText.last (printed first List.mem_cons_self closing rest (Or.inr rfl)) Blanks.done
  | cons second later inductionHypothesis =>
    let following := commaSeparated ((second :: later).map print) ++ closing :: rest
    have laid : commaSeparated ((first :: second :: later).map print) ++ closing :: rest =
        print first ++ ',' :: following := by
      simp [commaSeparated, following]
    rw [laid]
    exact ItemsText.more (printed first List.mem_cons_self ',' following (Or.inl rfl)) Blanks.done
      (inductionHypothesis fun x member => printed x (List.mem_cons_of_mem _ member))

/-- Printed items between two brackets are a frame of them. -/
theorem frameText_printed {xs : List α}
    (printed : ∀ x ∈ xs, ∀ c rest, c = ',' ∨ c = closing →
      item (print x ++ c :: rest) x (c :: rest)) (rest : List Char) :
    FrameText opening closing item
      (opening :: commaSeparated (xs.map print) ++ closing :: rest) xs rest := by
  cases xs with
  | nil => exact FrameText.empty Blanks.done Blanks.done
  | cons first later => exact FrameText.filled Blanks.done (itemsText_printed printed rest)

end Frames

section Values

/-- A printed list of strings is a list of them. -/
theorem listText_printed (strings : List String) (rest : List Char) :
    ListText (printed (Value.ofStrings strings) ++ rest) strings rest := by
  rw [Value.ofStrings, printed, printedItems_eq_map, List.map_map, List.append_assoc]
  exact frameText_printed (fun s _ c rest _ => quotedText_printed s (c :: rest)) rest

/-- The text of a declaration: its name, a colon, and the list of its parameters. -/
def printedSignature (s : Signature) : List Char :=
  printedString s.name.toList ++ ':' :: printed (Value.ofStrings s.params)

/-- A declaration is printed as the entry of its name and its parameters. -/
theorem printedEntries_signatures (signatures : List Signature) :
    printedEntries (signatures.map fun s => (s.name, Value.ofStrings s.params)) =
      signatures.map printedSignature := by
  rw [printedEntries_eq_map, List.map_map]
  rfl

/-- A printed declaration is written as one. -/
theorem declarationText_printed (s : Signature) (rest : List Char) :
    DeclarationText (printedSignature s ++ rest) s rest := by
  rw [printedSignature, List.append_assoc]
  exact ⟨_, _, quotedText_printed s.name _, Blanks.done, listText_printed s.params rest⟩

/-- Printed declarations are the text of an interface with these declarations. -/
theorem contractText_printed (signatures : List Signature) :
    ContractText (printed (valueOfSignatures signatures)) signatures := by
  refine ⟨[], ?_, Blanks.done⟩
  rw [valueOfSignatures, printed, printedEntries_signatures]
  exact frameText_printed (fun s _ c rest _ => declarationText_printed s (c :: rest)) []

end Values

end Json

/-- Printed declarations are read as the interface that holds exactly them, in their order. -/
theorem Interface.ofJson_printed_eq_ok_iff {signatures : List Signature} {d : Interface} :
    ofJson (Json.print (valueOfSignatures signatures)) = .ok d ↔ d.signatures = signatures := by
  rw [ofJson, ofJsonAt_eq_ok_iff, Json.print, String.toList_ofList]
  exact Json.contract_eq_ok_iff_of_written (Json.contractText_printed signatures)

end StructuralTyping
