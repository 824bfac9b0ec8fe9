import StructuralTyping.Json.Grammar
/-!
# What is written does not depend on what follows

The relations of the grammar stand between a text and the rest of it, so the rest takes part
in them. None of them looks at it: the part in front of the rest could stand in front of any
other text. This holds of a token because its last character is no blank, of a string because
its last character is the quote, and of everything that is put together from such parts.
-/
set_option autoImplicit false

namespace StructuralTyping.Json

/-- What is written at the front of a text would be written there whatever text followed. -/
def SelfContained (written : List Char → List Char → Prop) : Prop :=
  ∀ ⦃s rest⦄, written s rest →
    ∃ front, s = front ++ rest ∧ ∀ after, written (front ++ after) after

/-- It is written in front of `rest` exactly if it is a text of its own that `rest` follows. -/
theorem SelfContained.iff {written : List Char → List Char → Prop}
    (contained : SelfContained written) {s rest : List Char} :
    written s rest ↔ ∃ front, s = front ++ rest ∧ written front [] := by
  constructor
  · intro here
    obtain ⟨front, rfl, anywhere⟩ := contained here
    exact ⟨front, rfl, by simpa using anywhere []⟩
  · rintro ⟨front, rfl, alone⟩
    obtain ⟨whole, same, anywhere⟩ := contained alone
    rw [List.append_nil] at same
    exact same ▸ anywhere rest

/-- Blanks are blanks whatever follows. -/
theorem selfContained_blanks : SelfContained Blanks := by
  intro s rest blanks
  induction blanks with
  | done => exact ⟨[], rfl, fun _ => .done⟩
  | @more c _ _ blank _ inductionHypothesis =>
    obtain ⟨front, rfl, anywhere⟩ := inductionHypothesis
    exact ⟨c :: front, rfl, fun after => .more blank (anywhere after)⟩

/-- A token is written with its blanks, whatever follows. -/
theorem selfContained_token (c : Char) : SelfContained (Token c) := by
  intro s rest token
  obtain ⟨front, rfl, anywhere⟩ := selfContained_blanks token
  exact ⟨front ++ [c], by simp, fun after => by simpa [Token] using anywhere (c :: after)⟩

section Strings

/-- A unit is written in its four digits. -/
theorem selfContained_unit (n : Nat) : SelfContained (UnitText · n ·) := by
  rintro _ rest ⟨first, second, third, fourth⟩
  exact ⟨[_, _, _, _], rfl, fun _ => .digits first second third fourth⟩

/-- An escape is written in its letter or in its units. -/
theorem selfContained_escape (c : Char) : SelfContained (EscapeText · c ·) := by
  rintro _ rest (named | ⟨digits, single⟩ | ⟨first, leading, second, trailing, code⟩)
  · exact ⟨[_], rfl, fun _ => .letter named⟩
  · obtain ⟨front, rfl, anywhere⟩ := selfContained_unit _ digits
    exact ⟨'u' :: front, rfl, fun after => .unit (anywhere after) single⟩
  · obtain ⟨front, rfl, firstAnywhere⟩ := selfContained_unit _ first
    obtain ⟨middle, rfl, secondAnywhere⟩ := selfContained_unit _ second
    refine ⟨'u' :: front ++ '\\' :: 'u' :: middle, by simp, fun after => ?_⟩
    simpa using EscapeText.pair (firstAnywhere _) leading (secondAnywhere after) trailing code

/-- A string is written up to its closing quote. -/
theorem selfContained_string (text : List Char) : SelfContained (StringText · text ·) := by
  intro s rest written
  induction written with
  | close => exact ⟨['"'], rfl, fun _ => .close⟩
  | @plain c _ _ _ visible noQuote noBackslash _ inductionHypothesis =>
    obtain ⟨front, rfl, anywhere⟩ := inductionHypothesis
    exact ⟨c :: front, rfl, fun after => .plain visible noQuote noBackslash (anywhere after)⟩
  | escaped escape _ inductionHypothesis =>
    obtain ⟨mark, rfl, escapeAnywhere⟩ := selfContained_escape _ escape
    obtain ⟨front, rfl, anywhere⟩ := inductionHypothesis
    refine ⟨'\\' :: mark ++ front, by simp, fun after => ?_⟩
    simpa using StringText.escaped (escapeAnywhere _) (anywhere after)

/-- A text in quotes is written from one of them to the other. -/
theorem selfContained_quoted (text : String) : SelfContained (QuotedText · text ·) := by
  rintro s rest ⟨body, opened, written⟩
  obtain ⟨quote, rfl, quoteAnywhere⟩ := selfContained_token _ opened
  obtain ⟨inside, rfl, anywhere⟩ := selfContained_string _ written
  exact ⟨quote ++ inside, by simp, fun after =>
    ⟨inside ++ after, by simpa using quoteAnywhere _, anywhere after⟩⟩

end Strings

section Frames

variable {α : Type} {item : List Char → α → List Char → Prop} {opening closing : Char}

/-- Items are written up to the closing bracket, if each of them stands for itself. -/
theorem selfContained_items (each : ∀ x, SelfContained (item · x ·)) (xs : List α) :
    SelfContained (ItemsText item closing · xs ·) := by
  intro s rest written
  induction written with
  | last first closed =>
    obtain ⟨front, rfl, firstAnywhere⟩ := each _ first
    obtain ⟨bracket, rfl, closedAnywhere⟩ := selfContained_token _ closed
    refine ⟨front ++ bracket, by simp, fun after => ?_⟩
    simpa using ItemsText.last (firstAnywhere _) (closedAnywhere after)
  | more first comma _ inductionHypothesis =>
    obtain ⟨front, rfl, firstAnywhere⟩ := each _ first
    obtain ⟨mark, rfl, commaAnywhere⟩ := selfContained_token _ comma
    obtain ⟨others, rfl, anywhere⟩ := inductionHypothesis
    refine ⟨front ++ mark ++ others, by simp, fun after => ?_⟩
    simpa using ItemsText.more (firstAnywhere _) (commaAnywhere _) (anywhere after)

/-- A frame is written from bracket to bracket, if each of its items stands for itself. -/
theorem selfContained_frame (each : ∀ x, SelfContained (item · x ·)) (xs : List α) :
    SelfContained (FrameText opening closing item · xs ·) := by
  rintro s rest (⟨opened, closed⟩ | ⟨opened, items⟩)
  · obtain ⟨front, rfl, openedAnywhere⟩ := selfContained_token _ opened
    obtain ⟨bracket, rfl, closedAnywhere⟩ := selfContained_token _ closed
    refine ⟨front ++ bracket, by simp, fun after => ?_⟩
    simpa using FrameText.empty (openedAnywhere _) (closedAnywhere after)
  · obtain ⟨front, rfl, openedAnywhere⟩ := selfContained_token _ opened
    obtain ⟨inside, rfl, itemsAnywhere⟩ := selfContained_items each _ items
    refine ⟨front ++ inside, by simp, fun after => ?_⟩
    simpa using FrameText.filled (openedAnywhere _) (itemsAnywhere after)

end Frames

/-- A declaration is written up to the bracket of its parameters. -/
theorem selfContained_declaration (signature : Signature) :
    SelfContained (DeclarationText · signature ·) := by
  rintro s rest ⟨_, _, name, colon, params⟩
  obtain ⟨quoted, rfl, nameAnywhere⟩ := selfContained_quoted _ name
  obtain ⟨mark, rfl, colonAnywhere⟩ := selfContained_token _ colon
  obtain ⟨list, rfl, paramsAnywhere⟩ := selfContained_frame selfContained_quoted _ params
  exact ⟨quoted ++ mark ++ list, by simp, fun after =>
    ⟨mark ++ (list ++ after), list ++ after, by simpa using nameAnywhere _, colonAnywhere _,
      paramsAnywhere after⟩⟩

end StructuralTyping.Json
