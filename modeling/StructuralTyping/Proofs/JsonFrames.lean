import StructuralTyping.Json.Framing
import StructuralTyping.Json.Grammar
import StructuralTyping.Proofs.JsonStrings
/-!
# Frames are read as they are written

Blanks, brackets and commas. What follows the blanks decides what is read, so the readers
and the grammar both look at a text only from its first character that is no blank. A turn
of a frame is described by how it ends: the frame closes, or it goes on with an item.
-/
set_option autoImplicit false

namespace StructuralTyping.Json

open StructuralTyping.Text

section Blanks

variable {s t rest : List Char}

/-- There are four blanks. -/
theorem isBlank_iff {c : Char} : isBlank c = true ↔ c ∈ [' ', '\t', '\n', '\r'] := by
  simp [isBlank, or_assoc]

/-- What is skipped are blanks. -/
theorem blanks_skipBlanks (s : List Char) : Blanks s (skipBlanks s) := by
  induction s with
  | nil => exact Blanks.done
  | cons c later inductionHypothesis =>
    rw [skipBlanks, List.dropWhile_cons]
    split
    · rename_i blank
      exact Blanks.more (isBlank_iff.1 blank) inductionHypothesis
    · exact Blanks.done

/-- Blanks may be left out in front of a text without a change to what follows them. -/
theorem skipBlanks_eq_of_blanks (blanks : Blanks s t) : skipBlanks s = skipBlanks t := by
  induction blanks with
  | done => rfl
  | more blank later inductionHypothesis =>
    rw [skipBlanks, List.dropWhile_cons_of_pos (isBlank_iff.2 blank)]
    exact inductionHypothesis

/-- A text that is all blanks. -/
theorem blanks_nil_iff : Blanks s [] ↔ skipBlanks s = [] := by
  constructor
  · exact skipBlanks_eq_of_blanks
  · intro skipped
    exact skipped ▸ blanks_skipBlanks s

/-- A character that is no blank is the next token exactly if it follows the blanks. -/
theorem token_iff {c : Char} (visible : isBlank c = false) :
    Token c s rest ↔ skipBlanks s = c :: rest := by
  constructor
  · intro blanks
    rw [skipBlanks_eq_of_blanks blanks, skipBlanks, List.dropWhile_cons_of_neg (by simp [visible])]
  · intro skipped
    rw [Token, ← skipped]
    exact blanks_skipBlanks s

/-- Behind the blanks there are no more blanks to skip. -/
theorem skipBlanks_skipBlanks (s : List Char) : skipBlanks (skipBlanks s) = skipBlanks s :=
  (skipBlanks_eq_of_blanks (blanks_skipBlanks s)).symm

end Blanks

section Turns

variable {s rest : List Char}

/-- A frame is closed, and this text follows. -/
def Closes (turn : Except Fault (Turn s)) (rest : List Char) : Prop :=
  ∃ le, turn = .ok (.closed rest le)

/-- A frame goes on, with this text. -/
def GoesOn (turn : Except Fault (Turn s)) (rest : List Char) : Prop :=
  ∃ le, turn = .ok (.more rest le)

/-- A turn that closes its frame leaves the text behind the bracket. -/
@[simp]
theorem closes_closed {after : List Char} {le : after.length ≤ s.length} :
    Closes (.ok (.closed after le)) rest ↔ after = rest := by
  constructor
  · rintro ⟨_, same⟩
    cases same
    rfl
  · rintro rfl
    exact ⟨le, rfl⟩

/-- A turn to a further item does not close its frame. -/
@[simp]
theorem not_closes_more {next : List Char} {le : next.length ≤ s.length} :
    ¬Closes (.ok (.more next le)) rest := by
  simp [Closes]

/-- A turn that is refused does not close its frame. -/
@[simp]
theorem not_closes_error {fault : Fault} : ¬Closes (.error fault : Except Fault (Turn s)) rest := by
  simp [Closes]

/-- A turn to a further item leaves the text in which the item begins. -/
@[simp]
theorem goesOn_more {next : List Char} {le : next.length ≤ s.length} :
    GoesOn (.ok (.more next le)) rest ↔ next = rest := by
  constructor
  · rintro ⟨_, same⟩
    cases same
    rfl
  · rintro rfl
    exact ⟨le, rfl⟩

/-- A turn that closes its frame goes on to no item. -/
@[simp]
theorem not_goesOn_closed {after : List Char} {le : after.length ≤ s.length} :
    ¬GoesOn (.ok (.closed after le)) rest := by
  simp [GoesOn]

/-- A turn that is refused goes on to no item. -/
@[simp]
theorem not_goesOn_error {fault : Fault} : ¬GoesOn (.error fault : Except Fault (Turn s)) rest := by
  simp [GoesOn]

/-- A text is looked at from its first character that is no blank. -/
theorem skipBlanks_eq_of_afterBlanks {t : List Char} {le : t.length ≤ s.length}
    (view : afterBlanks s = ⟨t, le⟩) : skipBlanks s = t :=
  congrArg Subtype.val view

/-- An empty list is closed by its bracket. -/
theorem openList_closes_iff : Closes (openList s) rest ↔ Token ']' s rest := by
  rw [token_iff rfl, openList]
  split <;> rename_i view <;> rw [skipBlanks_eq_of_afterBlanks view]
  · simp
  · split <;> simp [*]

/-- A list that is not closed at once goes on with the first character that is no blank. -/
theorem openList_goesOn_iff :
    GoesOn (openList s) rest ↔ skipBlanks s = rest ∧ rest ≠ [] ∧ rest.head? ≠ some ']' := by
  rw [openList]
  split <;> rename_i view <;> rw [skipBlanks_eq_of_afterBlanks view]
  · simp +contextual [eq_comm]
  · split
    · rename_i closing
      simp only [not_goesOn_closed, false_iff]
      rintro ⟨rfl, _, differs⟩
      exact differs (congrArg some closing)
    · rename_i differs
      rw [goesOn_more, iff_self_and]
      rintro rfl
      exact ⟨List.cons_ne_nil _ _, fun same => differs (Option.some.inj same)⟩

/-- Behind an item a list is closed by its bracket. -/
theorem continueList_closes_iff : Closes (continueList s) rest ↔ Token ']' s rest := by
  rw [token_iff rfl, continueList]
  split <;> rename_i view <;> rw [skipBlanks_eq_of_afterBlanks view]
  · simp
  · split
    · simp [*]
    · split
      · split
        · simp [*]
        · split <;> simp [*]
      · simp [*]

/-- Behind a comma a list goes on like one that was just opened. -/
theorem continueList_goesOn_iff :
    GoesOn (continueList s) rest ↔
      ∃ middle, Token ',' s middle ∧ GoesOn (openList middle) rest := by
  simp only [token_iff (c := ',') rfl]
  rw [continueList]
  split <;> rename_i view <;> rw [skipBlanks_eq_of_afterBlanks view]
  · simp
  · split
    · simp [*]
    · split
      · rename_i comma
        simp only [List.cons.injEq, comma, true_and, exists_eq_left', openList]
        split
        · simp
        · split <;> simp [*]
      · simp [*]

/-- An empty object is closed by its brace. -/
theorem openObject_closes_iff : Closes (openObject s) rest ↔ Token '\x7d' s rest := by
  rw [token_iff rfl, openObject]
  split <;> rename_i view <;> rw [skipBlanks_eq_of_afterBlanks view]
  · simp
  · split
    · simp [*]
    · split <;> simp [*]

/-- The first entry of an object begins with the quote of its key. -/
theorem openObject_goesOn_iff : GoesOn (openObject s) rest ↔ Token '"' s rest := by
  rw [token_iff rfl, openObject]
  split <;> rename_i view <;> rw [skipBlanks_eq_of_afterBlanks view]
  · simp
  · split
    · simp [*]
    · split <;> simp [*]

/-- Behind an entry an object is closed by its brace. -/
theorem continueObject_closes_iff : Closes (continueObject s) rest ↔ Token '\x7d' s rest := by
  rw [token_iff rfl, continueObject]
  split <;> rename_i view <;> rw [skipBlanks_eq_of_afterBlanks view]
  · simp
  · split
    · simp [*]
    · split
      · split
        · simp [*]
        · split
          · simp [*]
          · split <;> simp [*]
      · simp [*]

/-- Behind a comma an object goes on with the name of a further entry. -/
theorem continueObject_goesOn_iff :
    GoesOn (continueObject s) rest ↔ ∃ middle, Token ',' s middle ∧ Token '"' middle rest := by
  simp only [token_iff (c := ',') rfl, token_iff (c := '"') rfl]
  rw [continueObject]
  split <;> rename_i view <;> rw [skipBlanks_eq_of_afterBlanks view]
  · simp
  · split
    · simp [*]
    · split
      · split <;> rename_i laterView
        · simp [skipBlanks_eq_of_afterBlanks laterView, *]
        · split
          · simp [skipBlanks_eq_of_afterBlanks laterView, *]
          · split <;> simp [skipBlanks_eq_of_afterBlanks laterView, *]
      · simp [*]

/-- A colon is found where one is written. -/
theorem finds_colon_iff : Finds (colon s) () rest ↔ Token ':' s rest := by
  rw [token_iff rfl, colon]
  split <;> rename_i view <;> rw [skipBlanks_eq_of_afterBlanks view]
  · simp
  · split <;> simp [*]

end Turns

/-- A frame is opened, and then it is closed or has items. -/
theorem frameText_iff {α : Type} {opening closing : Char} {item : List Char → α → List Char → Prop}
    {s rest : List Char} {xs : List α} :
    FrameText opening closing item s xs rest ↔
      ∃ middle, Token opening s middle ∧
        (xs = [] ∧ Token closing middle rest ∨ ItemsText item closing middle xs rest) := by
  constructor
  · rintro (⟨opened, closed⟩ | ⟨opened, items⟩)
    · exact ⟨_, opened, Or.inl ⟨rfl, closed⟩⟩
    · exact ⟨_, opened, Or.inr items⟩
  · rintro ⟨middle, opened, ⟨rfl, closed⟩ | items⟩
    · exact FrameText.empty opened closed
    · exact FrameText.filled opened items

/-- Only the first item of several sees the text they begin with. -/
theorem items_congr {α : Type} {closing : Char} {item : List Char → α → List Char → Prop}
    {s t rest : List Char} {xs : List α} (same : ∀ {x middle}, item s x middle → item t x middle)
    (items : ItemsText item closing s xs rest) : ItemsText item closing t xs rest := by
  cases items with
  | last first closed => exact ItemsText.last (same first) closed
  | more first comma further => exact ItemsText.more (same first) comma further

/-- Several items begin with one. -/
theorem first_of_items {α : Type} {closing : Char} {item : List Char → α → List Char → Prop}
    {s rest : List Char} {xs : List α} (items : ItemsText item closing s xs rest) :
    ∃ x middle, item s x middle := by
  cases items with
  | last first _ => exact ⟨_, _, first⟩
  | more first _ _ => exact ⟨_, _, first⟩

section Maps

variable {α β : Type} {opening closing : Char} {item : List Char → α → List Char → Prop}
  {other : List Char → β → List Char → Prop} {f : α → β} {s rest : List Char} {xs : List α}

/-- Items that are each written like their image are written like their images. -/
theorem items_map_iff (each : ∀ s x rest, other s (f x) rest ↔ item s x rest) :
    ItemsText other closing s (xs.map f) rest ↔ ItemsText item closing s xs rest := by
  constructor
  · intro images
    generalize mapped : xs.map f = ys at images
    induction images generalizing xs with
    | last first closed =>
      obtain ⟨x, rfl, rfl⟩ := List.map_eq_singleton_iff.1 mapped
      exact ItemsText.last ((each _ _ _).1 first) closed
    | more first comma further inductionHypothesis =>
      obtain ⟨x, later, rfl, rfl, same⟩ := List.map_eq_cons_iff.1 mapped
      exact ItemsText.more ((each _ _ _).1 first) comma (inductionHypothesis same)
  · intro items
    induction items with
    | last first closed => exact ItemsText.last ((each _ _ _).2 first) closed
    | more first comma further inductionHypothesis =>
      exact ItemsText.more ((each _ _ _).2 first) comma inductionHypothesis

/-- Items that are written alike are written alike inside a frame. -/
theorem frameText_map_iff (each : ∀ s x rest, other s (f x) rest ↔ item s x rest) :
    FrameText opening closing other s (xs.map f) rest ↔
      FrameText opening closing item s xs rest := by
  simp only [frameText_iff, items_map_iff each, List.map_eq_nil_iff]

end Maps

/-- A text is read to its end exactly if nothing but blanks is left. -/
theorem finish_eq_ok_iff {α : Type} {s : List Char} {found : Scanned α s} {x : α} :
    finish found = .ok x ↔ found.value = x ∧ Blanks found.rest [] := by
  rw [finish, blanks_nil_iff]
  split <;> rename_i left <;> simp [left]

end StructuralTyping.Json
