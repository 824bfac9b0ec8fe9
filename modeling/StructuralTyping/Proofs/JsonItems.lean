import Mathlib.Tactic.Simproc.ExistsAndEq
import StructuralTyping.Json.Items
import StructuralTyping.Proofs.JsonFrames
/-!
# Items and entries are read as they are written

A list is read item by item and an object entry by entry, whatever a single one is. Here the
reader of single items and what it finds are a parameter: if the reader finds an item exactly
where one is written, then the items of a list, the list, the entries of an object and the
object are found exactly where they are written.
-/
set_option autoImplicit false

namespace StructuralTyping.Json

open StructuralTyping.Text

variable {α : Type} {s t rest : List Char} {x : α}

/-- A reader finds one thing at most. -/
theorem Finds.unique {scan : Scan α s} {y : α} {after : List Char} (first : Finds scan x rest)
    (second : Finds scan y after) : y = x ∧ after = rest := by
  obtain ⟨_, rfl⟩ := first
  obtain ⟨_, same⟩ := second
  cases same
  exact ⟨rfl, rfl⟩

/-- Behind blanks, what is read begins with the first character that is none. -/
theorem finds_behindBlanks_iff {read : (c : Char) → (rest : List Char) → Scan α (c :: rest)} :
    Finds (behindBlanks read s) x rest ↔
      ∃ c later, skipBlanks s = c :: later ∧ Finds (read c later) x rest := by
  rw [behindBlanks]
  split <;> rename_i view <;> rw [skipBlanks_eq_of_afterBlanks view]
  · simp
  · simp only [List.cons.injEq, existsAndEq, and_true, true_and]
    split <;> rename_i found <;> simp [found]

/-- A reader that takes one first character only finds something behind that character. -/
theorem finds_behindBlanks_only_iff {first : Char}
    {inside : (c : Char) → (rest : List Char) → Scan α (c :: rest)}
    {fault : (c : Char) → (rest : List Char) → Fault} :
    Finds (behindBlanks
        (fun c later => if c = first then inside c later else .error (fault c later)) s) x rest ↔
      ∃ later, skipBlanks s = first :: later ∧ Finds (inside first later) x rest := by
  rw [finds_behindBlanks_iff]
  constructor
  · rintro ⟨c, later, skipped, read⟩
    split at read <;> rename_i same
    · subst same
      exact ⟨later, skipped, read⟩
    · exact absurd read not_finds_error
  · rintro ⟨later, skipped, read⟩
    exact ⟨first, later, skipped, by rwa [if_pos rfl]⟩

/-- A reader of items and what it finds. An item may follow blanks, and it does not begin
with the bracket that closes a list. -/
structure Reads (item : (s : List Char) → Scan α s) (text : List Char → α → List Char → Prop) :
    Prop where
  finds {s rest : List Char} {x : α} : Finds (item s) x rest ↔ text s x rest
  behind {s t rest : List Char} {x : α} (same : skipBlanks s = skipBlanks t)
    (written : text s x rest) : text t x rest
  begins {s rest : List Char} {x : α} (written : text s x rest) :
    ∃ c later, skipBlanks s = c :: later ∧ c ≠ ']'

namespace Reads

variable {item : (s : List Char) → Scan α s} {text : List Char → α → List Char → Prop}
  {xs : List α}

/-- A list that has items goes on when it was opened. -/
theorem goesOn_of_items (reads : Reads item text) (written : ItemsText text ']' s xs rest) :
    GoesOn (openList s) (skipBlanks s) := by
  obtain ⟨_, _, first⟩ := first_of_items written
  obtain ⟨c, later, skipped, differs⟩ := reads.begins first
  rw [openList_goesOn_iff, skipped]
  exact ⟨rfl, List.cons_ne_nil _ _, by simpa using differs⟩

/-- Items that were read are written there, each as its reader reads it. -/
theorem items_of_finds (reads : Reads item text) (read : Finds (items item s) xs rest) :
    ItemsText text ']' s xs rest := by
  fun_induction items item s generalizing xs with
  | case3 s first afterFirst shorter firstRead after le closed =>
    obtain ⟨rfl, rfl⟩ := finds_ok.1 read
    exact ItemsText.last (reads.finds.1 ⟨shorter, firstRead⟩)
      (continueList_closes_iff.1 ⟨le, closed⟩)
  | case5 s first afterFirst shorter firstRead next le more later laterRead inductionHypothesis =>
    obtain ⟨rfl, rfl⟩ := finds_ok.1 read
    obtain ⟨middle, comma, goesOn⟩ := continueList_goesOn_iff.1 ⟨le, more⟩
    obtain ⟨skipped, _⟩ := openList_goesOn_iff.1 goesOn
    have same : skipBlanks next = skipBlanks middle := skipped ▸ skipBlanks_skipBlanks middle
    exact ItemsText.more (reads.finds.1 ⟨shorter, firstRead⟩) comma
      (items_congr (reads.behind same) (inductionHypothesis ⟨later.shorter, laterRead⟩))
  | _ => exact absurd read not_finds_error

/-- The items of a list are read from behind any blanks: the reader skips those that follow
a comma before it goes on. -/
theorem finds_of_items (reads : Reads item text) (written : ItemsText text ']' s xs rest)
    (same : skipBlanks s = skipBlanks t) : Finds (items item t) xs rest := by
  induction written generalizing t with
  | last first closed =>
    obtain ⟨_, firstRead⟩ := reads.finds.2 (reads.behind same first)
    obtain ⟨_, closes⟩ := continueList_closes_iff.2 closed
    rw [items, firstRead]
    simp [closes]
  | more first comma further inductionHypothesis =>
    obtain ⟨_, firstRead⟩ := reads.finds.2 (reads.behind same first)
    obtain ⟨_, goesOn⟩ := continueList_goesOn_iff.2 ⟨_, comma, reads.goesOn_of_items further⟩
    obtain ⟨_, laterRead⟩ := inductionHypothesis (skipBlanks_skipBlanks _).symm
    rw [items, firstRead]
    simp [goesOn, laterRead]

/-- Items stand in a list exactly if it goes on and they are read from there. -/
theorem items_iff (reads : Reads item text) :
    ItemsText text ']' s xs rest ↔
      ∃ first, GoesOn (openList s) first ∧ Finds (items item first) xs rest := by
  constructor
  · intro written
    exact ⟨_, reads.goesOn_of_items written,
      reads.finds_of_items written (skipBlanks_skipBlanks s).symm⟩
  · rintro ⟨first, goesOn, read⟩
    obtain ⟨rfl, _⟩ := openList_goesOn_iff.1 goesOn
    exact items_congr (reads.behind (skipBlanks_skipBlanks s)) (reads.items_of_finds read)

/-- From its bracket on, a list is read exactly where one is written. -/
theorem frameText_list_iff (reads : Reads item text) :
    FrameText '[' ']' text s xs rest ↔
      ∃ later, skipBlanks s = '[' :: later ∧ Finds (list item '[' later) xs rest := by
  simp only [frameText_iff, reads.items_iff, ← openList_closes_iff, token_iff (c := '[') rfl]
  refine exists_congr fun later => and_congr_right fun _ => ?_
  rw [list]
  split <;> rename_i turn
  · simp [turn]
  · simp [turn, eq_comm]
  · split <;> rename_i read <;> simp [turn, read]

/-- From behind the quote of its key, an entry is read exactly where one is written. -/
theorem finds_entry_iff (reads : Reads item text) {e : String × α} :
    Finds (entry item s) e rest ↔
      ∃ afterName afterColon, StringText s e.1.toList afterName ∧
        Token ':' afterName afterColon ∧ text afterColon e.2 rest := by
  simp only [← finds_stringBody_iff, ← finds_colon_iff, ← reads.finds]
  constructor
  · rw [entry]
    split <;> rename_i keyRead
    · simp
    · split <;> rename_i colonRead
      · simp
      · split <;> rename_i itemRead
        · simp
        · rw [finds_ok]
          rintro ⟨rfl, rfl⟩
          exact ⟨_, _, ⟨_, by simpa using keyRead⟩, ⟨_, colonRead⟩, ⟨_, itemRead⟩⟩
  · rintro ⟨afterName, afterColon, ⟨_, keyRead⟩, ⟨_, colonRead⟩, ⟨_, itemRead⟩⟩
    simp [entry, keyRead, colonRead, itemRead]

/-- An entry is written, with the quote of its key in front, where the reader finds it behind. -/
theorem entryText_iff (reads : Reads item text) {e : String × α} (quote : Token '"' s t) :
    EntryText text s e rest ↔ Finds (entry item t) e rest := by
  have only : ∀ body, Token '"' s body ↔ body = t := by
    rw [token_iff rfl] at quote
    simp [token_iff (c := '"') rfl, quote, eq_comm]
  simp only [EntryText, QuotedText, reads.finds_entry_iff, only, exists_eq_left]

end Reads

/-- Entries that follow each other begin with the quote of a key. -/
theorem quote_of_entries {text : List Char → α → List Char → Prop} {es : List (String × α)}
    (written : ItemsText (EntryText text) '\x7d' s es rest) : ∃ body, Token '"' s body := by
  obtain ⟨_, _, _, _, ⟨body, quote, _⟩, _⟩ := first_of_items written
  exact ⟨body, quote⟩

namespace Reads

variable {item : (s : List Char) → Scan α s} {text : List Char → α → List Char → Prop}
  {es : List (String × α)}

/-- Entries that were read are written there, each as its reader reads it. -/
theorem entries_of_finds (reads : Reads item text) (read : Finds (entries item t) es rest)
    (quote : Token '"' s t) : ItemsText (EntryText text) '\x7d' s es rest := by
  fun_induction entries item t generalizing s es with
  | case3 t first afterFirst shorter firstRead after le closed =>
    obtain ⟨rfl, rfl⟩ := finds_ok.1 read
    exact ItemsText.last ((reads.entryText_iff quote).2 ⟨shorter, firstRead⟩)
      (continueObject_closes_iff.1 ⟨le, closed⟩)
  | case5 t first afterFirst shorter firstRead next le more later laterRead inductionHypothesis =>
    obtain ⟨rfl, rfl⟩ := finds_ok.1 read
    obtain ⟨middle, comma, laterQuote⟩ := continueObject_goesOn_iff.1 ⟨le, more⟩
    exact ItemsText.more ((reads.entryText_iff quote).2 ⟨shorter, firstRead⟩) comma
      (inductionHypothesis ⟨later.shorter, laterRead⟩ laterQuote)
  | _ => exact absurd read not_finds_error

/-- Entries that are written there are read. -/
theorem finds_of_entries (reads : Reads item text)
    (written : ItemsText (EntryText text) '\x7d' s es rest) (quote : Token '"' s t) :
    Finds (entries item t) es rest := by
  induction written generalizing t with
  | last first closed =>
    obtain ⟨_, firstRead⟩ := (reads.entryText_iff quote).1 first
    obtain ⟨_, closes⟩ := continueObject_closes_iff.2 closed
    rw [entries, firstRead]
    simp [closes]
  | more first comma further inductionHypothesis =>
    obtain ⟨next, nextQuote⟩ := quote_of_entries further
    obtain ⟨_, firstRead⟩ := (reads.entryText_iff quote).1 first
    obtain ⟨_, goesOn⟩ := continueObject_goesOn_iff.2 ⟨_, comma, nextQuote⟩
    obtain ⟨_, laterRead⟩ := inductionHypothesis nextQuote
    rw [entries, firstRead]
    simp [goesOn, laterRead]

/-- Entries stand in an object exactly if it goes on and they are read from there. -/
theorem entries_iff (reads : Reads item text) :
    ItemsText (EntryText text) '\x7d' s es rest ↔
      ∃ first, GoesOn (openObject s) first ∧ Finds (entries item first) es rest := by
  simp only [openObject_goesOn_iff]
  constructor
  · intro written
    obtain ⟨first, quote⟩ := quote_of_entries written
    exact ⟨first, quote, reads.finds_of_entries written quote⟩
  · rintro ⟨first, quote, read⟩
    exact reads.entries_of_finds read quote

/-- From its brace on, an object is read exactly where one is written. -/
theorem frameText_object_iff (reads : Reads item text) :
    FrameText '\x7b' '\x7d' (EntryText text) s es rest ↔
      ∃ later, skipBlanks s = '\x7b' :: later ∧ Finds (object item '\x7b' later) es rest := by
  simp only [frameText_iff, reads.entries_iff, ← openObject_closes_iff,
    token_iff (c := '\x7b') rfl]
  refine exists_congr fun later => and_congr_right fun _ => ?_
  rw [object]
  split <;> rename_i turn
  · simp [turn]
  · simp [turn, eq_comm]
  · split <;> rename_i read <;> simp [turn, read]

end Reads

end StructuralTyping.Json
