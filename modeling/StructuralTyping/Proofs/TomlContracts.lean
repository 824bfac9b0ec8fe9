import StructuralTyping.Proofs.TomlPrinting
/-!
# The documents of interfaces

A TOML text is an interface only if it is a sequence of lines and nothing else: no header
opens a section, no key is dotted, and behind each key stands an array of strings. The
reason is that whatever else a line or a header can say puts a table into the root table,
and that no later line takes it out again. Then the entries of the root table are the
lines in their order, so an interface lists its functions in the order of the text.
-/
set_option autoImplicit false

namespace StructuralTyping.Toml

open StructuralTyping.Text

/-- A table, or an array of tables that has one. -/
inductive Tabular : Item → Prop where
  | table (origin : Origin) (span : Option Span) (entries : Entries) :
      Tabular (.table origin span entries)
  | tables {items : List Item} {origin : Origin} {span : Option Span} {entries : Entries}
      (member : .table origin span entries ∈ items) : Tabular (.tables items)

/-- Entries of which one is a table, or holds one. -/
def HasTable (entries : Entries) : Prop := ∃ entry ∈ entries, Tabular entry.2

/-- A text of which every line declares a function, in this order. -/
def DocumentLists (text : List Char) (signatures : List Signature) : Prop :=
  ∃ lines, document? text = some ⟨lines, []⟩ ∧ List.Forall₂ Declares lines signatures

section Tables

variable {entries extended : Entries} {item : Item} {name : String} {key : Key} {s : Section}

/-- A table that is there stays there when entries follow. -/
theorem HasTable.append (present : HasTable entries) (later : Entries) :
    HasTable (entries ++ later) := by
  obtain ⟨entry, member, tabular⟩ := present
  exact ⟨entry, List.mem_append_left later member, tabular⟩

/-- A table that is added at the end is there. -/
theorem hasTable_append_singleton (tabular : Tabular item) (entries : Entries) (key : Key) :
    HasTable (entries ++ [(key, item)]) :=
  ⟨(key, item), by simp, tabular⟩

/-- A table that takes the place of another item is there. -/
theorem hasTable_replace {old : Item} (found : lookup? name entries = some old)
    (tabular : Tabular item) : HasTable (replace name item entries) := by
  induction entries with
  | nil => cases found
  | cons entry later inductionHypothesis =>
    obtain ⟨key, first⟩ := entry
    rw [lookup?] at found
    rw [replace]
    split at found <;> rename_i here
    · rw [if_pos here]
      exact ⟨(key, item), List.mem_cons_self, tabular⟩
    · rw [if_neg here]
      obtain ⟨entry, member, entryTabular⟩ := inductionHypothesis found
      exact ⟨entry, List.mem_cons_of_mem _ member, entryTabular⟩

/-- What one step of assembling a document does to a table: it puts an item there under a new
name, or in the place of another one, or under a name that is taken out first. -/
inductive Puts (entries : Entries) (item : Item) : Entries → Prop where
  | new {key : Key} (fresh : lookup? key.name entries = none) :
      Puts entries item (entries ++ [(key, item)])
  | changed {name : String} {old : Item} (found : lookup? name entries = some old) :
      Puts entries item (replace name item entries)
  | moved (key : Key) : Puts entries item (without key.name entries ++ [(key, item)])

/-- A table that is put somewhere is there. -/
theorem Puts.hasTable (puts : Puts entries item extended) (tabular : Tabular item) :
    HasTable extended := by
  cases puts with
  | new fresh => exact hasTable_append_singleton tabular entries _
  | changed found => exact hasTable_replace found tabular
  | moved key => exact hasTable_append_singleton tabular _ key

/-- A line adds its value at the end of the table it stands in, or its key is dotted, and
then a table is put there. -/
theorem puts_of_addDotted {path : List Key} {last : Bool}
    (added : addDotted path last key item entries = some extended) :
    path = [] ∧ lookup? key.name entries = none ∧ extended = entries ++ [(key, item)] ∨
      ∃ table, Tabular table ∧ Puts entries table extended := by
  cases path with
  | nil =>
    left
    rw [addDotted] at added
    split at added
    · rw [addNew] at added
      split at added <;> rename_i fresh <;> cases added
      exact ⟨rfl, fresh, rfl⟩
    · cases added
  | cons part deeper =>
    right
    rw [addDotted] at added
    split at added
    · rename_i fresh
      split at added <;> cases added
      exact ⟨_, .table .., .new fresh⟩
    · rename_i found
      split at added <;> cases added
      exact ⟨_, .table .., .changed found⟩
    · rename_i found
      split at added <;> cases added
      exact ⟨_, .table .., .changed found⟩
    · rename_i items found
      split at added
      · split at added <;> cases added
        exact ⟨_, .tables List.mem_concat_self, .changed found⟩
      · cases added
    · cases added

/-- A section puts a table where its header says. -/
theorem puts_of_placeSection (placed : placeSection s entries = some extended) :
    ∃ table, Tabular table ∧ Puts entries table extended := by
  simp only [placeSection] at placed
  split at placed
  · split at placed
    · cases placed
    · split at placed <;> rename_i found <;> cases placed
      · exact ⟨_, .tables List.mem_cons_self, .new found⟩
      · exact ⟨_, .tables List.mem_concat_self, .changed found⟩
  · -- an implied table that gets its header is taken out, and comes back at the end
    split at placed
    · split at placed <;> cases placed
      exact ⟨_, .table .., .moved s.header.key⟩
    · split at placed <;> cases placed
      exact ⟨_, .table .., .moved s.header.key⟩
    · cases placed

/-- A section puts a table into the table it starts from, wherever its header leads. -/
theorem puts_of_addSection {path : List Key} (added : addSection s path entries = some extended) :
    ∃ table, Tabular table ∧ Puts entries table extended := by
  cases path with
  | nil => exact puts_of_placeSection added
  | cons part deeper =>
    rw [addSection] at added
    split at added
    · rename_i fresh
      split at added <;> cases added
      exact ⟨_, .table .., .new fresh⟩
    · cases added
    · rename_i found
      split at added <;> cases added
      exact ⟨_, .table .., .changed found⟩
    · rename_i items found
      split at added
      · split at added <;> cases added
        exact ⟨_, .tables List.mem_concat_self, .changed found⟩
      · cases added
    · cases added

/-- No line takes a table out again. -/
theorem HasTable.addLines (present : HasTable entries) {lines : List Assignment}
    (added : Toml.addLines entries lines = some extended) : HasTable extended := by
  induction lines generalizing entries with
  | nil =>
    cases added
    exact present
  | cons line later inductionHypothesis =>
    rw [Toml.addLines] at added
    split at added <;> rename_i first
    · rcases puts_of_addDotted first with ⟨_, _, rfl⟩ | ⟨table, tabular, puts⟩
      · exact inductionHypothesis (present.append _) added
      · exact inductionHypothesis (puts.hasTable tabular) added
    · cases added

/-- Lines without a table are entries as they stand. -/
theorem addLines_cases {lines : List Assignment} (added : addLines entries lines = some extended) :
    (∀ line ∈ lines, line.path = []) ∧
      extended = entries ++ lines.map (fun line => (line.key, line.value)) ∨
    HasTable extended := by
  induction lines generalizing entries with
  | nil =>
    cases added
    simp
  | cons line later inductionHypothesis =>
    rw [addLines] at added
    split at added <;> rename_i first
    · rcases puts_of_addDotted first with ⟨plain, _, rfl⟩ | ⟨table, tabular, puts⟩
      · rcases inductionHypothesis added with ⟨plainLater, rfl⟩ | tabular
        · left
          exact ⟨List.forall_mem_cons.2 ⟨plain, plainLater⟩, by simp⟩
        · exact Or.inr tabular
      · exact Or.inr ((puts.hasTable tabular).addLines added)
    · cases added

/-- Sections leave a table behind, if there are any. -/
theorem addSections_cases {sections : List Section}
    (added : addSections entries sections = some extended) :
    sections = [] ∧ extended = entries ∨ HasTable extended := by
  induction sections generalizing entries with
  | nil =>
    cases added
    exact Or.inl ⟨rfl, rfl⟩
  | cons s later inductionHypothesis =>
    right
    rw [addSections] at added
    split at added <;> rename_i first
    · obtain ⟨table, tabular, puts⟩ := puts_of_addSection first
      rcases inductionHypothesis added with ⟨_, rfl⟩ | further
      · exact puts.hasTable tabular
      · exact further
    · cases added

/-- A root table without tables is made of the lines of the document, which has no
sections. -/
theorem root?_cases {document : Document} (root : document.root? = some extended) :
    document.sections = [] ∧ (∀ line ∈ document.lines, line.path = []) ∧
      extended = document.lines.map (fun line => (line.key, line.value)) ∨
    HasTable extended := by
  rw [Document.root?] at root
  split at root <;> rename_i added
  · rcases addSections_cases root with ⟨flat, rfl⟩ | tabular
    · rcases addLines_cases added with ⟨plain, entries⟩ | tabular
      · exact Or.inl ⟨flat, plain, entries⟩
      · exact Or.inr tabular
    · exact Or.inr tabular
  · cases root

end Tables

section Values

variable {s rest : List Char} {item : Item} {line : Assignment} {statements : List Statement}

/-- An item that is no array of tables: nothing that stands behind a key is one. -/
def Written (item : Item) : Prop := ∀ items, item ≠ .tables items

/-- A value without parts is written out. -/
theorem written_scalar (span : Span) (value : Scalar) : Written (.scalar span value) := by
  intro items same
  cases same

/-- An array is written out. -/
theorem written_array (span : Span) (inner : List Item) : Written (.array span inner) := by
  intro items same
  cases same

/-- A table in braces is written out. -/
theorem written_of_inlineTable? {span : Span} {lines : List Assignment}
    (read : inlineTable? span lines = some item) : Written item := by
  rintro items rfl
  obtain ⟨entries, _, table⟩ := Option.map_eq_some_iff.1 read
  cases table

/-- A value that was read is written out. -/
theorem written_of_value? {room : Nat} {found : Scanned Item s}
    (read : value? room s = some found) : Written found.value := by
  cases s with
  | nil => simp [value?] at read
  | cons c body =>
    rw [value?.eq_def] at read
    simp only at read
    split at read
    · split at read
      · cases read
      · split at read <;> cases read
        exact written_array _ _
    · split at read
      · split at read
        · cases read
        · split at read
          · cases read
          · split at read <;> rename_i table <;> cases read
            exact written_of_inlineTable? table
      · split at read <;> cases read
        exact written_scalar _ _

/-- The value of a line that was read is written out. -/
theorem written_of_assignment? {found : Scanned Assignment s} (read : assignment? s = some found) :
    Written found.value.value := by
  rw [assignment?] at read
  split at read
  · cases read
  · split at read
    · cases read
    · split at read <;> rename_i value
      · cases read
      · split at read <;> cases read
        exact written_of_value? value

/-- The value of an assignment that was read is written out. -/
theorem written_of_statement? {found : Scanned Statement s} (read : statement? s = some found)
    (assigned : found.value = .assignment line) : Written line.value := by
  cases s with
  | nil => cases read
  | cons c body =>
    rw [statement?] at read
    split at read
    · split at read <;> cases read
      cases assigned
    · split at read
      · split at read
        · cases read
        · rw [checked?] at read
          split at read <;> cases read
          cases assigned
      · split at read <;> rename_i assignment <;> cases read
        cases assigned
        exact written_of_assignment? assignment

/-- The value of every assignment in a text that was read is written out. -/
theorem written_of_statements? (read : statements? s = some statements)
    (member : .assignment line ∈ statements) : Written line.value := by
  induction statements generalizing s with
  | nil => cases member
  | cons first later inductionHypothesis =>
    rw [statements?] at read
    split at read
    · cases read
    · split at read
      · cases read
      · rename_i found
        split at read <;> rename_i further <;> cases read
        rcases List.mem_cons.1 member with here | there
        · exact written_of_statement? found here.symm
        · exact inductionHypothesis further there

/-- The lines before the first header are lines of the text. -/
theorem mem_of_mem_documentOf (member : line ∈ (documentOf statements).lines) :
    .assignment line ∈ statements := by
  induction statements with
  | nil => cases member
  | cons first later inductionHypothesis =>
    cases first with
    | nothing => exact List.mem_cons_of_mem _ (inductionHypothesis member)
    | header => cases member
    | assignment assigned =>
      rcases List.mem_cons.1 member with here | there
      · exact here ▸ List.mem_cons_self
      · exact List.mem_cons_of_mem _ (inductionHypothesis there)

/-- Behind the key of a line stands something that can be written there. -/
theorem written_of_document? {text : List Char} {document : Document}
    (read : document? text = some document) (member : line ∈ document.lines) :
    Written line.value := by
  obtain ⟨statements, lines, rfl⟩ := Option.map_eq_some_iff.1 read
  exact written_of_statements? lines (mem_of_mem_documentOf member)

end Values

section Contracts

variable {report : Report} {d e : Interface} {entries : Entries} {key : Key} {item : Item} {s : Signature}
  {text : List Char} {signatures : List Signature}

/-- What is paired with something in another list is related to it. -/
theorem exists_of_mem_forall₂ {α β : Type} {related : α → β → Prop} {first : List α}
    {second : List β} (paired : List.Forall₂ related first second) {a : α} (member : a ∈ first) :
    ∃ b, related a b := by
  have each : List.Forall₂ (fun a b => (∃ b, related a b) ∧ related a b) first second :=
    paired.imp fun a b pair => ⟨⟨b, pair⟩, pair⟩
  exact ((List.forall₂_and_left _ _).1 each).1 a member

/-- Items that are strings hold nothing else. -/
theorem scalar_of_mem_spells {items : List Item} {names : List String}
    (spelled : Spells items names) (member : item ∈ items) :
    ∃ span name, item = .scalar span (.string name) := by
  obtain ⟨name, span, same⟩ := exists_of_mem_forall₂ spelled member
  exact ⟨span, name, same⟩

/-- No table states what a declaration states. -/
theorem not_tabular_of_states (stated : States (key, item) s) : ¬Tabular item := by
  obtain ⟨-, items, elements, spelled⟩ := stated
  intro tabular
  cases tabular with
  | table => cases elements
  | tables member =>
    cases elements
    obtain ⟨_, _, scalar⟩ := scalar_of_mem_spells spelled member
    cases scalar

/-- Each entry of a root table that is accepted states what a declaration states, in the order
of the entries. -/
theorem stated_of_declarations (read : declarations d entries = .ok e) :
    ∃ signatures, d.insertAll signatures = .ok e ∧ List.Forall₂ States entries signatures := by
  induction entries generalizing d with
  | nil =>
    cases read
    exact ⟨[], rfl, List.Forall₂.nil⟩
  | cons entry later inductionHypothesis =>
    rw [declarations] at read
    split at read
    · cases read
    · rename_i s declared
      split at read
      · cases read
      · rename_i extended inserted
        obtain ⟨signatures, insertedLater, statedLater⟩ := inductionHypothesis read
        have statedFirst := declaration_eq_ok_iff.1 declared
        refine ⟨s :: signatures, ?_, List.Forall₂.cons statedFirst statedLater⟩
        rw [Interface.insertAll, inserted]
        exact insertedLater

/-- There is no table among entries that state what declarations state. -/
theorem not_hasTable_of_stated (stated : List.Forall₂ States entries signatures) :
    ¬HasTable entries := by
  rintro ⟨entry, member, tabular⟩
  obtain ⟨s, first⟩ := exists_of_mem_forall₂ stated member
  exact not_tabular_of_states first tabular

/-- An array that is written in the text is no array of tables. -/
theorem lists_of_elements {items : List Item} {names : List String} (written : Written item)
    (elements : item.elements? = some items) (spelled : Spells items names) : Lists item names := by
  cases item with
  | array span all =>
    cases elements
    exact ⟨span, items, rfl, spelled⟩
  | tables all => exact absurd rfl (written all)
  | scalar span value => cases elements
  | table origin span inner => cases elements

/-- Lines whose values are written in the text and state what declarations state are lines that
declare it. -/
theorem declare_of_stated {lines : List Assignment} (plain : ∀ line ∈ lines, line.path = [])
    (written : ∀ line ∈ lines, Written line.value)
    (stated : List.Forall₂ (fun line s => States (line.key, line.value) s) lines signatures) :
    List.Forall₂ Declares lines signatures := by
  induction stated with
  | nil => exact List.Forall₂.nil
  | cons first _ inductionHypothesis =>
    obtain ⟨path, pathLater⟩ := List.forall_mem_cons.1 plain
    obtain ⟨value, valueLater⟩ := List.forall_mem_cons.1 written
    obtain ⟨name, items, elements, spelled⟩ := first
    exact List.Forall₂.cons ⟨path, name, lists_of_elements value elements spelled⟩
      (inductionHypothesis pathLater valueLater)

/-- A text that is accepted lists the functions of its interface, line by line. -/
theorem documentLists_of_contract (accepted : contract report text = .ok d) :
    DocumentLists text d.signatures := by
  rw [contract] at accepted
  split at accepted <;> rename_i root
  · cases accepted
  · rename_i entries
    obtain ⟨signatures, inserted, stated⟩ := stated_of_declarations accepted
    rw [Interface.insertAll_empty_eq_ok_iff.1 inserted]
    rw [root?] at root
    split at root <;> rename_i read
    · rcases root?_cases root with ⟨flat, plain, rfl⟩ | tabular
      · rename_i document
        obtain ⟨lines, sections⟩ := document
        cases flat
        rw [List.forall₂_map_left_iff] at stated
        exact ⟨lines, read, declare_of_stated plain (fun _ => written_of_document? read) stated⟩
      · exact absurd tabular (not_hasTable_of_stated stated)
    · cases root

/-- A document that lists functions is accepted as the interface that declares exactly
them, in the order of its lines, and not at all if a name returns. -/
theorem contract_eq_ok_iff_of_lists (listed : DocumentLists text signatures) :
    contract report text = .ok d ↔ d.signatures = signatures := by
  obtain ⟨lines, read, declare⟩ := listed
  exact contract_eq_ok_iff_of_declare read declare

end Contracts

end StructuralTyping.Toml
