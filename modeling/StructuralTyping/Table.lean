/-!
# Tables by name

A table holds at most one item under each name. Its entries are kept in the
order of their names, by code point, so two tables that answer every question
alike are the same table.
-/
set_option autoImplicit false

namespace StructuralTyping

/-- Items under names, in increasing order of the names. -/
structure Table (α : Type) where
  entries : List (String × α)
  sorted : entries.Pairwise (fun a b => a.1 < b.1)

namespace Table

variable {α : Type}

/-- The table without entries. -/
def empty : Table α := ⟨[], List.Pairwise.nil⟩

/-- The names in increasing order. -/
def names (t : Table α) : List String := t.entries.map Prod.fst

/-- The item under a name. -/
def get? (t : Table α) (name : String) : Option α := t.entries.lookup name

/-- Ordered entries with an item put under a name. -/
def insertEntry (name : String) (item : α) : List (String × α) → List (String × α)
  | [] => [(name, item)]
  | (other, old) :: later =>
    if name < other then (name, item) :: (other, old) :: later
    else if name = other then (name, item) :: later
    else (other, old) :: insertEntry name item later

/-- An entry is either the one that was put in or was there before. -/
theorem mem_insertEntry {name : String} {item : α} {entries : List (String × α)}
    {entry : String × α} (member : entry ∈ insertEntry name item entries) :
    entry = (name, item) ∨ entry ∈ entries := by
  induction entries with
  | nil => exact Or.inl (by simpa [insertEntry] using member)
  | cons first later ih =>
    obtain ⟨other, old⟩ := first
    rw [insertEntry] at member
    split at member
    · rcases List.mem_cons.1 member with here | there
      · exact Or.inl here
      · exact Or.inr there
    · split at member
      · rcases List.mem_cons.1 member with here | there
        · exact Or.inl here
        · exact Or.inr (List.mem_cons_of_mem _ there)
      · rcases List.mem_cons.1 member with here | there
        · exact Or.inr (here ▸ List.mem_cons_self)
        · rcases ih there with new | kept
          · exact Or.inl new
          · exact Or.inr (List.mem_cons_of_mem _ kept)

/-- Entries stay in the order of their names. -/
theorem sorted_insertEntry {name : String} {item : α} {entries : List (String × α)}
    (sorted : entries.Pairwise (fun a b => a.1 < b.1)) :
    (insertEntry name item entries).Pairwise (fun a b => a.1 < b.1) := by
  induction entries with
  | nil => simp [insertEntry]
  | cons first later ih =>
    obtain ⟨other, old⟩ := first
    have tail := List.pairwise_cons.1 sorted
    rw [insertEntry]
    split
    · rename_i before
      refine List.pairwise_cons.2 ⟨fun entry member => ?_, sorted⟩
      rcases List.mem_cons.1 member with here | there
      · exact here ▸ before
      · exact String.lt_trans before (tail.1 entry there)
    · rename_i notBefore
      split
      · rename_i same
        exact List.pairwise_cons.2 ⟨fun entry member => same ▸ tail.1 entry member, tail.2⟩
      · rename_i different
        refine List.pairwise_cons.2 ⟨fun entry member => ?_, ih tail.2⟩
        rcases mem_insertEntry member with new | kept
        · exact new ▸ String.not_le.1 fun le =>
            different (String.le_antisymm le (String.not_lt.1 notBefore))
        · exact tail.1 entry kept

/-- The table with an item put under a name, in the place of any other there. -/
def insert (t : Table α) (name : String) (item : α) : Table α :=
  ⟨insertEntry name item t.entries, sorted_insertEntry t.sorted⟩

/-- The table without the item under a name. -/
def erase (t : Table α) (name : String) : Table α :=
  ⟨t.entries.filter (fun entry => entry.1 ≠ name), t.sorted.filter _⟩

/-- The table of a sequence of entries, of which the last one of a name counts. -/
def ofEntries (entries : List (String × α)) : Table α :=
  entries.foldl (fun t entry => t.insert entry.1 entry.2) empty

end Table

end StructuralTyping
