import StructuralTyping.Table
/-!
# What a table answers

A table is known by its answers: what `get?` says after an item was put in or
taken out, and that two tables with the same answers are the same table. The
last one rests on the order of the entries, which leaves a set of answers only
one way to be kept.
-/
set_option autoImplicit false

namespace StructuralTyping.Table

variable {α : Type}

/-- A lookup asks the first entry and then the others. -/
theorem lookup_cons_eq (name other : String) (item : α) (later : List (String × α)) :
    ((other, item) :: later).lookup name = if name = other then some item else later.lookup name := by
  by_cases same : name = other
  · simp [same]
  · have differ : (name == other) = false := beq_false_of_ne same
    simp [List.lookup_cons, differ, same]

/-- An entry that was put in is found under its name, and all others stay. -/
theorem lookup_insertEntry (name other : String) (item : α) (entries : List (String × α)) :
    (insertEntry name item entries).lookup other =
      if other = name then some item else entries.lookup other := by
  induction entries with
  | nil => simp [insertEntry, lookup_cons_eq]
  | cons first later ih => grind [insertEntry, lookup_cons_eq]

/-- Entries of one name that were taken out are not found, and all others stay. -/
theorem lookup_filter_ne (name other : String) (entries : List (String × α)) :
    (entries.filter (fun entry => entry.1 ≠ name)).lookup other =
      if other = name then none else entries.lookup other := by
  induction entries with
  | nil => simp
  | cons first later ih => grind [lookup_cons_eq]

/-- The table without entries has no item. -/
theorem get?_empty (name : String) : (empty : Table α).get? name = none := rfl

/-- An item that was put in is found under its name, and nothing else changes. -/
theorem get?_insert (t : Table α) (name other : String) (item : α) :
    (t.insert name item).get? other = if other = name then some item else t.get? other :=
  lookup_insertEntry name other item t.entries

/-- A name that was taken out has no item, and nothing else changes. -/
theorem get?_erase (t : Table α) (name other : String) :
    (t.erase name).get? other = if other = name then none else t.get? other :=
  lookup_filter_ne name other t.entries

/-- Something is found under the names of the entries, and under no other. -/
theorem lookup_isSome_iff (name : String) (entries : List (String × α)) :
    (entries.lookup name).isSome = true ↔ name ∈ entries.map Prod.fst := by
  induction entries with
  | nil => simp
  | cons first later ih => grind [lookup_cons_eq]

/-- Nothing is found under other names than those of the entries. -/
theorem lookup_eq_none_of_notMem {name : String} {entries : List (String × α)}
    (absent : name ∉ entries.map Prod.fst) : entries.lookup name = none := by
  rw [← Option.not_isSome_iff_eq_none, lookup_isSome_iff]
  exact absent

/-- A name below every entry has no item. -/
theorem lookup_eq_none_of_lt {name : String} {entries : List (String × α)}
    (above : ∀ entry ∈ entries, name < entry.1) : entries.lookup name = none := by
  induction entries with
  | nil => rfl
  | cons first later ih =>
    have before := above first List.mem_cons_self
    have ne : name ≠ first.1 := fun same => String.lt_irrefl _ (same ▸ before)
    rw [show first = (first.1, first.2) from rfl, lookup_cons_eq, if_neg ne]
    exact ih fun entry member => above entry (List.mem_cons_of_mem _ member)

/-- Where names differ, what is found under a name is what stands under it. -/
theorem lookup_eq_some_iff_mem {entries : List (String × α)}
    (distinct : (entries.map Prod.fst).Nodup) {name : String} {item : α} :
    entries.lookup name = some item ↔ (name, item) ∈ entries := by
  induction entries with
  | nil => simp
  | cons first later ih =>
    obtain ⟨other, old⟩ := first
    obtain ⟨fresh, distinctLater⟩ := List.nodup_cons.1 distinct
    rw [lookup_cons_eq, List.mem_cons, Prod.mk.injEq]
    by_cases same : name = other
    · subst same
      have absent : (name, item) ∉ later := fun member => fresh (List.mem_map.2 ⟨_, member, rfl⟩)
      simp [absent, eq_comm]
    · simp [same, ih distinctLater]

/-- Of entries that are put in one after the other, each is found if their names differ, and what
was there before is found under all other names. -/
theorem get?_foldl_insert {entries : List (String × α)}
    (distinct : (entries.map Prod.fst).Nodup) (t : Table α) (name : String) :
    (entries.foldl (fun t entry => t.insert entry.1 entry.2) t).get? name =
      (entries.lookup name).or (t.get? name) := by
  induction entries generalizing t with
  | nil => rfl
  | cons first later ih =>
    obtain ⟨other, item⟩ := first
    obtain ⟨fresh, distinctLater⟩ := List.nodup_cons.1 distinct
    rw [List.foldl_cons, ih distinctLater, get?_insert, lookup_cons_eq]
    by_cases same : name = other
    · subst same
      simp [lookup_eq_none_of_notMem fresh]
    · simp [same]

/-- The table of entries under different names has exactly their items. -/
theorem get?_ofEntries {entries : List (String × α)} (distinct : (entries.map Prod.fst).Nodup)
    (name : String) : (ofEntries entries).get? name = entries.lookup name := by
  rw [ofEntries, get?_foldl_insert distinct, get?_empty, Option.or_none]

/-- Ordered entries are determined by what they answer: the least name of either
would be unknown to the other if the other did not begin with it too. -/
theorem eq_of_lookup_eq {first second : List (String × α)}
    (firstSorted : first.Pairwise (fun a b => a.1 < b.1))
    (secondSorted : second.Pairwise (fun a b => a.1 < b.1))
    (alike : ∀ name, first.lookup name = second.lookup name) : first = second := by
  induction first generalizing second with
  | nil =>
    cases second with
    | nil => rfl
    | cons other others =>
      have absent := alike other.1
      simp [lookup_cons_eq other.1 other.1 other.2] at absent
  | cons entry later ih =>
    cases second with
    | nil =>
      have absent := alike entry.1
      simp [lookup_cons_eq entry.1 entry.1 entry.2] at absent
    | cons other others =>
      obtain ⟨name, item⟩ := entry
      obtain ⟨otherName, otherItem⟩ := other
      have above := List.pairwise_cons.1 firstSorted
      have otherAbove := List.pairwise_cons.1 secondSorted
      have notBefore : ¬name < otherName := fun before => by
        have absent : ((otherName, otherItem) :: others).lookup name = none :=
          lookup_eq_none_of_lt (List.forall_mem_cons.2 ⟨before, fun later member =>
            String.lt_trans before (otherAbove.1 later member)⟩)
        simp [← alike] at absent
      have notBehind : ¬otherName < name := fun before => by
        have absent : ((name, item) :: later).lookup otherName = none :=
          lookup_eq_none_of_lt (List.forall_mem_cons.2 ⟨before, fun other member =>
            String.lt_trans before (above.1 other member)⟩)
        simp [alike] at absent
      have same : name = otherName :=
        String.le_antisymm (String.not_lt.1 notBehind) (String.not_lt.1 notBefore)
      subst same
      have item_eq := alike name
      simp only [lookup_cons_eq, if_true, Option.some.injEq] at item_eq
      rw [item_eq, ih above.2 otherAbove.2 fun asked => ?_]
      by_cases here : asked = name
      · rw [here, lookup_eq_none_of_lt above.1, lookup_eq_none_of_lt otherAbove.1]
      · simpa [lookup_cons_eq, here] using alike asked

/-- Tables with the same answers are the same table. -/
theorem ext {t u : Table α} (alike : ∀ name, t.get? name = u.get? name) : t = u := by
  cases t
  cases u
  congr
  exact eq_of_lookup_eq ‹_› ‹_› alike

end StructuralTyping.Table
