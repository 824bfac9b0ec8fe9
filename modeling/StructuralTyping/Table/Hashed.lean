import Std.Data.ExtHashMap
import Std.Data.HashMap
import StructuralTyping.Table.Lookup
/-!
# Hashed tables

A hashed table holds at most one item under each name, too, but keeps it where the hash of the
name leads, so it has no order of its own. To be shown, its items are put into a table in the
order of their names; the main statement is that this table gives the same answers.
-/
set_option autoImplicit false

namespace StructuralTyping

/-- Items under names, in no order. -/
structure HashedTable (α : Type) where
  items : Std.ExtHashMap String α

namespace HashedTable

variable {α : Type}

/-- A table without items. -/
def empty : HashedTable α := ⟨∅⟩

/-- The item under a name. -/
def get? (t : HashedTable α) (name : String) : Option α := t.items[name]?

/-- Puts an item under a name. -/
def insert (t : HashedTable α) (name : String) (item : α) : HashedTable α :=
  ⟨t.items.insert name item⟩

/-- Takes the item of a name away. -/
def erase (t : HashedTable α) (name : String) : HashedTable α := ⟨t.items.erase name⟩

/-- Nothing is found in a table without items. -/
@[simp]
theorem get?_empty (name : String) : (empty : HashedTable α).get? name = none :=
  Std.ExtHashMap.getElem?_empty

/-- An item that was put under a name is found there, and under other names nothing changes. -/
theorem get?_insert (t : HashedTable α) (name asked : String) (item : α) :
    (t.insert name item).get? asked = if asked = name then some item else t.get? asked := by
  simp only [insert, get?, Std.ExtHashMap.getElem?_insert, beq_iff_eq, eq_comm (a := name)]

/-- An item that was taken away is not found, and under other names nothing changes. -/
theorem get?_erase (t : HashedTable α) (name asked : String) :
    (t.erase name).get? asked = if asked = name then none else t.get? asked := by
  simp only [erase, get?, Std.ExtHashMap.getElem?_erase, beq_iff_eq, eq_comm (a := name)]

/-- Tables that give the same answers are the same, wherever they keep their items. -/
theorem ext {t u : HashedTable α} (same : ∀ name, t.get? name = u.get? name) : t = u :=
  congrArg mk (Std.ExtHashMap.ext_getElem? same)

/-- The items of hashed buckets in the order of their names. -/
def ofBuckets (buckets : Std.HashMap String α) : Table α := Table.ofEntries buckets.toList

/-- Items in order are found where the buckets have them. -/
theorem get?_ofBuckets (buckets : Std.HashMap String α) (name : String) :
    (ofBuckets buckets).get? name = buckets[name]? := by
  have distinct : (buckets.toList.map Prod.fst).Nodup :=
    List.pairwise_map.2 (Std.HashMap.distinct_keys_toList.imp fun differ => ne_of_beq_false differ)
  refine Option.ext fun item => ?_
  rw [ofBuckets, Table.get?_ofEntries distinct, Table.lookup_eq_some_iff_mem distinct,
    Std.HashMap.mem_toList_iff_getElem?_eq_some]

/-- The items in the order of their names. Buckets with the same items may list them in different
orders, which makes no difference to the table. -/
def toTable (t : HashedTable α) : Table α :=
  t.items.inner.lift (fun buckets => ofBuckets ⟨buckets⟩) fun first second same =>
    Table.ext fun name => by
      rw [get?_ofBuckets, get?_ofBuckets]
      exact Std.HashMap.Equiv.getElem?_eq ⟨same⟩

/-- Items in order are found where the hashed table has them. -/
theorem get?_toTable (t : HashedTable α) (name : String) :
    t.toTable.get? name = t.get? name := by
  obtain ⟨⟨⟨buckets⟩⟩⟩ := t
  induction buckets using Quotient.ind with
  | _ buckets => exact get?_ofBuckets ⟨buckets⟩ name

end HashedTable

end StructuralTyping
