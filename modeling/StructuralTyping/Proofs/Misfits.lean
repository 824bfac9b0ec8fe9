import Mathlib.Data.Set.List
import StructuralTyping.Proofs.ValueContracts
/-!
# Where a value is no interface

A value has the shape of an interface if it is a mapping of lists of strings. If it has not,
there is a first place, in the order in which the value is written, where something else
stands than is due there: the value itself, the value under a name, or an item of the list
under a name. Both readers of values stop at this place and say so, each in its own words.
What is written behind it does not matter, and names that differ are never taken for a
second declaration.
-/
set_option autoImplicit false

namespace StructuralTyping

section First

variable {α : Type} {fits : α → Prop} {l before : List α} {x : α}

/-- The first element of a list that does not fit, behind those that do. -/
def First (fits : α → Prop) (l before : List α) (x : α) : Prop :=
  ∃ after, l = before ++ x :: after ∧ (∀ y ∈ before, fits y) ∧ ¬fits x

/-- A list without a first element that does not fit has only elements that do. -/
theorem all_or_first (fits : α → Prop) (l : List α) :
    (∀ x ∈ l, fits x) ∨ ∃ before x, First fits l before x := by
  induction l with
  | nil => exact Or.inl (by simp)
  | cons y later inductionHypothesis =>
    by_cases here : fits y
    · rcases inductionHypothesis with all | ⟨before, x, after, rfl, earlier, misfit⟩
      · exact Or.inl (List.forall_mem_cons.2 ⟨here, all⟩)
      · exact Or.inr ⟨y :: before, x, after, rfl, List.forall_mem_cons.2 ⟨here, earlier⟩, misfit⟩
    · exact Or.inr ⟨[], y, later, rfl, by simp, here⟩

/-- Only one item is the first that does not fit. -/
theorem First.unique {others : List α} {y : α} (first : First fits l before x)
    (second : First fits l others y) : before = others ∧ x = y := by
  obtain ⟨after, rfl, earlier, misfit⟩ := first
  obtain ⟨behind, same, otherEarlier, otherMisfit⟩ := second
  induction before generalizing others with
  | nil =>
    cases others with
    | nil => exact ⟨rfl, (List.cons.inj same).1⟩
    | cons z later =>
      obtain ⟨rfl, -⟩ := List.cons.inj same
      exact absurd (otherEarlier x List.mem_cons_self) misfit
  | cons z later inductionHypothesis =>
    cases others with
    | nil =>
      obtain ⟨rfl, -⟩ := List.cons.inj same
      exact absurd (earlier z List.mem_cons_self) otherMisfit
    | cons z' further =>
      obtain ⟨rfl, sameLater⟩ := List.cons.inj same
      obtain ⟨rfl, rfl⟩ := inductionHypothesis (List.forall_mem_cons.1 earlier).2 sameLater
        (List.forall_mem_cons.1 otherEarlier).2
      exact ⟨rfl, rfl⟩

/-- The first element that does not fit is still the first one when all elements are replaced by
others that fit or do not fit like them. -/
theorem First.map {β : Type} {suits : β → Prop} (f : α → β) (alike : ∀ y, suits (f y) ↔ fits y)
    (first : First fits l before x) : First suits (l.map f) (before.map f) (f x) := by
  obtain ⟨after, rfl, earlier, misfit⟩ := first
  refine ⟨after.map f, by simp, fun z member => ?_, fun suited => misfit ((alike x).1 suited)⟩
  obtain ⟨y, there, rfl⟩ := List.mem_map.1 member
  exact (alike y).2 (earlier y there)

end First

namespace Value

/-- The names of a mapping, in order. -/
def keys : Value → List String
  | mapping entries => entries.map Prod.fst
  | _ => []

/-- A value that is a string. -/
def IsString (v : Value) : Prop := ∃ text, v = string text

/-- A value that is a list of strings only. -/
def IsStrings (v : Value) : Prop := ∃ names, v = ofStrings names

/-- A list is one of strings if every item is a string. -/
theorem isStrings_list_iff {items : List Value} :
    (list items).IsStrings ↔ ∀ item ∈ items, item.IsString := by
  have gathered : items ∈ Set.range (List.map string) ↔ ∀ item ∈ items, item ∈ Set.range string :=
    Set.ext_iff.1 (Set.range_list_map string) items
  simpa [IsStrings, IsString, ofStrings, eq_comm] using gathered

end Value

/-- The kind of what was found. Both forms of numbers are numbers. -/
def Found.kind : Found → Value.Kind
  | .null => .null
  | .boolean _ => .boolean
  | .integer _ | .double _ => .number
  | .string _ => .string
  | .sequence => .list
  | .mapping => .mapping

/-- A place in a value that is read as an interface: the value itself, what stands under the
name of a function, or one of the items in the list that stands there. -/
inductive Place where
  | root
  | parameters (function : String)
  | parameter (function : String) (index : Nat)

namespace Place

/-- What one reader says about a place, before it names the kind of what stands there. -/
def demand : Place → String
  | root => "interface definition must be a mapping of function name to parameter names, got "
  | parameters function => "parameters of `" ++ function ++ "` must be a list of names, got "
  | parameter function index =>
    "parameter " ++ toString index ++ " of `" ++ function ++ "` must be a string, got "

/-- What the other reader expects at a place. -/
def due : Place → Expected
  | root => .contract
  | parameters _ => .parameterList
  | parameter _ _ => .parameterName

/-- The fault of a value of the wrong kind at a place. -/
def malformed (found : Value.Kind) : Place → Malformed
  | root => .notAMapping found
  | parameters function => .parametersNotAList function found
  | parameter function index => .parameterNotAString function index found

end Place

/-- The place and the value where what stands under a name is no list of strings. -/
inductive EntryMisfit (function : String) : Value → Place → Value → Prop where
  | parameters {v : Value} (other : v.kind ≠ .list) :
      EntryMisfit function v (.parameters function) v
  | parameter {items names : List Value} {x : Value}
      (first : First Value.IsString items names x) :
      EntryMisfit function (.list items) (.parameter function names.length) x

/-- The first place where a value has not the shape of an interface, and what stands there. -/
inductive Misfit : Value → Place → Value → Prop where
  | root {v : Value} (other : v.kind ≠ .mapping) : Misfit v .root v
  | entry {entries before : List (String × Value)} {function : String} {v x : Value}
      {place : Place} (first : First (fun entry => entry.2.IsStrings) entries before (function, v))
      (misfit : EntryMisfit function v place x) : Misfit (.mapping entries) place x

/-- Entries that hold lists of strings are those that some declarations are written as. -/
theorem signatures_of_strings {entries : List (String × Value)}
    (fits : ∀ entry ∈ entries, entry.2.IsStrings) :
    ∃ signatures : List Signature,
      entries = signatures.map fun s => (s.name, Value.ofStrings s.params) := by
  have gathered : entries ∈ Set.range
      (List.map fun s : Signature => (s.name, Value.ofStrings s.params)) := by
    rw [Set.range_list_map]
    intro entry member
    obtain ⟨params, same⟩ := fits entry member
    exact ⟨⟨entry.1, params⟩, Prod.ext rfl same.symm⟩
  obtain ⟨signatures, same⟩ := gathered
  exact ⟨signatures, same.symm⟩

section Places

variable {function : String} {v x y : Value} {place other : Place}

/-- An entry has at most one first misfit. -/
theorem EntryMisfit.unique (first : EntryMisfit function v place x)
    (second : EntryMisfit function v other y) : other = place ∧ y = x := by
  cases first with
  | parameters notList =>
    cases second with
    | parameters _ => exact ⟨rfl, rfl⟩
    | parameter _ => exact absurd rfl notList
  | parameter first =>
    cases second with
    | parameters notList => exact absurd rfl notList
    | parameter second =>
      obtain ⟨rfl, rfl⟩ := first.unique second
      exact ⟨rfl, rfl⟩

/-- A value has at most one first misfit. -/
theorem Misfit.unique (first : Misfit v place x) (second : Misfit v other y) :
    other = place ∧ y = x := by
  cases first with
  | root notMapping =>
    cases second with
    | root _ => exact ⟨rfl, rfl⟩
    | entry _ _ => exact absurd rfl notMapping
  | entry first misfit =>
    cases second with
    | root notMapping => exact absurd rfl notMapping
    | entry second otherMisfit =>
      obtain ⟨rfl, same⟩ := first.unique second
      cases same
      exact misfit.unique otherMisfit

end Places

namespace Interface

variable {function : String} {v x : Value} {place : Place} {items names : List Value}
  {before : List (String × Value)}

/-- Both readers of a list stop at the first item that is no string. The one that counts has
counted the strings before it. -/
theorem names_of_first (first : First Value.IsString items names x) (function : String)
    (index : Nat) :
    parameterNames function index items =
        .error (.parameterNotAString function (index + names.length) x.kind) ∧
      readNames items = .error ⟨x.found, .parameterName⟩ := by
  obtain ⟨after, rfl, strings, other⟩ := first
  induction names generalizing index with
  | nil =>
    cases x with
    | string text => exact absurd ⟨text, rfl⟩ other
    | _ => exact ⟨rfl, rfl⟩
  | cons item later inductionHypothesis =>
    obtain ⟨⟨text, rfl⟩, stringsLater⟩ := List.forall_mem_cons.1 strings
    obtain ⟨counted, read⟩ := inductionHypothesis (index + 1) stringsLater
    have moved : index + 1 + later.length = index + (Value.string text :: later).length := by
      rw [List.length_cons]
      omega
    rw [List.cons_append, parameterNames, counted, readNames, read, moved]
    exact ⟨rfl, rfl⟩

/-- Both readers of an entry stop where it is no list of strings. -/
theorem entry_of_misfit (misfit : EntryMisfit function v place x) :
    signatureOfEntry function v = .error (place.malformed x.kind) ∧
      readParameters v = .error ⟨x.found, place.due⟩ := by
  cases misfit with
  | parameters other =>
    cases v with
    | list items => exact absurd rfl other
    | _ => exact ⟨rfl, rfl⟩
  | parameter first =>
    obtain ⟨counted, read⟩ := names_of_first first function 0
    rw [signatureOfEntry, counted, readParameters, read, Nat.zero_add]
    exact ⟨rfl, rfl⟩

/-- Both readers get past entries that are lists of strings under different names, and go on
from the same interface. -/
theorem past_strings (fits : ∀ entry ∈ before, entry.2.IsStrings)
    (distinct : (before.map Prod.fst).Nodup) :
    ∃ d : Interface, ∀ later,
      empty.insertEntries (before ++ later) = d.insertEntries later ∧
        empty.readEntries (before ++ later) = d.readEntries later := by
  obtain ⟨signatures, rfl⟩ := signatures_of_strings fits
  rw [names_of_entries] at distinct
  have inserted : empty.insertAll signatures = .ok ⟨signatures, distinct⟩ :=
    insertAll_empty_eq_ok_iff.2 rfl
  exact ⟨_, past_signatures inserted⟩

/-- Both readers stop at the first misfit. -/
theorem readers_of_misfit (misfit : Misfit v place x) (distinct : v.keys.Nodup) :
    ofValue v = .error (place.malformed x.kind) ∧
      read v = .error (.mismatch ⟨x.found, place.due⟩) := by
  cases misfit with
  | root other =>
    cases v with
    | mapping entries => exact absurd rfl other
    | _ => exact ⟨rfl, rfl⟩
  | entry first misfit =>
    obtain ⟨after, rfl, fits, -⟩ := first
    rw [Value.keys, List.map_append] at distinct
    obtain ⟨extended, past⟩ := past_strings fits (List.nodup_append.1 distinct).1
    obtain ⟨described, read⟩ := entry_of_misfit misfit
    rw [ofValue, (past _).1, insertEntries, described, Interface.read, (past _).2, readEntries,
      read]
    exact ⟨rfl, rfl⟩

end Interface

end StructuralTyping
