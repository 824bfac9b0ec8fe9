import StructuralTyping.Proofs.Misfits
import StructuralTyping.Proofs.TomlContracts
/-!
# Where a document is no interface

The names in the root table of a document differ, however lines and headers put it together.
So only the shape of the table matters: it is an interface if every entry is an array of
strings, and otherwise the first entry that is not is reported, with its first item that is
no string, or as a whole if it is no array. A value of the same shape could stand in memory,
and reading that one stops at the same place, with the same finding. The two messages
differ only where a number is shown that the two formats write in different ways.
-/
set_option autoImplicit false

namespace StructuralTyping.Toml

section Names

variable {entries extended : Entries} {key : Key} {item : Item} {name : String}

/-- Another item under a name is the same name. -/
theorem entryNames_replace (name : String) (item : Item) (entries : Entries) :
    entryNames (replace name item entries) = entryNames entries := by
  induction entries with
  | nil => rfl
  | cons entry later inductionHypothesis =>
    obtain ⟨key, old⟩ := entry
    rw [replace]
    split
    · rfl
    · rw [entryNames, List.map_cons, ← entryNames, inductionHypothesis]
      rfl

/-- A name that was taken out of a table is not in it. -/
theorem lookup?_without (name : String) (entries : Entries) :
    lookup? name (without name entries) = none := by
  rw [lookup?_eq_none_iff, entryNames, without, List.mem_map]
  rintro ⟨entry, member, same⟩
  simpa [same] using List.of_mem_filter member

/-- Whatever is put into a table, its names go on to differ. -/
theorem Puts.nodup (puts : Puts entries item extended) (distinct : (entryNames entries).Nodup) :
    (entryNames extended).Nodup := by
  cases puts with
  | new fresh => exact nodup_entryNames_append distinct fresh item
  | changed found => rwa [entryNames_replace]
  | moved key =>
    have fewer : (entryNames (without key.name entries)).Nodup :=
      distinct.sublist (List.filter_sublist.map _)
    exact nodup_entryNames_append fewer (lookup?_without key.name entries) item

/-- Adding lines keeps the names of a table apart. -/
theorem nodup_entryNames_addLines {lines : List Assignment}
    (distinct : (entryNames entries).Nodup) (added : addLines entries lines = some extended) :
    (entryNames extended).Nodup := by
  induction lines generalizing entries with
  | nil =>
    cases added
    exact distinct
  | cons line later inductionHypothesis =>
    rw [addLines] at added
    split at added <;> rename_i first
    · refine inductionHypothesis ?_ added
      rcases puts_of_addDotted first with ⟨_, fresh, rfl⟩ | ⟨table, _, puts⟩
      · exact nodup_entryNames_append distinct fresh line.value
      · exact puts.nodup distinct
    · cases added

/-- Adding sections keeps the names of a table apart. -/
theorem nodup_entryNames_addSections {sections : List Section}
    (distinct : (entryNames entries).Nodup)
    (added : addSections entries sections = some extended) : (entryNames extended).Nodup := by
  induction sections generalizing entries with
  | nil =>
    cases added
    exact distinct
  | cons s later inductionHypothesis =>
    rw [addSections] at added
    split at added <;> rename_i first
    · obtain ⟨table, _, puts⟩ := puts_of_addSection first
      exact inductionHypothesis (puts.nodup distinct) added
    · cases added

/-- No name comes twice in the root table of a document. -/
theorem nodup_entryNames_root? {text : List Char} (root : root? text = some entries) :
    (entryNames entries).Nodup := by
  have start : (entryNames []).Nodup := List.nodup_nil
  rw [root?] at root
  split at root
  · rw [Document.root?] at root
    split at root <;> rename_i added
    · exact nodup_entryNames_addSections (nodup_entryNames_addLines start added) root
    · cases root
  · cases root

end Names

section Shapes

/-- A scalar as data. Only finite numbers are data, and a date or time is a mapping. -/
def Scalar.value : Scalar → Value
  | .string value => .string value
  | .integer value => .number (.integer value)
  | .double value => .ofDouble value
  | .boolean value => .boolean value
  | .dateTime => .mapping []

mutual

/-- The data value of the same shape. -/
def Item.value : Item → Value
  | .scalar _ value => value.value
  | .array _ items => .list (itemValues items)
  | .table _ _ entries => .mapping (entryValues entries)
  | .tables items => .list (itemValues items)

/-- The values of items. -/
def itemValues : List Item → List Value
  | [] => []
  | item :: later => item.value :: itemValues later

/-- The entries of a table as those of a mapping. -/
def entryValues : List (Key × Item) → List (String × Value)
  | [] => []
  | (key, item) :: later => (key.name, item.value) :: entryValues later

end

/-- An item that is a string. -/
def Item.IsString (item : Item) : Prop := ∃ span text, item = .scalar span (.string text)

/-- An item that is an array of strings only. -/
def Item.IsStrings (item : Item) : Prop :=
  ∃ items, item.elements? = some items ∧ ∀ x ∈ items, x.IsString

/-- What stands in an item that is no array of strings, and what was due there: the whole item
if it is no array, and otherwise the first item in it that is no string. -/
inductive Offence (item : Item) : Item → Expected → Prop where
  | value (other : item.elements? = none) : Offence item item .parameterList
  | element {items strings : List Item} {x : Item} (elements : item.elements? = some items)
      (first : First Item.IsString items strings x) : Offence item x .parameterName

/-- The first entry of a table that is no array of strings, what stands there, and what was due
there. -/
def Offender (entries : Entries) (key : Key) (item x : Item) (due : Expected) : Prop :=
  (∃ before, First (fun entry => entry.2.IsStrings) entries before (key, item)) ∧
    Offence item x due

/-- The place at which an item in an entry is shown: its own one or, if it has none, that of the
entry. -/
def shownAt (key : Key) (item x : Item) : Span := x.span?.getD (item.span?.getD key.span)

/-- A value that holds a table in braces, itself or in an array, however deep. -/
inductive HoldsInline : Item → Prop where
  | here (span : Option Span) (entries : Entries) : HoldsInline (.table .inline span entries)
  | inside {span : Span} {items : List Item} {item : Item} (member : item ∈ items)
      (holds : HoldsInline item) : HoldsInline (.array span items)

/-- A document that is more than keys with values of which none is a table: it has a header, a
dotted key, or a table in braces. -/
def Document.Structured (document : Document) : Prop :=
  document.sections ≠ [] ∨ ∃ line ∈ document.lines, line.path ≠ [] ∨ HoldsInline line.value

/-- Items have their values one by one. -/
theorem itemValues_eq (items : List Item) : itemValues items = items.map Item.value := by
  induction items with
  | nil => rfl
  | cons item later inductionHypothesis => rw [itemValues, inductionHypothesis, List.map_cons]

/-- Entries have their values one by one, under their names. -/
theorem entryValues_eq (entries : Entries) :
    entryValues entries = entries.map fun entry => (entry.1.name, entry.2.value) := by
  induction entries with
  | nil => rfl
  | cons entry later inductionHypothesis => rw [entryValues, inductionHypothesis, List.map_cons]

end Shapes

section Declarations

variable {entries before : Entries} {key : Key} {item x : Item} {items strings : List Item}
  {place : Span} {signatures : List Signature} {due : Expected}

/-- Items that are all strings spell some names. -/
theorem exists_spells (all : ∀ x ∈ items, x.IsString) : ∃ names, Spells items names := by
  induction items with
  | nil => exact ⟨[], List.Forall₂.nil⟩
  | cons item later inductionHypothesis =>
    obtain ⟨⟨span, text, same⟩, strings⟩ := List.forall_mem_cons.1 all
    obtain ⟨names, spelled⟩ := inductionHypothesis strings
    exact ⟨text :: names, List.Forall₂.cons ⟨span, same⟩ spelled⟩

/-- The items of an array are read up to the first one that is no string. -/
theorem parameterNames_of_first (first : First Item.IsString items strings x) :
    parameterNames place items =
      .error (.mismatch ⟨x.found, .parameterName⟩ (x.span?.getD place)) := by
  obtain ⟨after, rfl, earlier, other⟩ := first
  induction strings with
  | nil =>
    rw [List.nil_append, parameterNames.eq_def]
    split
    · rename_i none
      cases none
    · rename_i span name further same
      obtain ⟨rfl, -⟩ := List.cons.inj same
      exact absurd ⟨span, name, rfl⟩ other
    · rename_i same
      obtain ⟨rfl, -⟩ := List.cons.inj same
      rfl
  | cons item later inductionHypothesis =>
    obtain ⟨⟨span, text, rfl⟩, strings⟩ := List.forall_mem_cons.1 earlier
    rw [List.cons_append, parameterNames, inductionHypothesis strings]

/-- An entry that is no array of strings is refused for what stands there, at its own place or,
if it has none, at that of the entry. -/
theorem declaration_of_offence (offence : Offence item x due) :
    declaration key item = .error (.mismatch ⟨x.found, due⟩ (shownAt key item x)) := by
  cases offence with
  | value other =>
    rw [declaration_of_no_elements other, shownAt]
    cases item.span? <;> rfl
  | element elements first =>
    rw [declaration_of_elements elements, parameterNames_of_first first, shownAt]

/-- Entries that are arrays of strings state what some declarations state. -/
theorem exists_stated (fits : ∀ entry ∈ entries, entry.2.IsStrings) :
    ∃ signatures, List.Forall₂ States entries signatures := by
  induction entries with
  | nil => exact ⟨[], List.Forall₂.nil⟩
  | cons entry later inductionHypothesis =>
    obtain ⟨⟨items, elements, all⟩, fitsLater⟩ := List.forall_mem_cons.1 fits
    obtain ⟨names, spelled⟩ := exists_spells all
    obtain ⟨signatures, stated⟩ := inductionHypothesis fitsLater
    exact ⟨⟨entry.1.name, names⟩ :: signatures,
      List.Forall₂.cons ⟨rfl, items, elements, spelled⟩ stated⟩

/-- Entries that state parameters are lists of strings. -/
theorem isStrings_of_stated (stated : List.Forall₂ States entries signatures) :
    ∀ entry ∈ entries, entry.2.IsStrings := by
  intro entry member
  obtain ⟨s, -, items, elements, spelled⟩ := exists_of_mem_forall₂ stated member
  exact ⟨items, elements, fun x => scalar_of_mem_spells spelled⟩

/-- Entries are declared under their names. -/
theorem names_of_stated (stated : List.Forall₂ States entries signatures) :
    signatures.map Signature.name = entryNames entries := by
  induction stated with
  | nil => rfl
  | cons first _ inductionHypothesis =>
    rw [List.map_cons, inductionHypothesis, ← first.1]
    rfl

/-- Entries of different names that are arrays of strings are declared as an interface. -/
theorem exists_past (fits : ∀ entry ∈ before, entry.2.IsStrings)
    (distinct : (entryNames before).Nodup) :
    ∃ d : Interface, List.Forall₂ States before d.signatures ∧
      ∀ later, declarations .empty (before ++ later) = declarations d later := by
  obtain ⟨signatures, stated⟩ := exists_stated fits
  rw [← names_of_stated stated] at distinct
  have inserted : Interface.empty.insertAll signatures = .ok ⟨signatures, distinct⟩ :=
    Interface.insertAll_empty_eq_ok_iff.2 rfl
  refine ⟨⟨signatures, distinct⟩, stated, fun later => ?_⟩
  rw [declarations_of_stated stated, inserted]

end Declarations

section Values

variable {entries : Entries} {key : Key} {item x : Item} {items : List Item} {due : Expected}

/-- A scalar of the same shape as a string is a string. -/
theorem isString_value_iff (item : Item) : item.value.IsString ↔ item.IsString := by
  constructor
  · rintro ⟨text, same⟩
    cases item with
    | scalar span value =>
      cases value with
      | string text => exact ⟨span, text, rfl⟩
      | double d =>
        rw [Item.value, Scalar.value, Value.ofDouble] at same
        split at same <;> cases same
      | _ => cases same
    | array span items => cases same
    | table origin span inner => cases same
    | tables items => cases same
  · rintro ⟨span, text, rfl⟩
    exact ⟨text, rfl⟩

/-- An array is written as a list of its items. -/
theorem value_of_elements (elements : item.elements? = some items) :
    item.value = .list (items.map Item.value) := by
  cases item with
  | array span all =>
    cases elements
    rw [Item.value, itemValues_eq]
  | tables all =>
    cases elements
    rw [Item.value, itemValues_eq]
  | scalar span value => cases elements
  | table origin span inner => cases elements

/-- What is no array is not written as a list. -/
theorem kind_value_of_no_elements (other : item.elements? = none) : item.value.kind ≠ .list := by
  cases item with
  | array span all => cases other
  | tables all => cases other
  | table origin span inner =>
    rintro ⟨⟩
  | scalar span value =>
    cases value with
    | double d =>
      rw [Item.value, Scalar.value, Value.ofDouble]
      split <;> rintro ⟨⟩
    | _ => rintro ⟨⟩

/-- An item is an array of strings exactly if its value is a list of strings. -/
theorem isStrings_value_iff (item : Item) : item.value.IsStrings ↔ item.IsStrings := by
  cases elements : item.elements? with
  | none =>
    have noList := kind_value_of_no_elements elements
    constructor
    · rintro ⟨names, same⟩
      rw [same] at noList
      exact absurd rfl noList
    · rintro ⟨items, array, -⟩
      rw [elements] at array
      cases array
  | some items =>
    rw [value_of_elements elements, Value.isStrings_list_iff]
    simp only [List.forall_mem_map, isString_value_iff, Item.IsStrings, elements,
      Option.some.injEq, exists_eq_left']

/-- What stands in the place of an array of strings has its value in the place of a list of
strings, and there the same is due. -/
theorem entryMisfit_of_offence (function : String) (offence : Offence item x due) :
    ∃ place, EntryMisfit function item.value place x.value ∧ place.due = due := by
  cases offence with
  | value other => exact ⟨_, .parameters (kind_value_of_no_elements other), rfl⟩
  | element elements first =>
    rw [value_of_elements elements]
    exact ⟨_, .parameter (first.map Item.value isString_value_iff), rfl⟩

/-- The first misfit of a table is, as a value, the first misfit of its mapping. -/
theorem Offender.misfit (offender : Offender entries key item x due) :
    ∃ place, Misfit (.mapping (entryValues entries)) place x.value ∧ place.due = due := by
  obtain ⟨⟨before, first⟩, offence⟩ := offender
  obtain ⟨place, misfit, same⟩ := entryMisfit_of_offence key.name offence
  rw [entryValues_eq]
  have mapped : First (fun entry : String × Value => entry.2.IsStrings)
      (entries.map fun entry => (entry.1.name, entry.2.value))
      (before.map fun entry => (entry.1.name, entry.2.value)) (key.name, item.value) :=
    first.map (fun entry => (entry.1.name, entry.2.value)) fun entry =>
      isStrings_value_iff entry.2
  exact ⟨place, .entry mapped misfit, same⟩

/-- What is found in a place is found in its value, too, unless it is a number that no data
value can be. -/
theorem found_value (finite : ∀ d, x.found = .double d → d.isFinite = true) :
    x.value.found = x.found := by
  cases x with
  | array span items => rfl
  | table origin span inner => rfl
  | tables items => rfl
  | scalar span value =>
    cases value with
    | double d =>
      rw [Item.value, Scalar.value, Value.ofDouble, if_pos (finite d rfl)]
      rfl
    | _ => rfl

/-- The wordings of what was found differ only for numbers that are written in two ways. -/
theorem text_found {found : Found} (alike : ∀ d, found = .double d → d.WrittenAlike) :
    found.text .plain = found.text .json := by
  cases found with
  | double d =>
    have written : d.text .plain = d.text .json := (alike d rfl).text_eq
    simp only [Found.text.eq_def, written]
  | _ => rfl

end Values

section Documents

variable {entries : Entries} {key : Key} {item x : Item} {due : Expected} {d : Interface}
  {report : Report} {text : List Char} {document : Document}

/-- What is reported of other texts does not matter to a document. -/
theorem contract_of_root (root : root? text = some entries) :
    contract report text = declarations .empty entries := by
  rw [contract, root]

/-- A root table is an interface exactly if its entries state what the declarations state. -/
theorem contract_eq_ok_iff_of_root (root : root? text = some entries) :
    contract report text = .ok d ↔ List.Forall₂ States entries d.signatures := by
  rw [contract_of_root root]
  constructor
  · intro accepted
    obtain ⟨signatures, inserted, stated⟩ := stated_of_declarations accepted
    rwa [Interface.insertAll_empty_eq_ok_iff.1 inserted]
  · intro stated
    exact (declarations_eq_ok_iff stated).2 (Interface.insertAll_empty_eq_ok_iff.2 rfl)

/-- A root table is an interface exactly if all its entries are arrays of strings. -/
theorem exists_contract_iff (root : root? text = some entries) :
    (∃ d, contract report text = .ok d) ↔ ∀ entry ∈ entries, entry.2.IsStrings := by
  constructor
  · rintro ⟨d, accepted⟩
    exact isStrings_of_stated ((contract_eq_ok_iff_of_root root).1 accepted)
  · intro fits
    obtain ⟨d, stated, -⟩ := exists_past fits (nodup_entryNames_root? root)
    exact ⟨d, (contract_eq_ok_iff_of_root root).2 stated⟩

/-- A table of which not every entry is an array of strings has a first one that is none. -/
theorem exists_offender (unfit : ¬∀ entry ∈ entries, entry.2.IsStrings) :
    ∃ key item x due, Offender entries key item x due := by
  rcases all_or_first (fun entry : Key × Item => entry.2.IsStrings) entries with
    all | ⟨before, ⟨key, item⟩, first⟩
  · exact absurd all unfit
  · have misfit : ¬item.IsStrings := first.choose_spec.2.2
    cases elements : item.elements? with
    | none => exact ⟨key, item, item, _, ⟨before, first⟩, .value elements⟩
    | some items =>
      rcases all_or_first Item.IsString items with strings | ⟨names, x, firstItem⟩
      · exact absurd ⟨items, elements, strings⟩ misfit
      · exact ⟨key, item, x, _, ⟨before, first⟩, .element elements firstItem⟩

/-- The first entry that is no array of strings is reported. -/
theorem contract_of_offender (root : root? text = some entries)
    (offender : Offender entries key item x due) :
    contract report text = .error (.mismatch ⟨x.found, due⟩ (shownAt key item x)) := by
  obtain ⟨⟨before, after, rfl, fits, -⟩, offence⟩ := offender
  have distinct := nodup_entryNames_root? root
  rw [entryNames, List.map_append, List.nodup_append] at distinct
  obtain ⟨d, -, past⟩ := exists_past fits distinct.1
  rw [contract_of_root root]
  simp only [past, declarations, declaration_of_offence offence]

/-- Reading the mapping of the same shape stops at the same place. -/
theorem read_of_offender (root : root? text = some entries)
    (offender : Offender entries key item x due) :
    Interface.read (.mapping (entryValues entries)) =
      .error (.mismatch ⟨x.value.found, due⟩) := by
  obtain ⟨place, misfit, rfl⟩ := offender.misfit
  have distinct : (Value.mapping (entryValues entries)).keys.Nodup := by
    rw [Value.keys, entryValues_eq, List.map_map]
    exact nodup_entryNames_root? root
  exact (Interface.readers_of_misfit misfit distinct).2

/-- An array of strings holds no table in braces. -/
theorem not_holdsInline_of_lists {names : List String} (lists : Lists item names) :
    ¬HoldsInline item := by
  obtain ⟨span, items, rfl, spelled⟩ := lists
  intro holds
  cases holds with
  | inside member inner =>
    obtain ⟨span, name, rfl⟩ := scalar_of_mem_spells spelled member
    cases inner

/-- A document that has a header, a dotted key, or a table in braces is no interface. -/
theorem contract_of_structured (read : document? text = some document)
    (structured : document.Structured) : contract report text ≠ .ok d := by
  intro accepted
  obtain ⟨lines, flat, declare⟩ := documentLists_of_contract accepted
  obtain rfl := Option.some.inj (read.symm.trans flat)
  rcases structured with sections | ⟨line, member, other⟩
  · exact sections rfl
  · obtain ⟨s, declares⟩ := exists_of_mem_forall₂ declare member
    rcases other with dotted | inline
    · exact dotted declares.path
    · exact not_holdsInline_of_lists declares.params inline

/-- A TOML document is an interface exactly if every entry of its root table is an array of
strings, and then it declares these entries in their order, which is that of the lines of the
text. A header, a dotted key, or a table in braces is never part of it. In every other document
the first entry that is no array of strings is reported, as a whole or for its first item that
is no string. Reading the mapping of the same shape expects the same there and finds the same,
unless a number stands there that is not finite, which no mapping can hold; and the two messages
show it in the same way unless it is a number that the two forms of numbers write differently. -/
theorem documents_are_accepted_by_shape (report : Report) (text : List Char) {entries : Entries}
    (root : root? text = some entries) :
    ((∃ d, contract report text = .ok d) ↔ ∀ entry ∈ entries, entry.2.IsStrings) ∧
    (∀ d, contract report text = .ok d →
      List.Forall₂ States entries d.signatures ∧ DocumentLists text d.signatures) ∧
    (∀ document, document? text = some document → document.Structured →
      ∀ d, contract report text ≠ .ok d) ∧
    ((∀ d, contract report text ≠ .ok d) → ∃ key item x due, Offender entries key item x due) ∧
    ∀ key item x due, Offender entries key item x due →
      contract report text = .error (.mismatch ⟨x.found, due⟩ (shownAt key item x)) ∧
      Fault.message text (.mismatch ⟨x.found, due⟩ (shownAt key item x)) =
        String.ofList (excerpt text (shownAt key item x)) ++
          ("invalid type: " ++ x.found.text .plain ++ ", expected " ++ due.text) ++ "\n" ∧
      Interface.read (.mapping (entryValues entries)) = .error (.mismatch ⟨x.value.found, due⟩) ∧
      (Misshapen.mismatch ⟨x.value.found, due⟩).message =
        "invalid type: " ++ x.value.found.text .json ++ ", expected " ++ due.text ∧
      ((∀ d, x.found = .double d → d.isFinite = true) →
        x.value.found = x.found ∧
        ((∀ d, x.found = .double d → d.WrittenAlike) →
          x.found.text .plain = x.value.found.text .json)) := by
  refine ⟨exists_contract_iff root, fun d accepted => ?_, fun document read structured d => ?_,
    fun refused => ?_, fun key item x due offender => ?_⟩
  · exact ⟨(contract_eq_ok_iff_of_root root).1 accepted, documentLists_of_contract accepted⟩
  · exact contract_of_structured read structured
  · refine exists_offender fun fits => ?_
    obtain ⟨d, accepted⟩ := (exists_contract_iff root).2 fits
    exact refused d accepted
  · refine ⟨contract_of_offender root offender, rfl, read_of_offender root offender, rfl,
      fun finite => ?_⟩
    have same : x.value.found = x.found := found_value finite
    exact ⟨same, fun alike => by rw [same, text_found alike]⟩

/-- A document of an interface to which an array with a number and a table have been added. -/
def numberedText : List Char := "f = [\"x\"]\ng = [\"y\", 1.5]\n[t]\n".toList

/-- The number is reported, and nothing is said of the table behind it. In memory the same is
found, and reported in the same words. -/
theorem number_in_array_is_reported :
    ∃ entries, root? numberedText = some entries ∧
      contract .silent numberedText =
        .error (.mismatch ⟨.double ⟨0x3FF8000000000000⟩, .parameterName⟩ ⟨9, 6⟩) ∧
      Interface.read (.mapping (entryValues entries)) =
        .error (.mismatch ⟨.double ⟨0x3FF8000000000000⟩, .parameterName⟩) ∧
      Found.text .plain (.double ⟨0x3FF8000000000000⟩) =
        Found.text .json (.double ⟨0x3FF8000000000000⟩) := by
  have wellFormed : (root? numberedText).isSome = true := by decide +kernel
  have fault : contract .silent numberedText =
      .error (.mismatch ⟨.double ⟨0x3FF8000000000000⟩, .parameterName⟩ ⟨9, 6⟩) := by
    decide +kernel
  obtain ⟨entries, root⟩ := Option.isSome_iff_exists.1 wellFormed
  obtain ⟨_, _, _, refused, reports⟩ := documents_are_accepted_by_shape .silent numberedText root
  have noInterface : ∀ d, contract .silent numberedText ≠ .ok d := by
    rw [fault]
    rintro d ⟨⟩
  obtain ⟨key, item, x, due, offender⟩ := refused noInterface
  obtain ⟨reported, _, read, _, agree⟩ := reports key item x due offender
  rw [fault] at reported
  simp only [Except.error.injEq, Fault.mismatch.injEq, Mismatch.mk.injEq] at reported
  obtain ⟨⟨found, rfl⟩, -⟩ := reported
  rw [← found] at agree
  have finite : ∀ d, Found.double ⟨0x3FF8000000000000⟩ = .double d → d.isFinite = true := by
    rintro d ⟨⟩
    decide
  have alike : ∀ d, Found.double ⟨0x3FF8000000000000⟩ = .double d → d.WrittenAlike := by
    rintro d ⟨⟩
    exact Or.inr (by decide +kernel)
  obtain ⟨same, written⟩ := agree finite
  rw [same] at read written
  exact ⟨entries, root, fault, read, written alike⟩

/-- Two documents with a number in the place of an array. In memory the same number is found
there, but the words for it are others: a power of ten is written out in TOML, and of two
decimals that are equally short and equally near it shows the upper one. -/
theorem numbers_are_reported_in_two_forms :
    (contract .silent "a = 1e16".toList =
        .error (.mismatch ⟨.double ⟨0x4341C37937E08000⟩, .parameterList⟩ ⟨4, 0⟩) ∧
      (root? "a = 1e16".toList).map (fun entries =>
          Interface.read (.mapping (entryValues entries))) =
        some (.error (.mismatch ⟨.double ⟨0x4341C37937E08000⟩, .parameterList⟩)) ∧
      Found.text .plain (.double ⟨0x4341C37937E08000⟩) =
        "floating point `10000000000000000.0`" ∧
      Found.text .json (.double ⟨0x4341C37937E08000⟩) = "floating point `1e+16`") ∧
    contract .silent "a = 16.0000152587890625".toList =
        .error (.mismatch ⟨.double ⟨0x4030000100000000⟩, .parameterList⟩ ⟨19, 0⟩) ∧
      (root? "a = 16.0000152587890625".toList).map (fun entries =>
          Interface.read (.mapping (entryValues entries))) =
        some (.error (.mismatch ⟨.double ⟨0x4030000100000000⟩, .parameterList⟩)) ∧
      Found.text .plain (.double ⟨0x4030000100000000⟩) = "floating point `16.000015258789063`" ∧
      Found.text .json (.double ⟨0x4030000100000000⟩) =
        "floating point `16.000015258789062`" := by
  decide +kernel

end Documents

end StructuralTyping.Toml
