import StructuralTyping.Interface.Literal
import StructuralTyping.Interface.Shape
import StructuralTyping.Proofs.JsonPrinting
/-!
# The values of interfaces

The two readers of values differ in what they say about a value that is no interface. They
agree on those that are: a value is read as an interface exactly if it is the mapping that
writes the declarations of this interface, in their order. So nothing is lost on the way from
an interface to its value and back, or the other way round.
-/
set_option autoImplicit false

namespace StructuralTyping

/-- Lists of strings differ if their strings do. -/
theorem Value.ofStrings_inj {first second : List String} :
    Value.ofStrings first = Value.ofStrings second ↔ first = second := by
  rw [ofStrings, ofStrings, Value.list.injEq]
  exact List.map_inj_right fun _ _ => Value.string.inj

/-- Other declarations, or the same ones in another order, are written in another way. -/
theorem valueOfSignatures_inj {first second : List Signature} :
    valueOfSignatures first = valueOfSignatures second ↔ first = second := by
  rw [valueOfSignatures, valueOfSignatures, Value.mapping.injEq]
  refine List.map_inj_right fun s t same => ?_
  obtain ⟨name, params⟩ := Prod.mk.inj same
  cases s
  cases t
  simp_all [Value.ofStrings_inj]

namespace Interface

variable {d e : Interface} {s : Signature} {v : Value} {function : String}
  {entries : List (String × Value)}

section Entries

/-- Strings are read as the parameter names that they are. -/
theorem parameterNames_strings (index : Nat) (names : List String) :
    parameterNames function index (names.map .string) = .ok names := by
  induction names generalizing index with
  | nil => rfl
  | cons name later inductionHypothesis =>
    rw [List.map_cons, parameterNames, inductionHypothesis]

/-- Items that were read as parameter names are these strings. -/
theorem strings_of_parameterNames {index : Nat} {items : List Value} {names : List String}
    (read : parameterNames function index items = .ok names) : items = names.map .string := by
  fun_induction parameterNames function index items generalizing names with
  | case1 =>
    cases read
    rfl
  | case2 index name later found further inductionHypothesis =>
    cases read
    rw [List.map_cons, inductionHypothesis further]
  | case3 => cases read
  | case4 => cases read

/-- An entry is read as a declaration exactly if it is written for it. -/
theorem signatureOfEntry_eq_ok_iff {name : String} :
    signatureOfEntry name v = .ok s ↔ (name, v) = (s.name, Value.ofStrings s.params) := by
  constructor
  · intro read
    rw [signatureOfEntry.eq_def] at read
    split at read
    · split at read <;> rename_i named <;> cases read
      rw [strings_of_parameterNames named, Value.ofStrings]
    · cases read
  · intro written
    obtain ⟨rfl, rfl⟩ := Prod.mk.inj written
    rw [Value.ofStrings, signatureOfEntry, parameterNames_strings]

/-- The two readers find the same strings. -/
theorem readNames_eq_ok_iff (function : String) (index : Nat) {items : List Value}
    {names : List String} :
    readNames items = .ok names ↔ parameterNames function index items = .ok names := by
  fun_induction parameterNames function index items generalizing names with
  | case1 => simp [readNames]
  | case2 index name later found further inductionHypothesis =>
    simp [readNames, inductionHypothesis.2 further]
  | case3 index name later cause refused inductionHypothesis =>
    cases read : readNames later with
    | ok found =>
      rw [inductionHypothesis, refused] at read
      cases read
    | error mismatch => simp [readNames, read]
  | case4 index item later other => simp [readNames]

/-- Parameters are read alike for themselves and as those of a function. -/
theorem readParameters_eq_ok_iff (function : String) {params : List String} :
    readParameters v = .ok params ↔ signatureOfEntry function v = .ok ⟨function, params⟩ := by
  cases v with
  | list items =>
    rw [readParameters, signatureOfEntry, readNames_eq_ok_iff function 0]
    cases parameterNames function 0 items <;> simp
  | _ => simp [readParameters, signatureOfEntry]

end Entries

section Mappings

/-- The entries that declarations are written as have the names of these. -/
theorem names_of_entries (signatures : List Signature) :
    (signatures.map fun s => (s.name, Value.ofStrings s.params)).map Prod.fst =
      signatures.map Signature.name :=
  List.map_map

/-- Entries that are written for declarations declare them, whatever follows. -/
theorem past_signatures {signatures : List Signature} (inserted : d.insertAll signatures = .ok e)
    (later : List (String × Value)) :
    d.insertEntries (signatures.map (fun s => (s.name, Value.ofStrings s.params)) ++ later) =
        e.insertEntries later ∧
      d.readEntries (signatures.map (fun s => (s.name, Value.ofStrings s.params)) ++ later) =
        e.readEntries later := by
  induction signatures generalizing d with
  | nil =>
    cases inserted
    exact ⟨rfl, rfl⟩
  | cons s others inductionHypothesis =>
    have described : signatureOfEntry s.name (Value.ofStrings s.params) = .ok s :=
      signatureOfEntry_eq_ok_iff.2 rfl
    have read : readParameters (Value.ofStrings s.params) = .ok s.params :=
      (readParameters_eq_ok_iff s.name).2 described
    rw [insertAll] at inserted
    rw [List.map_cons, List.cons_append, insertEntries, described, readEntries, read]
    split at inserted <;> rename_i first
    · simp only [first]
      exact inductionHypothesis inserted
    · cases inserted

/-- Entries that are accepted are written for declarations, which are declared in the order
of the entries. -/
theorem signatures_of_insertEntries (read : d.insertEntries entries = .ok e) :
    ∃ signatures, entries = signatures.map (fun s => (s.name, Value.ofStrings s.params)) ∧
      d.insertAll signatures = .ok e := by
  induction entries generalizing d with
  | nil =>
    cases read
    exact ⟨[], rfl, rfl⟩
  | cons entry later inductionHypothesis =>
    rw [insertEntries] at read
    split at read
    · cases read
    · rename_i s described
      split at read
      · cases read
      · rename_i extended inserted
        obtain ⟨signatures, rfl, insertedLater⟩ := inductionHypothesis read
        refine ⟨s :: signatures, ?_, ?_⟩
        · rw [List.map_cons, ← signatureOfEntry_eq_ok_iff.1 described]
        · rw [insertAll, inserted]
          exact insertedLater

/-- A value is read as an interface exactly if it is what the interface is written as. -/
theorem ofValue_eq_ok_iff : ofValue v = .ok d ↔ v = valueOfSignatures d.signatures := by
  constructor
  · intro read
    rw [ofValue.eq_def] at read
    split at read
    · obtain ⟨signatures, rfl, inserted⟩ := signatures_of_insertEntries read
      rw [insertAll_empty_eq_ok_iff.1 inserted, valueOfSignatures]
    · cases read
  · rintro rfl
    have past := (past_signatures (insertAll_empty_eq_ok_iff.2 (Eq.refl d.signatures)) []).1
    rwa [List.append_nil] at past

/-- The two readers accept the same entries, and declare the same for them. -/
theorem readEntries_eq_ok_iff : d.readEntries entries = .ok e ↔ d.insertEntries entries = .ok e := by
  induction entries generalizing d with
  | nil => simp [readEntries, insertEntries]
  | cons entry later inductionHypothesis =>
    obtain ⟨name, value⟩ := entry
    rw [readEntries, insertEntries]
    cases read : readParameters value with
    | ok params =>
      rw [(readParameters_eq_ok_iff name).1 read]
      simp only
      cases d.insert ⟨name, params⟩ with
      | ok extended => exact inductionHypothesis
      | error cause => simp
    | error mismatch =>
      cases described : signatureOfEntry name value with
      | error cause => simp
      | ok s =>
        -- a declaration that one reader finds goes under this name, so the other finds it
        obtain ⟨rfl, -⟩ := Prod.mk.inj (signatureOfEntry_eq_ok_iff.1 described)
        rw [(readParameters_eq_ok_iff s.name).2 described] at read
        cases read

/-- The two readers read the same values as the same interfaces. -/
theorem read_eq_ok_iff : read v = .ok d ↔ ofValue v = .ok d := by
  rw [read.eq_def, ofValue.eq_def]
  split
  · exact readEntries_eq_ok_iff
  · simp

end Mappings

section RoundTrip

/-- The entries that an interface is written as have different names. -/
theorem distinct_entries (d : Interface) :
    ((d.signatures.map fun s => (s.name, Value.ofStrings s.params)).map Prod.fst).Nodup := by
  rw [names_of_entries]
  exact d.distinct

/-- Interfaces survive being written as values, and values survive being read as interfaces.
The declarations of an interface go into a mapping one after the other, and because their
names differ none takes the place of another; both readers find the same declarations there,
in their order. A value that is read as an interface is what this interface is written as,
with its entries in their order. -/
theorem interfaces_and_values_correspond :
    (∀ d : Interface,
      Value.ofEntries (d.signatures.map fun s => (s.name, Value.ofStrings s.params)) = d.toValue ∧
        ofValue d.toValue = .ok d ∧ read d.toValue = .ok d) ∧
    ∀ v d, ofValue v = .ok d → d.toValue = v := by
  constructor
  · intro d
    have accepted : ofValue d.toValue = .ok d := ofValue_eq_ok_iff.2 rfl
    exact ⟨Value.ofEntries_of_nodup d.distinct_entries, accepted, read_eq_ok_iff.2 accepted⟩
  · intro v d accepted
    exact (ofValue_eq_ok_iff.1 accepted).symm

/-- A mapping of two names that are not in alphabetical order comes back as it was. -/
theorem order_of_names_comes_back :
    ∃ d : Interface, ofValue (.mapping [("g", .list [.string "x"]), ("f", .list [])]) = .ok d ∧
      d.toValue = .mapping [("g", .list [.string "x"]), ("f", .list [])] :=
  ⟨⟨[⟨"g", ["x"]⟩, ⟨"f", []⟩], by decide⟩, rfl, interfaces_and_values_correspond.2 _ _ rfl⟩

end RoundTrip

end Interface

end StructuralTyping
