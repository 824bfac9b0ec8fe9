/-!
# Interfaces

An interface lists the functions that an implementation must provide, in the
order in which they were declared. Parameter names are labels: only their number
is ever compared. No function is declared twice.
-/
set_option autoImplicit false

namespace StructuralTyping

/-- A declared function: its name and the labels of its parameters. -/
structure Signature where
  name : String
  params : List String
deriving DecidableEq

namespace Signature

/-- The number of declared parameters. -/
def arity (s : Signature) : Nat := s.params.length

/-- The signature as messages show it: `name(first, second)`, without quoting. -/
def text (s : Signature) : String :=
  s.name ++ "(" ++ String.intercalate ", " s.params ++ ")"

end Signature

/-- Declared functions in order, no two of one name. -/
structure Interface where
  signatures : List Signature
  distinct : (signatures.map Signature.name).Nodup
deriving DecidableEq

namespace Interface

/-- The interface that asks for nothing. -/
def empty : Interface := ⟨[], List.nodup_nil⟩

/-- The declared names in order. -/
def names (d : Interface) : List String := d.signatures.map Signature.name

/-- The number of declared functions. -/
def size (d : Interface) : Nat := d.signatures.length

/-- The declaration of that name. -/
def get? (d : Interface) (name : String) : Option Signature :=
  d.signatures.find? (·.name = name)

/-- Whether a function of that name is declared. -/
def declares (d : Interface) (name : String) : Bool := (d.get? name).isSome

/-- A name is declared if it is one of the names. -/
theorem declares_eq_true_iff {d : Interface} {name : String} :
    d.declares name = true ↔ name ∈ d.names := by
  simp [declares, get?, names, List.find?_isSome]

/-- A function of this name is declared already. -/
structure Duplicate where
  name : String
deriving DecidableEq

/-- The wording of a refused declaration. -/
def Duplicate.message (e : Duplicate) : String :=
  "duplicate function `" ++ e.name ++ "` in interface definition"

/-- A declaration of another name may follow. -/
theorem nodup_names_append {signatures : List Signature} {s : Signature}
    (distinct : (signatures.map Signature.name).Nodup)
    (fresh : s.name ∉ signatures.map Signature.name) :
    ((signatures ++ [s]).map Signature.name).Nodup := by
  rw [List.map_append, List.nodup_append]
  refine ⟨distinct, by simp, ?_⟩
  intro a member b last same
  simp only [List.map_cons, List.map_nil, List.mem_singleton] at last
  exact fresh (last ▸ same ▸ member)

/-- Declares one more function after the others, unless its name is taken. -/
def insert (d : Interface) (s : Signature) : Except Duplicate Interface :=
  if taken : d.declares s.name then .error ⟨s.name⟩
  else .ok ⟨d.signatures ++ [s],
    nodup_names_append d.distinct (fun member => taken (declares_eq_true_iff.2 member))⟩

/-- Declares several functions one after the other. -/
def insertAll (d : Interface) : List Signature → Except Duplicate Interface
  | [] => .ok d
  | s :: later =>
    match d.insert s with
    | .ok extended => extended.insertAll later
    | .error e => .error e

/-- An interface is known by its declarations. -/
@[ext]
theorem ext {d e : Interface} (same : d.signatures = e.signatures) : d = e := by
  cases d
  cases e
  congr

/-- A declaration is accepted exactly if some interface has it behind the others: the names
of an interface differ. -/
theorem insert_eq_ok_iff {d e : Interface} {s : Signature} :
    d.insert s = .ok e ↔ e.signatures = d.signatures ++ [s] := by
  rw [insert]
  split
  · rename_i taken
    constructor
    · rintro ⟨⟩
    · intro extended
      have distinct := e.distinct
      rw [extended, List.map_append, List.nodup_append] at distinct
      exact absurd rfl (distinct.2.2 s.name (declares_eq_true_iff.1 taken) s.name (by simp))
  · constructor
    · rintro ⟨⟩
      rfl
    · intro extended
      exact congrArg Except.ok (Interface.ext extended.symm)

/-- A declaration is refused exactly if its name is taken, whatever its parameters. -/
theorem insert_eq_error_iff {d : Interface} {s : Signature} {cause : Duplicate} :
    d.insert s = .error cause ↔ s.name ∈ d.names ∧ cause = ⟨s.name⟩ := by
  rw [insert, ← declares_eq_true_iff]
  split <;> simp [*, eq_comm]

/-- A name leads to the one declaration that has it. -/
theorem get?_eq_some_iff {d : Interface} {s : Signature} {name : String} :
    d.get? name = some s ↔ s ∈ d.signatures ∧ s.name = name := by
  rw [get?, List.find?_eq_some_iff_append]
  constructor
  · rintro ⟨named, before, after, divided, -⟩
    exact ⟨by simp [divided], by simpa using named⟩
  · rintro ⟨member, rfl⟩
    obtain ⟨before, after, divided⟩ := List.append_of_mem member
    refine ⟨by simp, before, after, divided, fun t earlier => ?_⟩
    have distinct := d.distinct
    rw [divided, List.map_append, List.nodup_append] at distinct
    have differ := distinct.2.2 t.name (List.mem_map_of_mem earlier) s.name (by simp)
    simpa using differ

/-- A name without a declaration leads to none. -/
theorem get?_eq_none_iff {d : Interface} {name : String} :
    d.get? name = none ↔ name ∉ d.names := by
  rw [← declares_eq_true_iff, declares, Bool.not_eq_true, Option.isSome_eq_false_iff,
    Option.isNone_iff_eq_none]

/-- Declarations are accepted exactly if some interface has them behind the others. -/
theorem insertAll_eq_ok_iff {d e : Interface} {later : List Signature} :
    d.insertAll later = .ok e ↔ e.signatures = d.signatures ++ later := by
  induction later generalizing d with
  | nil =>
    rw [insertAll, List.append_nil]
    refine ⟨fun same => ?_, fun same => congrArg Except.ok (Interface.ext same.symm)⟩
    cases same
    rfl
  | cons s later inductionHypothesis =>
    rw [insertAll]
    cases inserted : d.insert s with
    | ok extended =>
      have further := insert_eq_ok_iff.1 inserted
      simp only [inductionHypothesis, further, List.append_assoc, List.singleton_append]
    | error cause =>
      constructor
      · rintro ⟨⟩
      · intro extended
        have distinct := e.distinct
        rw [extended, ← List.singleton_append, ← List.append_assoc, List.map_append,
          List.nodup_append] at distinct
        have accepted : d.insert s = .ok ⟨d.signatures ++ [s], distinct.1⟩ :=
          insert_eq_ok_iff.2 rfl
        rw [accepted] at inserted
        cases inserted

/-- Declarations make an interface exactly if their names differ. -/
theorem insertAll_empty_eq_ok_iff {e : Interface} {signatures : List Signature} :
    empty.insertAll signatures = .ok e ↔ e.signatures = signatures := insertAll_eq_ok_iff

end Interface

end StructuralTyping
