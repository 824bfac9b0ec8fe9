/-!
# Contract formats

The format of a contract file is told by the extension of its name alone. The
name is the last component of the path: empty components and single points at
the end of the path do not count. A name has an extension when something stands
before its last point.
-/
set_option autoImplicit false

namespace StructuralTyping

/-- The parts of a path between its slashes. -/
def pathSegments : List Char → List (List Char)
  | [] => [[]]
  | c :: rest =>
    if c = '/' then [] :: pathSegments rest
    else
      match pathSegments rest with
      | [] => [[c]]
      | first :: later => (c :: first) :: later

/-- The parts are those that the path is split into at its slashes. -/
theorem pathSegments_eq_splitOn (path : List Char) : pathSegments path = path.splitOn '/' := by
  induction path with
  | nil => rfl
  | cons c rest inductionHypothesis =>
    rw [pathSegments, List.splitOn_cons_eq_if_modifyHead, inductionHypothesis]
    by_cases slash : c = '/'
    · simp [slash]
    · cases parts : rest.splitOn '/' with
      | nil => exact absurd parts (List.splitOn_ne_nil '/' rest)
      | cons first later => simp [slash]

/-- The last component of a path, unless the path leads back up or nowhere. -/
def fileName? (path : List Char) : Option (List Char) :=
  match (pathSegments path).reverse.find? (fun segment => segment ≠ [] ∧ segment ≠ ['.']) with
  | some name => if name = ['.', '.'] then none else some name
  | none => none

/-- What stands behind the last point of a name, if something stands before it. -/
def extension? (name : List Char) : Option (List Char) :=
  let reversed := name.reverse
  match reversed.dropWhile (· ≠ '.') with
  | [] => none
  | [_] => none
  | _ :: _ :: _ => some (reversed.takeWhile (· ≠ '.')).reverse

/-- The formats of contract files. -/
inductive ContractFormat where
  | json
  | toml
deriving DecidableEq

namespace ContractFormat

/-- The extension of files in a format. -/
def extension : ContractFormat → String
  | json => "json"
  | toml => "toml"

/-- The format of files with that extension. -/
def ofExtension? (extension : List Char) : Option ContractFormat :=
  if extension = json.extension.toList then some json
  else if extension = toml.extension.toList then some toml
  else none

/-- The format of the file at a path. -/
def ofPath? (path : String) : Option ContractFormat :=
  match fileName? path.toList with
  | some name =>
    match extension? name with
    | some extension => ofExtension? extension
    | none => none
  | none => none

end ContractFormat

end StructuralTyping
