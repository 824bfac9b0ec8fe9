import StructuralTyping.Contract.Format
/-!
# Files

The files that a path can lead to, as plain data. A path is walked from the top
of the system, a relative one by way of the directory in which relative paths
begin, component by component; every component but the last one, and the last
one too if a slash or a single point follows it, has to be a directory. A tree
of files is made by putting each file or directory where its path leads, by way
of directories that are made as the path comes to them.
-/
set_option autoImplicit false

namespace StructuralTyping

/-- A file with its bytes, or a directory. -/
inductive FileTree where
  | file (content : ByteArray)
  | directory (entries : List (String × FileTree))

/-- Why a file cannot be read as text. -/
inductive ReadError where
  | notFound
  | isADirectory
  | notADirectory
  | notText
deriving DecidableEq

/-- The wording of a failed read. -/
def ReadError.message : ReadError → String
  | .notFound => "No such file or directory (os error 2)"
  | .isADirectory => "Is a directory (os error 21)"
  | .notADirectory => "Not a directory (os error 20)"
  | .notText => "stream did not contain valid UTF-8"

namespace FileTree

/-- The entries with one put under a name. -/
def setEntry (name : String) (tree : FileTree) :
    List (String × FileTree) → List (String × FileTree)
  | [] => [(name, tree)]
  | (other, old) :: later =>
    if other = name then (name, tree) :: later else (other, old) :: setEntry name tree later

/-- The directory that a component of a path leads to, empty if there is none. -/
def entriesOf : Option FileTree → List (String × FileTree)
  | some (directory entries) => entries
  | _ => []

/-- The entries with a tree put at the end of a path. Directories on the way are
made where they are missing. -/
def placeAt (tree : FileTree) :
    List String → List (String × FileTree) → List (String × FileTree)
  | [], entries => entries
  | [name], entries => setEntry name tree entries
  | name :: later, entries =>
    setEntry name (directory (placeAt tree later (entriesOf (entries.lookup name)))) entries

/-- The components of a path, without those that lead nowhere. -/
def components (path : String) : List String :=
  ((pathSegments path.toList).filter (fun part => part ≠ [] ∧ part ≠ ['.'])).map String.ofList

/-- The entries with directories along a path, made where they are missing. -/
def extend : List String → List (String × FileTree) → List (String × FileTree)
  | [], entries => entries
  | name :: later, entries =>
    setEntry name (directory (extend later (entriesOf (entries.lookup name)))) entries

/-- The directory that a component leads to from a directory, both given by their
names from the top. A pair of points leads one directory up. -/
def step (here : List String) (name : String) : List String :=
  if name = ".." then here.dropLast else here ++ [name]

/-- Goes along the components of a path and makes every directory on the way that
is missing, also one that a later component leaves again. -/
def makeWay (here : List String) (entries : List (String × FileTree)) :
    List String → List String × List (String × FileTree)
  | [] => (here, entries)
  | name :: later =>
    let next := step here name
    makeWay next (extend next entries) later

/-- Walks the components of a path. `above` are the directories that the current one
stands in, the closest first. The directory at the top has none; a pair of points
leads from it to itself. -/
def walk (current : FileTree) (above : List FileTree) :
    List (List Char) → Except ReadError FileTree
  | [] => .ok current
  | part :: later =>
    match current with
    | file _ => .error .notADirectory
    | directory entries =>
      if part = [] ∨ part = ['.'] then walk current above later
      else if part = ['.', '.'] then
        match above with
        | parent :: further => walk parent further later
        | [] => walk current [] later
      else
        match entries.lookup (String.ofList part) with
        | some next => walk next (current :: above) later
        | none => .error .notFound

end FileTree

/-- All files of a system, from the directory at its top, and the components that
lead from there to the directory in which relative paths begin. -/
structure FileSystem where
  top : FileTree
  here : List (List Char)

namespace FileSystem

/-- Where a path begins: at the top if a slash stands in front. -/
def beginning (files : FileSystem) (path : String) : List (List Char) :=
  if path.toList.head? = some '/' then [] else files.here

/-- The components that a path means from the top. -/
def fromTop (files : FileSystem) (path : String) : List (List Char) :=
  files.beginning path ++ pathSegments path.toList

/-- What a path leads to. An empty path leads nowhere. -/
def find (files : FileSystem) (path : String) : Except ReadError FileTree :=
  if path.toList = [] then .error .notFound else files.top.walk [] (files.fromTop path)

/-- Goes along components of a path from where it begins, and makes the directories
on the way. -/
def makeWay (files : FileSystem) (path : String) (parts : List String) :
    List String × List (String × FileTree) :=
  FileTree.makeWay ((files.beginning path).map String.ofList)
    (FileTree.entriesOf (some files.top)) parts

/-- The system with a file at a path, whose directories are made where they are
missing. -/
def withFile (files : FileSystem) (path : String) (content : ByteArray) : FileSystem :=
  let parts := FileTree.components path
  let (way, entries) := files.makeWay path parts.dropLast
  { files with
    top := .directory (FileTree.placeAt (.file content) (way ++ parts.getLast?.toList) entries) }

/-- The system with a directory at a path. A directory that is there already keeps
its files. -/
def withDirectory (files : FileSystem) (path : String) : FileSystem :=
  { files with top := .directory (files.makeWay path (FileTree.components path)).2 }

/-- The text of the file at a path. -/
def readText (files : FileSystem) (path : String) : Except ReadError String :=
  match files.find path with
  | .error e => .error e
  | .ok (.directory _) => .error .isADirectory
  | .ok (.file content) =>
    match String.fromUTF8? content with
    | some text => .ok text
    | none => .error .notText

end FileSystem

end StructuralTyping
