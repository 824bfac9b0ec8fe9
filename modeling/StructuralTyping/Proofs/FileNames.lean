import Mathlib.Data.List.Basic
import Mathlib.Data.List.TakeWhile
import StructuralTyping.Contract.Format
/-!
# Formats of file names

The format of a contract file depends on its name alone, which is the last component of the
path that is neither empty nor a single point. It is a format if the name ends in a point and
the extension of the format, and something stands before that point. Directories in front of
the name have no say, and neither have slashes and single points behind it.
-/
set_option autoImplicit false

namespace StructuralTyping

/-- What stands before the name of a file: nothing, or something up to a slash. -/
def IsDirectory (text : List Char) : Prop := text = [] ∨ ∃ front, text = front ++ ['/']

/-- What stands behind the name of a file and is no name: slashes, and single points behind a
slash. Such a point is a component of its own, because another slash or nothing follows. -/
inductive Trails : List Char → Prop where
  | nothing : Trails []
  | slash {rest : List Char} (further : Trails rest) : Trails ('/' :: rest)
  | point {rest : List Char} (further : Trails rest) : Trails ('/' :: '.' :: rest)

/-- One component of a path that names something: it is neither empty nor a single point. -/
structure IsName (name : List Char) : Prop where
  undivided : '/' ∉ name
  ne_nil : name ≠ []
  ne_point : name ≠ ['.']

/-- A path to a file with the extension. The name of the file is more than its extension. -/
def HasExtension (path extension : String) : Prop :=
  ∃ directory stem tail : String,
    path = directory ++ stem ++ "." ++ extension ++ tail ∧ IsDirectory directory.toList ∧
      stem ≠ "" ∧ '/' ∉ stem.toList ∧ Trails tail.toList

section Segments

variable {path name directory tail : List Char} {before after : List (List Char)}

/-- A slash separates the segments before it from those behind it. -/
theorem pathSegments_append_slash (front behind : List Char) :
    pathSegments (front ++ '/' :: behind) = pathSegments front ++ pathSegments behind := by
  simp only [pathSegments_eq_splitOn, List.splitOn_append_cons_self]

/-- A part without a slash is not divided. -/
theorem pathSegments_of_notMem (undivided : '/' ∉ name) : pathSegments name = [name] := by
  rw [pathSegments_eq_splitOn, List.splitOn_eq_singleton undivided]

/-- No segment holds a slash. -/
theorem notMem_of_mem_pathSegments (member : name ∈ pathSegments path) : '/' ∉ name := by
  induction path generalizing name with
  | nil =>
    rw [pathSegments, List.mem_singleton] at member
    simp [member]
  | cons c rest inductionHypothesis =>
    rw [pathSegments] at member
    split at member
    · rcases List.mem_cons.1 member with here | there
      · simp [here]
      · exact inductionHypothesis there
    · rename_i noSlash
      split at member
      · rw [List.mem_singleton] at member
        simpa [member] using Ne.symm noSlash
      · rename_i first later parts
        rw [parts] at inductionHypothesis
        rcases List.mem_cons.1 member with here | there
        · have undivided := inductionHypothesis List.mem_cons_self
          simp [here, Ne.symm noSlash, undivided]
        · exact inductionHypothesis (List.mem_cons_of_mem _ there)

/-- A directory does not run into the name behind it. -/
theorem pathSegments_behind_directory (leads : IsDirectory directory) (rest : List Char) :
    ∃ before, pathSegments (directory ++ rest) = before ++ pathSegments rest := by
  rcases leads with rfl | ⟨front, rfl⟩
  · exact ⟨[], rfl⟩
  · refine ⟨pathSegments front, ?_⟩
    rw [List.append_assoc, List.singleton_append, pathSegments_append_slash]

/-- Behind a name only segments follow that are no names. -/
theorem pathSegments_trailed (undivided : '/' ∉ name) (trails : Trails tail) :
    ∃ after, pathSegments (name ++ tail) = name :: after ∧
      ∀ part ∈ after, part = [] ∨ part = ['.'] := by
  induction trails generalizing name with
  | nothing => exact ⟨[], by rw [List.append_nil, pathSegments_of_notMem undivided], by simp⟩
  | @slash rest _ inductionHypothesis =>
    have undividedNext : '/' ∉ ([] : List Char) := List.not_mem_nil
    obtain ⟨after, parts, idle⟩ := inductionHypothesis undividedNext
    refine ⟨[] :: after, ?_, List.forall_mem_cons.2 ⟨Or.inl rfl, idle⟩⟩
    rw [pathSegments_append_slash, pathSegments_of_notMem undivided]
    exact congrArg ([name] ++ ·) parts
  | @point rest _ inductionHypothesis =>
    have undividedNext : '/' ∉ ['.'] := by decide
    obtain ⟨after, parts, idle⟩ := inductionHypothesis undividedNext
    refine ⟨['.'] :: after, ?_, List.forall_mem_cons.2 ⟨Or.inr rfl, idle⟩⟩
    rw [pathSegments_append_slash, pathSegments_of_notMem undivided]
    exact congrArg ([name] ++ ·) parts

/-- Segments with slashes between them make up a path. -/
theorem intercalate_segments (before after : List (List Char)) (name : List Char) :
    ['/'].intercalate (before ++ name :: after) =
      before.flatMap (· ++ ['/']) ++ name ++ after.flatMap ('/' :: ·) := by
  induction before generalizing name with
  | nil =>
    induction after generalizing name with
    | nil => simp
    | cons first later inductionHypothesis =>
      rw [List.nil_append, List.intercalate_cons_cons, ← List.nil_append (first :: later),
        inductionHypothesis]
      simp
  | cons first later inductionHypothesis =>
    have joined := inductionHypothesis name
    cases later with
    | nil =>
      rw [List.nil_append] at joined
      rw [List.cons_append, List.nil_append, List.intercalate_cons_cons, joined]
      simp
    | cons second further =>
      rw [List.cons_append] at joined
      rw [List.cons_append, List.cons_append, List.intercalate_cons_cons, joined]
      simp

/-- Segments that each end in a slash are a directory. -/
theorem isDirectory_flatMap (before : List (List Char)) :
    IsDirectory (before.flatMap (· ++ ['/'])) := by
  rcases List.eq_nil_or_concat' before with rfl | ⟨front, last, rfl⟩
  · exact Or.inl rfl
  · refine Or.inr ⟨front.flatMap (· ++ ['/']) ++ last, ?_⟩
    simp

/-- Segments that are no names stand behind a name. -/
theorem trails_flatMap (idle : ∀ part ∈ after, part = [] ∨ part = ['.']) :
    Trails (after.flatMap ('/' :: ·)) := by
  induction after with
  | nil => exact Trails.nothing
  | cons part later inductionHypothesis =>
    obtain ⟨here, there⟩ := List.forall_mem_cons.1 idle
    have further := inductionHypothesis there
    rcases here with rfl | rfl
    · exact Trails.slash further
    · exact Trails.point further

/-- A path is a directory, a name and a tail exactly if the name is the last of its segments
that is one. -/
theorem lastName_iff :
    (pathSegments path).reverse.find? (fun segment => segment ≠ [] ∧ segment ≠ ['.']) =
        some name ↔
      IsName name ∧
        ∃ directory tail, path = directory ++ name ++ tail ∧ IsDirectory directory ∧ Trails tail := by
  rw [List.find?_eq_some_iff_append]
  constructor
  · rintro ⟨named, after, before, parts, idle⟩
    rw [decide_eq_true_eq] at named
    have segments : pathSegments path = before.reverse ++ name :: after.reverse := by
      rw [← List.reverse_reverse (pathSegments path), parts]
      simp
    have among : name ∈ pathSegments path := by simp [segments]
    have undivided : '/' ∉ name := notMem_of_mem_pathSegments among
    refine ⟨⟨undivided, named.1, named.2⟩, before.reverse.flatMap (· ++ ['/']),
      after.reverse.flatMap ('/' :: ·), ?_, isDirectory_flatMap _, trails_flatMap ?_⟩
    · rw [← intercalate_segments, ← segments, pathSegments_eq_splitOn, List.intercalate_splitOn]
    · intro part member
      have noName := idle part (List.mem_reverse.1 member)
      simpa [or_iff_not_imp_left] using noName
  · rintro ⟨named, directory, tail, rfl, leads, trails⟩
    obtain ⟨before, front⟩ := pathSegments_behind_directory leads (name ++ tail)
    obtain ⟨after, behind, idle⟩ := pathSegments_trailed named.undivided trails
    refine ⟨by simp [named.ne_nil, named.ne_point], after.reverse, before.reverse, ?_, ?_⟩
    · rw [List.append_assoc, front, behind]
      simp
    · intro part member
      rcases idle part (List.mem_reverse.1 member) with rfl | rfl <;> rfl

/-- The file name of a path is the name that stands between a directory and a tail, unless it
leads back up. -/
theorem fileName?_eq_some_iff :
    fileName? path = some name ↔
      IsName name ∧ name ≠ ['.', '.'] ∧
        ∃ directory tail, path = directory ++ name ++ tail ∧ IsDirectory directory ∧ Trails tail := by
  rw [fileName?]
  constructor
  · intro found
    split at found
    · rename_i other last
      split at found
      · cases found
      · rename_i notUp
        obtain rfl := Option.some.inj found
        obtain ⟨named, parts⟩ := lastName_iff.1 last
        exact ⟨named, notUp, parts⟩
    · cases found
  · rintro ⟨named, notUp, parts⟩
    rw [lastName_iff.2 ⟨named, parts⟩]
    exact if_neg notUp

end Segments

section Extensions

variable {name stem extension : List Char}

/-- A point in front of the extension counts if something stands before it. -/
theorem extension?_append (noPoint : '.' ∉ extension) :
    extension? (stem ++ '.' :: extension) = if stem = [] then none else some extension := by
  have reversed : (stem ++ '.' :: extension).reverse = extension.reverse ++ '.' :: stem.reverse := by
    simp
  have passed : ∀ c ∈ extension.reverse, decide (c ≠ '.') = true := by
    intro c member
    rw [List.mem_reverse] at member
    exact decide_eq_true fun same => noPoint (same ▸ member)
  simp only [extension?, reversed, List.dropWhile_append_of_pos passed,
    List.takeWhile_append_of_pos passed]
  rcases List.eq_nil_or_concat' stem with rfl | ⟨front, last, rfl⟩ <;> simp

/-- The extension of a name stands behind its last point, with something before that. -/
theorem extension?_eq_some_iff :
    extension? name = some extension ↔
      '.' ∉ extension ∧ ∃ stem, stem ≠ [] ∧ name = stem ++ '.' :: extension := by
  constructor
  · intro found
    rw [extension?] at found
    have divided := List.takeWhile_append_dropWhile (p := (· ≠ '.')) (l := name.reverse)
    have noPoint : '.' ∉ name.reverse.takeWhile (· ≠ '.') := fun member => by
      simpa using List.mem_takeWhile_imp member
    split at found
    · cases found
    · cases found
    · rename_i c last stem behind
      obtain rfl := Option.some.inj found
      have point : c = '.' := by
        have first := List.head?_dropWhile_not (· ≠ '.') name.reverse
        rw [behind] at first
        simpa using first
      refine ⟨by simpa only [List.mem_reverse] using noPoint, (last :: stem).reverse, by simp, ?_⟩
      rw [behind, point] at divided
      have turned := congrArg List.reverse divided
      rw [List.reverse_reverse, List.reverse_append, List.reverse_cons, List.append_assoc,
        List.singleton_append] at turned
      exact turned.symm
  · rintro ⟨noPoint, stem, nonempty, rfl⟩
    rw [extension?_append noPoint, if_neg nonempty]

end Extensions

namespace ContractFormat

variable {directory name tail : List Char} {path extension : String} {format : ContractFormat}

/-- An extension tells the format that is named after it. -/
theorem ofExtension?_eq_some_iff {extension : List Char} :
    ofExtension? extension = some format ↔ extension = format.extension.toList := by
  rw [ofExtension?]
  split
  · rename_i isJson
    cases format <;> simp [isJson, ContractFormat.extension]
  · rename_i notJson
    split
    · rename_i isToml
      cases format <;> simp [isToml, ContractFormat.extension]
    · rename_i notToml
      cases format <;> simp [notJson, notToml]

/-- A path has a format exactly if its file name has the extension of the format. -/
theorem ofPath?_eq_some_iff :
    ofPath? path = some format ↔
      ∃ name, fileName? path.toList = some name ∧
        extension? name = some format.extension.toList := by
  rw [ofPath?]
  constructor
  · intro found
    split at found
    · rename_i name named
      split at found
      · rename_i extension extended
        rw [ofExtension?_eq_some_iff] at found
        exact ⟨name, named, found ▸ extended⟩
      · cases found
    · cases found
  · rintro ⟨name, named, extended⟩
    simp only [named, extended]
    exact ofExtension?_eq_some_iff.2 rfl

/-- No extension of a format is empty or has a slash or a point in it. -/
theorem notMem_extension (format : ContractFormat) :
    '/' ∉ format.extension.toList ∧ '.' ∉ format.extension.toList ∧
      format.extension.toList ≠ [] := by
  cases format <;> decide

/-- Between a directory and a tail, the extension of the name decides. A pair of points is a name
that leads back up; its extension would be empty, which is none of a format. -/
theorem ofPath?_iff_of_name (parts : path.toList = directory ++ name ++ tail)
    (leads : IsDirectory directory) (named : IsName name) (trails : Trails tail) :
    ofPath? path = some format ↔ extension? name = some format.extension.toList := by
  rw [ofPath?_eq_some_iff, parts]
  by_cases up : name = ['.', '.']
  · subst up
    have last := lastName_iff.2 ⟨named, directory, tail, rfl, leads, trails⟩
    have noName : fileName? (directory ++ ['.', '.'] ++ tail) = none := by
      rw [fileName?, last]
      exact if_pos rfl
    have empty : extension? ['.', '.'] = some [] := rfl
    rw [noName, empty]
    simp [(notMem_extension format).2.2.symm]
  · have found : fileName? (directory ++ name ++ tail) = some name :=
      fileName?_eq_some_iff.2 ⟨named, up, directory, tail, rfl, leads, trails⟩
    simp only [found, Option.some.injEq, exists_eq_left']

/-- The format of a path is that of its extension. -/
theorem ofPath?_eq_some_iff_hasExtension :
    ofPath? path = some format ↔ HasExtension path format.extension := by
  obtain ⟨undivided, noPoint, nonempty⟩ := notMem_extension format
  constructor
  · intro found
    obtain ⟨name, fileName, extended⟩ := ofPath?_eq_some_iff.1 found
    obtain ⟨named, -, directory, tail, parts, leads, trails⟩ := fileName?_eq_some_iff.1 fileName
    obtain ⟨-, stem, stemmed, rfl⟩ := extension?_eq_some_iff.1 extended
    have stemUndivided : '/' ∉ stem := fun member =>
      named.undivided (List.mem_append_left _ member)
    refine ⟨String.ofList directory, String.ofList stem, String.ofList tail, ?_, ?_, ?_, ?_, ?_⟩
    · rw [← String.toList_inj, parts]
      simp
    · rwa [String.toList_ofList]
    · simpa using stemmed
    · rwa [String.toList_ofList]
    · rwa [String.toList_ofList]
  · rintro ⟨directory, stem, tail, rfl, leads, stemmed, stemUndivided, trails⟩
    have named : IsName (stem.toList ++ '.' :: format.extension.toList) := by
      refine ⟨by simp [undivided, stemUndivided], by simp, fun point => ?_⟩
      have stemEmpty : stem.toList = [] := (List.append_eq_singleton_iff.1 point).elim
        And.left fun both => absurd both.2 (by simp)
      exact stemmed (String.toList_eq_nil_iff.1 stemEmpty)
    rw [ofPath?_iff_of_name (by simp) leads named trails, extension?_eq_some_iff]
    exact ⟨noPoint, stem.toList, by simpa using stemmed, rfl⟩

/-- A path has a format exactly if it leads to a file with the extension of the format, whose
name is more than the extension; slashes and single points behind the name do not count. It is
the name that decides: no directory and nothing idle behind the name makes a difference. So no
path has a format whose name is an extension and nothing else, leads back up, or ends in any
other extension, such as one in other letters. -/
theorem formats_are_told_by_file_names :
    (∀ path, (ofPath? path = some .json ↔ HasExtension path "json") ∧
      (ofPath? path = some .toml ↔ HasExtension path "toml") ∧
      (ofPath? path = none ↔ ¬HasExtension path "json" ∧ ¬HasExtension path "toml")) ∧
    (∀ directory name tail : String, IsDirectory directory.toList → IsName name.toList →
      Trails tail.toList → ofPath? (directory ++ name ++ tail) = ofPath? name) ∧
    (∀ stem extension : String, IsName (stem ++ "." ++ extension).toList →
      '.' ∉ extension.toList → (∀ format : ContractFormat, extension ≠ format.extension) →
      ofPath? (stem ++ "." ++ extension) = none) ∧
    (∀ format : ContractFormat, ofPath? ("." ++ format.extension) = none) ∧
    ofPath? ".." = none := by
  refine ⟨fun path => ⟨ofPath?_eq_some_iff_hasExtension, ofPath?_eq_some_iff_hasExtension, ?_⟩,
    fun directory name tail leads named trails => ?_, fun stem extension named noPoint other => ?_,
    fun format => ?_, by decide⟩
  · have json : ofPath? path = some .json ↔ HasExtension path "json" :=
      ofPath?_eq_some_iff_hasExtension
    have toml : ofPath? path = some .toml ↔ HasExtension path "toml" :=
      ofPath?_eq_some_iff_hasExtension
    rw [← json, ← toml]
    cases ofPath? path with
    | none => simp
    | some format => cases format <;> simp
  · refine Option.ext fun format => ?_
    rw [ofPath?_iff_of_name (by simp) leads named trails,
      ofPath?_iff_of_name (by simp) (Or.inl rfl) named Trails.nothing]
  · rw [Option.eq_none_iff_forall_ne_some]
    intro format found
    rw [ofPath?_iff_of_name (by simp) (Or.inl rfl) named Trails.nothing] at found
    have parts : (stem ++ "." ++ extension).toList = stem.toList ++ '.' :: extension.toList := by
      simp
    rw [parts, extension?_append noPoint] at found
    split at found
    · cases found
    · exact other format (String.toList_inj.1 (Option.some.inj found))
  · cases format <;> decide

/-- A directory that is called like a contract lends its format to no file in it. A name that is
a point before its extension has a format, whatever idle parts follow. Capitals are another
extension. -/
theorem extension_of_directory_is_not_lent :
    ofPath? "v1.json/./..toml/.//" = some .toml ∧ ofPath? "v1.json/readme/" = ofPath? "readme" ∧
      ofPath? "math.JSON" = none := by
  obtain ⟨told, around, otherwise, _⟩ := formats_are_told_by_file_names
  refine ⟨(told _).2.1.2 ⟨"v1.json/./", ".", "/.//", by decide, ?_, by decide, by decide, ?_⟩,
    around "v1.json/" "readme" "/" ?_ ⟨by decide, by decide, by decide⟩ (.slash .nothing),
    otherwise "math" "JSON" ⟨by decide, by decide, by decide⟩ (by decide) ?_⟩
  · exact Or.inr ⟨"v1.json/.".toList, by decide⟩
  · exact .point (.slash (.slash .nothing))
  · exact Or.inr ⟨"v1.json".toList, by decide⟩
  · rintro (_ | _) <;> decide

end ContractFormat

end StructuralTyping
