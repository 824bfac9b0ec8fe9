import StructuralTyping.Contract.Load
/-!
# Interfaces in files

A path leads from one component to the next, from the top of the system or from the directory
in which relative paths begin, and what it leads to is either a file or a directory. A file is
read as an interface like a text that comes from no file: both give one interface, or one problem
at one place in the text, and only the path that is named with it differs. That goes for texts
that are no TOML documents, too, whatever is reported of them. So of the whole system nothing but
the content of that one file matters. What cannot be read as text is reported before any text is
looked at, and a name without a format even before the file is looked for.
-/
set_option autoImplicit false

namespace StructuralTyping

namespace FileTree

/-- Where components lead to from a place in a tree. `above` are the directories that the place
stands in, the closest first. Only directories lead on: an empty component and a single point
stay where they are, a pair of points leads back, but stays at the top, and any other component
leads to the entry of this name. -/
inductive Leads : FileTree → List FileTree → List (List Char) → FileTree → Prop where
  | arrived (found : FileTree) (above : List FileTree) : Leads found above [] found
  | stays {entries : List (String × FileTree)} {above : List FileTree} {part : List Char}
      {later : List (List Char)} {found : FileTree} (idle : part = [] ∨ part = ['.'])
      (onward : Leads (directory entries) above later found) :
      Leads (directory entries) above (part :: later) found
  | back {entries : List (String × FileTree)} {parent : FileTree} {further : List FileTree}
      {later : List (List Char)} {found : FileTree} (onward : Leads parent further later found) :
      Leads (directory entries) (parent :: further) (['.', '.'] :: later) found
  | top {entries : List (String × FileTree)} {later : List (List Char)} {found : FileTree}
      (onward : Leads (directory entries) [] later found) :
      Leads (directory entries) [] (['.', '.'] :: later) found
  | enters {entries : List (String × FileTree)} {above : List FileTree} {part : List Char}
      {later : List (List Char)} {next found : FileTree} (busy : part ≠ [] ∧ part ≠ ['.'])
      (down : part ≠ ['.', '.']) (entry : entries.lookup (String.ofList part) = some next)
      (onward : Leads next (directory entries :: above) later found) :
      Leads (directory entries) above (part :: later) found

variable {current found : FileTree} {above : List FileTree} {parts : List (List Char)}

/-- The walk along components ends where they lead to. -/
theorem walk_eq_ok_iff : walk current above parts = .ok found ↔ Leads current above parts found := by
  constructor
  · intro walked
    fun_induction walk current above parts with
    | case1 current above =>
      cases walked
      exact Leads.arrived _ _
    | case2 => cases walked
    | case3 above part later entries idle inductionHypothesis =>
      exact Leads.stays idle (inductionHypothesis walked)
    | case4 later entries parent further busy inductionHypothesis =>
      exact Leads.back (inductionHypothesis walked)
    | case5 later entries busy inductionHypothesis =>
      exact Leads.top (inductionHypothesis walked)
    | case6 above part later entries busy down next entry inductionHypothesis =>
      exact Leads.enters (not_or.1 busy) down entry (inductionHypothesis walked)
    | case7 => cases walked
  · intro leads
    induction leads with
    | arrived => rfl
    | stays idle _ inductionHypothesis => simpa [walk, idle] using inductionHypothesis
    | back _ inductionHypothesis => simpa [walk] using inductionHypothesis
    | top _ inductionHypothesis => simpa [walk] using inductionHypothesis
    | enters busy down entry _ inductionHypothesis =>
      simp [walk, busy, down, entry, inductionHypothesis]

/-- A walk that ends early has met no file. -/
theorem walk_ne_notText : walk current above parts ≠ .error .notText := by
  intro failed
  fun_induction walk current above parts <;> simp_all

end FileTree

namespace FileSystem

/-- The path leads to a file with this content. An empty path leads nowhere. -/
def Holds (files : FileSystem) (path : String) (content : ByteArray) : Prop :=
  path.toList ≠ [] ∧ files.top.Leads [] (files.fromTop path) (.file content)

variable {files : FileSystem} {path text : String} {content : ByteArray}

/-- A file is found at a path exactly if the path holds its content. -/
theorem find_eq_file_iff : files.find path = .ok (.file content) ↔ files.Holds path content := by
  rw [find, Holds]
  by_cases blank : path.toList = []
  · simp [blank]
  · simp [blank, FileTree.walk_eq_ok_iff]

/-- Bytes are the text that they encode. -/
theorem fromUTF8?_eq_some_iff : String.fromUTF8? content = some text ↔ content = text.toUTF8 := by
  rw [String.fromUTF8?]
  constructor
  · intro decoded
    split at decoded
    · cases decoded
      rfl
    · cases decoded
  · rintro rfl
    exact dif_pos text.isValidUTF8

/-- What is read depends on the content alone. -/
theorem readText_of_holds (holds : files.Holds path content) :
    files.readText path = (String.fromUTF8? content).elim (.error .notText) .ok := by
  simp only [readText, find_eq_file_iff.2 holds]
  cases String.fromUTF8? content <;> rfl

/-- A text is read exactly if the path holds its encoding. -/
theorem readText_eq_ok_iff : files.readText path = .ok text ↔ files.Holds path text.toUTF8 := by
  constructor
  · intro read
    rw [readText] at read
    split at read
    · cases read
    · cases read
    · rename_i content found
      split at read
      · rename_i decoded
        cases read
        rw [← fromUTF8?_eq_some_iff.1 decoded, ← find_eq_file_iff, found]
      · cases read
  · intro holds
    rw [readText_of_holds holds, fromUTF8?_eq_some_iff.2 rfl, Option.elim_some]

/-- Finding no file is not a matter of its encoding. -/
theorem find_ne_notText : files.find path ≠ .error .notText := by
  rw [find]
  split
  · rintro ⟨⟩
  · exact FileTree.walk_ne_notText

/-- Where no text can be read, it is because of the encoding exactly if the path holds
something. -/
theorem readText_eq_notText_iff (unread : ∀ text, files.readText path ≠ .ok text) :
    files.readText path = .error .notText ↔ ∃ content, files.Holds path content := by
  constructor
  · intro failed
    rw [readText] at failed
    split at failed
    · rename_i cause found
      cases failed
      exact absurd found find_ne_notText
    · cases failed
    · rename_i content found
      exact ⟨content, find_eq_file_iff.1 found⟩
  · rintro ⟨content, holds⟩
    rw [readText_of_holds holds] at unread ⊢
    cases decoded : String.fromUTF8? content with
    | some text => exact absurd (by rw [decoded, Option.elim_some]) (unread text)
    | none => rfl

end FileSystem

/-- The errors that are reported as an invalid argument, not as a problem of a file. -/
def ContractError.isInvalidArgument : ContractError → Bool
  | malformed _ | unsupported _ => true
  | unreadable _ _ | json _ _ _ | toml _ _ _ => false

namespace Interface

/-- Reads a text that comes from no file. -/
def ofInline (report : Toml.Report) : ContractFormat → String → Except ContractError Interface
  | .json => ofJson
  | .toml => ofToml report

/-- What the reading of a text that comes from no file and the reading of a file have in common:
the interface, or the kind of the error and the fault, with its cause and its place in the text.
The one error names no file, the other one the path. -/
inductive ReadAlike (path : String) :
    Except ContractError Interface → Except ContractError Interface → Prop where
  | read (d : Interface) : ReadAlike path (.ok d) (.ok d)
  | json (text : List Char) (fault : Json.Fault) :
      ReadAlike path (.error (.json inlinePath text fault)) (.error (.json path text fault))
  | toml (text : List Char) (fault : Toml.Fault) :
      ReadAlike path (.error (.toml inlinePath text fault)) (.error (.toml path text fault))

variable {report : Toml.Report} {path text : String} {format : ContractFormat}
  {files : FileSystem} {inline loaded : Except ContractError Interface}

/-- The path under which a text is read only names the file. -/
theorem readAlike_ofText (report : Toml.Report) (format : ContractFormat) (path text : String) :
    ReadAlike path (ofInline report format text) (ofText report format path text) := by
  cases format with
  | json =>
    simp only [ofInline, ofJson, ofText, ofJsonAt]
    split
    · exact ReadAlike.read _
    · exact ReadAlike.json _ _
  | toml =>
    simp only [ofInline, ofToml, ofText, ofTomlAt]
    split
    · exact ReadAlike.read _
    · exact ReadAlike.toml _ _

/-- Both readings give one interface. -/
theorem ReadAlike.eq_ok_iff (alike : ReadAlike path inline loaded) (d : Interface) :
    loaded = .ok d ↔ inline = .ok d := by
  cases alike <;> simp

/-- A fault in a JSON text is found by both readings. -/
theorem ReadAlike.eq_json (alike : ReadAlike path inline loaded) {text : List Char}
    {fault : Json.Fault} (failed : inline = .error (.json inlinePath text fault)) :
    loaded = .error (.json path text fault) := by
  cases alike <;> cases failed
  rfl

/-- A fault in a TOML text is found by both readings. -/
theorem ReadAlike.eq_toml (alike : ReadAlike path inline loaded) {text : List Char}
    {fault : Toml.Fault} (failed : inline = .error (.toml inlinePath text fault)) :
    loaded = .error (.toml path text fault) := by
  cases alike <;> cases failed
  rfl

/-- What is wrong with a text is not reported as an invalid argument. -/
theorem ReadAlike.not_isInvalidArgument (alike : ReadAlike path inline loaded) {e : ContractError}
    (failed : loaded = .error e) : e.isInvalidArgument = false := by
  cases alike <;> cases failed <;> rfl

/-- An error about a text tells its fault in the same words, whatever path it names. -/
theorem message_of_ofText {e : ContractError} (failed : ofText report format path text = .error e) :
    ∃ inlined cause, ofInline report format text = .error inlined ∧
      inlined.message = ContractError.heading format inlinePath ++ cause ∧
      e.message = ContractError.heading format path ++ cause := by
  cases format with
  | json =>
    simp only [ofText, ofJsonAt] at failed
    split at failed <;> rename_i read <;> cases failed
    exact ⟨_, _, ofJsonAt_eq_error_iff.2 read, rfl, rfl⟩
  | toml =>
    simp only [ofText, ofTomlAt] at failed
    split at failed <;> rename_i read <;> cases failed
    exact ⟨_, _, ofTomlAt_eq_error_iff.2 read, rfl, rfl⟩

/-- A name without a format is refused, whatever the files are. -/
theorem load_of_unsupported (unsupported : ContractFormat.ofPath? path = none)
    (files : FileSystem) : load report files path = .error (.unsupported path) := by
  simp only [load, unsupported]

/-- The text that a path holds is read in the format of the path. -/
theorem load_of_holds (named : ContractFormat.ofPath? path = some format)
    (holds : files.Holds path text.toUTF8) :
    load report files path = ofText report format path text := by
  simp only [load, named, FileSystem.readText_eq_ok_iff.2 holds]

/-- Where there is no text to be read, this is what is reported. -/
theorem load_of_not_holds (named : ContractFormat.ofPath? path = some format)
    (unread : ¬∃ text : String, files.Holds path text.toUTF8) :
    ∃ cause, load report files path = .error (.unreadable path cause) ∧
      (cause = .notText ↔ ∃ content, files.Holds path content) := by
  have noText : ∀ text, files.readText path ≠ .ok text := fun text read =>
    unread ⟨text, FileSystem.readText_eq_ok_iff.1 read⟩
  cases read : files.readText path with
  | ok text => exact absurd read (noText text)
  | error cause =>
    refine ⟨cause, by simp only [load, named, read], ?_⟩
    rw [← FileSystem.readText_eq_notText_iff noText, read, Except.error.injEq]

/-- Loading a file is reading the text that its path holds. If the name has no format, the path
is refused, whatever the files are. Otherwise, if the path holds no text, the error is that
the file cannot be read, because of its encoding if the path holds any content. And if it
does hold a text, the outcome is the one that the text has in the format of the name when it
comes from no file: the same interface, or the same fault at the same place in an error of the
same kind, with the path in it; also a text that is no document at all is refused with the
report that it has without a file. Both errors tell the fault in the same words. So what is loaded
depends on no other content of the system, and an error is reported as an invalid argument only
if the name has no format. -/
theorem files_are_read_as_their_texts (report : Toml.Report) (path : String) :
    (ContractFormat.ofPath? path = none → ∀ files,
      load report files path = .error (.unsupported path) ∧
        (ContractError.unsupported path).message =
          "invalid argument: unsupported contract file `" ++ path ++
            "` (expected .json or .toml)") ∧
    (∀ format, ContractFormat.ofPath? path = some format → ∀ files,
      ((¬∃ text : String, files.Holds path text.toUTF8) →
        ∃ cause, load report files path = .error (.unreadable path cause) ∧
          (cause = .notText ↔ ∃ content, files.Holds path content)) ∧
      ∀ text : String, files.Holds path text.toUTF8 →
        (∀ d, load report files path = .ok d ↔ ofInline report format text = .ok d) ∧
        ReadAlike path (ofInline report format text) (load report files path) ∧
        ∀ e, load report files path = .error e → ∃ inlined cause,
          ofInline report format text = .error inlined ∧
            inlined.message = ContractError.heading format inlinePath ++ cause ∧
            e.message = ContractError.heading format path ++ cause) ∧
    (∀ files others content, files.Holds path content → others.Holds path content →
      load report files path = load report others path) ∧
    ∀ files e, load report files path = .error e →
      (e.isInvalidArgument = true ↔ ContractFormat.ofPath? path = none) := by
  refine ⟨fun unsupported files => ⟨load_of_unsupported unsupported files, rfl⟩,
    fun format named files => ⟨load_of_not_holds named, fun text holds => ?_⟩,
    fun files others content holds held => ?_, fun files e failed => ?_⟩
  · rw [load_of_holds named holds]
    have alike := readAlike_ofText report format path text
    exact ⟨alike.eq_ok_iff, alike, fun e => message_of_ofText⟩
  · rw [load, load, FileSystem.readText_of_holds holds, FileSystem.readText_of_holds held]
  · cases named : ContractFormat.ofPath? path with
    | none =>
      rw [load_of_unsupported named] at failed
      cases failed
      simp [ContractError.isInvalidArgument]
    | some format =>
      have valid : e.isInvalidArgument = false := by
        by_cases readable : ∃ text : String, files.Holds path text.toUTF8
        · obtain ⟨text, holds⟩ := readable
          rw [load_of_holds named holds] at failed
          exact (readAlike_ofText report format path text).not_isInvalidArgument failed
        · obtain ⟨cause, unread, -⟩ := load_of_not_holds named readable
          rw [unread] at failed
          cases failed
          rfl
      simp [valid]

/-- A text that declares one function twice. -/
def repeatingText : String := "\x7b\"f\":[],\"f\":[]\x7d"

/-- A system with that text in a file and a text that is no document beside the directory in
which paths begin. In this directory is another one, with a file that is no text. -/
def contractFiles : FileSystem where
  top := .directory [("math.json", .file repeatingText.toUTF8), ("bare.toml", .file "a".toUTF8),
    ("work", .directory [("old.toml", .directory [("bytes.json", .file ⟨#[255]⟩)])])]
  here := ["work".toList]

/-- What is reported of a name with nothing behind it: a sign is missing at the end. -/
def missingSign : Toml.Report := fun _ => ⟨"expected `.`, `=`", some ⟨0, 0⟩⟩

/-- The repetition is reported with the path, in whatever way the path leads to the file, and so
is what is missing in the text that is no document, with its place. The bytes that are no text
are reported as such. A directory is not taken for the contract that it is called like, and a
name in capitals is refused before anything is found. -/
theorem repetition_in_a_file_is_reported :
    load missingSign contractFiles "old.toml/../../math.json" =
        .error (.json "old.toml/../../math.json" repeatingText.toList
          (.before (.duplicate ⟨"f"⟩) [])) ∧
      (∃ e, load missingSign contractFiles "../bare.toml" = .error e ∧ e.message =
        "invalid toml at ../bare.toml: TOML parse error at line 1, column 2\n" ++
          "  |\n1 | a\n  |  ^\nexpected `.`, `=`\n") ∧
      load missingSign contractFiles "old.toml/bytes.json" =
        .error (.unreadable "old.toml/bytes.json" .notText) ∧
      (∃ cause, load missingSign contractFiles "old.toml" =
          .error (.unreadable "old.toml" cause) ∧ cause ≠ .notText) ∧
      load missingSign contractFiles "MATH.JSON" = .error (.unsupported "MATH.JSON") := by
  have inlineJson : ofInline missingSign .json repeatingText =
      .error (.json inlinePath repeatingText.toList (.before (.duplicate ⟨"f"⟩) [])) :=
    ofJsonAt_eq_error_iff.2 (by with_unfolding_all rfl)
  have noDocument : Toml.root? "a".toList = none :=
    Option.isNone_iff_eq_none.1 (by decide +kernel)
  have inlineToml : ofInline missingSign .toml "a" =
      .error (.toml inlinePath "a".toList (.malformed ⟨"expected `.`, `=`", some ⟨0, 0⟩⟩)) :=
    ofTomlAt_eq_error_iff.2 (by rw [Toml.contract, noDocument]; rfl)
  have holdsRepetition : contractFiles.Holds "old.toml/../../math.json" repeatingText.toUTF8 :=
    ⟨by decide, .enters (by decide) (by decide) rfl (.enters (by decide) (by decide) rfl
      (.back (.back (.enters (by decide) (by decide) rfl (.arrived _ _)))))⟩
  have holdsBare : contractFiles.Holds "../bare.toml" "a".toUTF8 :=
    ⟨by decide, .enters (by decide) (by decide) rfl
      (.back (.enters (by decide) (by decide) rfl (.arrived _ _)))⟩
  have holdsBytes : contractFiles.Holds "old.toml/bytes.json" ⟨#[255]⟩ :=
    ⟨by decide, .enters (by decide) (by decide) rfl (.enters (by decide) (by decide) rfl
      (.enters (by decide) (by decide) rfl (.arrived _ _)))⟩
  have noText : ∀ {path cause}, contractFiles.readText path = .error cause →
      ¬∃ text : String, contractFiles.Holds path text.toUTF8 := by
    rintro path cause failed ⟨text, readable⟩
    rw [FileSystem.readText_eq_ok_iff.2 readable] at failed
    cases failed
  have bytes : contractFiles.readText "old.toml/bytes.json" = .error .notText := rfl
  have directory : contractFiles.readText "old.toml" = .error .isADirectory := rfl
  refine ⟨?_, ?_, ?_, ?_, ?_⟩
  · obtain ⟨-, named, -⟩ := files_are_read_as_their_texts missingSign "old.toml/../../math.json"
    have alike := ((named .json (by decide) contractFiles).2 repeatingText holdsRepetition).2.1
    exact alike.eq_json inlineJson
  · obtain ⟨-, named, -⟩ := files_are_read_as_their_texts missingSign "../bare.toml"
    have alike := ((named .toml (by decide) contractFiles).2 "a" holdsBare).2.1
    exact ⟨_, alike.eq_toml inlineToml, by decide +kernel⟩
  · obtain ⟨-, named, -⟩ := files_are_read_as_their_texts missingSign "old.toml/bytes.json"
    obtain ⟨cause, failed, encoding⟩ := (named .json (by decide) contractFiles).1 (noText bytes)
    rw [failed, encoding.2 ⟨_, holdsBytes⟩]
  · obtain ⟨-, named, -⟩ := files_are_read_as_their_texts missingSign "old.toml"
    obtain ⟨cause, failed, encoding⟩ :=
      (named .toml (by decide) contractFiles).1 (noText directory)
    refine ⟨cause, failed, fun same => ?_⟩
    obtain ⟨content, held⟩ := encoding.1 same
    rw [FileSystem.readText_of_holds held] at directory
    cases decoded : String.fromUTF8? content <;> rw [decoded] at directory <;> cases directory
  · exact ((files_are_read_as_their_texts missingSign "MATH.JSON").1 (by decide) contractFiles).1

end Interface

end StructuralTyping
