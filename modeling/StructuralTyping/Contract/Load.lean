import StructuralTyping.Contract.FileTree
import StructuralTyping.Interface.Literal
import StructuralTyping.Json.Contract
import StructuralTyping.Toml.Contract
/-!
# Reading contracts

An interface comes from a text in one of the two formats, from a file whose name
tells the format, or from a value. Errors keep the path that was asked for; a
text that comes from no file stands under the path `<inline>`. What is reported of
a text that is no TOML document is a parameter of all readers.
-/
set_option autoImplicit false

namespace StructuralTyping

/-- Why no interface could be had. Faults in a text keep the text, so that their
place can be shown. -/
inductive ContractError where
  | malformed (cause : Malformed)
  | unsupported (path : String)
  | unreadable (path : String) (cause : ReadError)
  | json (path : String) (text : List Char) (fault : Json.Fault)
  | toml (path : String) (text : List Char) (fault : Toml.Fault)

namespace ContractError

/-- The words before a fault in a text, which name the format and the path. -/
def heading (format : ContractFormat) (path : String) : String :=
  "invalid " ++ format.extension ++ " at " ++ path ++ ": "

/-- The wording of an error. -/
def message : ContractError → String
  | malformed cause => "invalid argument: " ++ cause.message
  | unsupported path =>
    "invalid argument: unsupported contract file `" ++ path ++ "` (expected .json or .toml)"
  | unreadable path cause => "failed to read file: " ++ path ++ ": " ++ cause.message
  | json path text fault => heading .json path ++ fault.message text
  | toml path text fault => heading .toml path ++ fault.message text

/-- The path that an error is about. -/
def path? : ContractError → Option String
  | malformed _ | unsupported _ => none
  | unreadable path _ | json path _ _ | toml path _ _ => some path

end ContractError

namespace Interface

/-- Reads a JSON text under a path. -/
def ofJsonAt (path text : String) : Except ContractError Interface :=
  match Json.contract text.toList with
  | .ok d => .ok d
  | .error fault => .error (.json path text.toList fault)

/-- Reads a TOML text under a path. -/
def ofTomlAt (report : Toml.Report) (path text : String) : Except ContractError Interface :=
  match Toml.contract report text.toList with
  | .ok d => .ok d
  | .error fault => .error (.toml path text.toList fault)

/-- The path of texts that come from no file. -/
def inlinePath : String := "<inline>"

/-- Reads a JSON text. -/
def ofJson (text : String) : Except ContractError Interface := ofJsonAt inlinePath text

/-- Reads a TOML text. -/
def ofToml (report : Toml.Report) (text : String) : Except ContractError Interface :=
  ofTomlAt report inlinePath text

/-- Reads a text in a format, under a path. -/
def ofText (report : Toml.Report) (format : ContractFormat) (path text : String) :
    Except ContractError Interface :=
  match format with
  | .json => ofJsonAt path text
  | .toml => ofTomlAt report path text

/-- Reads the file at a path. A name without a format is refused before the file
is looked for. -/
def load (report : Toml.Report) (files : FileSystem) (path : String) :
    Except ContractError Interface :=
  match ContractFormat.ofPath? path with
  | none => .error (.unsupported path)
  | some format =>
    match files.readText path with
    | .error cause => .error (.unreadable path cause)
    | .ok text => ofText report format path text

variable {report : Toml.Report} {path text : String} {d : Interface}

/-- A JSON text is an interface exactly if its reader accepts it. -/
theorem ofJsonAt_eq_ok_iff :
    ofJsonAt path text = .ok d ↔ Json.contract text.toList = .ok d := by
  rw [ofJsonAt]
  split <;> rename_i read <;> simp [read]

/-- A JSON text is refused with a fault exactly if its reader meets that fault. -/
theorem ofJsonAt_eq_error_iff {fault : Json.Fault} :
    ofJsonAt path text = .error (.json path text.toList fault) ↔
      Json.contract text.toList = .error fault := by
  rw [ofJsonAt]
  split <;> rename_i read <;> simp [read]

/-- A TOML text is an interface exactly if its reader accepts it. -/
theorem ofTomlAt_eq_ok_iff :
    ofTomlAt report path text = .ok d ↔ Toml.contract report text.toList = .ok d := by
  rw [ofTomlAt]
  split <;> rename_i read <;> simp [read]

/-- A TOML text is refused with a fault exactly if its reader meets that fault. -/
theorem ofTomlAt_eq_error_iff {fault : Toml.Fault} :
    ofTomlAt report path text = .error (.toml path text.toList fault) ↔
      Toml.contract report text.toList = .error fault := by
  rw [ofTomlAt]
  split <;> rename_i read <;> simp [read]

/-- A file is read as an interface exactly if its text is, in the format that its name
tells. -/
theorem load_eq_ok_iff {files : FileSystem} :
    load report files path = .ok d ↔
      ∃ format text, ContractFormat.ofPath? path = some format ∧ files.readText path = .ok text ∧
        ofText report format path text = .ok d := by
  rw [load]
  split <;> rename_i named
  · simp [named]
  · split <;> rename_i found <;> simp [named, found]

end Interface

end StructuralTyping
