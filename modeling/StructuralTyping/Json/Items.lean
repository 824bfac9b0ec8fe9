import StructuralTyping.Json.Framing
import StructuralTyping.Json.String
/-!
# Items of lists and entries of objects

A list or an object is read item by item, whatever reads a single one. The readers here take
that as a parameter. Each is given the text from behind the bracket or the quote that was met
already; a bracket is passed as well, because a list or an object is longer than its inside.
-/
set_option autoImplicit false

namespace StructuralTyping.Json

open StructuralTyping.Text

variable {α : Type}

/-- A value whose reader asks for its first character, after any blanks. -/
def behindBlanks (read : (c : Char) → (rest : List Char) → Scan α (c :: rest)) (s : List Char) :
    Scan α s :=
  match afterBlanks s with
  | ⟨[], _⟩ => .error (.atEnd .endInValue)
  | ⟨c :: rest, le⟩ =>
    match read c rest with
    | .error fault => .error fault
    | .ok found => .ok (found.widen le)

/-- The items of a list up to its closing bracket; there is at least one. -/
def items (item : (s : List Char) → Scan α s) (s : List Char) : Scan (List α) s :=
  match item s with
  | .error fault => .error fault
  | .ok ⟨first, rest, shorter⟩ =>
    match continueList rest with
    | .error fault => .error fault
    | .ok (.closed after le) => .ok ⟨[first], after, by omega⟩
    | .ok (.more next le) =>
      match items item next with
      | .error fault => .error fault
      | .ok later => .ok ((later.map (first :: ·)).widen (by omega))
termination_by s.length
decreasing_by omega

/-- A list, of which the opening bracket was met. -/
def list (item : (s : List Char) → Scan α s) (c : Char) (rest : List Char) :
    Scan (List α) (c :: rest) :=
  match openList rest with
  | .error fault => .error fault
  | .ok (.closed after le) => .ok (.upTo [] c ⟨after, le⟩)
  | .ok (.more first le) =>
    match items item first with
    | .error fault => .error fault
    | .ok found => .ok ((found.widen le).behind c)

/-- An entry of an object, from behind the opening quote of its key. -/
def entry (item : (s : List Char) → Scan α s) (s : List Char) : Scan (String × α) s :=
  match stringBody s with
  | .error fault => .error fault
  | .ok ⟨key, afterKey, keyShorter⟩ =>
    match colon afterKey with
    | .error fault => .error fault
    | .ok ⟨_, afterColon, colonShorter⟩ =>
      match item afterColon with
      | .error fault => .error fault
      | .ok ⟨found, rest, shorter⟩ => .ok ⟨(String.ofList key, found), rest, by omega⟩

/-- The entries of an object up to its closing brace; there is at least one, and
the opening quote of its key has been read. -/
def entries (item : (s : List Char) → Scan α s) (s : List Char) : Scan (List (String × α)) s :=
  match entry item s with
  | .error fault => .error fault
  | .ok ⟨first, rest, shorter⟩ =>
    match continueObject rest with
    | .error fault => .error fault
    | .ok (.closed after le) => .ok ⟨[first], after, by omega⟩
    | .ok (.more next le) =>
      match entries item next with
      | .error fault => .error fault
      | .ok later => .ok ((later.map (first :: ·)).widen (by omega))
termination_by s.length
decreasing_by omega

/-- An object, of which the opening brace was met. -/
def object (item : (s : List Char) → Scan α s) (c : Char) (rest : List Char) :
    Scan (List (String × α)) (c :: rest) :=
  match openObject rest with
  | .error fault => .error fault
  | .ok (.closed after le) => .ok (.upTo [] c ⟨after, le⟩)
  | .ok (.more first le) =>
    match entries item first with
    | .error fault => .error fault
    | .ok found => .ok ((found.widen le).behind c)

end StructuralTyping.Json
