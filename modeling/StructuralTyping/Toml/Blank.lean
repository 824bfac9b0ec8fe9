import StructuralTyping.Text.Scanned
/-!
# Between the tokens of a TOML text

Spaces and tabs, line ends, and comments. A carriage return stands only before a
line feed, and a comment holds no control character other than a tab.
-/
set_option autoImplicit false

namespace StructuralTyping.Toml

open StructuralTyping.Text

/-- A space or a tab. -/
def isSpace (c : Char) : Bool := c = ' ' || c = '\t'

/-- The text from its first character that is neither space nor tab. -/
def skipSpaces (s : List Char) : List Char := s.dropWhile isSpace

/-- Skipping spaces leaves no longer text. -/
theorem length_skipSpaces_le (s : List Char) : (skipSpaces s).length ≤ s.length :=
  (List.dropWhile_sublist isSpace).length_le

/-- The text behind a line end, if one comes first. -/
def lineEnd? : (s : List Char) → Option (Scanned Unit s)
  | [] => none
  | c :: rest =>
    if c = '\n' then some (.one () c rest)
    else if c = '\r' then
      match rest with
      | d :: later =>
        if d = '\n' then some ((Scanned.one () d later).behind c) else none
      | [] => none
    else none

/-- The characters of a comment. -/
def isCommentChar (c : Char) : Bool := c = '\t' || (0x20 ≤ c.toNat && c.toNat ≠ 0x7F)

/-- The text behind a comment, if one comes first, and otherwise the whole text. -/
def skipComment : List Char → List Char
  | [] => []
  | c :: rest => if c = '#' then rest.dropWhile isCommentChar else c :: rest

/-- Skipping a comment leaves no longer text. -/
theorem length_skipComment_le (s : List Char) : (skipComment s).length ≤ s.length := by
  cases s with
  | nil => exact Nat.le_refl _
  | cons c rest =>
    rw [skipComment]
    split
    · exact Nat.le_succ_of_le (List.dropWhile_sublist _).length_le
    · exact Nat.le_refl _

/-- What may end a line: spaces, a comment, and a line end or the end of the text. -/
def restOfLine? (s : List Char) : Option (Remainder s) :=
  let after := skipComment (skipSpaces s)
  have le : after.length ≤ s.length :=
    Nat.le_trans (length_skipComment_le _) (length_skipSpaces_le _)
  match after, le with
  | [], le => some ⟨[], le⟩
  | c :: rest, le =>
    match lineEnd? (c :: rest) with
    | some found => some ⟨found.rest, Nat.le_trans (Nat.le_of_lt found.shorter) le⟩
    | none => none

/-- The text behind spaces, line ends and comments with their line ends, as they
may stand between the items of an array. -/
def skipLines (s : List Char) : Remainder s :=
  match lineEnd? (skipComment (skipSpaces s)) with
  | some found =>
    have lt : found.rest.length < s.length :=
      Nat.lt_of_lt_of_le found.shorter
        (Nat.le_trans (length_skipComment_le _) (length_skipSpaces_le _))
    let ⟨t, le⟩ := skipLines found.rest
    ⟨t, Nat.le_trans le (Nat.le_of_lt lt)⟩
  | none => ⟨skipSpaces s, length_skipSpaces_le s⟩
termination_by s.length

end StructuralTyping.Toml
