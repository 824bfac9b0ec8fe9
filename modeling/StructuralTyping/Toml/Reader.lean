import StructuralTyping.Toml.Document
import StructuralTyping.Toml.Number
import StructuralTyping.Toml.String
/-!
# Reading a TOML text

`Toml.document?` reads a whole text into lines and sections. Values nest no
deeper than a fixed number of brackets and braces, and keys have a limited number
of parts.
-/
set_option autoImplicit false

namespace StructuralTyping.Toml

open StructuralTyping.Text

/-- How many brackets and braces a value may nest. -/
def nestingLimit : Nat := 79

/-- How many parts a key may have. -/
def keyLimit : Nat := 79

/-- The place of what was read between two texts. -/
def spanBetween (s rest : List Char) : Span := ⟨byteLength s, byteLength rest⟩

/-- The characters of a bare key. -/
def isBareKeyChar (c : Char) : Bool := c.isAlphanum || c = '-' || c = '_'

/-- One part of a key: bare, or a string on one line. -/
def keyPart? : (s : List Char) → Option (Scanned Key s)
  | [] => none
  | c :: rest =>
    if c = '"' ∨ c = apostrophe then
      match shortString? c rest with
      | none => none
      | some ⟨name, after, shorter⟩ =>
        some ⟨⟨String.ofList name, spanBetween (c :: rest) after⟩, after,
          Nat.lt_succ_of_lt shorter⟩
    else if isBareKeyChar c then
      let after := rest.dropWhile isBareKeyChar
      some ⟨⟨String.ofList (c :: rest.takeWhile isBareKeyChar), spanBetween (c :: rest) after⟩,
        after, Nat.lt_succ_of_le (List.dropWhile_sublist _).length_le⟩
    else none

/-- The parts of a key, with points between them and spaces around them. -/
def keyParts? (s : List Char) : Option (Scanned (List Key) s) :=
  match keyPart? (skipSpaces s) with
  | none => none
  | some ⟨part, after, shorter⟩ =>
    have le : after.length < s.length := Nat.lt_of_lt_of_le shorter (length_skipSpaces_le s)
    have bound : (skipSpaces after).length ≤ after.length := length_skipSpaces_le after
    match skipSpaces after, bound with
    | [], _ => some ⟨[part], [], Nat.lt_of_le_of_lt (Nat.zero_le _) le⟩
    | c :: rest, bound =>
      if c = '.' then
        match keyParts? rest with
        | none => none
        | some later =>
          some ((later.map (part :: ·)).widen
            (Nat.le_trans (Nat.le_of_succ_le bound) (Nat.le_of_lt le)))
      else some ⟨[part], c :: rest, Nat.lt_of_le_of_lt bound le⟩
termination_by s.length
decreasing_by simp only [List.length_cons] at bound; omega

/-- The parts of a key before the last one, and the last one. -/
def splitKey? (parts : List Key) : Option (List Key × Key) :=
  if keyLimit < parts.length then none else parts.getLast?.map (parts.dropLast, ·)

/-- A key. -/
def key? (s : List Char) : Option (Scanned (List Key × Key) s) :=
  match keyParts? s with
  | none => none
  | some ⟨parts, rest, shorter⟩ => (splitKey? parts).map (⟨·, rest, shorter⟩)

/-- The text behind a character that is due. -/
def expect? (expected : Char) : (s : List Char) → Option (Scanned Unit s)
  | [] => none
  | c :: rest => if c = expected then some (.one () c rest) else none

/-- A result with its shortness checked: readers of numbers return plain pairs. -/
def checked? {α : Type} (s : List Char) : Option (α × List Char) → Option (Scanned α s)
  | some (value, rest) =>
    if shorter : rest.length < s.length then some ⟨value, rest, shorter⟩ else none
  | none => none

/-- A value without parts. -/
def scalar? : (s : List Char) → Option (Scanned Scalar s)
  | [] => none
  | c :: rest =>
    if c = '"' ∨ c = apostrophe then
      match anyString? c rest with
      | none => none
      | some ⟨text, after, shorter⟩ =>
        some ⟨.string (String.ofList text), after, Nat.lt_succ_of_lt shorter⟩
    else if c = '+' ∨ c = '-' ∨ c.isDigit then checked? (c :: rest) (numeric? (c :: rest))
    else if c = 't' then
      checked? (c :: rest) ((word? ['r', 'u', 'e'] rest).map (.boolean true, ·))
    else if c = 'f' then
      checked? (c :: rest) ((word? ['a', 'l', 's', 'e'] rest).map (.boolean false, ·))
    else checked? (c :: rest) (specialFloat? false (c :: rest))

mutual

/-- A value, in which brackets and braces may nest as deep as `room`. -/
def value? (room : Nat) : (s : List Char) → Option (Scanned Item s)
  | [] => none
  | c :: rest =>
    if c = '[' then
      match room with
      | 0 => none
      | inner + 1 =>
        match items? inner rest with
        | none => none
        | some ⟨items, after, shorter⟩ =>
          some ⟨.array (spanBetween (c :: rest) after) items, after, Nat.lt_succ_of_lt shorter⟩
    else if c = '\x7b' then
      match room with
      | 0 => none
      | inner + 1 =>
        match fields? inner rest with
        | none => none
        | some ⟨lines, after, shorter⟩ =>
          match inlineTable? (spanBetween (c :: rest) after) lines with
          | none => none
          | some table => some ⟨table, after, Nat.lt_succ_of_lt shorter⟩
    else
      match scalar? (c :: rest) with
      | none => none
      | some ⟨value, after, shorter⟩ =>
        some ⟨.scalar (spanBetween (c :: rest) after) value, after, shorter⟩
termination_by s => 4 * s.length
decreasing_by all_goals simp only [List.length_cons]; omega

/-- The items of an array up to its closing bracket. A comma may stand behind the
last one. -/
def items? (room : Nat) (s : List Char) : Option (Scanned (List Item) s) :=
  match skipLines s with
  | ⟨[], _⟩ => none
  | ⟨c :: rest, le⟩ =>
    if c = ']' then some ⟨[], rest, le⟩
    else
      match value? room (c :: rest) with
      | none => none
      | some ⟨item, after, shorter⟩ =>
        match skipLines after with
        | ⟨[], _⟩ => none
        | ⟨d :: later, further⟩ =>
          if d = ']' then
            some ⟨[item], later, by simp only [List.length_cons] at further; omega⟩
          else if d = ',' then
            match items? room later with
            | none => none
            | some found =>
              some ((found.map (item :: ·)).widen (by
                simp only [List.length_cons] at further; omega))
          else none
termination_by 4 * s.length + 1
decreasing_by
  · omega
  · simp only [List.length_cons] at further
    omega

/-- The lines of a table in braces up to its closing brace. No comma stands behind
the last one. -/
def fields? (room : Nat) (s : List Char) : Option (Scanned (List Assignment) s) :=
  match expect? '\x7d' (skipSpaces s) with
  | some found => some ((found.map fun _ => []).widen (length_skipSpaces_le s))
  | none => moreFields? room s
termination_by 4 * s.length + 3
decreasing_by omega

/-- The lines of a table in braces; there is at least one. -/
def moreFields? (room : Nat) (s : List Char) : Option (Scanned (List Assignment) s) :=
  match key? s with
  | none => none
  | some ⟨(path, key), afterKey, keyShorter⟩ =>
    match expect? '=' afterKey with
    | none => none
    | some ⟨_, afterSign, signShorter⟩ =>
      have before : (skipSpaces afterSign).length ≤ afterSign.length :=
        length_skipSpaces_le afterSign
      match value? room (skipSpaces afterSign) with
      | none => none
      | some ⟨item, after, shorter⟩ =>
        have behind : (skipSpaces after).length ≤ after.length := length_skipSpaces_le after
        match skipSpaces after, behind with
        | [], _ => none
        | c :: rest, behind =>
          if c = '\x7d' then
            some ⟨[⟨path, key, item⟩], rest, by
              simp only [List.length_cons] at behind; omega⟩
          else if c = ',' then
            match moreFields? room rest with
            | none => none
            | some later =>
              some ((later.map (⟨path, key, item⟩ :: ·)).widen (by
                simp only [List.length_cons] at behind; omega))
          else none
termination_by 4 * s.length + 2
decreasing_by
  · omega
  · simp only [List.length_cons] at behind
    omega

end

/-- A key and a value up to the end of their line. -/
def assignment? (s : List Char) : Option (Scanned Assignment s) :=
  match key? s with
  | none => none
  | some ⟨(path, key), afterKey, keyShorter⟩ =>
    match expect? '=' afterKey with
    | none => none
    | some ⟨_, afterSign, signShorter⟩ =>
      have before : (skipSpaces afterSign).length ≤ afterSign.length :=
        length_skipSpaces_le afterSign
      match value? nestingLimit (skipSpaces afterSign) with
      | none => none
      | some ⟨item, after, shorter⟩ =>
        match restOfLine? after with
        | none => none
        | some ⟨next, le⟩ => some ⟨⟨path, key, item⟩, next, by omega⟩

/-- A header up to the end of its line, behind its first bracket. -/
def header? (s : List Char) : Option (Scanned Header s) :=
  match expect? '[' s with
  | some ⟨_, inner, innerShorter⟩ =>
    match key? inner with
    | none => none
    | some ⟨(path, key), afterKey, keyShorter⟩ =>
      match expect? ']' afterKey with
      | none => none
      | some ⟨_, afterOne, oneShorter⟩ =>
        match expect? ']' afterOne with
        | none => none
        | some ⟨_, after, shorter⟩ =>
          match restOfLine? after with
          | none => none
          | some ⟨next, le⟩ =>
            some ⟨⟨path, key, spanBetween ('[' :: s) after, true⟩, next,
              Nat.lt_of_le_of_lt le (Nat.lt_trans shorter
                (Nat.lt_trans oneShorter (Nat.lt_trans keyShorter innerShorter)))⟩
  | none =>
    match key? s with
    | none => none
    | some ⟨(path, key), afterKey, keyShorter⟩ =>
      match expect? ']' afterKey with
      | none => none
      | some ⟨_, after, shorter⟩ =>
        match restOfLine? after with
        | none => none
        | some ⟨next, le⟩ =>
          some ⟨⟨path, key, spanBetween ('[' :: s) after, false⟩, next,
            Nat.lt_of_le_of_lt le (Nat.lt_trans shorter keyShorter)⟩

/-- One line of a text. -/
inductive Statement where
  | nothing
  | assignment (line : Assignment)
  | header (line : Header)

/-- One line of a text that is not at its end. -/
def statement? : (s : List Char) → Option (Scanned Statement s)
  | [] => none
  | c :: rest =>
    if c = '[' then
      match header? rest with
      | none => none
      | some found => some ((found.map .header).behind c)
    else if c = '#' ∨ c = '\n' ∨ c = '\r' then
      match restOfLine? (c :: rest) with
      | none => none
      | some ⟨next, _⟩ => checked? (c :: rest) (some (.nothing, next))
    else
      match assignment? (c :: rest) with
      | none => none
      | some found => some (found.map .assignment)

/-- The lines of a text, without the empty ones. -/
def statements? (s : List Char) : Option (List Statement) :=
  have le : (skipSpaces s).length ≤ s.length := length_skipSpaces_le s
  match skipSpaces s, le with
  | [], _ => some []
  | c :: rest, _ =>
    match statement? (c :: rest) with
    | none => none
    | some ⟨line, next, _⟩ =>
      match statements? next with
      | none => none
      | some later => some (line :: later)
termination_by s.length
decreasing_by omega

/-- The document that lines make up: each header takes the assignments up to the
next one. -/
def documentOf : List Statement → Document
  | [] => ⟨[], []⟩
  | .nothing :: later => documentOf later
  | .assignment line :: later =>
    let d := documentOf later
    ⟨line :: d.lines, d.sections⟩
  | .header line :: later =>
    let d := documentOf later
    ⟨[], ⟨line, d.lines⟩ :: d.sections⟩

/-- The text behind a byte order mark. -/
def skipMark : List Char → List Char
  | [] => []
  | c :: rest => if c = '\uFEFF' then rest else c :: rest

/-- The lines and sections of a whole text. -/
def document? (text : List Char) : Option Document := (statements? (skipMark text)).map documentOf

/-- The root table of a whole text, unless the text is malformed or defines a name
twice. -/
def root? (text : List Char) : Option Entries :=
  match document? text with
  | some d => d.root?
  | none => none

end StructuralTyping.Toml
