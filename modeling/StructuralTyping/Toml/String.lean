import StructuralTyping.Toml.Blank
import StructuralTyping.Json.String
/-!
# Strings in TOML text

Basic strings stand between double quotes and know escapes, literal strings
between single quotes and know none. Either may stand between three quotes
instead and then go over several lines; up to two quotes may then stand anywhere
in it, also right before the closing three.
-/
set_option autoImplicit false

namespace StructuralTyping.Toml

open StructuralTyping.Text

/-- The single quote. -/
def apostrophe : Char := '\x27'

/-- Characters that stand for themselves in a string: tabs, and everything that is
no control character. -/
def isPlain (c : Char) : Bool := c = '\t' || (0x20 ≤ c.toNat && c.toNat ≠ 0x7F)

/-- The character of a code point, unless it is a surrogate or too large. -/
def char? (code : Nat) : Option Char :=
  if code < 0xD800 ∨ (0xDFFF < code ∧ code < 0x110000) then some (Char.ofNat code) else none

/-- As many hexadecimal digits as asked, read onto `n`, and the character of their
value. -/
def hexEscape? (n : Nat) : Nat → (s : List Char) → Option (Char × Remainder s)
  | 0, s => (char? n).map fun c => (c, .all s)
  | _ + 1, [] => none
  | digits + 1, c :: rest =>
    match Json.hexDigit? c with
    | none => none
    | some digit =>
      match hexEscape? (16 * n + digit) digits rest with
      | some (x, after) => some (x, after.behind c)
      | none => none

/-- The character that a letter behind a backslash stands for. -/
def letterEscape? (c : Char) : Option Char :=
  if c = '"' ∨ c = '\\' then some c
  else if c = 'b' then some '\x08'
  else if c = 't' then some '\t'
  else if c = 'n' then some '\n'
  else if c = 'f' then some '\x0c'
  else if c = 'r' then some '\r'
  else none

/-- The character that an escape stands for, behind its backslash. -/
def escape? : (s : List Char) → Option (Scanned Char s)
  | [] => none
  | c :: rest =>
    match letterEscape? c with
    | some plain => some (.one plain c rest)
    | none =>
      let digits := if c = 'u' then some 4 else if c = 'U' then some 8 else none
      match digits with
      | none => none
      | some count =>
        match hexEscape? 0 count rest with
        | some (x, after) => some (.upTo x c after)
        | none => none

/-- The characters of a basic string on one line, up to its closing quote. -/
def basicBody? : (s : List Char) → Option (Scanned (List Char) s)
  | [] => none
  | c :: rest =>
    if c = '"' then some (.one [] c rest)
    else if c = '\\' then
      match escape? rest with
      | none => none
      | some ⟨x, after, shorter⟩ =>
        match basicBody? after with
        | none => none
        | some later =>
          some ((later.map (x :: ·)).widen (by simp only [List.length_cons]; omega))
    else if isPlain c then
      match basicBody? rest with
      | none => none
      | some later => some ((later.map (c :: ·)).behind c)
    else none
termination_by s => s.length
decreasing_by all_goals simp only [List.length_cons]; omega

/-- The characters of a literal string on one line, up to its closing quote. -/
def literalBody? : (s : List Char) → Option (Scanned (List Char) s)
  | [] => none
  | c :: rest =>
    if c = apostrophe then some (.one [] c rest)
    else if isPlain c then
      match literalBody? rest with
      | none => none
      | some later => some ((later.map (c :: ·)).behind c)
    else none

/-- Line ends and spaces, behind a backslash at the end of a line. -/
def skipLineEnds : (s : List Char) → Remainder s
  | [] => .all []
  | c :: rest =>
    if isSpace c || c = '\n' then
      (skipLineEnds rest).behind c
    else if c = '\r' then
      match rest with
      | d :: later =>
        if d = '\n' then ((skipLineEnds later).behind d).behind c
        else .all (c :: d :: later)
      | [] => .all [c]
    else .all (c :: rest)

/-- What stands behind three characters is shorter. -/
theorem length_lt_of_three {a b c : Char} {s t : List Char} (le : t.length ≤ s.length) :
    t.length < (a :: b :: c :: s).length :=
  Nat.lt_succ_of_lt (Nat.lt_succ_of_lt (Nat.lt_succ_of_le le))

/-- The closing quotes of a string over several lines, and up to two quotes right
before them; as many as there are, but at least three. -/
def closingQuotes? (quote : Char) : (s : List Char) → Option (Scanned (List Char) s)
  | a :: b :: c :: rest =>
    if a = quote ∧ b = quote ∧ c = quote then
      match rest with
      | d :: e :: later =>
        if d = quote then
          if e = quote then
            some ⟨[quote, quote], later,
              length_lt_of_three (Nat.le_succ_of_le (Nat.le_succ _))⟩
          else some ⟨[quote], e :: later, length_lt_of_three (Nat.le_succ _)⟩
        else some ⟨[], d :: e :: later, length_lt_of_three (Nat.le_refl _)⟩
      | [d] =>
        if d = quote then some ⟨[quote], [], length_lt_of_three (Nat.le_succ _)⟩
        else some ⟨[], [d], length_lt_of_three (Nat.le_refl _)⟩
      | [] => some ⟨[], [], length_lt_of_three (Nat.le_refl _)⟩
    else none
  | _ => none

/-- The characters of a basic string over several lines, up to its closing quotes. -/
def longBasicBody? (s : List Char) : Option (Scanned (List Char) s) :=
  match closingQuotes? '"' s with
  | some found => some found
  | none =>
    match lineEnd? s with
    | some ⟨_, after, shorter⟩ =>
      match longBasicBody? after with
      | none => none
      | some later => some ((later.map ('\n' :: ·)).widen (Nat.le_of_lt shorter))
    | none =>
      match s with
      | [] => none
      | c :: rest =>
        if c = '\\' then
          match lineEnd? (skipSpaces rest) with
          | some ⟨_, after, shorter⟩ =>
            have le : after.length ≤ rest.length :=
              Nat.le_trans (Nat.le_of_lt shorter) (length_skipSpaces_le rest)
            let ⟨next, further⟩ := skipLineEnds after
            match longBasicBody? next with
            | none => none
            | some later => some (later.widen (by simp only [List.length_cons]; omega))
          | none =>
            match escape? rest with
            | none => none
            | some ⟨x, after, shorter⟩ =>
              match longBasicBody? after with
              | none => none
              | some later =>
                some ((later.map (x :: ·)).widen (by simp only [List.length_cons]; omega))
        else if isPlain c then
          match longBasicBody? rest with
          | none => none
          | some later => some ((later.map (c :: ·)).behind c)
        else none
termination_by s.length
decreasing_by all_goals (try simp only [List.length_cons]); omega

/-- The characters of a literal string over several lines, up to its closing quotes. -/
def longLiteralBody? (s : List Char) : Option (Scanned (List Char) s) :=
  match closingQuotes? apostrophe s with
  | some found => some found
  | none =>
    match lineEnd? s with
    | some ⟨_, after, shorter⟩ =>
      match longLiteralBody? after with
      | none => none
      | some later => some ((later.map ('\n' :: ·)).widen (Nat.le_of_lt shorter))
    | none =>
      match s with
      | [] => none
      | c :: rest =>
        if isPlain c then
          match longLiteralBody? rest with
          | none => none
          | some later => some ((later.map (c :: ·)).behind c)
        else none
termination_by s.length
decreasing_by all_goals (try simp only [List.length_cons]); omega

/-- The text behind the line end that may follow three opening quotes. -/
def skipFirstLineEnd (s : List Char) : Remainder s :=
  match lineEnd? s with
  | some found => found.left
  | none => .all s

/-- A string of either sort on one line, behind its opening quote. -/
def shortString? (quote : Char) (s : List Char) : Option (Scanned (List Char) s) :=
  if quote = '"' then basicBody? s else literalBody? s

/-- A string of any sort, behind its first quote. -/
def anyString? (quote : Char) : (s : List Char) → Option (Scanned (List Char) s)
  | a :: b :: rest =>
    if a = quote ∧ b = quote then
      let ⟨body, le⟩ := skipFirstLineEnd rest
      match if quote = '"' then longBasicBody? body else longLiteralBody? body with
      | some found => some (((found.widen le).behind b).behind a)
      | none => none
    else shortString? quote (a :: b :: rest)
  | s => shortString? quote s

end StructuralTyping.Toml
