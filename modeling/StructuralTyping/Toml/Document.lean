import StructuralTyping.Toml.Item
/-!
# Assembling a TOML document

A document is a sequence of sections: key and value lines, the first ones without
a header, the others behind the header of a table or of one more table of an
array. Assembling them refuses every name that is defined twice. A table that
was only implied by a longer header may still get its own header once; it then
moves to the end of the table it stands in.
-/
set_option autoImplicit false

namespace StructuralTyping.Toml

/-- A line with a key and a value. The last part of the key is apart. -/
structure Assignment where
  path : List Key
  key : Key
  value : Item

/-- The header of a section: its path, of which the last part is apart, and its
place with the brackets. -/
structure Header where
  path : List Key
  key : Key
  span : Span
  repeated : Bool

/-- A header and the lines behind it. -/
structure Section where
  header : Header
  lines : List Assignment

/-- A document: the lines before the first header, and the sections. -/
structure Document where
  lines : List Assignment
  sections : List Section

/-- Adds an item under a name that has none yet. -/
def addNew (key : Key) (item : Item) (entries : Entries) : Option Entries :=
  match lookup? key.name entries with
  | some _ => none
  | none => some (entries ++ [(key, item)])

/-- Adds an item below a dotted path. Every part of the path is a table that only
dotted keys or longer headers have made, and the last one is a dotted table. Of
an array of tables the last one is meant. -/
def addDotted (path : List Key) (last : Bool) (key : Key) (item : Item) (entries : Entries) :
    Option Entries :=
  match path with
  | [] => if last then addNew key item entries else none
  | part :: deeper =>
    match lookup? part.name entries with
    | none =>
      match addDotted deeper true key item [] with
      | some inner => some (entries ++ [(part, .table .dotted none inner)])
      | none => none
    | some (.table .dotted span inner) =>
      match addDotted deeper true key item inner with
      | some extended => some (replace part.name (.table .dotted span extended) entries)
      | none => none
    | some (.table .implied span inner) =>
      match addDotted deeper false key item inner with
      | some extended => some (replace part.name (.table .implied span extended) entries)
      | none => none
    | some (.tables items) =>
      match items.getLast? with
      | some (.table origin span inner) =>
        match addDotted deeper false key item inner with
        | some extended =>
          some (replace part.name (.tables (items.dropLast ++ [.table origin span extended]))
            entries)
        | none => none
      | _ => none
    | some _ => none

/-- Adds the lines of a section to a table. -/
def addLines (entries : Entries) : List Assignment → Option Entries
  | [] => some entries
  | line :: later =>
    match addDotted line.path true line.key line.value entries with
    | some extended => addLines extended later
    | none => none

/-- The place of a section: from its header to the end of its last value. -/
def Section.span (s : Section) : Span :=
  match s.lines.getLast? with
  | some line =>
    match line.value.span? with
    | some value => ⟨s.header.span.start, value.stop⟩
    | none => s.header.span
  | none => s.header.span

/-- Puts a section into the table that its header stands in. -/
def placeSection (s : Section) (entries : Entries) : Option Entries :=
  let name := s.header.key.name
  if s.header.repeated then
    match addLines [] s.lines with
    | none => none
    | some inner =>
      let table := Item.table .header (some s.span) inner
      match lookup? name entries with
      | none => some (entries ++ [(s.header.key, .tables [table])])
      | some (.tables items) => some (replace name (.tables (items ++ [table])) entries)
      | some _ => none
  else
    let fill (before : Entries) : Option Entries :=
      match addLines before s.lines with
      | some inner =>
        some (without name entries ++ [(s.header.key, .table .header (some s.span) inner)])
      | none => none
    match lookup? name entries with
    | none => fill []
    | some (.table .implied _ inner) => fill inner
    | some _ => none

/-- Puts a section at the end of a header's path. Missing tables on the way are
implied by it, and of an array of tables the last one is meant. -/
def addSection (s : Section) (path : List Key) (entries : Entries) : Option Entries :=
  match path with
  | [] => placeSection s entries
  | part :: deeper =>
    match lookup? part.name entries with
    | none =>
      match addSection s deeper [] with
      | some inner => some (entries ++ [(part, .table .implied none inner)])
      | none => none
    | some (.table .inline _ _) => none
    | some (.table origin span inner) =>
      match addSection s deeper inner with
      | some extended => some (replace part.name (.table origin span extended) entries)
      | none => none
    | some (.tables items) =>
      match items.getLast? with
      | some (.table origin span inner) =>
        match addSection s deeper inner with
        | some extended =>
          some (replace part.name (.tables (items.dropLast ++ [.table origin span extended]))
            entries)
        | none => none
      | _ => none
    | some _ => none

/-- Adds sections one after the other. -/
def addSections (entries : Entries) : List Section → Option Entries
  | [] => some entries
  | s :: later =>
    match addSection s s.header.path entries with
    | some extended => addSections extended later
    | none => none

/-- The root table of a document, unless a name is defined twice. -/
def Document.root? (d : Document) : Option Entries :=
  match addLines [] d.lines with
  | some entries => addSections entries d.sections
  | none => none

/-- The table of the lines in braces, unless a name is defined twice. -/
def inlineTable? (span : Span) (lines : List Assignment) : Option Item :=
  (addLines [] lines).map (.table .inline (some span))

end StructuralTyping.Toml
