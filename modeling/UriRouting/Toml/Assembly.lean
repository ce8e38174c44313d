import UriRouting.Toml.Value

/-!
# Putting a TOML document together

A document is a sequence of sections, each with assignments under a heading.  No key is assigned
twice, and a table is finished where it was written: a heading can stand over a table only once,
though longer headings may have implied the table before, and keys with dots reach only into tables
that keys with dots have made.
-/

namespace UriRouting.Toml

/-- The heading of a section. -/
structure Heading where
  /-- The heading begins another table of an array. -/
  isArray : Bool
  path : List String

/-- An assignment: a key, possibly with dots, and its value. -/
structure Assignment where
  path : List String
  value : Value

/-- A section of a document; the first one has no heading. -/
structure Section where
  heading : Option Heading
  assignments : List Assignment

/-! ## Assignments -/

/-- Assigns a value to a key of a table, along its dots. -/
def assign (value : Value) : List String → Entries → Option Entries
  | [], _ => none
  | [key], entries => entries.change key fun
    | none => some value
    | some _ => none
  | key :: next :: rest, entries => entries.change key fun
    | none => (assign value (next :: rest) []).map (.table .dotted)
    | some (.table .dotted inner) => (assign value (next :: rest) inner).map (.table .dotted)
    | some (.table .implied inner) =>
      if rest.isEmpty then none else (assign value (next :: rest) inner).map (.table .implied)
    | some (.array .headed items) =>
      if rest.isEmpty then none
      else (changeLast items (assign value (next :: rest))).map (.array .headed)
    | some _ => none

/-- Carries out assignments in a table, one after the other. -/
def assignAll (assignments : List Assignment) (entries : Entries) : Option Entries :=
  assignments.foldlM (fun entries a => assign a.value a.path entries) entries

/-! ## Sections -/

/-- Fills the table under a heading that ends with this key. -/
def headed (isArray : Bool) (fill : Entries → Option Entries) (value : Option Value) :
    Option Value :=
  match isArray, value with
  | false, none => (fill []).map (.table .headed)
  | false, some (.table .implied inner) => (fill inner).map (.table .headed)
  | true, none => (fill []).map fun inner => .array .headed [.table .headed inner]
  | true, some (.array .headed items) =>
    (fill []).map fun inner => .array .headed (items ++ [.table .headed inner])
  | _, _ => none

/-- Fills the table under a heading. -/
def place (isArray : Bool) (fill : Entries → Option Entries) :
    List String → Entries → Option Entries
  | [], _ => none
  | [key], entries => entries.change key (headed isArray fill)
  | key :: next :: rest, entries => entries.change key fun
    | none => (place isArray fill (next :: rest) []).map (.table .implied)
    | some (.table .inline _) => none
    | some (.table origin inner) =>
      (place isArray fill (next :: rest) inner).map (.table origin)
    | some (.array .headed items) =>
      (changeLast items (place isArray fill (next :: rest))).map (.array .headed)
    | some _ => none

/-- Adds a section to what the sections before it have made. -/
def addSection (entries : Entries) (s : Section) : Option Entries :=
  match s.heading with
  | none => assignAll s.assignments entries
  | some heading => place heading.isArray (assignAll s.assignments) heading.path entries

/-- The table that sections make up. -/
def ofSections (sections : List Section) : Option Entries := sections.foldlM addSection []

end UriRouting.Toml
