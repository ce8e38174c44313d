import UriRouting.Router.OfTable
import UriRouting.Table.Check
import UriRouting.Table.Shape
import UriRouting.Text.Utf8
import UriRouting.Toml.Reading

/-!
# Loading a table

A table is loaded from what is in a file: the bytes have to be UTF-8, the text a TOML document, the
document a table, the table free of problems, and every template of it sound.  The first of these
that fails is the fault.
-/

namespace UriRouting

/-- Why a file cannot be read. -/
inductive ReadFault
  | missing
  | isFolder
  /-- A file stands where the way to the file needs a folder. -/
  | notFolder
  /-- The bytes are not UTF-8. -/
  | notText
  /-- Anything else, in the words of the operating system. -/
  | other (details : String)
deriving DecidableEq

/-- The wording of a fault. -/
def ReadFault.message : ReadFault → String
  | missing => "No such file or directory (os error 2)"
  | isFolder => "Is a directory (os error 21)"
  | notFolder => "Not a directory (os error 20)"
  | notText => "stream did not contain valid UTF-8"
  | other details => details

/-- What reading a file gives. -/
abbrev FileContent := Except ReadFault (List UInt8)

/-- Why a table cannot be loaded. -/
inductive LoadFault
  | unreadable (fault : ReadFault)
  /-- The text is not TOML, or not in the shape of a table. -/
  | malformed
  | refused (problems : List TableProblem)
  | badRoute (fault : RouteFault)
deriving DecidableEq

/-- The wording of a fault.  What is wrong with a text that is not TOML is not spelled out. -/
def LoadFault.message : LoadFault → String
  | unreadable fault => "IO error: " ++ fault.message
  | malformed => "Parse error: "
  | refused problems =>
    "Validation failed: " ++ String.intercalate ", " (problems.map TableProblem.message)
  | badRoute fault => "Route table error: " ++ fault.message

namespace Table

/-- The table that a text describes, if it has no problems. -/
def ofText (text : String) : Except LoadFault Table :=
  match (Toml.ofText? text.toList).bind ofEntries? with
  | none => .error .malformed
  | some table =>
    let problems := table.check
    if problems.isEmpty then .ok table else .error (.refused problems)

/-- The table in a file. -/
def ofFile (content : FileContent) : Except LoadFault Table := do
  let bytes ← content.mapError .unreadable
  let text ← (Utf8.decode bytes).mapError fun _ => .unreadable .notText
  ofText text

end Table

/-- The router of the table in a file. -/
def Router.ofFile (content : FileContent) : Attempt LoadFault Router := do
  let table ← Attempt.ofExcept (Table.ofFile content)
  (Router.ofTable table).adapt .badRoute

end UriRouting
