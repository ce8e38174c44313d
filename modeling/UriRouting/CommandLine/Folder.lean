import UriRouting.Table.Load

/-!
# A folder with one file

What a path leads to from a folder that holds at most one file.  Of the folders around it nothing is
known but that they are there.
-/

namespace UriRouting.CommandLine

/-- A folder and its file, which may be missing. -/
structure Folder where
  fileName : String
  content : Option (List UInt8)

/-- Where a path has led so far. -/
inductive Place
  | folder
  /-- A folder around the one that is known. -/
  | around
  | file (content : List UInt8)

namespace Folder

/-- One step from a place. -/
def step (f : Folder) (place : Place) (part : String) : Except ReadFault Place :=
  match place with
  | .file _ => .error .notFolder
  | .around => if part == "" || part == "." || part == ".." then .ok .around else .error .missing
  | .folder =>
    if part == "" || part == "." then .ok .folder
    else if part == ".." then .ok .around
    else if part == f.fileName then
      match f.content with
      | some content => .ok (.file content)
      | none => .error .missing
    else .error .missing

/-- What reading a path gives. -/
def read (f : Folder) (path : String) : FileContent := do
  let start := if path.startsWith "/" then Place.around else .folder
  match ← (path.splitOn "/").foldlM f.step start with
  | .file content => return content
  | .folder | .around => throw .isFolder

end Folder

end UriRouting.CommandLine
