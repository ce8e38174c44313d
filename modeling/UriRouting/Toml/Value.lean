/-!
# TOML values

The values of a TOML document.  Tables and arrays remember how they were written, because that
decides what a later part of the document may still add to them.
-/

namespace UriRouting.Toml

/-- How a table or an array was written. -/
inductive Origin
  /-- Between braces or brackets, as a value. -/
  | inline
  /-- Under a heading of its own. -/
  | headed
  /-- Not at all; a longer heading needs it. -/
  | implied
  /-- By a key with dots. -/
  | dotted
deriving DecidableEq

/-- A value. -/
inductive Value
  | text (content : String)
  | integer (number : Int)
  | boolean (flag : Bool)
  /-- A floating-point number, as it is written. -/
  | float (written : String)
  /-- A date, a time or both, as it is written. -/
  | moment (written : String)
  | array (origin : Origin) (items : List Value)
  | table (origin : Origin) (entries : List (String × Value))

/-- The entries of a table. -/
abbrev Entries := List (String × Value)

namespace Entries

/-- The value of a key. -/
def get? (entries : Entries) (key : String) : Option Value :=
  (entries.find? fun e => e.1 == key).map Prod.snd

/-- Gives a key a value, in place of the one that it has. -/
def set (entries : Entries) (key : String) (value : Value) : Entries :=
  match entries with
  | [] => [(key, value)]
  | e :: rest => if e.1 == key then (key, value) :: rest else e :: set rest key value

/-- Changes the value of a key, which may have none yet; the change may be refused. -/
def change (entries : Entries) (key : String) (f : Option Value → Option Value) :
    Option Entries :=
  (f (entries.get? key)).map (entries.set key)

end Entries

/-- Changes the entries of the table that ends an array. -/
def changeLast (items : List Value) (f : Entries → Option Entries) : Option (List Value) :=
  match items.getLast? with
  | some (.table origin entries) =>
    (f entries).map fun entries => items.dropLast ++ [.table origin entries]
  | _ => none

end UriRouting.Toml
