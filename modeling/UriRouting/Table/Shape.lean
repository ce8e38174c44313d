import UriRouting.Table.Basic
import UriRouting.Toml.Value

/-!
# The shape of a table in TOML

`Table.ofEntries?` takes a table of routes from the entries of a document.  A part with named fields
is written as a TOML table, in which other keys do not count, or as an array of its fields in a
fixed order, in which items behind the last field do not count.  Fields with a default may be left
out.
-/

namespace UriRouting

open Toml (Value Entries)

namespace Shape

/-- The text that a value is. -/
def text? : Value → Option String
  | .text content => some content
  | _ => none

/-- The items of a value that is an array. -/
def items? : Value → Option (List Value)
  | .array _ items => some items
  | _ => none

/-- The fields of a value, with their keys in the order of an array; a date or a time has none. -/
def fields? (keys : List String) : Value → Option Entries
  | .table _ entries => some entries
  | .array _ items => some (keys.zip items)
  | .moment _ => some []
  | _ => none

/-- The text of a field, which may be missing. -/
def textField? (fields : Entries) (key : String) : Option (Option String) :=
  match fields.get? key with
  | none => some none
  | some value => (text? value).map some

/-! ## Routes -/

/-- The keys of a route. -/
def routeKeys : List String := ["name", "template", "target"]

/-- The route that a value describes. -/
def route? (value : Value) : Option RouteEntry := do
  let fields ← fields? routeKeys value
  let name ← textField? fields "name"
  let template ← (fields.get? "template").bind text?
  let target ← (fields.get? "target").bind text?
  return ⟨name, template, target⟩

/-- The routes that a value describes. -/
def routes? (value : Value) : Option (List RouteEntry) := do (← items? value).mapM route?

/-! ## Routers -/

/-- The keys of a router. -/
def routerKeys : List String := ["prefix", "routes", "routers"]

/-- Sets a field of a router other than its routers; keys of no field do not count. -/
def setField (entry : RouterEntry) (key : String) (value : Value) : Option RouterEntry :=
  if key == "prefix" then (text? value).map fun mount => { entry with mount }
  else if key == "routes" then (routes? value).map fun routes => { entry with routes }
  else if key == "routers" then none
  else some entry

mutual

/-- The router that a value describes. -/
def router? : Value → Option RouterEntry
  | .table _ entries => routerEntries? entries {}
  | .array _ items => routerItems? routerKeys items {}
  | .moment _ => some {}
  | .text _ => none
  | .integer _ => none
  | .boolean _ => none
  | .float _ => none

/-- The routers that values describe. -/
def routers? : List Value → Option (List RouterEntry)
  | [] => some []
  | value :: rest =>
    match router? value, routers? rest with
    | some entry, some others => some (entry :: others)
    | _, _ => none

/-- Sets any field of a router. -/
def routerField? (entry : RouterEntry) (key : String) : Value → Option RouterEntry
  | .array origin items =>
    if key == "routers" then (routers? items).map fun routers => { entry with routers }
    else setField entry key (.array origin items)
  | .table origin entries => setField entry key (.table origin entries)
  | .moment written => setField entry key (.moment written)
  | .text content => setField entry key (.text content)
  | .integer number => setField entry key (.integer number)
  | .boolean flag => setField entry key (.boolean flag)
  | .float written => setField entry key (.float written)

/-- Sets the fields of a router from the entries of a table. -/
def routerEntries? : List (String × Value) → RouterEntry → Option RouterEntry
  | [], entry => some entry
  | (key, value) :: rest, entry =>
    match routerField? entry key value with
    | some entry => routerEntries? rest entry
    | none => none

/-- Sets the fields of a router from the items of an array. -/
def routerItems? : List String → List Value → RouterEntry → Option RouterEntry
  | key :: keys, value :: rest, entry =>
    match routerField? entry key value with
    | some entry => routerItems? keys rest entry
    | none => none
  | _, _, entry => some entry

end

/-! ## Logging -/

/-- The keys of the settings for logging. -/
def observabilityKeys : List String := ["log_level", "log_format"]

/-- The format of a name. -/
def formatNamed? (name : String) : Option LogFormat :=
  if name == "pretty" then some .pretty
  else if name == "json" then some .json
  else none

/-- The format that a value describes: its name, or a table with the name as its only key and
nothing under it. -/
def format? : Value → Option LogFormat
  | .text name => formatNamed? name
  | .table _ [(name, .table _ [])] => formatNamed? name
  | .table _ [(name, .array _ [])] => formatNamed? name
  | _ => none

/-- The settings for logging that a value describes. -/
def observability? (value : Value) : Option Observability := do
  let fields ← fields? observabilityKeys value
  let level ← textField? fields "log_level"
  let format ← (match fields.get? "log_format" with
    | none => some none
    | some value => (format? value).map some)
  return ⟨level.getD "info", format.getD .pretty⟩

/-! ## The whole table -/

/-- What a field of a table is read to be, or its default if it is missing. -/
def fieldOr {α : Type} (default : α) (read? : Value → Option α) (entries : Entries)
    (key : String) : Option α :=
  match entries.get? key with
  | none => some default
  | some value => read? value

end Shape

/-- The table that the entries of a document describe. -/
def Table.ofEntries? (entries : Entries) : Option Table := do
  let observability ← Shape.fieldOr {} Shape.observability? entries "observability"
  let routes ← Shape.fieldOr [] Shape.routes? entries "routes"
  let routers ← Shape.fieldOr [] (fun value => (Shape.items? value).bind Shape.routers?) entries
    "routers"
  return ⟨observability, routes, routers⟩

end UriRouting
