/-!
# Tables of routes

A table as its author writes it: routes and routers that hold routes and routers of their own, and
how the program that uses the table is to log.
-/

namespace UriRouting

/-- A route of a table. -/
structure RouteEntry where
  /-- The name under which its path can be built. -/
  name : Option String
  /-- The template, which continues the templates of the routers around it. -/
  template : String
  /-- What the route leads to. -/
  target : String
deriving DecidableEq

/-- A router of a table, with everything mounted under its template. -/
structure RouterEntry where
  mount : String := ""
  routes : List RouteEntry := []
  routers : List RouterEntry := []
deriving Inhabited

/-- How lines of the log look. -/
inductive LogFormat
  | pretty
  | json
deriving DecidableEq

/-- How the program logs. -/
structure Observability where
  logLevel : String := "info"
  logFormat : LogFormat := .pretty
deriving DecidableEq

/-- The directive that sets the level of the log for the program's own lines. -/
def Observability.directiveFor (level : String) : String := "routebind=" ++ level

/-- A table of routes. -/
structure Table where
  observability : Observability := {}
  routes : List RouteEntry := []
  routers : List RouterEntry := []

/-! ## Counting -/

mutual

/-- The routes of a router entry, however deep. -/
def RouterEntry.allRoutes : RouterEntry → List RouteEntry
  | ⟨_, routes, routers⟩ => routes ++ allRoutesOf routers

/-- The routes of several router entries, however deep. -/
def allRoutesOf : List RouterEntry → List RouteEntry
  | [] => []
  | entry :: rest => entry.allRoutes ++ allRoutesOf rest

end

/-- The routes of a table, however deep. -/
def Table.allRoutes (table : Table) : List RouteEntry := table.routes ++ allRoutesOf table.routers

end UriRouting
