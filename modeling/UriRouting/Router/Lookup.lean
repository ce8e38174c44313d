import UriRouting.Router.Basic

/-!
# Looking up a path

A path is looked up from a router down.  The router's own template must be found in it; then the
routers inside are tried with what is left, in the order in which they were mounted, and then the
routes.  The first hit wins.  Parameters are collected on the way down, and inner values win over
outer ones of the same name; a branch that fails leaves none.

Names are looked for among a router's own routes first and then in the routers inside.
-/

namespace UriRouting

/-- A route that a path was found to lead to, with the parameters. -/
structure Found where
  route : Route
  params : Parameters

namespace Router

/-! ## Paths -/

/-- What a router's template makes of a path: its parameters and what is left. -/
def enterMount (mount : Option Matchable) (path : String) : Option PathMatch :=
  match mount with
  | none => some ⟨Parameters.empty, path⟩
  | some matchable => matchable.captures path

/-- The first of some routes that a path leads to. -/
def lookupRoutes (path : String) : List Route → Option Found
  | [] => none
  | route :: rest =>
    match route.matchable.captures path with
    | some hit => some ⟨route, hit.params⟩
    | none => lookupRoutes path rest

mutual

/-- The route that a path leads to from this router on. -/
def lookup : Router → String → Option Found
  | ⟨mount, _, routers, routes⟩, path =>
    match enterMount mount path with
    | none => none
    | some entry =>
      match (lookupRouters routers entry.remainder).or (lookupRoutes entry.remainder routes) with
      | none => none
      | some inner => some ⟨inner.route, entry.params.merge inner.params⟩

/-- The route that a path leads to by the first of several routers. -/
def lookupRouters : List Router → String → Option Found
  | [], _ => none
  | r :: rest, path =>
    match r.lookup path with
    | some found => some found
    | none => lookupRouters rest path

end

/-- What is noted about a lookup. -/
def lookupOutcome (path : String) : Option Found → Observation
  | some found => .routeMatched path found.route.target
  | none => .noRouteMatched path

/-- Looks a path up and notes whether there is a route. -/
def find (r : Router) (path : String) : Recorded (Option Found) := do
  let found := r.lookup path
  Recorded.note (lookupOutcome path found)
  return found

/-! ## Names -/

mutual

/-- The route of a name. -/
def routeByName? : Router → String → Option Route
  | ⟨_, _, routers, routes⟩, name =>
    match routes.find? fun route => route.name == some name with
    | some route => some route
    | none => routeByNameIn? routers name

/-- The route of a name in the first of several routers that has one. -/
def routeByNameIn? : List Router → String → Option Route
  | [], _ => none
  | r :: rest, name =>
    match r.routeByName? name with
    | some route => some route
    | none => routeByNameIn? rest name

end

/-- Builds the path of the route of a name. -/
def url (r : Router) (name : String) (values : List String) : Except RouteFault String :=
  match r.routeByName? name with
  | none => .error (.unknownRoute name)
  | some route => route.buildUri values

end Router

end UriRouting
