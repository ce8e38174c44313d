import UriRouting.Router.Basic
import UriRouting.Table.Basic

/-!
# The router of a table

`Router.ofTable` builds the tree that a table describes.  In every router the routers come before
the routes.  The first template that does not compile ends the work, and so does the first name that
a route before it has taken.
-/

namespace UriRouting.Router

/-- Gives a route the name of its entry; `names` are those given before. -/
def nameRoute (route : Route) (name : Option String) (names : List String) :
    Except RouteFault (Route × List String) :=
  match name with
  | none => .ok (route, names)
  | some name =>
    if names.contains name then .error (.duplicateName name)
    else .ok (route.named name, names ++ [name])

/-- Adds routes to a router. -/
def registerRoutes : List RouteEntry → Router → List String →
    Attempt RouteFault (Router × List String)
  | [], r, names => pure (r, names)
  | entry :: rest, r, names => do
    let route ← (r.leaf entry.template entry.target).adapt RouteFault.badTemplate
    let (route, names) ← Attempt.ofExcept (nameRoute route entry.name names)
    registerRoutes rest (r.addRoute route) names

mutual

/-- Builds the router of an entry, to be mounted in `parent`. -/
def registerRouter : RouterEntry → Router → List String → Attempt RouteFault (Router × List String)
  | ⟨mount, routes, routers⟩, parent, names => do
    let r ← (parent.child mount).adapt RouteFault.badTemplate
    let (r, names) ← registerRouters routers r names
    registerRoutes routes r names

/-- Mounts the routers of several entries. -/
def registerRouters : List RouterEntry → Router → List String →
    Attempt RouteFault (Router × List String)
  | [], r, names => pure (r, names)
  | entry :: rest, r, names => do
    let (inner, names) ← registerRouter entry r names
    registerRouters rest (r.addRouter inner) names

end

/-- The tree that a table describes. -/
def ofTable (table : Table) : Attempt RouteFault Router := do
  let (r, names) ← registerRouters table.routers empty []
  let (r, names) ← registerRoutes table.routes r names
  Attempt.note (.tableCompiled r.routeCount names.length)
  return r

end UriRouting.Router
