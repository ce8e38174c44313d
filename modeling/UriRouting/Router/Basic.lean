import UriRouting.Template.Uri

/-!
# Routers

A router is a node of a tree of routes.  Every router but the root is mounted under a template that
a path must begin with; what is left of the path goes to the router's own routers and routes.

Routes and routers are added by the operations of this file only.  Each compiles its template first
and leaves the tree as it is if that fails.  A route remembers its full template, which is the
templates of all routers around it followed by its own.
-/

namespace UriRouting

/-- An end of the tree: a template for the rest of a path, and what it leads to. -/
structure Route where
  name : Option String
  target : String
  /-- The template with those of all routers around it in front. -/
  fullTemplate : String
  matchable : Matchable

/-- A node of the tree. -/
structure Router where
  /-- The template under which the router is mounted; the root has none. -/
  mount : Option Matchable
  /-- The templates of this router and all around it, outermost first. -/
  fullMount : String
  routers : List Router
  routes : List Route

namespace Router

/-- A root without routes. -/
def empty : Router := ⟨none, "", [], []⟩

/-! ## Adding -/

/-- A new router to be mounted in this one. -/
def child (r : Router) (mount : String) : Attempt TemplateFault Router := do
  let matchable ← Matchable.compile mount .leading
  return ⟨some matchable, r.fullMount ++ mount, [], []⟩

/-- A new route to be added to this router. -/
def leaf (r : Router) (template target : String) : Attempt TemplateFault Route := do
  let matchable ← Matchable.compile template .full
  return ⟨none, target, r.fullMount ++ template, matchable⟩

/-- Mounts a router after the ones that are there. -/
def addRouter (r : Router) (inner : Router) : Router := { r with routers := r.routers ++ [inner] }

/-- Adds a route after the ones that are there. -/
def addRoute (r : Router) (route : Route) : Router := { r with routes := r.routes ++ [route] }

/-! ## Counting -/

mutual

/-- The number of routes in the router and all routers in it. -/
def routeCount : Router → Nat
  | ⟨_, _, routers, routes⟩ => routes.length + routeCountOf routers

/-- The number of routes in several routers. -/
def routeCountOf : List Router → Nat
  | [] => 0
  | r :: rest => r.routeCount + routeCountOf rest

end

end Router

/-- Gives a route a name, in place of one that it had. -/
def Route.named (route : Route) (name : String) : Route := { route with name := some name }

/-- Builds a path for a route; the values for the routers around it come first. -/
def Route.buildUri (route : Route) (values : List String) : Except RouteFault String :=
  UriRouting.buildUri route.fullTemplate values

end UriRouting
