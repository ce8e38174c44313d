import UriRouting.Router.Basic

/-!
# Building a tree by hand

A builder stands at one router of a tree that is being built.  It can mount a new router and enter
it, go back to the router around, and add routes where it stands.  A step that fails leaves the tree
as it is.
-/

namespace UriRouting

/-- A place in a tree that is being built: the router there, and those around it without the way
down to it, innermost first. -/
structure Builder where
  here : Router
  around : List Router

namespace Builder

/-- At the root of an empty tree. -/
def start : Builder := ⟨Router.empty, []⟩

/-- Mounts a new router and enters it. -/
def enter (b : Builder) (mount : String) : Attempt TemplateFault Builder := do
  let inner ← b.here.child mount
  return ⟨inner, b.here :: b.around⟩

/-- Goes back to the router around; there is none around the root. -/
def leave? (b : Builder) : Option Builder :=
  match b.around with
  | [] => none
  | outer :: rest => some ⟨outer.addRouter b.here, rest⟩

/-- Adds a route with the last of some names, if there are any. -/
def addRoute (b : Builder) (template target : String) (names : List String) :
    Attempt TemplateFault (Builder × Route) := do
  let route ← b.here.leaf template target
  let route := names.foldl Route.named route
  return ({ b with here := b.here.addRoute route }, route)

/-- The whole tree. -/
def root (b : Builder) : Router := b.around.foldl (fun inner outer => outer.addRouter inner) b.here

end Builder

end UriRouting
