import Mathlib.Tactic
import UriRouting.Router.Lookup

/-!
# Looking up a name is a search through a list

`Router.nameOrder` lists all routes of a tree in the order in which a name is looked for: the routes
of a router come before those of the routers in it.  The route of a name is the first one in this
list that has the name (`routeByName?_eq_find?`), and the list is as long as the tree has routes
(`routeCount_eq_length`).
-/

namespace UriRouting.Router

mutual

/-- All routes of the tree in the order in which names are looked for. -/
def nameOrder : Router → List Route
  | ⟨_, _, routers, routes⟩ => routes ++ nameOrderOf routers

/-- All routes of several routers, one router after the other. -/
def nameOrderOf : List Router → List Route
  | [] => []
  | r :: rest => r.nameOrder ++ nameOrderOf rest

end

lemma nameOrderOf_append (first second : List Router) :
    nameOrderOf (first ++ second) = nameOrderOf first ++ nameOrderOf second := by
  induction first with
  | nil => rfl
  | cons r first ih => simp [nameOrderOf, ih]

mutual

/-- `routeByName?` finds the first route in the order of names that has the name. -/
theorem routeByName?_eq_find? (r : Router) (name : String) :
    r.routeByName? name = r.nameOrder.find? fun route => route.name == some name := by
  match r with
  | ⟨_, _, routers, routes⟩ =>
    rw [routeByName?, nameOrder, List.find?_append, routeByNameIn?_eq_find? routers]
    cases routes.find? fun route => route.name == some name <;> rfl

theorem routeByNameIn?_eq_find? (routers : List Router) (name : String) :
    routeByNameIn? routers name =
      (nameOrderOf routers).find? fun route => route.name == some name := by
  match routers with
  | [] => rfl
  | r :: rest =>
    rw [routeByNameIn?, nameOrderOf, List.find?_append, ← routeByName?_eq_find? r,
      ← routeByNameIn?_eq_find? rest]
    cases r.routeByName? name <;> rfl

end

mutual

/-- Every route is counted once. -/
theorem routeCount_eq_length (r : Router) : r.routeCount = r.nameOrder.length := by
  match r with
  | ⟨_, _, routers, routes⟩ =>
    rw [routeCount, nameOrder, List.length_append, routeCountOf_eq_length routers]

theorem routeCountOf_eq_length (routers : List Router) :
    routeCountOf routers = (nameOrderOf routers).length := by
  match routers with
  | [] => rfl
  | r :: rest =>
    rw [routeCountOf, nameOrderOf, List.length_append, routeCount_eq_length r,
      routeCountOf_eq_length rest]

end

end UriRouting.Router
