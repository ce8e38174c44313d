import Mathlib.Tactic
import UriRouting.Proofs.Template.Compiled
import UriRouting.Router.Lookup

/-!
# Looking up a path is a search through a list

`Router.searchOrder` lists all routes of a tree in the order in which a lookup comes to them, each
with the mounts on the way down to it.  A lookup finds the first entry of that list of which every
template captures what the one before it left over (`find_first_in_searchOrder`).

The lookup merges the parameters of a router with those of everything inside it on the way back up.
Along one entry this is the same as binding all that was captured from the outermost template to the
innermost one, which `layersAlong` keeps apart as one layer for each template.
-/

namespace UriRouting

/-! ## Layers -/

/-- What several templates capture one after the other, each in what the one before it left of the
path: a layer of names and texts for each of them, the outermost first. -/
def layersAlong : List Matchable → String → Option (List (List (String × String)))
  | [], _ => some []
  | m :: rest, path =>
    match m.captures path with
    | none => none
    | some hit => (layersAlong rest hit.remainder).map (m.captured path :: ·)

/-- A template binds what it captures in the whole path, and those inside it bind what they capture
in the remainder. -/
lemma layersAlong_cons {m : Matchable} {chain : List Matchable} {path : String}
    {layers : List (List (String × String))} (h : layersAlong (m :: chain) path = some layers) :
    ∃ hit inner, m.captures path = some hit ∧ layersAlong chain hit.remainder = some inner ∧
      layers = m.captured path :: inner := by
  rw [layersAlong] at h
  cases hhit : m.captures path with
  | none => simp [hhit] at h
  | some hit =>
    simp only [hhit] at h
    obtain ⟨inner, hinner, rfl⟩ := Option.map_eq_some_iff.mp h
    exact ⟨hit, inner, rfl, hinner, rfl⟩

/-- The text that the innermost template with a placeholder of a name captured for the last such
placeholder. -/
def innermost? (layers : List (List (String × String))) (name : String) : Option String :=
  layers.reverse.findSome? fun layer => Parameters.lastValue layer name

/-- Binding layers from the outermost to the innermost gives each name its innermost value. -/
lemma get?_bindAll_flatten (layers : List (List (String × String))) (name : String) :
    (Parameters.bindAll layers.flatten).get? name = innermost? layers name := by
  rw [Parameters.get?_bindAll]
  induction layers with
  | nil => rfl
  | cons layer rest ih =>
    simp only [innermost?, List.flatten_cons, List.reverse_cons, List.findSome?_append]
    rw [Parameters.lastValue_append, ih, innermost?]
    simp

/-! ## Entries -/

/-- A route of a tree, with the mounts on the way down to it, outermost first. -/
structure Entry where
  mounts : List Matchable
  route : Route

namespace Entry

/-- The templates of an entry, outermost first: its mounts and that of the route. -/
def chain (e : Entry) : List Matchable := e.mounts ++ [e.route.matchable]

/-- The entry seen from outside a router with a mount. -/
def under (mount : Option Matchable) (e : Entry) : Entry :=
  { e with mounts := mount.toList ++ e.mounts }

/-- What the templates of an entry capture in a path, if all of them are found. -/
def layers? (e : Entry) (path : String) : Option (List (List (String × String))) :=
  layersAlong e.chain path

/-- The route of an entry with the parameters that its templates bind. -/
def found? (e : Entry) (path : String) : Option Found :=
  (e.layers? path).map fun layers => ⟨e.route, Parameters.bindAll layers.flatten⟩

end Entry

namespace Router

mutual

/-- All routes of the tree in the order in which they are tried: at each router first everything in
the routers inside it and then its own routes. -/
def searchOrder : Router → List Entry
  | ⟨mount, _, routers, routes⟩ =>
    (searchOrderOf routers ++ routes.map (Entry.mk [])).map (Entry.under mount)

/-- All routes of several routers, one router after the other. -/
def searchOrderOf : List Router → List Entry
  | [] => []
  | r :: rest => r.searchOrder ++ searchOrderOf rest

end

/-! ## The lookup as a search -/

/-- A router's own template comes in front of what the entries inside it capture. -/
lemma found?_under (mount : Option Matchable) (e : Entry) (path : String) :
    (e.under mount).found? path = (enterMount mount path).bind fun entry =>
      (e.found? entry.remainder).map fun inner =>
        ⟨inner.route, entry.params.merge inner.params⟩ := by
  cases mount with
  | none =>
    simp only [Entry.found?, Entry.layers?, Entry.under, Entry.chain, enterMount,
      Option.toList_none, List.nil_append, Option.bind_some, Option.map_map]
    congr 1
    funext layers
    exact congrArg (Found.mk e.route) (Parameters.merge_bindAll [] layers.flatten).symm
  | some m =>
    simp only [Entry.found?, Entry.layers?, Entry.under, Entry.chain, enterMount,
      Option.toList_some, List.cons_append, List.nil_append, layersAlong]
    cases h : m.captures path with
    | none => rfl
    | some hit =>
      simp only [Option.map_map, Option.bind_some]
      congr 1
      funext layers
      simp only [Function.comp, List.flatten_cons]
      rw [← Parameters.merge_bindAll, Matchable.params_of_captures h]

lemma found?_own (route : Route) (path : String) :
    (Entry.mk [] route).found? path =
      (route.matchable.captures path).map fun hit => ⟨route, hit.params⟩ := by
  simp only [Entry.found?, Entry.layers?, Entry.chain, List.nil_append, layersAlong]
  cases h : route.matchable.captures path with
  | none => rfl
  | some hit => simp [Matchable.params_of_captures h]

lemma lookupRoutes_eq_findSome? (path : String) (routes : List Route) :
    lookupRoutes path routes = (routes.map (Entry.mk [])).findSome? fun e => e.found? path := by
  induction routes with
  | nil => rfl
  | cons route rest ih =>
    rw [List.map_cons, List.findSome?_cons, lookupRoutes, found?_own, ih]
    cases route.matchable.captures path <;> rfl

lemma findSome?_under (mount : Option Matchable) (entries : List Entry) (path : String) :
    (entries.map (Entry.under mount)).findSome? (fun e => e.found? path) =
      (enterMount mount path).bind fun entry =>
        (entries.findSome? fun e => e.found? entry.remainder).map fun inner =>
          ⟨inner.route, entry.params.merge inner.params⟩ := by
  rw [List.findSome?_map]
  simp only [Function.comp_def, found?_under]
  cases enterMount mount path with
  | none => simp
  | some entry =>
    simp only [Option.bind_some]
    rw [List.map_findSome?]
    rfl

mutual

/-- `lookup` finds the first entry of the search order that the path leads to. -/
theorem lookup_eq_findSome? (r : Router) (path : String) :
    r.lookup path = r.searchOrder.findSome? fun e => e.found? path := by
  match r with
  | ⟨mount, _, routers, routes⟩ =>
    rw [lookup, searchOrder, findSome?_under]
    cases enterMount mount path with
    | none => rfl
    | some entry =>
      simp only [Option.bind_some, List.findSome?_append]
      rw [lookupRouters_eq_findSome? routers, lookupRoutes_eq_findSome?]
      cases ((searchOrderOf routers).findSome? fun e => e.found? entry.remainder).or
        ((routes.map (Entry.mk [])).findSome? fun e => e.found? entry.remainder) <;> rfl

theorem lookupRouters_eq_findSome? (routers : List Router) (path : String) :
    lookupRouters routers path = (searchOrderOf routers).findSome? fun e => e.found? path := by
  match routers with
  | [] => rfl
  | r :: rest =>
    rw [lookupRouters, searchOrderOf, List.findSome?_append, ← lookup_eq_findSome? r,
      ← lookupRouters_eq_findSome? rest]
    cases r.lookup path <;> rfl

end

@[simp] lemma value_find (r : Router) (path : String) : (r.find path).value = r.lookup path := rfl

/-- The route that `find` returns is that of the first entry in search order of which every template
captures what the one before it left of the path, and there is none if no entry has this property.
The parameters give each name the text captured by the innermost template of that entry that has a
placeholder of the name, and bind no other name; what other entries captured plays no part. -/
theorem find_first_in_searchOrder (r : Router) (path : String) :
    ((r.find path).value = none ↔ ∀ e ∈ r.searchOrder, e.layers? path = none) ∧
    ∀ found, (r.find path).value = some found →
      ∃ before e after layers, r.searchOrder = before ++ e :: after ∧
        (∀ b ∈ before, b.layers? path = none) ∧ e.layers? path = some layers ∧
        found.route = e.route ∧ ∀ name, found.params.get? name = innermost? layers name := by
  rw [value_find, lookup_eq_findSome?]
  constructor
  · simp [List.findSome?_eq_none_iff, Entry.found?]
  · intro found h
    obtain ⟨before, e, after, horder, he, hbefore⟩ := List.findSome?_eq_some_iff.mp h
    obtain ⟨layers, hlayers, rfl⟩ := Option.map_eq_some_iff.mp he
    refine ⟨before, e, after, layers, horder, ?_, hlayers, rfl, get?_bindAll_flatten layers⟩
    intro b hb
    simpa [Entry.found?] using hbefore b hb

end Router

end UriRouting
