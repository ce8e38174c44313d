import Mathlib.Tactic
import UriRouting.Proofs.Router.Places
import UriRouting.Proofs.Table.Described
import UriRouting.Proofs.Table.Located

/-!
# The routes that names lead to

A route of a tree stands at a location, just as the entry of a route stands at one in a table: some
positions lead down to a router, and there the route has a position of its own
(`Router.routeAt?`).  Locations come one after the other as `Location.Precedes` has it, own routes
before the routers inside and those in their order.

Trees that are built by hand may give a name to several routes.  The route of a name is then the one
at the earliest location (`Router.routeByName?_eq_some_iff`).  The tree of a table has the routes of
the table at the locations of their entries (`Table.Describes.rel_routeAt?`), and no name is given
twice there; so the route of a name is that of the one entry that gives it (`routeByName?_first`).
-/

namespace UriRouting

lemma Location.precedes_cons (i : Nat) {first second : Location} (h : first.Precedes second) :
    (⟨i :: first.routers, first.route⟩ : Location).Precedes
      ⟨i :: second.routers, second.route⟩ := by
  rcases h with hlt | ⟨heq, hlt⟩
  · exact .inl (List.Lex.append_left (· < ·) hlt [i])
  · exact .inr ⟨by rw [heq], hlt⟩

namespace Router

/-- The route at a location. -/
def routeAt? (r : Router) (location : Location) : Option Route :=
  (r.at? location.routers).bind fun node => node.routes[location.route]?

/-- A route of this name stands at the location, and every other one comes later. -/
structure IsFirstNamed (r : Router) (name : String) (location : Location) (route : Route) :
    Prop where
  here : r.routeAt? location = some route
  named : route.name = some name
  first : ∀ other another, r.routeAt? other = some another → another.name = some name →
    other = location ∨ location.Precedes other

lemma routeAt?_cons (r : Router) (j : Nat) (place : List Nat) (i : Nat) :
    r.routeAt? ⟨j :: place, i⟩ = r.routers[j]?.bind fun inner => inner.routeAt? ⟨place, i⟩ :=
  Option.bind_assoc ..

lemma IsFirstNamed.unique {r : Router} {name : String} {location location' : Location}
    {route route' : Route} (h : r.IsFirstNamed name location route)
    (h' : r.IsFirstNamed name location' route') : location = location' ∧ route = route' := by
  have hlocation : location = location' := by
    rcases h.first location' route' h'.here h'.named with heq | hlater
    · exact heq.symm
    · rcases h'.first location route h.here h.named with heq | hearlier
      · exact heq
      · exact absurd hlater hearlier.not_precedes
  subst hlocation
  exact ⟨rfl, Option.some.inj (h.here.symm.trans h'.here)⟩

/-! ## The search for a name -/

lemma mem_nameOrder_of_routeAt? {r : Router} {location : Location} {route : Route}
    (h : r.routeAt? location = some route) : route ∈ r.nameOrder := by
  obtain ⟨node, hnode, hroute⟩ := Option.bind_eq_some_iff.mp h
  obtain ⟨before, after, horder⟩ := exists_nameOrder_modifyAt hnode
  have hsame : r.modifyAt id location.routers = r := modifyAt_of_eq hnode rfl
  have hown : route ∈ node.nameOrder := by
    obtain ⟨_, _, _, routes⟩ := node
    exact List.mem_append_left _ (List.mem_of_getElem? hroute)
  rw [← hsame, horder]
  simp only [id_eq, List.mem_append]
  exact .inl (.inr hown)

lemma name_ne_of_routeByName?_eq_none {r : Router} {name : String} (h : r.routeByName? name = none)
    {location : Location} {route : Route} (hroute : r.routeAt? location = some route) :
    route.name ≠ some name := by
  rw [routeByName?_eq_find?, List.find?_eq_none] at h
  simpa using h route (mem_nameOrder_of_routeAt? hroute)

section Steps

variable {r : Router} {name : String} {route : Route}

/-- The first of the router's own routes that has the name comes before all that is inside. -/
lemma exists_isFirstNamed_own
    (h : (r.routes.find? fun route => route.name == some name) = some route) :
    ∃ i, r.IsFirstNamed name ⟨[], i⟩ route := by
  obtain ⟨hnamed, i, hi, hget, hbefore⟩ := List.find?_eq_some_iff_getElem.mp h
  refine ⟨i, List.getElem?_eq_some_iff.mpr ⟨hi, hget⟩, by simpa using hnamed, ?_⟩
  rintro ⟨place, k⟩ another hanother hname
  cases place with
  | nil =>
    obtain ⟨hk, rfl⟩ := List.getElem?_eq_some_iff.mp hanother
    rcases Nat.lt_trichotomy k i with hlt | rfl | hlt
    · have hmissed := hbefore k hlt
      simp [hname] at hmissed
    · exact .inl rfl
    · exact .inr (.inr ⟨rfl, hlt⟩)
  | cons j inner => exact .inr (Location.precedes_deeper [] i j inner k)

/-- Where no own route and no router before has the name, the first one in a router is the first
one of all. -/
lemma IsFirstNamed.outside {inner : Router} {i : Nat} {location : Location}
    (h : inner.IsFirstNamed name location route) (hinner : r.routers[i]? = some inner)
    (hown : (r.routes.find? fun route => route.name == some name) = none)
    (hbefore : ∀ j < i, ∀ other, r.routers[j]? = some other → other.routeByName? name = none) :
    r.IsFirstNamed name ⟨i :: location.routers, location.route⟩ route := by
  refine ⟨?_, h.named, ?_⟩
  · rw [routeAt?_cons, hinner]
    exact h.here
  rintro ⟨place, k⟩ another hanother hname
  cases place with
  | nil =>
    have hmissed := List.find?_eq_none.mp hown another (List.mem_of_getElem? hanother)
    simp [hname] at hmissed
  | cons j place =>
    rw [routeAt?_cons] at hanother
    obtain ⟨other, hother, hanother⟩ := Option.bind_eq_some_iff.mp hanother
    rcases Nat.lt_trichotomy j i with hlt | rfl | hlt
    · have hnone := hbefore j hlt other hother
      exact absurd hname (name_ne_of_routeByName?_eq_none hnone hanother)
    · obtain rfl := Option.some.inj (hinner.symm.trans hother)
      rcases h.first _ another hanother hname with heq | hlater
      · rw [← heq]
        exact .inl rfl
      · exact .inr (Location.precedes_cons j hlater)
    · exact .inr (Location.precedes_beside hlt [] location.routers place _ _)

end Steps

mutual

/-- The search ends at the earliest location. -/
lemma exists_isFirstNamed {name : String} {route : Route} (r : Router)
    (h : r.routeByName? name = some route) : ∃ location, r.IsFirstNamed name location route := by
  match r with
  | ⟨mount, full, routers, routes⟩ =>
    rw [routeByName?] at h
    cases hown : routes.find? fun route => route.name == some name with
    | some own =>
      rw [hown] at h
      obtain rfl := Option.some.inj h
      obtain ⟨i, hfirst⟩ := exists_isFirstNamed_own (r := ⟨mount, full, routers, routes⟩) hown
      exact ⟨⟨[], i⟩, hfirst⟩
    | none =>
      rw [hown] at h
      obtain ⟨i, inner, location, hinner, hfirst, hbefore⟩ := exists_isFirstNamedIn routers h
      exact ⟨_, hfirst.outside hinner hown hbefore⟩

lemma exists_isFirstNamedIn {name : String} {route : Route} (routers : List Router)
    (h : routeByNameIn? routers name = some route) :
    ∃ (i : Nat) (inner : Router) (location : Location), routers[i]? = some inner ∧
      inner.IsFirstNamed name location route ∧
      ∀ (j : Nat), j < i → ∀ (other : Router), routers[j]? = some other →
        other.routeByName? name = none := by
  match routers with
  | [] => cases h
  | r :: rest =>
    rw [routeByNameIn?] at h
    cases hr : r.routeByName? name with
    | some found =>
      rw [hr] at h
      obtain rfl := Option.some.inj h
      obtain ⟨location, hlocation⟩ := exists_isFirstNamed r hr
      refine ⟨0, r, location, rfl, hlocation, ?_⟩
      intro j hj
      exact absurd hj (Nat.not_lt_zero j)
    | none =>
      rw [hr] at h
      obtain ⟨i, inner, location, hinner, hfirst, hbefore⟩ := exists_isFirstNamedIn rest h
      refine ⟨i + 1, inner, location, hinner, hfirst, ?_⟩
      intro j hj other hother
      cases j with
      | zero =>
        obtain rfl := Option.some.inj hother
        exact hr
      | succ j => exact hbefore j (Nat.lt_of_succ_lt_succ hj) other hother

end

theorem routeByName?_eq_none_iff {r : Router} {name : String} :
    r.routeByName? name = none ↔
      ∀ location route, r.routeAt? location = some route → route.name ≠ some name := by
  constructor
  · intro h location route hroute
    exact name_ne_of_routeByName?_eq_none h hroute
  · intro h
    cases hfound : r.routeByName? name with
    | none => rfl
    | some route =>
      obtain ⟨location, hfirst⟩ := exists_isFirstNamed r hfound
      exact absurd hfirst.named (h location route hfirst.here)

/-- A name leads to the route at the earliest location where a route has it. -/
theorem routeByName?_eq_some_iff {r : Router} {name : String} {route : Route} :
    r.routeByName? name = some route ↔ ∃ location, r.IsFirstNamed name location route := by
  refine ⟨exists_isFirstNamed r, ?_⟩
  rintro ⟨location, hfirst⟩
  cases hfound : r.routeByName? name with
  | none => exact absurd hfirst.named (name_ne_of_routeByName?_eq_none hfound hfirst.here)
  | some found =>
    obtain ⟨location', hfirst'⟩ := exists_isFirstNamed r hfound
    rw [(hfirst.unique hfirst').2]

end Router

/-! ## The locations of a table -/

/-- The templates of the routers on the way from an entry down to a place in it, without that of the
entry itself. -/
def RouterEntry.mountsInside (entry : RouterEntry) : List Nat → List String
  | [] => []
  | i :: place => entry.routers[i]?.elim [] fun inner => inner.mount :: inner.mountsInside place

/-- The templates of the routers around a place in a table, outermost first. -/
def Table.mountsAround (table : Table) (place : List Nat) : List String :=
  table.root.mountsInside place

lemma rel_getElem? {α β : Type} {R : α → β → Prop} {first : List α} {second : List β}
    (h : List.Forall₂ R first second) (i : Nat) : Option.Rel R first[i]? second[i]? := by
  induction h generalizing i with
  | nil => exact .none
  | cons hhead _ ih =>
    cases i with
    | zero => exact .some hhead
    | succ i => exact ih i

lemma DescribeAll.forall₂ {around : List String} {entries : List RouterEntry}
    {routers : List Router} (h : DescribeAll around entries routers) :
    List.Forall₂ (RouterEntry.Describes around) entries routers := by
  induction entries generalizing routers with
  | nil =>
    cases h
    exact .nil
  | cons entry rest ih =>
    cases h with
    | cons hfirst hrest => exact .cons hfirst (ih hrest)

/-- A router whose routers and routes are those of an entry has its routes at the locations of
theirs, and no others. -/
lemma RouterEntry.rel_routeAt? {around : List String} {entry : RouterEntry} {r : Router}
    (hrouters : DescribeAll around entry.routers r.routers)
    (hroutes : List.Forall₂ (RouteEntry.Describes around) entry.routes r.routes) (place : List Nat)
    (i : Nat) :
    Option.Rel (RouteEntry.Describes (around ++ entry.mountsInside place))
      (entry.routeAt? i place) (r.routeAt? ⟨place, i⟩) := by
  induction place generalizing around entry r with
  | nil =>
    rw [mountsInside, List.append_nil]
    exact rel_getElem? hroutes i
  | cons j place ih =>
    rw [mountsInside, RouterEntry.routeAt?, Router.routeAt?_cons]
    have hinner := rel_getElem? hrouters.forall₂ j
    generalize entry.routers[j]? = inner, r.routers[j]? = router at hinner ⊢
    cases hinner with
    | none => exact .none
    | some hdescribes =>
      cases hdescribes with
      | intro _ _ _ hinside hleaves =>
        rw [Option.elim_some, List.append_cons]
        exact ih hinside hleaves

/-- The tree of a table has the routes of the table at the locations of their entries. -/
theorem Table.Describes.rel_routeAt? {table : Table} {r : Router} (h : table.Describes r)
    (location : Location) :
    Option.Rel (RouteEntry.Describes (table.mountsAround location.routers))
      (table.routeAt? location) (r.routeAt? location) :=
  @RouterEntry.rel_routeAt? [] table.root r h.routers h.routes location.routers location.route

lemma Table.location_unique {table : Table} (hnames : table.names.Nodup) {name : String}
    {first second : Location} {entry other : RouteEntry}
    (hfirst : table.routeAt? first = some entry) (hsecond : table.routeAt? second = some other)
    (hname : entry.name = some name) (hother : other.name = some name) : first = second := by
  have hroutes : table.locatedRoutes.map Prod.snd = table.allRoutes :=
    RouterEntry.map_snd_locatedRoutes [] table.root
  rw [Table.names, namesOf, ← hroutes, List.filterMap_map, List.Nodup,
    List.pairwise_filterMap] at hnames
  have hapart : table.locatedRoutes.Pairwise fun a b =>
      ¬ (a.2.name = some name ∧ b.2.name = some name) := by
    refine hnames.imp ?_
    rintro a b hab ⟨ha, hb⟩
    exact hab name ha name hb rfl
  have hsymm : Std.Symm fun a b : Location × RouteEntry =>
      ¬ (a.2.name = some name ∧ b.2.name = some name) := ⟨fun a b hab hba => hab hba.symm⟩
  by_contra hne
  have hdifferent : (first, entry) ≠ (second, other) := fun heq => hne (Prod.mk.inj heq).1
  exact hapart.forall (Table.mem_locatedRoutes.mpr hfirst) (Table.mem_locatedRoutes.mpr hsecond)
    hdifferent ⟨hname, hother⟩

namespace Router

section OfTable

variable {table : Table} {r : Router} (h : (ofTable table).run.value = .ok r)
include h

lemma nodup_names_of_value_ofTable : table.names.Nodup :=
  (Registration.names_registrations_perm table).nodup_iff.mp
    (Registration.nodup_names (exists_ofTable_iff.mp ⟨r, h⟩))

lemma location_unique_of_value_ofTable {name : String} {first second : Location}
    {route other : Route} (hfirst : r.routeAt? first = some route)
    (hsecond : r.routeAt? second = some other) (hname : route.name = some name)
    (hother : other.name = some name) : first = second := by
  have hdescribes := describes_of_value_ofTable h
  have hentry (location : Location) (leaf : Route) (hleaf : r.routeAt? location = some leaf) :
      ∃ entry, table.routeAt? location = some entry ∧ entry.name = leaf.name := by
    have hrel := hdescribes.rel_routeAt? location
    rw [hleaf] at hrel
    cases hlocated : table.routeAt? location with
    | none =>
      rw [hlocated] at hrel
      cases hrel
    | some entry =>
      rw [hlocated] at hrel
      cases hrel with
      | some hrel => exact ⟨entry, rfl, hrel.name.symm⟩
  obtain ⟨entry, hentry₁, hname₁⟩ := hentry first route hfirst
  obtain ⟨entry', hentry₂, hname₂⟩ := hentry second other hsecond
  exact Table.location_unique (nodup_names_of_value_ofTable h) hentry₁ hentry₂
    (hname₁.trans hname) (hname₂.trans hother)

lemma exists_routeAt?_of_entry {location : Location} {entry : RouteEntry}
    (hentry : table.routeAt? location = some entry) :
    ∃ route, r.routeAt? location = some route ∧
      entry.Describes (table.mountsAround location.routers) route := by
  have hrel := (describes_of_value_ofTable h).rel_routeAt? location
  rw [hentry] at hrel
  generalize r.routeAt? location = found at hrel
  cases hrel with
  | some hrel => exact ⟨_, rfl, hrel⟩

end OfTable

/-! ## The paths of names -/

lemma buildUri_ne_unknownRoute (template : String) (values : List String) (name : String) :
    UriRouting.buildUri template values ≠ .error (.unknownRoute name) := by
  unfold UriRouting.buildUri
  split
  · simp
  · dsimp only
    split <;> simp

lemma url_eq_unknownRoute_iff {r : Router} {name unknown : String} {values : List String} :
    r.url name values = .error (.unknownRoute unknown) ↔
      r.routeByName? name = none ∧ unknown = name := by
  rw [url]
  cases hfound : r.routeByName? name with
  | none => simp [eq_comm]
  | some route =>
    simp only [reduceCtorEq, false_and, iff_false]
    exact buildUri_ne_unknownRoute route.fullTemplate values unknown

/-- In any router, whether names are given once or more often, a name leads to the route at the
earliest location where a route has it; it leads nowhere if no route has it and only then, and only
then a path for it is refused because of its name.  In the tree of a table a name is that of one
route at most.  The route of an entry stands at the location of the entry and has been compiled from
its template, and the name of the entry leads to this route and to the paths that it builds. -/
theorem routeByName?_first (r : Router) (name : String) :
    (∀ route, r.routeByName? name = some route ↔
      ∃ location, r.IsFirstNamed name location route) ∧
    (r.routeByName? name = none ↔
      ∀ location route, r.routeAt? location = some route → route.name ≠ some name) ∧
    (∀ values unknown, r.url name values = .error (.unknownRoute unknown) ↔
      r.routeByName? name = none ∧ unknown = name) ∧
    ∀ table, (ofTable table).run.value = .ok r →
      (∀ first second route other, r.routeAt? first = some route →
        r.routeAt? second = some other → route.name = some name → other.name = some name →
        first = second) ∧
      ∀ location entry, table.routeAt? location = some entry → entry.name = some name →
        ∃ route, r.routeAt? location = some route ∧
          entry.Describes (table.mountsAround location.routers) route ∧
          r.routeByName? name = some route ∧
          ∀ values, r.url name values = route.buildUri values := by
  refine ⟨fun route => routeByName?_eq_some_iff, routeByName?_eq_none_iff,
    fun values unknown => url_eq_unknownRoute_iff, ?_⟩
  intro table h
  have hunique (first second : Location) (route other : Route)
      (hfirst : r.routeAt? first = some route) (hsecond : r.routeAt? second = some other)
      (hname : route.name = some name) (hother : other.name = some name) : first = second :=
    location_unique_of_value_ofTable h hfirst hsecond hname hother
  refine ⟨hunique, ?_⟩
  intro location entry hentry hname
  obtain ⟨route, hroute, hdescribes⟩ := exists_routeAt?_of_entry h hentry
  have hnamed : route.name = some name := hdescribes.name.trans hname
  have hfirst : r.IsFirstNamed name location route := by
    refine ⟨hroute, hnamed, ?_⟩
    intro other another hanother hagain
    exact .inl (hunique other location another route hanother hroute hagain hnamed)
  have hfound : r.routeByName? name = some route := routeByName?_eq_some_iff.mpr ⟨location, hfirst⟩
  refine ⟨route, hroute, hdescribes, hfound, ?_⟩
  intro values
  rw [url, hfound]

/-- The name "user" of `nestedTable` leads to the route of the entry that gives it. -/
theorem routeByName?_first_nestedTable : ∃ r, (ofTable nestedTable).run.value = .ok r ∧
    ∃ route, r.routeAt? ⟨[0, 0], 0⟩ = some route ∧
      RouteEntry.Describes ["/api/{version:v[0-9]+}", "/users"]
        ⟨some "user", "/{id}", "users"⟩ route ∧
      r.routeByName? "user" = some route ∧
      ∀ values, r.url "user" values = route.buildUri values := by
  have hbuilt : (ofTable nestedTable).run.value.toOption.isSome := by decide +kernel
  obtain ⟨r, hr⟩ := Option.isSome_iff_exists.mp hbuilt
  have hr := Attempt.toOption_eq_some.mp hr
  exact ⟨r, hr, ((routeByName?_first r "user").2.2.2 nestedTable hr).2 ⟨[0, 0], 0⟩ _ rfl rfl⟩

end Router

end UriRouting
