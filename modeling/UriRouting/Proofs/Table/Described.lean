import Mathlib.Tactic
import UriRouting.Proofs.Table.Names

/-!
# The tree that a table describes

`Table.Describes` says of a table and a tree, without building anything, that one has the shape of
the other: at every level the routers and the routes stand in the order of their entries, all
templates are compiled ones, and a route has the name and the target of its entry and a full
template that starts with the templates of the routers around it.

The tree that is built from a table is such a tree (`ofTable_describes`).  Routers and routes are
added to the tree one at a time, so what is shown of the recursion is what it adds to a router that
is there already: the routers or the routes that the entries describe, behind those there are.
-/

namespace UriRouting

/-- The route is that of an entry, where `around` are the templates of the routers around it,
outermost first. -/
structure RouteEntry.Describes (around : List String) (entry : RouteEntry) (route : Route) :
    Prop where
  name : route.name = entry.name
  target : route.target = entry.target
  fullTemplate : route.fullTemplate = String.join around ++ entry.template
  compiled : (Matchable.compile entry.template .full).run.value = .ok route.matchable

mutual

/-- The router is that of an entry. -/
inductive RouterEntry.Describes : List String → RouterEntry → Router → Prop
  | intro {around : List String} {entry : RouterEntry} {r : Router} {m : Matchable}
      (mount : r.mount = some m)
      (compiled : (Matchable.compile entry.mount .leading).run.value = .ok m)
      (fullMount : r.fullMount = String.join (around ++ [entry.mount]))
      (routers : DescribeAll (around ++ [entry.mount]) entry.routers r.routers)
      (routes : List.Forall₂ (RouteEntry.Describes (around ++ [entry.mount])) entry.routes
        r.routes) :
      RouterEntry.Describes around entry r

/-- The routers are those of several entries, in order. -/
inductive DescribeAll : List String → List RouterEntry → List Router → Prop
  | nil {around : List String} : DescribeAll around [] []
  | cons {around : List String} {entry : RouterEntry} {r : Router} {entries : List RouterEntry}
      {routers : List Router} (first : RouterEntry.Describes around entry r)
      (rest : DescribeAll around entries routers) :
      DescribeAll around (entry :: entries) (r :: routers)

end

/-- The tree is that of a table.  Its root has no template. -/
structure Table.Describes (table : Table) (r : Router) : Prop where
  mount : r.mount = none
  fullMount : r.fullMount = ""
  routers : DescribeAll [] table.routers r.routers
  routes : List.Forall₂ (RouteEntry.Describes []) table.routes r.routes

/-! ## What is added to a router -/

namespace Router

lemma nameRoute_of_unnamed {route named : Route} {name : Option String}
    {taken after : List String} (hname : route.name = none)
    (h : nameRoute route name taken = .ok (named, after)) : named = { route with name } := by
  unfold nameRoute at h
  split at h
  next =>
    obtain ⟨rfl, _⟩ := Prod.mk.inj (Except.ok.inj h)
    rw [← hname]
  next name =>
    split at h
    · cases h
    · obtain ⟨rfl, _⟩ := Prod.mk.inj (Except.ok.inj h)
      rfl

lemma describes_of_leaf {around : List String} {entry : RouteEntry} {r : Router}
    {leaf route : Route} {taken after : List String} (hfull : r.fullMount = String.join around)
    (hleaf : (r.leaf entry.template entry.target).run.value = .ok leaf)
    (hroute : nameRoute leaf entry.name taken = .ok (route, after)) :
    entry.Describes around route := by
  obtain ⟨m, hm, hleaf⟩ := Attempt.value_bind_eq_ok.mp hleaf
  obtain rfl := Except.ok.inj hleaf
  obtain rfl := nameRoute_of_unnamed rfl hroute
  exact ⟨rfl, rfl, by rw [← hfull], hm⟩

lemma registerRoutes_describes {around : List String} {entries : List RouteEntry} {r r' : Router}
    {taken after : List String} (hfull : r.fullMount = String.join around)
    (h : (registerRoutes entries r taken).run.value = .ok (r', after)) :
    ∃ added, r' = { r with routes := r.routes ++ added } ∧
      List.Forall₂ (RouteEntry.Describes around) entries added := by
  induction entries generalizing r taken with
  | nil =>
    obtain ⟨rfl, _⟩ := Prod.mk.inj (Except.ok.inj h)
    exact ⟨[], by cases r; simp, .nil⟩
  | cons entry rest ih =>
    rw [registerRoutes] at h
    obtain ⟨leaf, hleaf, h⟩ := Attempt.value_bind_eq_ok.mp h
    obtain ⟨⟨route, names⟩, hroute, h⟩ := Attempt.value_bind_eq_ok.mp h
    rw [Attempt.value_adapt, Attempt.mapError_eq_ok] at hleaf
    have hentry : entry.Describes around route := describes_of_leaf hfull hleaf hroute
    obtain ⟨added, rfl, hadded⟩ := ih (r := r.addRoute route) hfull h
    exact ⟨route :: added, by simp [addRoute], .cons hentry hadded⟩

mutual

lemma registerRouter_describes {around : List String} (entry : RouterEntry) {parent r : Router}
    {taken after : List String} (hfull : parent.fullMount = String.join around)
    (h : (registerRouter entry parent taken).run.value = .ok (r, after)) :
    entry.Describes around r := by
  match entry with
  | ⟨mount, routes, routers⟩ =>
    rw [registerRouter] at h
    obtain ⟨inner, hinner, h⟩ := Attempt.value_bind_eq_ok.mp h
    rw [Attempt.value_adapt, Attempt.mapError_eq_ok] at hinner
    obtain ⟨m, hm, hinner⟩ := Attempt.value_bind_eq_ok.mp hinner
    obtain rfl := Except.ok.inj hinner
    obtain ⟨⟨filled, names⟩, hfilled, h⟩ := Attempt.value_bind_eq_ok.mp h
    -- for what is in the router, its own template is the innermost one around
    have hinside : parent.fullMount ++ mount = String.join (around ++ [mount]) := by
      rw [hfull]
      simp
    obtain ⟨innerRouters, rfl, hrouters⟩ := registerRouters_describes routers hinside hfilled
    obtain ⟨innerRoutes, rfl, hroutes⟩ := registerRoutes_describes hinside h
    exact .intro rfl hm hinside hrouters hroutes

lemma registerRouters_describes {around : List String} (entries : List RouterEntry)
    {r r' : Router} {taken after : List String} (hfull : r.fullMount = String.join around)
    (h : (registerRouters entries r taken).run.value = .ok (r', after)) :
    ∃ added, r' = { r with routers := r.routers ++ added } ∧ DescribeAll around entries added := by
  match entries with
  | [] =>
    obtain ⟨rfl, _⟩ := Prod.mk.inj (Except.ok.inj h)
    exact ⟨[], by cases r; simp, .nil⟩
  | entry :: rest =>
    rw [registerRouters] at h
    obtain ⟨⟨inner, names⟩, hinner, h⟩ := Attempt.value_bind_eq_ok.mp h
    have hfirst := registerRouter_describes entry hfull hinner
    obtain ⟨added, rfl, hadded⟩ :=
      registerRouters_describes rest (r := r.addRouter inner) hfull h
    exact ⟨inner :: added, by simp [addRouter], .cons hfirst hadded⟩

end

lemma registerTable_describes {table : Table} {r : Router} {names : List String}
    (h : (registerTable table).run.value = .ok (r, names)) : table.Describes r := by
  obtain ⟨⟨outer, taken⟩, houter, h⟩ := Attempt.value_bind_eq_ok.mp h
  have hroot : empty.fullMount = String.join [] := rfl
  obtain ⟨routers, hfilled, hrouters⟩ := registerRouters_describes table.routers hroot houter
  have hfull : outer.fullMount = String.join [] := by
    rw [hfilled]
    rfl
  obtain ⟨routes, rfl, hroutes⟩ := registerRoutes_describes hfull h
  subst hfilled
  exact ⟨rfl, rfl, hrouters, hroutes⟩

lemma describes_of_value_ofTable {table : Table} {r : Router}
    (h : (ofTable table).run.value = .ok r) : table.Describes r := by
  rw [value_ofTable] at h
  cases hvalue : (registerTable table).run.value with
  | error fault =>
    rw [hvalue] at h
    cases h
  | ok built =>
    rw [hvalue] at h
    obtain rfl : built.1 = r := Except.ok.inj h
    exact registerTable_describes hvalue

end Router

/-! ## Counting -/

mutual

lemma RouterEntry.Describes.routeCount {around : List String} (entry : RouterEntry) {r : Router}
    (h : entry.Describes around r) : r.routeCount = entry.allRoutes.length := by
  match entry with
  | ⟨mount, routes, routers⟩ =>
    obtain ⟨_, fullMount, inner, leaves⟩ := r
    cases h with
    | intro _ _ _ hrouters hroutes =>
      have hinner := DescribeAll.routeCountOf routers hrouters
      rw [Router.routeCount, RouterEntry.allRoutes, List.length_append, hinner, hroutes.length_eq]

lemma DescribeAll.routeCountOf {around : List String} (entries : List RouterEntry)
    {routers : List Router} (h : DescribeAll around entries routers) :
    Router.routeCountOf routers = (allRoutesOf entries).length := by
  match entries with
  | [] =>
    cases h
    rfl
  | entry :: rest =>
    cases h with
    | cons hfirst hrest =>
      have hentry := RouterEntry.Describes.routeCount entry hfirst
      have hothers := DescribeAll.routeCountOf rest hrest
      rw [Router.routeCountOf, allRoutesOf, List.length_append, hentry, hothers]

end

lemma Table.Describes.routeCount {table : Table} {r : Router} (h : table.Describes r) :
    r.routeCount = table.allRoutes.length := by
  obtain ⟨_, _, routers, routes⟩ := r
  have hrouters := DescribeAll.routeCountOf table.routers h.routers
  rw [Router.routeCount, Table.allRoutes, List.length_append, hrouters, h.routes.length_eq]

/-! ## What is noted -/

namespace Registration

/-- Only templates are heard of while steps are carried out. -/
lemma noted_performAll {taken : List String} {steps : List Registration} {o : Observation}
    (h : o ∈ (performAll taken steps).run.journal) :
    ∃ template anchoring, o ∈ (Matchable.compile template anchoring).run.journal := by
  induction steps generalizing taken with
  | nil => cases h
  | cons step steps ih =>
    rw [performAll_cons] at h
    rcases Attempt.mem_journal_bind.mp h with h | ⟨_, _, h⟩
    · rw [perform] at h
      rcases Attempt.mem_journal_bind.mp h with h | ⟨_, _, h⟩
      · rw [Attempt.journal_adapt] at h
        exact ⟨_, _, h⟩
      · cases h
    · exact ih h

end Registration

/-- A compilation leaves no line that says that the tree of a table is complete. -/
lemma Matchable.message_ne_of_noted {template : String} {anchoring : Anchoring} {o : Observation}
    {record : LogRecord} (h : o ∈ (compile template anchoring).run.journal)
    (hrecord : o.record? = some record) : record.message ≠ "Route table compiled" := by
  rcases noted_compile template anchoring h with ⟨name, rfl⟩ | rfl
  · obtain rfl := Option.some.inj hrecord
    simp
  · cases hvalue : (compile template anchoring).run.value with
    | error fault =>
      rw [hvalue] at hrecord
      cases hrecord
    | ok m =>
      rw [hvalue] at hrecord
      obtain rfl := Option.some.inj hrecord
      simp

namespace Router

/-- The tree that is built from a table is the one that the table describes.  It has as many routes
as the table has entries of routes, no two of which give the same name.  How many routes and how
many names there are is said in the last line of the log, which no other line is like. -/
theorem ofTable_describes {table : Table} {r : Router} (h : (ofTable table).run.value = .ok r) :
    table.Describes r ∧
    r.routeCount = table.allRoutes.length ∧
    table.names.Nodup ∧
    ∃ before, (ofTable table).run.journal.records = before ++
        [⟨.info, "Route table compiled", [("routes", .number table.allRoutes.length),
          ("named", .number table.names.length)]⟩] ∧
      ∀ record ∈ before, record.message ≠ "Route table compiled" := by
  have hsteps := exists_ofTable_iff.mp ⟨r, h⟩
  have hperm := Registration.names_registrations_perm table
  have hnames := value_registerTable table
  rw [value_ofTable] at h
  rw [Registration.value_performAll hsteps] at hnames
  cases hvalue : (registerTable table).run.value with
  | error fault =>
    rw [hvalue] at h
    cases h
  | ok p =>
    obtain ⟨built, names⟩ := p
    rw [hvalue] at h hnames
    obtain rfl : built = r := Except.ok.inj h
    obtain rfl : names = Registration.names table.registrations := Except.ok.inj hnames
    have hdescribes := registerTable_describes hvalue
    have hcount := hdescribes.routeCount
    refine ⟨hdescribes, hcount, hperm.nodup_iff.mp (Registration.nodup_names hsteps), ?_⟩
    refine ⟨(Registration.performAll [] table.registrations).run.journal.records, ?_, ?_⟩
    · rw [journal_ofTable, hvalue, ← hcount, ← hperm.length_eq]
      exact List.filterMap_append
    · intro record hrecord
      obtain ⟨o, ho, hrecord⟩ := List.mem_filterMap.mp hrecord
      obtain ⟨template, anchoring, ho⟩ := Registration.noted_performAll ho
      exact Matchable.message_ne_of_noted ho hrecord

/-- A table with a router in a router; its first router has a placeholder with a sub-pattern. -/
def nestedTable : Table where
  routes := [⟨some "home", "/", "home"⟩, ⟨none, "/about", "about"⟩]
  routers := [⟨"/api/\x7bversion:v[0-9]+\x7d", [⟨none, "/status", "status"⟩],
    [⟨"/users", [⟨some "user", "/\x7bid\x7d", "users"⟩], []⟩]⟩]

/-- The tree of `nestedTable` has four routes, two of which have names. -/
theorem ofTable_describes_nestedTable : ∃ r, (ofTable nestedTable).run.value = .ok r ∧
    nestedTable.Describes r ∧ r.routeCount = 4 ∧ ["home", "user"].Nodup ∧
    ∃ before, (ofTable nestedTable).run.journal.records = before ++
        [⟨.info, "Route table compiled", [("routes", .number 4), ("named", .number 2)]⟩] ∧
      ∀ record ∈ before, record.message ≠ "Route table compiled" := by
  have hbuilt : (ofTable nestedTable).run.value.toOption.isSome := by decide +kernel
  obtain ⟨r, hr⟩ := Option.isSome_iff_exists.mp hbuilt
  have hr := Attempt.toOption_eq_some.mp hr
  exact ⟨r, hr, ofTable_describes hr⟩

end Router

end UriRouting
