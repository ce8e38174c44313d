import Mathlib.Tactic
import UriRouting.Proofs.Table.Located
import UriRouting.Proofs.Table.Names

/-!
# The problems of a table

Each problem says something about its table, and `TableProblem.HoldsIn` spells out what, by places
alone: which route stands where, and for a name that is taken, that a route at an earlier place has
it.  The check finds a problem just if what it says is the case (`Table.mem_check`).  It finds them
in an order that places alone decide as well (`TableProblem.Precedes`), so that none can be found
twice (`Table.pairwise_precedes_check`).

The check goes down the routers of the table and hands on the names that are taken.  It says the
same as a walk along the routes with their places (`Table.check_eq`), and the lemmas on the way are
about that walk.
-/

namespace UriRouting

/-! ## What problems say, and when -/

/-- The name that the route at a place gives. -/
def Table.nameAt? (table : Table) (location : Location) : Option String :=
  (table.routeAt? location).bind RouteEntry.name

/-- Is what a problem says the case in a table? -/
def TableProblem.HoldsIn (table : Table) : TableProblem → Prop
  | unknownLogLevel level =>
    level = table.observability.logLevel ∧ lowerText level ∉ logLevels
  | emptyTemplate location =>
    location.routers = [] ∧ ∃ entry, table.routeAt? location = some entry ∧ entry.template = ""
  | emptyTarget location =>
    ∃ entry, table.routeAt? location = some entry ∧ ∀ c ∈ entry.target.toList, isBlank c
  | emptyName location => table.nameAt? location = some ""
  | takenName location name =>
    table.nameAt? location = some name ∧ name ≠ "" ∧
      ∃ earlier : Location, earlier.Precedes location ∧ table.nameAt? earlier = some name

namespace TableProblem

/-- The place of the route that a problem is about. -/
def location? : TableProblem → Option Location
  | unknownLogLevel _ => none
  | emptyTemplate location => some location
  | emptyTarget location => some location
  | emptyName location => some location
  | takenName location _ => some location

/-- The turn of a problem among those of the same route.  An empty name is never taken. -/
def turn : TableProblem → Nat
  | unknownLogLevel _ => 0
  | emptyTemplate _ => 0
  | emptyTarget _ => 1
  | emptyName _ => 2
  | takenName _ _ => 2

/-- Is a problem found before another one?  What is wrong with the level of logging comes first,
then the places count, then the turn at a place. -/
def Precedes (first second : TableProblem) : Prop :=
  match first.location?, second.location? with
  | none, some _ => True
  | some location, some other =>
    location.Precedes other ∨ location = other ∧ first.turn < second.turn
  | _, none => False

lemma Precedes.ne {first second : TableProblem} (h : first.Precedes second) : first ≠ second := by
  rintro rfl
  rw [Precedes] at h
  cases hlocation : first.location? with
  | none => simp only [hlocation] at h
  | some location =>
    simp only [hlocation] at h
    rcases h with h | ⟨-, h⟩
    · exact h.ne rfl
    · exact lt_irrefl _ h

lemma precedes_of_location {first second : TableProblem} {location other : Location}
    (hfirst : first.location? = some location) (hsecond : second.location? = some other)
    (h : location.Precedes other) : first.Precedes second := by
  rw [Precedes, hfirst, hsecond]
  exact .inl h

lemma precedes_of_turn {first second : TableProblem} {location : Location}
    (hfirst : first.location? = some location) (hsecond : second.location? = some location)
    (h : first.turn < second.turn) : first.Precedes second := by
  rw [Precedes, hfirst, hsecond]
  exact .inr ⟨rfl, h⟩

end TableProblem

/-! ## The problems of one route -/

lemma mem_nameProblems {location : Location} {name : Option String} {taken : List String}
    {problem : TableProblem} :
    problem ∈ nameProblems location name taken ↔
      (problem = .emptyName location ∧ name = some "") ∨
        ∃ given, problem = .takenName location given ∧ name = some given ∧ given ≠ "" ∧
          given ∈ taken := by
  cases name with
  | none => simp [nameProblems]
  | some name =>
    by_cases hempty : name = ""
    · simp [nameProblems, hempty]
    · by_cases htaken : name ∈ taken
      · simp [nameProblems, hempty, htaken]
      · simp [nameProblems, hempty, htaken]

lemma mem_routeProblems {location : Location} {entry : RouteEntry} {taken : List String}
    {problem : TableProblem} :
    problem ∈ routeProblems location entry taken ↔
      (problem = .emptyTemplate location ∧ location.routers = [] ∧ entry.template = "") ∨
      (problem = .emptyTarget location ∧ ∀ c ∈ entry.target.toList, isBlank c) ∨
      (problem = .emptyName location ∧ entry.name = some "") ∨
      ∃ name, problem = .takenName location name ∧ entry.name = some name ∧ name ≠ "" ∧
        name ∈ taken := by
  rw [routeProblems, List.mem_append, List.mem_append, mem_nameProblems, or_assoc]
  simp only [List.mem_ite_nil_right, List.mem_singleton, Bool.and_eq_true, List.isEmpty_iff,
    String.isEmpty_iff, isBlankText, List.all_eq_true]
  tauto

lemma location?_of_mem_routeProblems {location : Location} {entry : RouteEntry}
    {taken : List String} {problem : TableProblem}
    (h : problem ∈ routeProblems location entry taken) : problem.location? = some location := by
  rcases mem_routeProblems.mp h with ⟨rfl, -⟩ | ⟨rfl, -⟩ | ⟨rfl, -⟩ | ⟨name, rfl, -⟩ <;> rfl

lemma pairwise_precedes_routeProblems (location : Location) (entry : RouteEntry)
    (taken : List String) :
    (routeProblems location entry taken).Pairwise TableProblem.Precedes := by
  have hturns : (routeProblems location entry taken).Pairwise fun first second =>
      first.turn < second.turn := by
    obtain ⟨name, template, target⟩ := entry
    rw [routeProblems]
    cases name with
    | none => split_ifs <;> simp [nameProblems, TableProblem.turn]
    | some name =>
      rw [nameProblems]
      split_ifs <;> simp [TableProblem.turn]
  refine hturns.imp_of_mem fun hfirst hsecond hturn => ?_
  exact TableProblem.precedes_of_turn (location?_of_mem_routeProblems hfirst)
    (location?_of_mem_routeProblems hsecond) hturn

/-! ## The walk along the routes -/

/-- The problems of routes at their places, one route after the other, where some names are taken
before. -/
def problemsAlong (taken : List String) : List (Location × RouteEntry) → List TableProblem
  | [] => []
  | (location, entry) :: rest =>
    routeProblems location entry taken ++ problemsAlong (namesWith entry.name taken) rest

/-- The names that routes give. -/
def namesAlong (routes : List (Location × RouteEntry)) : List String :=
  namesOf (routes.map Prod.snd)

lemma takenAfter_namesOf_cons (taken : List String) (entry : RouteEntry)
    (rest : List RouteEntry) :
    takenAfter taken (namesOf (entry :: rest)) =
      takenAfter (namesWith entry.name taken) (namesOf rest) := by
  rw [namesOf, List.filterMap_cons]
  cases entry.name <;> rfl

lemma problemsAlong_append (taken : List String) (first second : List (Location × RouteEntry)) :
    problemsAlong taken (first ++ second) =
      problemsAlong taken first ++ problemsAlong (takenAfter taken (namesAlong first)) second := by
  induction first generalizing taken with
  | nil => rfl
  | cons route first ih =>
    obtain ⟨location, entry⟩ := route
    rw [List.cons_append, problemsAlong, problemsAlong, ih, List.append_assoc, namesAlong,
      namesAlong, List.map_cons, takenAfter_namesOf_cons]

lemma checkRoutes_eq (around : List Nat) (i : Nat) (entries : List RouteEntry)
    (taken : List String) :
    (checkRoutes around i entries taken).1 =
      problemsAlong taken (locatedFrom around i entries) := by
  induction entries generalizing i taken with
  | nil => rfl
  | cons entry rest ih => rw [checkRoutes, locatedFrom_cons, problemsAlong, ih]

mutual

lemma checkRouter_eq (around : List Nat) (entry : RouterEntry) (taken : List String) :
    (checkRouter around entry taken).1 = problemsAlong taken (entry.locatedRoutes around) := by
  match entry with
  | ⟨_, routes, routers⟩ =>
    obtain ⟨-, htaken⟩ := checkRoutes_names around 0 routes taken
    rw [checkRouter, RouterEntry.locatedRoutes, problemsAlong_append, namesAlong,
      map_snd_locatedFrom, ← htaken, ← checkRoutes_eq, ← checkRouters_eq]

lemma checkRouters_eq (around : List Nat) (i : Nat) (entries : List RouterEntry)
    (taken : List String) :
    (checkRouters around i entries taken).1 =
      problemsAlong taken (locatedRoutesOf around i entries) := by
  match entries with
  | [] => rfl
  | entry :: rest =>
    obtain ⟨-, htaken⟩ := checkRouter_names (around ++ [i]) entry taken
    rw [checkRouters, locatedRoutesOf, problemsAlong_append, namesAlong,
      entry.map_snd_locatedRoutes, ← htaken, ← checkRouter_eq,
      ← checkRouters_eq around (i + 1) rest]

end

/-- After a word on the level of logging, `Table.check` says what `problemsAlong` does on the routes
with their locations. -/
lemma Table.check_eq (table : Table) :
    table.check =
      (if lowerText table.observability.logLevel ∈ logLevels then []
        else [.unknownLogLevel table.observability.logLevel]) ++
      problemsAlong [] table.locatedRoutes := by
  have hwalk := checkRouter_eq [] table.root []
  rw [Table.locatedRoutes, ← hwalk, Table.check, List.append_assoc]
  simp only [isLogLevel, List.contains_iff_mem]
  rfl

/-! ## What the walk finds -/

lemma mem_problemsAlong {taken : List String} {routes : List (Location × RouteEntry)}
    {problem : TableProblem} :
    problem ∈ problemsAlong taken routes ↔
      ∃ before location entry after, routes = before ++ (location, entry) :: after ∧
        problem ∈ routeProblems location entry (takenAfter taken (namesAlong before)) := by
  constructor
  · intro h
    induction routes generalizing taken with
    | nil => cases h
    | cons route rest ih =>
      obtain ⟨location, entry⟩ := route
      rw [problemsAlong, List.mem_append] at h
      rcases h with h | h
      · exact ⟨[], location, entry, rest, rfl, h⟩
      · obtain ⟨before, other, found, after, hrest, hproblem⟩ := ih h
        refine ⟨(location, entry) :: before, other, found, after, by rw [hrest]; rfl, ?_⟩
        rw [namesAlong, List.map_cons, takenAfter_namesOf_cons]
        exact hproblem
  · rintro ⟨before, location, entry, after, rfl, hproblem⟩
    rw [problemsAlong_append, problemsAlong]
    exact List.mem_append_right _ (List.mem_append_left _ hproblem)

lemma mem_namesWith {given : Option String} {taken : List String} {name : String} :
    name ∈ namesWith given taken ↔ name ∈ taken ∨ name ≠ "" ∧ given = some name := by
  cases given with
  | none => simp [namesWith]
  | some given =>
    rw [namesWith, Option.some_inj]
    split_ifs with hold
    · rw [Bool.or_eq_true, String.isEmpty_iff, List.contains_iff_mem] at hold
      refine ⟨.inl, ?_⟩
      rintro (h | ⟨hempty, rfl⟩)
      · exact h
      · exact hold.resolve_left hempty
    · rw [Bool.or_eq_true, String.isEmpty_iff, List.contains_iff_mem, not_or] at hold
      rw [List.mem_append, List.mem_singleton]
      constructor
      · rintro (h | rfl)
        · exact .inl h
        · exact .inr ⟨hold.1, rfl⟩
      · rintro (h | ⟨-, rfl⟩)
        · exact .inl h
        · exact .inr rfl

lemma mem_takenAfter {taken names : List String} {name : String} :
    name ∈ takenAfter taken names ↔ name ∈ taken ∨ name ≠ "" ∧ name ∈ names := by
  induction names generalizing taken with
  | nil => simp [takenAfter]
  | cons given rest ih =>
    rw [takenAfter_cons, ih, mem_namesWith, Option.some_inj, List.mem_cons]
    tauto

lemma mem_namesAlong {routes : List (Location × RouteEntry)} {name : String} :
    name ∈ namesAlong routes ↔
      ∃ location entry, (location, entry) ∈ routes ∧ entry.name = some name := by
  simp only [namesAlong, namesOf, List.mem_filterMap, List.mem_map, Prod.exists,
    exists_eq_right]
  tauto

/-- The names that the walk has come by are those that routes at earlier places give. -/
lemma Table.mem_namesAlong_before {table : Table} {before after : List (Location × RouteEntry)}
    {location : Location} {entry : RouteEntry}
    (h : table.locatedRoutes = before ++ (location, entry) :: after) {name : String} :
    name ∈ namesAlong before ↔
      ∃ earlier : Location, earlier.Precedes location ∧ table.nameAt? earlier = some name := by
  rw [mem_namesAlong]
  constructor
  · rintro ⟨earlier, other, hbefore, hname⟩
    obtain ⟨hprecedes, hother⟩ := (Table.mem_before_iff h).mp hbefore
    exact ⟨earlier, hprecedes, Option.bind_eq_some_iff.mpr ⟨other, hother, hname⟩⟩
  · rintro ⟨earlier, hprecedes, hname⟩
    obtain ⟨other, hother, hname⟩ := Option.bind_eq_some_iff.mp hname
    exact ⟨earlier, other, (Table.mem_before_iff h).mpr ⟨hprecedes, hother⟩, hname⟩

/-- The check has a problem with a route at a place just if the problem is about that place and
what it says is the case. -/
lemma Table.mem_problems_at {table : Table} {before after : List (Location × RouteEntry)}
    {location : Location} {entry : RouteEntry}
    (h : table.locatedRoutes = before ++ (location, entry) :: after) {problem : TableProblem} :
    problem ∈ routeProblems location entry (takenAfter [] (namesAlong before)) ↔
      problem.location? = some location ∧ problem.HoldsIn table := by
  have hmem : (location, entry) ∈ table.locatedRoutes := by
    rw [h]
    exact List.mem_append_right _ List.mem_cons_self
  have hroute : table.routeAt? location = some entry := Table.mem_locatedRoutes.mp hmem
  have hname : table.nameAt? location = entry.name := by
    rw [Table.nameAt?, hroute, Option.bind_some]
  have htaken : ∀ name, name ∈ takenAfter [] (namesAlong before) ↔
      name ≠ "" ∧ ∃ earlier : Location, earlier.Precedes location ∧
        table.nameAt? earlier = some name := by
    intro name
    rw [mem_takenAfter, Table.mem_namesAlong_before h]
    simp
  rw [mem_routeProblems]
  constructor
  · rintro (⟨rfl, hrouters, htemplate⟩ | ⟨rfl, hblank⟩ | ⟨rfl, hempty⟩ | ⟨name, rfl, hgiven, hold⟩)
    · exact ⟨rfl, hrouters, entry, hroute, htemplate⟩
    · exact ⟨rfl, entry, hroute, hblank⟩
    · exact ⟨rfl, hname.trans hempty⟩
    · refine ⟨rfl, hname.trans hgiven, ?_⟩
      exact ⟨hold.1, ((htaken name).mp hold.2).2⟩
  · rintro ⟨hlocation, hholds⟩
    cases problem with
    | unknownLogLevel level => cases hlocation
    | emptyTemplate other =>
      obtain rfl := Option.some.inj hlocation
      obtain ⟨hrouters, found, hfound, htemplate⟩ := hholds
      obtain rfl := Option.some.inj (hroute.symm.trans hfound)
      exact .inl ⟨rfl, hrouters, htemplate⟩
    | emptyTarget other =>
      obtain rfl := Option.some.inj hlocation
      obtain ⟨found, hfound, hblank⟩ := hholds
      obtain rfl := Option.some.inj (hroute.symm.trans hfound)
      exact .inr (.inl ⟨rfl, hblank⟩)
    | emptyName other =>
      obtain rfl := Option.some.inj hlocation
      exact .inr (.inr (.inl ⟨rfl, hname.symm.trans hholds⟩))
    | takenName other name =>
      obtain rfl := Option.some.inj hlocation
      obtain ⟨hgiven, hne, hearlier⟩ := hholds
      have hold := (htaken name).mpr ⟨hne, hearlier⟩
      exact .inr (.inr (.inr ⟨name, rfl, hname.symm.trans hgiven, hne, hold⟩))

lemma TableProblem.HoldsIn.exists_route {table : Table} {problem : TableProblem}
    (h : problem.HoldsIn table) {location : Location}
    (hlocation : problem.location? = some location) :
    ∃ entry, table.routeAt? location = some entry := by
  cases problem with
  | unknownLogLevel level => cases hlocation
  | emptyTemplate other =>
    obtain rfl := Option.some.inj hlocation
    obtain ⟨-, entry, hentry, -⟩ := h
    exact ⟨entry, hentry⟩
  | emptyTarget other =>
    obtain rfl := Option.some.inj hlocation
    obtain ⟨entry, hentry, -⟩ := h
    exact ⟨entry, hentry⟩
  | emptyName other =>
    obtain rfl := Option.some.inj hlocation
    obtain ⟨entry, hentry, -⟩ := Option.bind_eq_some_iff.mp h
    exact ⟨entry, hentry⟩
  | takenName other name =>
    obtain rfl := Option.some.inj hlocation
    obtain ⟨entry, hentry, -⟩ := Option.bind_eq_some_iff.mp h.1
    exact ⟨entry, hentry⟩

lemma Table.mem_problemsAlong_iff {table : Table} {problem : TableProblem} :
    problem ∈ problemsAlong [] table.locatedRoutes ↔
      (∃ location, problem.location? = some location) ∧ problem.HoldsIn table := by
  rw [mem_problemsAlong]
  constructor
  · rintro ⟨before, location, entry, after, hroutes, hproblem⟩
    obtain ⟨hlocation, hholds⟩ := (Table.mem_problems_at hroutes).mp hproblem
    exact ⟨⟨location, hlocation⟩, hholds⟩
  · rintro ⟨⟨location, hlocation⟩, hholds⟩
    obtain ⟨entry, hentry⟩ := hholds.exists_route hlocation
    obtain ⟨before, after, hroutes⟩ := List.append_of_mem (Table.mem_locatedRoutes.mpr hentry)
    exact ⟨before, location, entry, after, hroutes,
      (Table.mem_problems_at hroutes).mpr ⟨hlocation, hholds⟩⟩

/-- The check finds the problems that are the case. -/
theorem Table.mem_check {table : Table} {problem : TableProblem} :
    problem ∈ table.check ↔ problem.HoldsIn table := by
  have hlevel : problem ∈ (if lowerText table.observability.logLevel ∈ logLevels then []
        else [TableProblem.unknownLogLevel table.observability.logLevel]) ↔
      problem.location? = none ∧ problem.HoldsIn table := by
    cases problem with
    | unknownLogLevel level =>
      rw [List.mem_ite_nil_left, List.mem_singleton, TableProblem.unknownLogLevel.injEq]
      constructor
      · rintro ⟨hunknown, rfl⟩
        exact ⟨rfl, rfl, hunknown⟩
      · rintro ⟨-, rfl, hunknown⟩
        exact ⟨hunknown, rfl⟩
    | emptyTemplate location => simp [TableProblem.location?]
    | emptyTarget location => simp [TableProblem.location?]
    | emptyName location => simp [TableProblem.location?]
    | takenName location name => simp [TableProblem.location?]
  rw [Table.check_eq, List.mem_append, hlevel, Table.mem_problemsAlong_iff, ← or_and_right,
    ← Option.isSome_iff_exists, ← Option.isNone_iff_eq_none]
  cases problem.location? <;> simp

/-! ## The order of problems -/

lemma pairwise_precedes_problemsAlong (taken : List String)
    {routes : List (Location × RouteEntry)}
    (h : routes.Pairwise fun first second => first.1.Precedes second.1) :
    (problemsAlong taken routes).Pairwise TableProblem.Precedes := by
  induction routes generalizing taken with
  | nil => exact .nil
  | cons route rest ih =>
    obtain ⟨location, entry⟩ := route
    obtain ⟨hfirst, hrest⟩ := List.pairwise_cons.mp h
    rw [problemsAlong, List.pairwise_append]
    refine ⟨pairwise_precedes_routeProblems location entry taken, ih _ hrest, ?_⟩
    intro problem hproblem later hlater
    obtain ⟨before, other, found, after, rfl, hfound⟩ := mem_problemsAlong.mp hlater
    have hprecedes : location.Precedes other :=
      hfirst (other, found) (List.mem_append_right _ List.mem_cons_self)
    exact TableProblem.precedes_of_location (location?_of_mem_routeProblems hproblem)
      (location?_of_mem_routeProblems hfound) hprecedes

/-- The check finds problems in order. -/
theorem Table.pairwise_precedes_check (table : Table) :
    table.check.Pairwise TableProblem.Precedes := by
  rw [Table.check_eq, List.pairwise_append]
  refine ⟨?_, pairwise_precedes_problemsAlong [] table.pairwise_precedes_locatedRoutes, ?_⟩
  · split_ifs <;> simp
  · intro first hfirst second hsecond
    obtain ⟨-, rfl⟩ : _ ∧ first = .unknownLogLevel table.observability.logLevel := by
      simpa using hfirst
    obtain ⟨⟨location, hlocation⟩, -⟩ := Table.mem_problemsAlong_iff.mp hsecond
    rw [TableProblem.Precedes, hlocation]
    trivial

/-! ## How often a name is taken -/

lemma nodup_namesWith {given : Option String} {taken : List String} (h : taken.Nodup) :
    (namesWith given taken).Nodup := by
  cases given with
  | none => exact h
  | some given =>
    rw [namesWith]
    split_ifs with hold
    · exact h
    · rw [Bool.or_eq_true, List.contains_iff_mem, not_or] at hold
      rw [← List.concat_eq_append]
      exact h.concat hold.2

lemma nodup_takenAfter {taken : List String} (names : List String) (h : taken.Nodup) :
    (takenAfter taken names).Nodup := by
  induction names generalizing taken with
  | nil => exact h
  | cons name rest ih =>
    rw [takenAfter_cons]
    exact ih (nodup_namesWith h)

/-- The names that are taken in the end are the names given, without repetition and without the
empty one. -/
lemma length_takenAfter (names : List String) :
    (takenAfter [] names).length = (names.filter (· ≠ "")).dedup.length := by
  refine List.Perm.length_eq ?_
  rw [List.perm_ext_iff_of_nodup (nodup_takenAfter names List.nodup_nil) (List.nodup_dedup _)]
  intro name
  simp [mem_takenAfter, and_comm]

/-- A name that is not empty is either taken already, which is a fault, or is taken from then on. -/
lemma countP_nameFaults_add_length (taken names : List String) :
    (nameFaults taken names).countP (· ≠ .empty) + (takenAfter taken names).length =
      taken.length + (names.filter (· ≠ "")).length := by
  induction names generalizing taken with
  | nil => simp [nameFaults, takenAfter]
  | cons name rest ih =>
    have hrest := ih (namesWith (some name) taken)
    rw [nameFaults_cons, List.countP_append, takenAfter_cons]
    by_cases hempty : name = ""
    · simp [namesWith, hempty] at hrest ⊢
      omega
    · by_cases htaken : name ∈ taken
      · simp [namesWith, hempty, htaken] at hrest ⊢
        omega
      · simp [namesWith, hempty, htaken] at hrest ⊢
        omega

lemma countP_takenName_check (table : Table) :
    (table.check.countP fun problem => problem.kind = "duplicate_name") =
      (nameFaults [] table.names).countP (· ≠ .empty) := by
  rw [← nameFault?_check, List.countP_filterMap]
  congr 1
  funext problem
  cases problem <;> rfl

/-! ## The whole check -/

lemma Table.ofText_of_entries {text : String} {table : Table}
    (h : (Toml.ofText? text.toList).bind Table.ofEntries? = some table) :
    Table.ofText text = if table.check = [] then .ok table else .error (.refused table.check) := by
  rw [Table.ofText, h]
  simp only [List.isEmpty_iff]

/-- The check of a table finds the problems that are the case, all of them, each once, and in the
order of the table.  A text that describes a table is accepted if there are none, and is refused
with the whole list otherwise.

In the order of the table the routes stand at places, and each place comes after those before it:
the routes of a router, then what stands in the routers in it, one router after the other.  The
places that problems carry are written down as texts, and different places as different texts.

So the check reports a name as taken as often as names that are not empty are given, less the number
of such names that are different. -/
theorem Table.check_finds_all_in_order (table : Table) :
    (∀ problem, problem ∈ table.check ↔ problem.HoldsIn table) ∧
    table.check.Nodup ∧
    table.check.Pairwise TableProblem.Precedes ∧
    (∀ text, (Toml.ofText? text.toList).bind Table.ofEntries? = some table →
      ((∃ loaded, Table.ofText text = .ok loaded) ↔
        ∀ problem : TableProblem, ¬ problem.HoldsIn table) ∧
      ∀ fault, Table.ofText text = .error fault → fault = .refused table.check) ∧
    table.locatedRoutes.map Prod.snd = table.allRoutes ∧
    (∀ location entry,
      (location, entry) ∈ table.locatedRoutes ↔ table.routeAt? location = some entry) ∧
    (table.locatedRoutes.Pairwise fun first second => first.1.Precedes second.1) ∧
    (∀ first second : Location, first ≠ second → first.show ≠ second.show) ∧
    (table.check.countP fun problem => problem.kind = "duplicate_name") +
        (table.names.filter (· ≠ "")).dedup.length =
      (table.names.filter (· ≠ "")).length := by
  have horder := table.pairwise_precedes_check
  refine ⟨fun problem => Table.mem_check, horder.imp TableProblem.Precedes.ne, horder, ?_,
    table.root.map_snd_locatedRoutes [], fun location entry => Table.mem_locatedRoutes,
    table.pairwise_precedes_locatedRoutes, fun first second => Location.show_injective.ne, ?_⟩
  · intro text htext
    have hnone : table.check = [] ↔ ∀ problem : TableProblem, ¬ problem.HoldsIn table := by
      rw [List.eq_nil_iff_forall_not_mem]
      exact forall_congr' fun problem => not_congr Table.mem_check
    rw [Table.ofText_of_entries htext, ← hnone]
    by_cases hcheck : table.check = []
    · simp [hcheck]
    · rw [if_neg hcheck]
      refine ⟨by simp [hcheck], ?_⟩
      intro fault hfault
      exact (Except.error.inj hfault).symm
  · rw [countP_takenName_check, ← length_takenAfter, countP_nameFaults_add_length]
    simp

/-- Several problems at one route: none of them hides another. -/
example :
    Table.check
      { observability := { logLevel := "loud" }
        routes := [⟨some "a", "", "t"⟩]
        routers :=
          [{ mount := "/api", routes := [⟨some "a", "/x", " "⟩, ⟨some "", "/y", "t"⟩] }] } =
      [.unknownLogLevel "loud", .emptyTemplate ⟨[], 0⟩, .emptyTarget ⟨[0], 0⟩,
        .takenName ⟨[0], 0⟩ "a", .emptyName ⟨[0], 1⟩] := by
  decide +kernel

end UriRouting
