import Mathlib.Tactic
import UriRouting.Proofs.Table.Registrations
import UriRouting.Table.Load

/-!
# The names of a table

The check of a table and the work on it both watch for names that are given twice, each on a way of
its own: the check comes to the routes of a router before the routers in it, the work comes to them
after.  Both ways pass by the same names (`names_registrations_perm`).  The check reports a name as
often as it is given after the first time (`count_taken_nameFaults`), or each time if it is empty
(`count_empty_nameFaults`).  So the two agree (`check_agrees_with_ofTable`): the work finds a name
given twice only where the check has a problem with that name, and in a table without problems only
templates can fail.
-/

namespace UriRouting

/-- The names that routes give, in order. -/
def namesOf (entries : List RouteEntry) : List String := entries.filterMap RouteEntry.name

/-- The names of a table, routes before routers at every level. -/
def Table.names (table : Table) : List String := namesOf table.allRoutes

lemma namesOf_append (first second : List RouteEntry) :
    namesOf (first ++ second) = namesOf first ++ namesOf second := List.filterMap_append

/-! ## Two ways through a table -/

namespace Registration

lemma names_map_route (entries : List RouteEntry) :
    names (entries.map Registration.route) = namesOf entries := by
  rw [names, List.filterMap_map]
  rfl

mutual

lemma names_router_perm (entry : RouterEntry) :
    (names entry.registrations).Perm (namesOf entry.allRoutes) := by
  match entry with
  | ⟨_, routes, routers⟩ =>
    have hrouters := names_routers_perm routers
    rw [RouterEntry.allRoutes, namesOf_append]
    change (names (registrationsOf routers ++ routes.map Registration.route)).Perm _
    rw [names_append, names_map_route]
    exact (hrouters.append_right _).trans List.perm_append_comm

lemma names_routers_perm (entries : List RouterEntry) :
    (names (registrationsOf entries)).Perm (namesOf (allRoutesOf entries)) := by
  match entries with
  | [] => exact .refl _
  | entry :: rest =>
    rw [registrationsOf, allRoutesOf, names_append, namesOf_append]
    exact (names_router_perm entry).append (names_routers_perm rest)

end

/-- The work on a table gives the names of all its routes, in an order of its own. -/
theorem names_registrations_perm (table : Table) :
    (names table.registrations).Perm table.names := by
  rw [Table.registrations, Table.names, Table.allRoutes, names_append, names_map_route,
    namesOf_append]
  exact ((names_routers_perm table.routers).append_right _).trans List.perm_append_comm

/-- Steps that do not fail give no name twice. -/
lemma nodup_names {steps : List Registration} (h : Faultless steps) : (names steps).Nodup := by
  induction steps using List.reverseRecOn with
  | nil => exact List.nodup_nil
  | append_singleton steps last ih =>
    obtain ⟨hsteps, hlast⟩ := faultless_concat.mp h
    rw [names_concat]
    cases hname : last.name? with
    | none => simpa using ih hsteps
    | some name =>
      have hnew : name ∉ names steps := by
        intro htaken
        exact fault?_ne_none.mpr (.inr ⟨name, hname, htaken⟩) hlast
      rw [Option.toList_some, ← List.concat_eq_append]
      exact (ih hsteps).concat hnew

/-- Steps of which all templates compile do not fail as long as no name is given twice. -/
lemma faultless_of_nodup {steps : List Registration} (hcompiles : ∀ step ∈ steps, step.compiles)
    (hnames : (names steps).Nodup) : Faultless steps := by
  intro before step after hsteps
  by_contra hfault
  rcases fault?_ne_none.mp hfault with ⟨fault, hrefused⟩ | ⟨name, hname, htaken⟩
  · obtain ⟨m, hm⟩ := compiles_iff.mp (hcompiles step (by simp [hsteps]))
    rw [hrefused] at hm
    cases hm
  · have hagain : name ∈ names (step :: after) := by
      rw [names, List.mem_filterMap]
      exact ⟨step, List.mem_cons_self, hname⟩
    rw [hsteps, names_append] at hnames
    exact List.disjoint_of_nodup_append hnames htaken hagain

end Registration

/-- A name that the work finds given before is given twice in the table. -/
lemma Router.two_le_count_of_duplicateName {table : Table} {name : String}
    (h : (Router.ofTable table).run.value = .error (.duplicateName name)) :
    2 ≤ table.names.count name := by
  obtain ⟨before, step, after, hsteps, _, hfault⟩ := Router.exists_first_of_ofTable_error h
  rcases Registration.fault?_eq_some.mp hfault with ⟨f, _, hf⟩ | ⟨m, given, _, hname, htaken, hf⟩
  · cases hf
  · obtain rfl := RouteFault.duplicateName.inj hf
    have hbefore : 1 ≤ (Registration.names before).count name := List.one_le_count_iff.mpr htaken
    have hstep : Registration.names (step :: after) = name :: Registration.names after := by
      rw [Registration.names, List.filterMap_cons, hname]
      rfl
    rw [← (Registration.names_registrations_perm table).count_eq, hsteps,
      Registration.names_append, hstep, List.count_append, List.count_cons_self]
    omega

/-! ## What the check finds -/

/-- What can be wrong with a name, wherever it stands. -/
inductive NameFault
  | empty
  | taken (name : String)
deriving DecidableEq

/-- What a problem says about a name. -/
def TableProblem.nameFault? : TableProblem → Option NameFault
  | unknownLogLevel _ => none
  | emptyTemplate _ => none
  | emptyTarget _ => none
  | emptyName _ => some .empty
  | takenName _ name => some (.taken name)

/-- What is wrong with names that are given one after the other.  An empty name takes no part in
the comparison with others. -/
def nameFaults (taken : List String) : List String → List NameFault
  | [] => []
  | name :: rest =>
    if name = "" then .empty :: nameFaults taken rest
    else if name ∈ taken then .taken name :: nameFaults taken rest
    else nameFaults (taken ++ [name]) rest

/-- The names that are taken after some more were given. -/
def takenAfter (taken names : List String) : List String :=
  names.foldl (fun taken name => namesWith (some name) taken) taken

lemma nameFaults_cons (taken : List String) (name : String) (rest : List String) :
    nameFaults taken (name :: rest) =
      (if name = "" then [.empty] else if name ∈ taken then [.taken name] else []) ++
        nameFaults (namesWith (some name) taken) rest := by
  by_cases hempty : name = ""
  · simp [nameFaults, namesWith, hempty]
  · by_cases htaken : name ∈ taken
    · simp [nameFaults, namesWith, hempty, htaken]
    · simp [nameFaults, namesWith, hempty, htaken]

lemma nameFaults_append (taken first second : List String) :
    nameFaults taken (first ++ second) =
      nameFaults taken first ++ nameFaults (takenAfter taken first) second := by
  induction first generalizing taken with
  | nil => rfl
  | cons name first ih =>
    rw [List.cons_append, nameFaults_cons, nameFaults_cons, ih, List.append_assoc]
    rfl

lemma takenAfter_cons (taken : List String) (name : String) (rest : List String) :
    takenAfter taken (name :: rest) = takenAfter (namesWith (some name) taken) rest := rfl

lemma takenAfter_append (taken first second : List String) :
    takenAfter taken (first ++ second) = takenAfter (takenAfter taken first) second :=
  List.foldl_append

lemma count_empty_nameFaults (taken names : List String) :
    (nameFaults taken names).count .empty = names.count "" := by
  induction names generalizing taken with
  | nil => rfl
  | cons name rest ih =>
    rw [nameFaults_cons, List.count_append, ih, List.count_cons]
    by_cases hempty : name = ""
    · simp [hempty, Nat.add_comm]
    · by_cases htaken : name ∈ taken <;> simp [hempty, htaken]

lemma count_taken_nameFaults (taken names : List String) (name : String) :
    (nameFaults taken names).count (.taken name) =
      if name = "" then 0
      else if name ∈ taken then names.count name else names.count name - 1 := by
  induction names generalizing taken with
  | nil => simp [nameFaults]
  | cons given rest ih =>
    rw [nameFaults_cons, List.count_append, ih, List.count_cons]
    by_cases hgiven : given = name
    · subst hgiven
      by_cases hempty : given = ""
      · simp [hempty]
      · by_cases htaken : given ∈ taken <;> simp [hempty, htaken, namesWith, Nat.add_comm]
    · by_cases hempty : given = ""
      · have hname : name ≠ "" := fun h => hgiven (hempty.trans h.symm)
        simp [hempty, namesWith, hname, hname.symm]
      · by_cases htaken : given ∈ taken
        · simp [hempty, htaken, namesWith, hgiven]
        · simp [hempty, htaken, namesWith, hgiven, Ne.symm hgiven]

/-- Of the problems of a route one at most is about its name. -/
lemma nameFault?_routeProblems (location : Location) (entry : RouteEntry) (taken : List String) :
    (routeProblems location entry taken).filterMap TableProblem.nameFault? =
      (nameProblems location entry.name taken).filterMap TableProblem.nameFault? := by
  rw [routeProblems, List.filterMap_append, List.filterMap_append]
  split_ifs <;> rfl

lemma checkRoutes_names (around : List Nat) (i : Nat) (entries : List RouteEntry)
    (taken : List String) :
    (checkRoutes around i entries taken).1.filterMap TableProblem.nameFault? =
        nameFaults taken (namesOf entries) ∧
      (checkRoutes around i entries taken).2 = takenAfter taken (namesOf entries) := by
  induction entries generalizing i taken with
  | nil => exact ⟨rfl, rfl⟩
  | cons entry rest ih =>
    obtain ⟨hfaults, htaken⟩ := ih (i + 1) (namesWith entry.name taken)
    simp only [checkRoutes, List.filterMap_append, nameFault?_routeProblems, hfaults, htaken]
    obtain ⟨name, template, target⟩ := entry
    cases name with
    | none => exact ⟨rfl, rfl⟩
    | some name =>
      -- the two ways to hand on taken names are the same by definition
      change _ = nameFaults taken (name :: namesOf rest) ∧ _ = takenAfter taken (name :: _)
      rw [nameFaults_cons]
      refine ⟨?_, rfl⟩
      by_cases hempty : name = ""
      · simp [nameProblems, TableProblem.nameFault?, hempty]
      · by_cases hagain : name ∈ taken
        · simp [nameProblems, TableProblem.nameFault?, hempty, hagain]
        · simp [nameProblems, hempty, hagain]

mutual

lemma checkRouter_names (around : List Nat) (entry : RouterEntry) (taken : List String) :
    (checkRouter around entry taken).1.filterMap TableProblem.nameFault? =
        nameFaults taken (namesOf entry.allRoutes) ∧
      (checkRouter around entry taken).2 = takenAfter taken (namesOf entry.allRoutes) := by
  match entry with
  | ⟨_, routes, routers⟩ =>
    obtain ⟨hfaults, htaken⟩ := checkRoutes_names around 0 routes taken
    -- the routers inside are checked with the names of the routes beside them taken
    obtain ⟨hinner, hafter⟩ :=
      checkRouters_names around 0 routers (checkRoutes around 0 routes taken).2
    rw [checkRouter, RouterEntry.allRoutes, namesOf_append, nameFaults_append, takenAfter_append,
      ← htaken, ← hfaults, ← hinner, ← hafter]
    exact ⟨List.filterMap_append, rfl⟩

lemma checkRouters_names (around : List Nat) (i : Nat) (entries : List RouterEntry)
    (taken : List String) :
    (checkRouters around i entries taken).1.filterMap TableProblem.nameFault? =
        nameFaults taken (namesOf (allRoutesOf entries)) ∧
      (checkRouters around i entries taken).2 =
        takenAfter taken (namesOf (allRoutesOf entries)) := by
  match entries with
  | [] => exact ⟨rfl, rfl⟩
  | entry :: rest =>
    obtain ⟨hfaults, htaken⟩ := checkRouter_names (around ++ [i]) entry taken
    obtain ⟨hothers, hafter⟩ :=
      checkRouters_names around (i + 1) rest (checkRouter (around ++ [i]) entry taken).2
    rw [checkRouters, allRoutesOf, namesOf_append, nameFaults_append, takenAfter_append,
      ← htaken, ← hfaults, ← hothers, ← hafter]
    exact ⟨List.filterMap_append, rfl⟩

end

/-- What the check of a table says about names depends on the names alone. -/
theorem nameFault?_check (table : Table) :
    table.check.filterMap TableProblem.nameFault? = nameFaults [] table.names := by
  obtain ⟨hown, htaken⟩ := checkRoutes_names [] 0 table.routes []
  have hinner :=
    (checkRouters_names [] 0 table.routers (checkRoutes [] 0 table.routes []).2).1
  have hlevel : (if isLogLevel table.observability.logLevel then []
      else [TableProblem.unknownLogLevel table.observability.logLevel]).filterMap
        TableProblem.nameFault? = [] := by
    split_ifs <;> rfl
  rw [Table.check, Table.names, Table.allRoutes, namesOf_append, nameFaults_append,
    List.filterMap_append, List.filterMap_append, hlevel, hown, hinner, htaken, List.nil_append]

/-! ## Agreement -/

lemma count_emptyName_check (table : Table) :
    (table.check.countP fun problem => problem.kind = "empty_name") = table.names.count "" := by
  have hcount := count_empty_nameFaults [] table.names
  rw [← nameFault?_check, List.count_filterMap] at hcount
  rw [← hcount]
  congr 1
  funext problem
  cases problem <;> rfl

lemma taken_mem_iff {problems : List TableProblem} {name : String} :
    NameFault.taken name ∈ problems.filterMap TableProblem.nameFault? ↔
      ∃ location, .takenName location name ∈ problems := by
  rw [List.mem_filterMap]
  constructor
  · rintro ⟨problem, hproblem, hfault⟩
    cases problem with
    | takenName location given =>
      obtain rfl := NameFault.taken.inj (Option.some.inj hfault)
      exact ⟨location, hproblem⟩
    | emptyName location => cases hfault
    | unknownLogLevel level => cases hfault
    | emptyTemplate location => cases hfault
    | emptyTarget location => cases hfault
  · rintro ⟨location, hproblem⟩
    exact ⟨_, hproblem, rfl⟩

/-- The check reports a name as taken if it is not empty and is given more than once. -/
lemma takenName_mem_check_iff {table : Table} {name : String} :
    (∃ location, .takenName location name ∈ table.check) ↔
      name ≠ "" ∧ 2 ≤ table.names.count name := by
  have hcount := count_taken_nameFaults [] table.names name
  simp only [List.not_mem_nil, if_false] at hcount
  rw [← taken_mem_iff, nameFault?_check, ← List.count_pos_iff, hcount]
  by_cases hempty : name = ""
  · simp [hempty]
  · simp only [hempty, if_false, ne_eq, not_false_eq_true, true_and]
    omega

lemma nodup_names_of_check {table : Table} (h : table.check = []) : table.names.Nodup := by
  rw [List.nodup_iff_count_le_one]
  intro name
  by_contra hcount
  -- an empty name is a problem even if it stands alone, any other from the second time on
  by_cases hempty : name = ""
  · have hnone := count_emptyName_check table
    rw [h, List.countP_nil] at hnone
    rw [hempty] at hcount
    omega
  · have htwice : 2 ≤ table.names.count name := by omega
    obtain ⟨location, hproblem⟩ := takenName_mem_check_iff.mpr ⟨hempty, htwice⟩
    rw [h] at hproblem
    cases hproblem

/-- In a table without problems only a template can fail. -/
lemma Router.badTemplate_of_check {table : Table} {fault : RouteFault} (h : table.check = [])
    (hfault : (Router.ofTable table).run.value = .error fault) :
    ∃ f, fault = .badTemplate f := by
  obtain ⟨before, step, after, _, _, hstep⟩ := Router.exists_first_of_ofTable_error hfault
  rcases Registration.fault?_eq_some.mp hstep with ⟨f, _, rfl⟩ | ⟨m, name, _, _, _, rfl⟩
  · exact ⟨f, rfl⟩
  · have htwice : 2 ≤ table.names.count name := Router.two_le_count_of_duplicateName hfault
    have hnodup := nodup_names_of_check h
    have honce := List.nodup_iff_count_le_one.mp hnodup name
    omega

/-- Reading a text gives a table without problems, or a fault that has nothing to do with the work
on a table. -/
lemma Table.ofText_cases (text : String) :
    (∃ table, Table.ofText text = .ok table ∧ table.check = []) ∨
      ∃ fault, Table.ofText text = .error fault ∧ ∀ f, fault ≠ .badRoute f := by
  rw [Table.ofText]
  cases (Toml.ofText? text.toList).bind Table.ofEntries? with
  | none => exact .inr ⟨.malformed, rfl, by simp⟩
  | some table =>
    by_cases hcheck : table.check.isEmpty
    · exact .inl ⟨table, by simp [hcheck], List.isEmpty_iff.mp hcheck⟩
    · exact .inr ⟨.refused table.check, by simp [hcheck], by simp⟩

lemma Table.ofFile_cases (content : FileContent) :
    (∃ table, Table.ofFile content = .ok table ∧ table.check = []) ∨
      ∃ fault, Table.ofFile content = .error fault ∧ ∀ f, fault ≠ .badRoute f := by
  cases content with
  | error fault => exact .inr ⟨.unreadable fault, rfl, by simp⟩
  | ok bytes =>
    have hread : Table.ofFile (.ok bytes) =
        (Utf8.decode bytes).mapError (fun _ => .unreadable .notText) >>= Table.ofText := rfl
    rw [hread]
    cases Utf8.decode bytes with
    | error fault => exact .inr ⟨.unreadable .notText, rfl, by simp⟩
    | ok text => exact Table.ofText_cases text

/-- A file is never refused because of a name that the work on its table finds given twice. -/
lemma Router.ofFile_ne_duplicateName (content : FileContent) (name : String) :
    (Router.ofFile content).run.value ≠ .error (.badRoute (.duplicateName name)) := by
  intro hfault
  rw [Router.ofFile, Attempt.value_bind, Attempt.value_ofExcept] at hfault
  rcases Table.ofFile_cases content with ⟨table, htable, hcheck⟩ | ⟨fault, htable, hother⟩
  · simp only [htable, Attempt.value_adapt] at hfault
    cases hvalue : (Router.ofTable table).run.value with
    | ok r => simp [hvalue, Except.mapError] at hfault
    | error f =>
      obtain ⟨g, rfl⟩ := Router.badTemplate_of_check hcheck hvalue
      simp [hvalue, Except.mapError] at hfault
  · simp only [htable] at hfault
    exact hother _ (Except.error.inj hfault)

/-- The check of a table and the work on it agree on names.  A table without problems can be built
if all of its templates compile, and nothing but a template can fail; so a file is never refused
because of a name that the work finds given twice.  Where the work succeeds, the check reports no
name as taken.  Where the work finds a name given twice, the check reports it as taken, or as empty
at two routes at least. -/
theorem check_agrees_with_ofTable (table : Table) :
    (table.check = [] →
      ((∃ r, (Router.ofTable table).run.value = .ok r) ↔
        ∀ step ∈ table.registrations, step.compiles) ∧
      ∀ fault, (Router.ofTable table).run.value = .error fault → ∃ f, fault = .badTemplate f) ∧
    (∀ content name,
      (Router.ofFile content).run.value ≠ .error (.badRoute (.duplicateName name))) ∧
    (∀ r, (Router.ofTable table).run.value = .ok r →
      ∀ location name, .takenName location name ∉ table.check) ∧
    (∀ name, (Router.ofTable table).run.value = .error (.duplicateName name) →
      (name ≠ "" → ∃ location, .takenName location name ∈ table.check) ∧
      (name = "" → 2 ≤ table.check.countP fun problem => problem.kind = "empty_name")) := by
  refine ⟨?_, ?_, ?_, ?_⟩
  · intro hcheck
    refine ⟨?_, fun fault hfault => Router.badTemplate_of_check hcheck hfault⟩
    rw [Router.exists_ofTable_iff]
    constructor
    · intro hsteps step hstep
      obtain ⟨before, after, hsplit⟩ := List.append_of_mem hstep
      exact Registration.compiles_of_fault?_eq_none (hsteps before step after hsplit)
    · intro hcompiles
      have hnames := (Registration.names_registrations_perm table).nodup_iff.mpr
        (nodup_names_of_check hcheck)
      exact Registration.faultless_of_nodup hcompiles hnames
  · exact Router.ofFile_ne_duplicateName
  · intro r hr location name hproblem
    have hnames := Registration.nodup_names (Router.exists_ofTable_iff.mp ⟨r, hr⟩)
    rw [(Registration.names_registrations_perm table).nodup_iff] at hnames
    have honce := List.nodup_iff_count_le_one.mp hnames name
    have htwice := (takenName_mem_check_iff.mp ⟨location, hproblem⟩).2
    omega
  · intro name hfault
    have htwice := Router.two_le_count_of_duplicateName hfault
    constructor
    · intro hempty
      exact takenName_mem_check_iff.mpr ⟨hempty, htwice⟩
    · rintro rfl
      rw [count_emptyName_check]
      exact htwice

end UriRouting
