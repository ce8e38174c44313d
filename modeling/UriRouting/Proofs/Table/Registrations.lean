import Mathlib.Tactic
import UriRouting.Proofs.Template.Noted
import UriRouting.Router.OfTable

/-!
# The work on a table as a sequence of steps

Building the tree of a table is a recursion over nested routers which fills a tree and hands the
names that have been given from one level to the next.  `Table.registrations` lists the same work as
one sequence of steps: each router is mounted before anything in it, and the routes of a router come
last.  As far as faults, names and the journal go, the recursion carries out these steps one after
the other (`names_registerTable`).

So a table can be built if no step fails, and otherwise the fault is that of the first step that
does.  Every counter accounts for exactly the steps that were reached (`ofTable_first_fault`).
-/

namespace UriRouting

/-! ## Steps -/

/-- One step of building the tree of a table. -/
inductive Registration
  /-- A router is mounted. -/
  | mount (template : String)
  /-- A route is added. -/
  | route (entry : RouteEntry)

namespace Registration

/-- The template that the step compiles. -/
def template : Registration → String
  | mount template => template
  | route entry => entry.template

/-- How much of a path that template takes. -/
def anchoring : Registration → Anchoring
  | mount _ => .leading
  | route _ => .full

/-- The name that the step gives. -/
def name? : Registration → Option String
  | mount _ => none
  | route entry => entry.name

/-- The names that steps give, in order. -/
def names (steps : List Registration) : List String := steps.filterMap name?

/-- What the template of the step compiles to. -/
def compiled (step : Registration) : Except TemplateFault Matchable :=
  (Matchable.compile step.template step.anchoring).run.value

/-- Does the template of the step compile? -/
def compiles (step : Registration) : Bool := step.compiled.isOk

/-- Why the step fails where some names have been given before.  The template is looked at before
the name. -/
def fault? (taken : List String) (step : Registration) : Option RouteFault :=
  match step.compiled, step.name? with
  | .error fault, _ => some (.badTemplate fault)
  | .ok _, none => none
  | .ok _, some name => if name ∈ taken then some (.duplicateName name) else none

/-- No step fails, where each finds the names that the steps before it have given. -/
def Faultless (steps : List Registration) : Prop :=
  ∀ before step after, steps = before ++ step :: after → step.fault? (names before) = none

end Registration

mutual

/-- The steps that build the router of an entry: it is mounted, then come the routers in it, and its
own routes are last. -/
def RouterEntry.registrations : RouterEntry → List Registration
  | ⟨mount, routes, routers⟩ =>
    .mount mount :: (registrationsOf routers ++ routes.map Registration.route)

/-- The steps that build the routers of several entries. -/
def registrationsOf : List RouterEntry → List Registration
  | [] => []
  | entry :: rest => entry.registrations ++ registrationsOf rest

end

/-- The steps that build the tree of a table. -/
def Table.registrations (table : Table) : List Registration :=
  registrationsOf table.routers ++ table.routes.map Registration.route

/-- The counter of a fault: only those of templates are counted. -/
def RouteFault.counter? : RouteFault → Option String
  | badTemplate fault => some (Journal.patternErrors fault.kind)
  | duplicateName _ => none
  | unknownRoute _ => none
  | parameterCount _ _ _ => none

namespace Registration

/-! ## Faults -/

lemma compiles_iff {step : Registration} : step.compiles ↔ ∃ m, step.compiled = .ok m := by
  rw [compiles]
  cases step.compiled with
  | error fault => simp [Except.isOk, Except.toBool]
  | ok m => simp [Except.isOk, Except.toBool]

lemma fault?_eq_some {taken : List String} {step : Registration} {fault : RouteFault} :
    step.fault? taken = some fault ↔
      (∃ f, step.compiled = .error f ∧ fault = .badTemplate f) ∨
      ∃ m name, step.compiled = .ok m ∧ step.name? = some name ∧ name ∈ taken ∧
        fault = .duplicateName name := by
  rw [fault?]
  cases step.compiled with
  | error f => simp [eq_comm]
  | ok m =>
    cases step.name? with
    | none => simp
    | some name => by_cases h : name ∈ taken <;> simp [h, eq_comm]

/-- A step fails if its template does not compile, and also if its name has been given before. -/
lemma fault?_ne_none {taken : List String} {step : Registration} :
    step.fault? taken ≠ none ↔
      (∃ fault, step.compiled = .error fault) ∨ ∃ name ∈ step.name?, name ∈ taken := by
  rw [fault?]
  cases step.compiled with
  | error fault => simp
  | ok m =>
    cases step.name? with
    | none => simp
    | some name => simp

lemma compiles_of_fault?_eq_none {taken : List String} {step : Registration}
    (h : step.fault? taken = none) : step.compiles := by
  rw [fault?] at h
  rw [compiles_iff]
  cases hcompiled : step.compiled with
  | error fault => simp [hcompiled] at h
  | ok m => exact ⟨m, rfl⟩

lemma names_append (first second : List Registration) :
    names (first ++ second) = names first ++ names second := List.filterMap_append

lemma names_concat (steps : List Registration) (step : Registration) :
    names (steps ++ [step]) = names steps ++ step.name?.toList := by
  rw [names_append, names.eq_1 [step], List.filterMap_cons]
  cases step.name? <;> rfl

lemma faultless_nil : Faultless [] := by
  intro before step after h
  simp at h

lemma faultless_concat {steps : List Registration} {last : Registration} :
    Faultless (steps ++ [last]) ↔ Faultless steps ∧ last.fault? (names steps) = none := by
  constructor
  · intro h
    refine ⟨?_, h steps last [] rfl⟩
    intro before step after hsteps
    apply h before step (after ++ [last])
    rw [hsteps, List.append_assoc, List.cons_append]
  · rintro ⟨hsteps, hlast⟩ before step after h
    -- the step is the last one, or there is still another behind it
    rcases List.eq_nil_or_concat after with rfl | ⟨after, other, rfl⟩
    · obtain ⟨rfl, hstep⟩ := List.append_inj' h rfl
      obtain rfl := List.singleton_inj.mp hstep
      exact hlast
    · rw [List.concat_eq_append, ← List.cons_append, ← List.append_assoc] at h
      exact hsteps before step after (List.append_inj' h rfl).1

lemma exists_first_fault {steps : List Registration} (h : ¬ Faultless steps) :
    ∃ before step after fault, steps = before ++ step :: after ∧ Faultless before ∧
      step.fault? (names before) = some fault := by
  induction steps using List.reverseRecOn with
  | nil => exact absurd faultless_nil h
  | append_singleton steps last ih =>
    by_cases hsteps : Faultless steps
    · have hlast : last.fault? (names steps) ≠ none := by
        intro hnone
        exact h (faultless_concat.mpr ⟨hsteps, hnone⟩)
      obtain ⟨fault, hfault⟩ := Option.ne_none_iff_exists'.mp hlast
      exact ⟨steps, last, [], fault, rfl, hsteps, hfault⟩
    · obtain ⟨before, step, after, fault, rfl, hbefore, hfault⟩ := ih hsteps
      exact ⟨before, step, after ++ [last], fault, by simp, hbefore, hfault⟩

/-! ## Carrying steps out -/

/-- The names that are taken after one more is given, if there is one. -/
def give (taken : List String) : Option String → Except RouteFault (List String)
  | none => .ok taken
  | some name => if name ∈ taken then .error (.duplicateName name) else .ok (taken ++ [name])

/-- Carries a step out without building anything; `taken` are the names given before. -/
def perform (taken : List String) (step : Registration) : Attempt RouteFault (List String) := do
  let _ ← (Matchable.compile step.template step.anchoring).adapt RouteFault.badTemplate
  Attempt.ofExcept (give taken step.name?)

/-- Carries steps out one after the other. -/
def performAll (taken : List String) (steps : List Registration) :
    Attempt RouteFault (List String) := steps.foldlM perform taken

lemma performAll_cons (taken : List String) (step : Registration) (steps : List Registration) :
    performAll taken (step :: steps) = perform taken step >>= (performAll · steps) := by
  rw [performAll, List.foldlM_cons]
  rfl

lemma performAll_append (taken : List String) (first second : List Registration) :
    performAll taken (first ++ second) = performAll taken first >>= (performAll · second) := by
  rw [performAll, List.foldlM_append]
  rfl

lemma performAll_concat (taken : List String) (steps : List Registration) (last : Registration) :
    performAll taken (steps ++ [last]) = performAll taken steps >>= (perform · last) := by
  simp [performAll]

lemma value_perform (taken : List String) (step : Registration) :
    (perform taken step).run.value = match step.fault? taken with
      | some fault => .error fault
      | none => .ok (taken ++ step.name?.toList) := by
  rw [perform, Attempt.value_bind, Attempt.value_adapt, fault?, compiled]
  cases (Matchable.compile step.template step.anchoring).run.value with
  | error fault => rfl
  | ok m =>
    cases step.name? with
    | none => simp [Except.mapError, give]
    | some name => by_cases h : name ∈ taken <;> simp [Except.mapError, give, h]

/-- A step moves the counter of what its template compiles to, whatever becomes of its name. -/
lemma growth_perform (taken : List String) (step : Registration) (counter : String) :
    (perform taken step).run.journal.growth counter =
      if (Matchable.outcome step.compiled).counter? = some counter then 1 else 0 := by
  have hjournal : (perform taken step).run.journal =
      (Matchable.compile step.template step.anchoring).run.journal := by
    rw [perform, Attempt.journal_bind, Attempt.journal_adapt, Attempt.value_adapt]
    cases (Matchable.compile step.template step.anchoring).run.value <;>
      simp [Except.mapError]
  rw [hjournal, Matchable.growth_compile, compiled]

lemma growth_performAll_eq_zero {counter : String} (hcompiled : Journal.patternsCompiled ≠ counter)
    (herrors : ∀ kind, Journal.patternErrors kind ≠ counter) (taken : List String)
    (steps : List Registration) : (performAll taken steps).run.journal.growth counter = 0 := by
  induction steps generalizing taken with
  | nil => exact Journal.growth_nil counter
  | cons step steps ih =>
    have hstep : (perform taken step).run.journal.growth counter = 0 := by
      rw [growth_perform, if_neg]
      cases step.compiled with
      | error fault => exact fun h => herrors fault.kind (Option.some.inj h)
      | ok m => exact fun h => hcompiled (Option.some.inj h)
    rw [performAll_cons, Attempt.journal_bind, Journal.growth_append, hstep]
    cases (perform taken step).run.value with
    | error fault => exact Journal.growth_nil counter
    | ok given => simp [ih]

lemma value_performAll {steps : List Registration} (h : Faultless steps) :
    (performAll [] steps).run.value = .ok (names steps) := by
  -- from the right, since what a step finds taken are the names of all steps before it
  induction steps using List.reverseRecOn with
  | nil => rfl
  | append_singleton steps last ih =>
    obtain ⟨hsteps, hlast⟩ := faultless_concat.mp h
    have hperform := value_perform (names steps) last
    rw [hlast] at hperform
    rw [performAll_concat, Attempt.value_bind, ih hsteps, names_concat]
    exact hperform

/-- All templates of steps that do not fail are counted as compiled. -/
lemma growth_performAll {steps : List Registration} (h : Faultless steps) (counter : String) :
    (performAll [] steps).run.journal.growth counter =
      if counter = Journal.patternsCompiled then steps.length else 0 := by
  induction steps using List.reverseRecOn with
  | nil => simp [performAll, Journal.growth_nil]
  | append_singleton steps last ih =>
    obtain ⟨hsteps, hlast⟩ := faultless_concat.mp h
    obtain ⟨m, hm⟩ := compiles_iff.mp (compiles_of_fault?_eq_none hlast)
    have hmoved : (Matchable.outcome last.compiled).counter? = some Journal.patternsCompiled := by
      rw [hm]
      rfl
    rw [performAll_concat, Attempt.journal_bind, value_performAll hsteps, Journal.growth_append,
      ih hsteps]
    simp only [growth_perform, hmoved, Option.some.injEq, List.length_append,
      List.length_singleton, eq_comm (a := Journal.patternsCompiled)]
    split <;> rfl

lemma countP_compiles {steps : List Registration} (h : Faultless steps) :
    steps.countP compiles = steps.length := by
  rw [List.countP_eq_length]
  intro step hstep
  obtain ⟨before, after, hsteps⟩ := List.append_of_mem hstep
  exact compiles_of_fault?_eq_none (h before step after hsteps)

/-- `performAll` ends with the fault of the first step that fails. -/
lemma value_performAll_of_fault {before after : List Registration} {step : Registration}
    {fault : RouteFault} (hbefore : Faultless before)
    (hfault : step.fault? (names before) = some fault) :
    (performAll [] (before ++ step :: after)).run.value = .error fault := by
  have hperform := value_perform (names before) step
  rw [hfault] at hperform
  rw [performAll_append, Attempt.value_bind, value_performAll hbefore]
  simp only [performAll_cons, Attempt.value_bind, hperform]

/-- Nothing is noted after the first step that fails. -/
lemma journal_performAll_of_fault {before after : List Registration} {step : Registration}
    {fault : RouteFault} (hbefore : Faultless before)
    (hfault : step.fault? (names before) = some fault) :
    (performAll [] (before ++ step :: after)).run.journal =
      (performAll [] before).run.journal ++ (perform (names before) step).run.journal := by
  have hperform := value_perform (names before) step
  rw [hfault] at hperform
  rw [performAll_append, Attempt.journal_bind, value_performAll hbefore]
  simp only [performAll_cons, Attempt.journal_bind, hperform, List.append_nil]

/-- Up to the first step that fails and with it, all templates that compiled are counted, and that
step's fault if it is one of a template. -/
lemma growth_performAll_of_fault {before after : List Registration} {step : Registration}
    {fault : RouteFault} (hbefore : Faultless before)
    (hfault : step.fault? (names before) = some fault) (counter : String) :
    (performAll [] (before ++ step :: after)).run.journal.growth counter =
      if counter = Journal.patternsCompiled then (before ++ [step]).countP compiles
      else if fault.counter? = some counter then 1 else 0 := by
  have hcompiled : (performAll [] before).run.journal.growth counter =
      if counter = Journal.patternsCompiled then before.countP compiles else 0 := by
    rw [growth_performAll hbefore, countP_compiles hbefore]
  rw [journal_performAll_of_fault hbefore hfault, Journal.growth_append, hcompiled, growth_perform,
    List.countP_append, List.countP_singleton]
  rcases fault?_eq_some.mp hfault with ⟨f, hstep, rfl⟩ | ⟨m, name, hstep, _, _, rfl⟩
  · have hmoved : (Matchable.outcome step.compiled).counter? =
        some (Journal.patternErrors f.kind) := by rw [hstep]; rfl
    have hrefused : step.compiles = false := by rw [compiles, hstep]; rfl
    have hdistinct := Journal.patternErrors_ne_patternsCompiled f.kind
    rw [hmoved, hrefused]
    by_cases hcounter : counter = Journal.patternsCompiled
    · simp [hcounter, hdistinct]
    · simp [hcounter, RouteFault.counter?]
  · have hmoved : (Matchable.outcome step.compiled).counter? = some Journal.patternsCompiled := by
      rw [hstep]; rfl
    have hcompiles : step.compiles = true := compiles_iff.mpr ⟨m, hstep⟩
    rw [hmoved, hcompiles]
    by_cases hcounter : counter = Journal.patternsCompiled
    · simp [hcounter]
    · simp [hcounter, RouteFault.counter?, eq_comm]

lemma value_performAll_eq_ok {steps : List Registration} {taken : List String} :
    (performAll [] steps).run.value = .ok taken ↔ Faultless steps ∧ taken = names steps := by
  constructor
  · intro h
    by_cases hsteps : Faultless steps
    · rw [value_performAll hsteps] at h
      exact ⟨hsteps, (Except.ok.inj h).symm⟩
    · obtain ⟨before, step, after, fault, rfl, hbefore, hfault⟩ := exists_first_fault hsteps
      rw [value_performAll_of_fault hbefore hfault] at h
      cases h
  · rintro ⟨hsteps, rfl⟩
    exact value_performAll hsteps

end Registration

/-! ## The recursion carries out the steps -/

namespace Router

open Registration (performAll)

lemma leaf_eq (r : Router) (template target : String) :
    r.leaf template target = (fun m => ⟨none, target, r.fullMount ++ template, m⟩) <$>
      Matchable.compile template .full := by
  rw [leaf, bind_pure_comp]

lemma child_eq (r : Router) (mount : String) :
    r.child mount = (fun m => ⟨some m, r.fullMount ++ mount, [], []⟩) <$>
      Matchable.compile mount .leading := by
  rw [child, bind_pure_comp]

/-- Naming a route and going on with the names alone does not depend on the route. -/
lemma bind_nameRoute {α : Type} (route : Route) (name : Option String) (taken : List String)
    (next : List String → Attempt RouteFault α) :
    (Attempt.ofExcept (nameRoute route name taken) >>= fun p => next p.2) =
      Attempt.ofExcept (Registration.give taken name) >>= next := by
  cases name with
  | none => rfl
  | some name => by_cases h : name ∈ taken <;> simp [nameRoute, Registration.give, h]

lemma names_registerRoutes (entries : List RouteEntry) (r : Router) (taken : List String) :
    Prod.snd <$> registerRoutes entries r taken =
      performAll taken (entries.map Registration.route) := by
  induction entries generalizing r taken with
  | nil => rfl
  | cons entry rest ih =>
    rw [registerRoutes, List.map_cons, Registration.performAll_cons, Registration.perform,
      leaf_eq, Attempt.adapt_map]
    simp only [map_bind, ih, bind_map_left, bind_assoc]
    refine bind_congr fun m => ?_
    exact bind_nameRoute _ entry.name taken (performAll · (rest.map Registration.route))

mutual

lemma names_registerRouter (entry : RouterEntry) (parent : Router) (taken : List String) :
    Prod.snd <$> registerRouter entry parent taken = performAll taken entry.registrations := by
  match entry with
  | ⟨mount, routes, routers⟩ =>
    rw [registerRouter, RouterEntry.registrations, Registration.performAll_cons,
      Registration.perform, child_eq, Attempt.adapt_map]
    simp only [map_bind, names_registerRoutes, bind_map_left, bind_assoc]
    refine bind_congr fun m => ?_
    -- a router has no name, so the names are handed on to what is inside it
    change _ = performAll taken (registrationsOf routers ++ routes.map Registration.route)
    rw [Registration.performAll_append, ← names_registerRouters routers, bind_map_left]

lemma names_registerRouters (entries : List RouterEntry) (r : Router) (taken : List String) :
    Prod.snd <$> registerRouters entries r taken = performAll taken (registrationsOf entries) := by
  match entries with
  | [] => rfl
  | entry :: rest =>
    rw [registerRouters, registrationsOf, Registration.performAll_append,
      ← names_registerRouter entry r, bind_map_left, map_bind]
    refine bind_congr fun p => ?_
    exact names_registerRouters rest (r.addRouter p.1) p.2

end

/-- The tree of a table and the names in it, before it is noted that the tree is complete. -/
def registerTable (table : Table) : Attempt RouteFault (Router × List String) := do
  let (r, names) ← registerRouters table.routers empty []
  registerRoutes table.routes r names

lemma ofTable_eq (table : Table) :
    ofTable table = registerTable table >>= fun p => do
      Attempt.note (.tableCompiled p.1.routeCount p.2.length)
      return p.1 := by
  rw [ofTable, registerTable, bind_assoc]

/-- Apart from the tree itself, `registerTable` carries out the steps of the table with
`performAll`. -/
theorem names_registerTable (table : Table) :
    Prod.snd <$> registerTable table = performAll [] table.registrations := by
  rw [registerTable, Table.registrations, Registration.performAll_append,
    ← names_registerRouters table.routers empty, bind_map_left, map_bind]
  refine bind_congr fun p => ?_
  exact names_registerRoutes table.routes p.1 p.2

lemma value_registerTable (table : Table) :
    (registerTable table).run.value.map Prod.snd =
      (performAll [] table.registrations).run.value := by
  rw [← Attempt.value_map, names_registerTable]

lemma journal_registerTable (table : Table) :
    (registerTable table).run.journal = (performAll [] table.registrations).run.journal := by
  rw [← names_registerTable, Attempt.journal_map]

lemma value_ofTable (table : Table) :
    (ofTable table).run.value = (registerTable table).run.value.map Prod.fst := by
  rw [ofTable_eq, Attempt.value_bind]
  cases (registerTable table).run.value <;> rfl

/-- That the tree is complete is noted last, and only then. -/
lemma journal_ofTable (table : Table) :
    (ofTable table).run.journal = (performAll [] table.registrations).run.journal ++
      match (registerTable table).run.value with
      | .ok p => [.tableCompiled p.1.routeCount p.2.length]
      | .error _ => [] := by
  rw [ofTable_eq, Attempt.journal_bind, journal_registerTable]
  cases (registerTable table).run.value <;> rfl

lemma growth_ofTable (table : Table) (counter : String) :
    (ofTable table).run.journal.growth counter =
      (performAll [] table.registrations).run.journal.growth counter := by
  rw [journal_ofTable, Journal.growth_append]
  cases (registerTable table).run.value <;>
    simp [Journal.growth_cons, Journal.growth_nil, Observation.counter?]

/-! ## The first fault -/

lemma value_ofTable_eq_error {table : Table} {fault : RouteFault} :
    (ofTable table).run.value = .error fault ↔
      (performAll [] table.registrations).run.value = .error fault := by
  rw [value_ofTable, ← value_registerTable]
  cases (registerTable table).run.value <;> simp [Except.map]

/-- A table can be built if no step of the work on it fails. -/
theorem exists_ofTable_iff {table : Table} :
    (∃ r, (ofTable table).run.value = .ok r) ↔ Registration.Faultless table.registrations := by
  have hsteps : (∃ r, (ofTable table).run.value = .ok r) ↔
      ∃ taken, (performAll [] table.registrations).run.value = .ok taken := by
    rw [value_ofTable, ← value_registerTable]
    cases (registerTable table).run.value <;> simp [Except.map]
  rw [hsteps]
  simp only [Registration.value_performAll_eq_ok, exists_eq_right]

lemma exists_ofTable_error_iff {table : Table} :
    (∃ fault, (ofTable table).run.value = .error fault) ↔
      ¬ Registration.Faultless table.registrations := by
  rw [← exists_ofTable_iff]
  cases (ofTable table).run.value <;> simp

/-- A fault of the work on a table is that of the first step that fails. -/
lemma exists_first_of_ofTable_error {table : Table} {fault : RouteFault}
    (h : (ofTable table).run.value = .error fault) :
    ∃ before step after, table.registrations = before ++ step :: after ∧
      Registration.Faultless before ∧
      step.fault? (Registration.names before) = some fault := by
  have hfaulty := exists_ofTable_error_iff.mp ⟨fault, h⟩
  obtain ⟨before, step, after, first, hsteps, hbefore, hfirst⟩ :=
    Registration.exists_first_fault hfaulty
  have hvalue : (performAll [] table.registrations).run.value = .error first := by
    rw [hsteps]
    exact Registration.value_performAll_of_fault hbefore hfirst
  rw [← value_ofTable_eq_error, h] at hvalue
  obtain rfl := Except.error.inj hvalue
  exact ⟨before, step, after, hsteps, hbefore, hfirst⟩

/-- Building the tree of a table fails if the template of some step does not compile or some step
gives a name that a step before it has given.  The fault is that of the first such step, where the
template comes before the name.  The templates that compiled up to there are counted, that of the
step at which the work ends included; the fault is counted, by its kind, if it is one of a template.
If nothing fails then all templates are counted.  No other counter moves. -/
theorem ofTable_first_fault (table : Table) :
    ((∃ fault, (ofTable table).run.value = .error fault) ↔
      ∃ before step after, table.registrations = before ++ step :: after ∧
        ((∃ fault, step.compiled = .error fault) ∨
          ∃ name ∈ step.name?, name ∈ Registration.names before)) ∧
    (∀ fault, (ofTable table).run.value = .error fault →
      ∃ before step after, table.registrations = before ++ step :: after ∧
        Registration.Faultless before ∧
        step.fault? (Registration.names before) = some fault ∧
        ∀ counter, (ofTable table).run.journal.growth counter =
          if counter = Journal.patternsCompiled then
            (before ++ [step]).countP Registration.compiles
          else if fault.counter? = some counter then 1 else 0) ∧
    (∀ r, (ofTable table).run.value = .ok r →
      Registration.Faultless table.registrations ∧
      ∀ counter, (ofTable table).run.journal.growth counter =
        if counter = Journal.patternsCompiled then table.registrations.length else 0) := by
  refine ⟨?_, ?_, ?_⟩
  · rw [exists_ofTable_error_iff]
    simp only [Registration.Faultless, not_forall, exists_prop, ← ne_eq,
      Registration.fault?_ne_none]
  · intro fault hfault
    obtain ⟨before, step, after, hsteps, hbefore, hfirst⟩ := exists_first_of_ofTable_error hfault
    refine ⟨before, step, after, hsteps, hbefore, hfirst, ?_⟩
    intro counter
    rw [growth_ofTable, hsteps, Registration.growth_performAll_of_fault hbefore hfirst]
  · intro r hr
    have hsteps := exists_ofTable_iff.mp ⟨r, hr⟩
    refine ⟨hsteps, ?_⟩
    intro counter
    rw [growth_ofTable]
    exact Registration.growth_performAll hsteps counter

end Router

end UriRouting
