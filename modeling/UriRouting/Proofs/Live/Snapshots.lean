import Mathlib.Tactic
import UriRouting.Live.Shared
import UriRouting.Proofs.Table.Described

/-!
# What the readers of a shared router see

Readers and writers work on one shared router.  A writer tries to put the router of a table into
effect; the router is built apart from the shared one and takes effect at once, or not at all.  A
reader keeps a snapshot, or asks something: of the router in effect, or of a snapshot.  However the
work of many of them interleaves, what happens is a sequence of such steps, and `performAll` carries
out any sequence.

`Source.StandsFor` says from the steps alone which router a reader asks.  The router in effect is
that of the last table that compiled, and a snapshot is the one that was in effect when it was
taken; nothing that comes later occurs in that.  The routers that the steps leave behind are these
(`router?_after`).  That is shown from the last step, and with it `snapshots_isolated`, which
is about every question in a sequence of steps.
-/

namespace UriRouting

/-! ## Questions -/

/-- Something that a router can be asked. -/
inductive Query
  | find (path : String)
  | url (name : String) (values : List String)
  | routeByName (name : String)
  | routeCount

/-- What a router answers. -/
inductive Answer
  | found (found? : Option Found)
  | url (result : Except RouteFault String)
  | route (route? : Option Route)
  | count (routes : Nat)

/-- Answers a question.  Only a path that is looked up is noted. -/
def Router.answer (r : Router) : Query → Recorded Answer
  | .find path => do return .found (← r.find path)
  | .url name values => return .url (r.url name values)
  | .routeByName name => return .route (r.routeByName? name)
  | .routeCount => return .count r.routeCount

/-! ## Swaps in the log -/

/-- The lines of the log that say that a router took effect. -/
def Journal.swaps (journal : Journal) : List LogRecord :=
  journal.records.filter fun record => record.message = "Route table swapped"

/-- The line of the log that says that this router took effect. -/
def Router.swapRecord (r : Router) : LogRecord :=
  ⟨.info, "Route table swapped", [("routes", .number r.routeCount)]⟩

namespace Journal

lemma swaps_append (a b : Journal) : swaps (a ++ b) = swaps a ++ swaps b := by
  simp [swaps, records, List.filterMap_append]

lemma swaps_swapped (r : Router) : swaps [.tableSwapped r.routeCount] = [r.swapRecord] := rfl

lemma swaps_eq_nil {journal : Journal} (h : ∀ o ∈ journal, ∀ routes, o ≠ .tableSwapped routes) :
    journal.swaps = [] := by
  rw [swaps, records, List.filter_eq_nil_iff]
  intro record hrecord
  obtain ⟨o, ho, hline⟩ := List.mem_filterMap.mp hrecord
  cases o with
  | tableSwapped routes => exact absurd rfl (h _ ho routes)
  | patternRefused fault => cases hline
  | reloaded applied => cases hline
  | _ =>
    obtain rfl := Option.some.inj hline
    simp

end Journal

/-- While a template compiles, nothing takes effect. -/
lemma Matchable.not_swapped {template : String} {anchoring : Anchoring} {o : Observation}
    (h : o ∈ (compile template anchoring).run.journal) (routes : Nat) :
    o ≠ .tableSwapped routes := by
  rcases noted_compile template anchoring h with ⟨name, rfl⟩ | rfl
  · simp
  · cases (compile template anchoring).run.value <;> simp [outcome]

namespace Router

/-- While the tree of a table is built, nothing takes effect. -/
lemma swaps_ofTable (table : Table) : (ofTable table).run.journal.swaps = [] := by
  apply Journal.swaps_eq_nil
  intro o ho
  rw [journal_ofTable] at ho
  rcases List.mem_append.mp ho with ho | ho
  · obtain ⟨template, anchoring, ho⟩ := Registration.noted_performAll ho
    exact Matchable.not_swapped ho
  · cases hvalue : (registerTable table).run.value with
    | error fault =>
      rw [hvalue] at ho
      cases ho
    | ok p =>
      rw [hvalue] at ho
      obtain rfl := List.mem_singleton.mp ho
      simp

lemma swaps_answer (r : Router) (query : Query) : (r.answer query).journal.swaps = [] := by
  cases query with
  | find path =>
    apply Journal.swaps_eq_nil
    intro o ho
    obtain rfl := List.mem_singleton.mp ho
    cases r.lookup path <;> simp [lookupOutcome]
  | _ => rfl

end Router

namespace SharedRouter

/-! ## Steps -/

/-- Where a reader asks. -/
inductive Source
  /-- The router in effect. -/
  | inEffect
  /-- A snapshot by its number, in the order in which they were taken. -/
  | taken (n : Nat)
  /-- The latest snapshot of a name. -/
  | named (name : String)

/-- A step of a reader or a writer. -/
inductive Step
  | replace (table : Table)
  | snapshot (name : String)
  | ask (source : Source) (query : Query)

/-- What comes of a step. -/
inductive Reply
  | replaced (routes : Nat)
  | refused (fault : RouteFault)
  | kept (routes : Nat)
  | answered (answer : Answer)
  /-- There is no such snapshot. -/
  | noSnapshot

namespace Step

/-- The router that a step puts into effect, if its table compiles. -/
def compiled? : Step → Option Router
  | replace table => (Router.ofTable table).run.value.toOption
  | _ => none

def isSnapshot : Step → Bool
  | snapshot _ => true
  | _ => false

end Step

/-- The router that is asked. -/
def router? (s : SharedRouter) : Source → Option Router
  | .inEffect => some s.current
  | .taken n => s.snapshots.reverse[n]?.map Prod.snd
  | .named name => s.snapshot? name

/-- Carries out a step. -/
def perform (s : SharedRouter) : Step → Recorded (SharedRouter × Reply)
  | .replace table => do
    match ← (s.replaceTable table).run with
    | .ok next => return (next, .replaced next.current.routeCount)
    | .error fault => return (s, .refused fault)
  | .snapshot name => return (s.takeSnapshot name, .kept s.current.routeCount)
  | .ask source query =>
    match s.router? source with
    | some router => do return (s, .answered (← router.answer query))
    | none => return (s, .noSnapshot)

/-- Carries out several steps, one after the other. -/
def performAll (s : SharedRouter) : List Step → Recorded (SharedRouter × List Reply)
  | [] => return (s, [])
  | step :: rest => do
    let (next, reply) ← s.perform step
    let (last, replies) ← next.performAll rest
    return (last, reply :: replies)

/-- What there is after some steps. -/
def after (initial : Router) (steps : List Step) : SharedRouter :=
  ((start initial).performAll steps).value.1

/-- The routers of the tables that compiled, in order. -/
def compiled (steps : List Step) : List Router := steps.filterMap Step.compiled?

/-- The router of the last table that compiled, or the one from the beginning. -/
def lastCompiled (initial : Router) (steps : List Step) : Router :=
  (compiled steps).getLast?.getD initial

/-- What a source stands for after some steps. -/
inductive Source.StandsFor (initial : Router) (steps : List Step) : Source → Router → Prop
  | inEffect : StandsFor initial steps .inEffect (lastCompiled initial steps)
  | taken {before later : List Step} {name : String}
      (hsteps : steps = before ++ .snapshot name :: later) :
      StandsFor initial steps (.taken (before.countP Step.isSnapshot))
        (lastCompiled initial before)
  | named {before later : List Step} {name : String}
      (hsteps : steps = before ++ .snapshot name :: later) (hlatest : .snapshot name ∉ later) :
      StandsFor initial steps (.named name) (lastCompiled initial before)

/-! ## One step -/

section Step

variable (s : SharedRouter)

lemma value_replaceTable (table : Table) :
    (s.replaceTable table).run.value =
      (Router.ofTable table).run.value.map fun router => { s with current := router } := by
  rw [replaceTable, Attempt.value_bind]
  cases (Router.ofTable table).run.value <;> rfl

/-- A table that compiles is noted as a swap, and one that does not is not. -/
lemma swaps_replaceTable (table : Table) :
    (s.replaceTable table).run.journal.swaps =
      (Step.compiled? (.replace table)).toList.map Router.swapRecord := by
  rw [replaceTable, Attempt.journal_bind, Journal.swaps_append, Router.swaps_ofTable,
    List.nil_append, Step.compiled?]
  cases (Router.ofTable table).run.value with
  | error fault => rfl
  | ok router =>
    simp only [Attempt.journal_lift]
    exact Journal.swaps_swapped router

lemma value_perform_replace (table : Table) :
    (s.perform (.replace table)).value = match (Router.ofTable table).run.value with
      | .ok router => ({ s with current := router }, .replaced router.routeCount)
      | .error fault => (s, .refused fault) := by
  rw [perform, Recorded.value_bind, value_replaceTable]
  cases (Router.ofTable table).run.value <;> rfl

lemma journal_perform_replace (table : Table) :
    (s.perform (.replace table)).journal = (s.replaceTable table).run.journal := by
  rw [perform, Recorded.journal_bind]
  cases (s.replaceTable table).run.value <;> exact List.append_nil _

lemma value_perform_ask (source : Source) (query : Query) :
    (s.perform (.ask source query)).value =
      (s, match s.router? source with
        | some router => .answered (router.answer query).value
        | none => .noSnapshot) := by
  rw [perform]
  cases s.router? source <;> rfl

lemma swaps_perform_ask (source : Source) (query : Query) :
    (s.perform (.ask source query)).journal.swaps = [] := by
  rw [perform]
  cases s.router? source with
  | none => rfl
  | some router =>
    simp only [Recorded.journal_bind, Recorded.journal_pure, List.append_nil]
    exact Router.swaps_answer router query

lemma current_perform (step : Step) :
    (s.perform step).value.1.current = step.compiled?.getD s.current := by
  cases step with
  | replace table =>
    rw [value_perform_replace, Step.compiled?]
    cases (Router.ofTable table).run.value <;> rfl
  | snapshot name => rfl
  | ask source query =>
    rw [value_perform_ask]
    rfl

lemma snapshots_perform (step : Step) :
    (s.perform step).value.1.snapshots = match step with
      | .snapshot name => (name, s.current) :: s.snapshots
      | _ => s.snapshots := by
  cases step with
  | replace table =>
    rw [value_perform_replace]
    cases (Router.ofTable table).run.value <;> rfl
  | snapshot name => rfl
  | ask source query => rw [value_perform_ask]

lemma swaps_perform (step : Step) :
    (s.perform step).journal.swaps = step.compiled?.toList.map Router.swapRecord := by
  cases step with
  | replace table => rw [journal_perform_replace, swaps_replaceTable]
  | snapshot name => rfl
  | ask source query => exact swaps_perform_ask s source query

lemma router?_takeSnapshot_taken (name : String) (n : Nat) (router : Router) :
    (s.takeSnapshot name).router? (.taken n) = some router ↔
      s.router? (.taken n) = some router ∨ (n = s.snapshots.length ∧ router = s.current) := by
  rw [router?, router?, takeSnapshot, List.reverse_cons, ← List.length_reverse]
  rcases Nat.lt_trichotomy n s.snapshots.reverse.length with hn | rfl | hn
  · rw [List.getElem?_append_left hn]
    simp only [hn.ne, false_and, or_false]
  · rw [List.getElem?_concat_length, List.getElem?_eq_none (Nat.le_refl _)]
    simp [eq_comm]
  · have hlength : (s.snapshots.reverse ++ [(name, s.current)]).length ≤ n := by
      rw [List.length_append]
      exact hn
    rw [List.getElem?_eq_none hlength, List.getElem?_eq_none hn.le]
    simp only [hn.ne', false_and, or_false]

lemma router?_takeSnapshot_named (taken name : String) (router : Router) :
    (s.takeSnapshot taken).router? (.named name) = some router ↔
      (taken = name ∧ router = s.current) ∨
        (taken ≠ name ∧ s.router? (.named name) = some router) := by
  rw [router?, router?, takeSnapshot, snapshot?, snapshot?]
  by_cases h : taken = name
  · rw [List.find?_cons_of_pos (by simpa using h)]
    simp [h, eq_comm]
  · rw [List.find?_cons_of_neg (by simpa using h)]
    simp [h]

end Step

/-! ## Sequences of steps -/

lemma performAll_append (s : SharedRouter) (steps later : List Step) :
    s.performAll (steps ++ later) = do
      let (next, replies) ← s.performAll steps
      let (last, others) ← next.performAll later
      return (last, replies ++ others) := by
  induction steps generalizing s with
  | nil => simp [performAll]
  | cons step rest ih =>
    rw [List.cons_append, performAll, performAll]
    simp only [ih, bind_assoc, pure_bind, List.cons_append]

lemma after_concat (initial : Router) (steps : List Step) (step : Step) :
    after initial (steps ++ [step]) = ((after initial steps).perform step).value.1 := by
  rw [after, performAll_append]
  rfl

lemma journal_concat (s : SharedRouter) (steps : List Step) (step : Step) :
    (s.performAll (steps ++ [step])).journal =
      (s.performAll steps).journal ++ ((s.performAll steps).value.1.perform step).journal := by
  rw [performAll_append, Recorded.journal_bind]
  simp only [performAll, Recorded.journal_bind, Recorded.journal_pure, List.append_nil]

lemma length_replies (s : SharedRouter) (steps : List Step) :
    (s.performAll steps).value.2.length = steps.length := by
  induction steps generalizing s with
  | nil => rfl
  | cons step rest ih =>
    rw [performAll]
    exact congrArg Nat.succ (ih _)

/-- What is replied to a step depends on the steps before it only. -/
lemma reply_eq (initial : Router) (before later : List Step) (step : Step) :
    ((start initial).performAll (before ++ step :: later)).value.2[before.length]? =
      some ((after initial before).perform step).value.2 := by
  rw [performAll_append]
  change (((start initial).performAll before).value.2 ++ _ :: _)[before.length]? = _
  rw [← length_replies (start initial) before, List.getElem?_append_right (Nat.le_refl _),
    Nat.sub_self]
  rfl

lemma compiled_concat (steps : List Step) (step : Step) :
    compiled (steps ++ [step]) = compiled steps ++ step.compiled?.toList := by
  rw [compiled, List.filterMap_append]
  cases h : step.compiled? <;> simp [compiled, h]

lemma lastCompiled_concat (initial : Router) (steps : List Step) (step : Step) :
    lastCompiled initial (steps ++ [step]) =
      step.compiled?.getD (lastCompiled initial steps) := by
  rw [lastCompiled, compiled_concat]
  cases step.compiled? <;> simp [lastCompiled]

/-- In effect is the router of the last table that compiled. -/
lemma current_after (initial : Router) (steps : List Step) :
    (after initial steps).current = lastCompiled initial steps := by
  induction steps using List.reverseRecOn with
  | nil => rfl
  | append_singleton steps step ih =>
    rw [after_concat, current_perform, lastCompiled_concat, ih]

lemma length_snapshots (initial : Router) (steps : List Step) :
    (after initial steps).snapshots.length = steps.countP Step.isSnapshot := by
  induction steps using List.reverseRecOn with
  | nil => rfl
  | append_singleton steps step ih =>
    rw [after_concat, snapshots_perform, List.countP_append, ← ih]
    cases step <;> rfl

/-- The log tells of exactly the tables that compiled, in order. -/
lemma swaps_performAll (s : SharedRouter) (steps : List Step) :
    (s.performAll steps).journal.swaps = (compiled steps).map Router.swapRecord := by
  induction steps using List.reverseRecOn with
  | nil => rfl
  | append_singleton steps step ih =>
    rw [journal_concat, Journal.swaps_append, ih, swaps_perform, compiled_concat, List.map_append]

/-! ## What a source stands for -/

lemma concat_eq_append_snapshot {steps before later : List Step} {step : Step} {name : String}
    (h : steps ++ [step] = before ++ .snapshot name :: later) :
    (before = steps ∧ step = .snapshot name ∧ later = []) ∨
      ∃ init, steps = before ++ .snapshot name :: init ∧ later = init ++ [step] := by
  rcases List.eq_nil_or_concat later with rfl | ⟨init, last, rfl⟩
  · obtain ⟨hbefore, hstep⟩ := List.append_inj' h rfl
    exact .inl ⟨hbefore.symm, List.singleton_inj.mp hstep, rfl⟩
  · rw [List.concat_eq_append, ← List.cons_append, ← List.append_assoc] at h
    obtain ⟨hsteps, hstep⟩ := List.append_inj' h rfl
    obtain rfl := List.singleton_inj.mp hstep
    exact .inr ⟨init, hsteps, List.concat_eq_append⟩

variable {initial : Router} {steps : List Step} {step : Step}

lemma standsFor_taken_nil {n : Nat} {router : Router} :
    ¬ (Source.taken n).StandsFor initial [] router := by
  intro h
  cases h with
  | taken hsteps => simp at hsteps

lemma standsFor_named_nil {name : String} {router : Router} :
    ¬ (Source.named name).StandsFor initial [] router := by
  intro h
  cases h with
  | named hsteps => simp at hsteps

lemma standsFor_taken_concat {n : Nat} {router : Router} :
    (Source.taken n).StandsFor initial (steps ++ [step]) router ↔
      (Source.taken n).StandsFor initial steps router ∨
        (step.isSnapshot ∧ n = steps.countP Step.isSnapshot ∧
          router = lastCompiled initial steps) := by
  constructor
  · intro h
    cases h with
    | taken hsteps =>
      rcases concat_eq_append_snapshot hsteps with ⟨rfl, rfl, rfl⟩ | ⟨init, rfl, rfl⟩
      · exact .inr ⟨rfl, rfl, rfl⟩
      · exact .inl (.taken rfl)
  · rintro (h | ⟨hsnapshot, rfl, rfl⟩)
    · cases h with
      | taken hsteps =>
        subst hsteps
        apply Source.StandsFor.taken
        rw [List.append_assoc, List.cons_append]
    · cases step with
      | snapshot name => exact .taken rfl
      | replace table => cases hsnapshot
      | ask source query => cases hsnapshot

/-- One more step matters for a name only if it takes a snapshot of that name. -/
lemma standsFor_named_concat {name : String} {router : Router} :
    (Source.named name).StandsFor initial (steps ++ [step]) router ↔
      (step = .snapshot name ∧ router = lastCompiled initial steps) ∨
        (step ≠ .snapshot name ∧ (Source.named name).StandsFor initial steps router) := by
  constructor
  · intro h
    cases h with
    | named hsteps hlatest =>
      rcases concat_eq_append_snapshot hsteps with ⟨rfl, hstep, rfl⟩ | ⟨init, rfl, rfl⟩
      · exact .inl ⟨hstep, rfl⟩
      · rw [List.mem_append, List.mem_singleton, not_or] at hlatest
        exact .inr ⟨Ne.symm hlatest.2, .named rfl hlatest.1⟩
  · rintro (⟨rfl, rfl⟩ | ⟨hstep, h⟩)
    · exact .named rfl List.not_mem_nil
    · cases h with
      | named hsteps hlatest =>
        subst hsteps
        apply Source.StandsFor.named
        · rw [List.append_assoc, List.cons_append]
        · rw [List.mem_append, List.mem_singleton, not_or]
          exact ⟨hlatest, Ne.symm hstep⟩

lemma router?_taken_after (initial : Router) (steps : List Step) (n : Nat) (router : Router) :
    (after initial steps).router? (.taken n) = some router ↔
      (Source.taken n).StandsFor initial steps router := by
  induction steps using List.reverseRecOn with
  | nil =>
    constructor
    · intro h
      cases h
    · intro h
      exact absurd h standsFor_taken_nil
  | append_singleton steps step ih =>
    rw [standsFor_taken_concat, ← ih, after_concat]
    cases step with
    | snapshot name =>
      rw [← length_snapshots initial, ← current_after]
      change ((after initial steps).takeSnapshot name).router? (.taken n) = some router ↔ _
      rw [router?_takeSnapshot_taken]
      simp [Step.isSnapshot]
    | replace table => simp [router?, snapshots_perform, Step.isSnapshot]
    | ask source query => simp [router?, snapshots_perform, Step.isSnapshot]

lemma router?_named_after (initial : Router) (steps : List Step) (name : String)
    (router : Router) :
    (after initial steps).router? (.named name) = some router ↔
      (Source.named name).StandsFor initial steps router := by
  induction steps using List.reverseRecOn with
  | nil =>
    constructor
    · intro h
      cases h
    · intro h
      exact absurd h standsFor_named_nil
  | append_singleton steps step ih =>
    rw [standsFor_named_concat, ← ih, after_concat]
    cases step with
    | snapshot taken =>
      rw [← current_after]
      change ((after initial steps).takeSnapshot taken).router? (.named name) = some router ↔ _
      rw [router?_takeSnapshot_named]
      simp only [ne_eq, Step.snapshot.injEq]
    | replace table => simp [router?, snapshot?, snapshots_perform]
    | ask source query => simp [router?, snapshot?, snapshots_perform]

/-- The routers that the steps leave behind are those that `Source.StandsFor` says. -/
theorem router?_after (initial : Router) (steps : List Step) (source : Source) (router : Router) :
    (after initial steps).router? source = some router ↔
      source.StandsFor initial steps router := by
  cases source with
  | inEffect =>
    rw [router?, current_after]
    constructor
    · intro h
      obtain rfl := Option.some.inj h
      exact .inEffect
    · intro h
      cases h with
      | inEffect => rfl
  | taken n => exact router?_taken_after initial steps n router
  | named name => exact router?_named_after initial steps name router

/-- Every question of a sequence of steps is answered by the router that its source stands for
where it is asked, whatever comes later: for a snapshot, the router of the last table that compiled
before it was taken.  A table that does not compile changes nothing.  The log tells of exactly the
tables that compiled, in order, each with its number of routes. -/
theorem snapshots_isolated (steps : List Step) :
    (∀ source router, (after Router.empty steps).router? source = some router ↔
      source.StandsFor Router.empty steps router) ∧
    (∀ before later source query, steps = before ++ .ask source query :: later →
      (∀ router, source.StandsFor Router.empty before router →
        ((start Router.empty).performAll steps).value.2[before.length]? =
          some (.answered (router.answer query).value)) ∧
      ((∀ router, ¬ source.StandsFor Router.empty before router) →
        ((start Router.empty).performAll steps).value.2[before.length]? = some .noSnapshot)) ∧
    (∀ before later table, steps = before ++ .replace table :: later →
      (∀ router, (Router.ofTable table).run.value = .ok router →
        ((start Router.empty).performAll steps).value.2[before.length]? =
          some (.replaced router.routeCount)) ∧
      ∀ fault, (Router.ofTable table).run.value = .error fault →
        ((start Router.empty).performAll steps).value.2[before.length]? = some (.refused fault) ∧
        after Router.empty (before ++ [.replace table]) = after Router.empty before ∧
        ((after Router.empty before).perform (.replace table)).journal.swaps = []) ∧
    ((start Router.empty).performAll steps).journal.swaps =
      (compiled steps).map Router.swapRecord := by
  refine ⟨router?_after _ _, ?_, ?_, swaps_performAll _ _⟩
  · rintro before later source query rfl
    rw [reply_eq, value_perform_ask]
    constructor
    · intro router hrouter
      rw [(router?_after _ _ _ _).mpr hrouter]
    · intro hnone
      have hrouter : (after Router.empty before).router? source = none := by
        rw [Option.eq_none_iff_forall_ne_some]
        intro router hrouter
        exact hnone router ((router?_after _ _ _ _).mp hrouter)
      rw [hrouter]
  · rintro before later table rfl
    rw [reply_eq, value_perform_replace, after_concat, value_perform_replace]
    constructor
    · intro router hrouter
      rw [hrouter]
    · intro fault hfault
      rw [hfault]
      refine ⟨rfl, rfl, ?_⟩
      rw [swaps_perform, Step.compiled?, hfault]
      rfl

end SharedRouter

end UriRouting
