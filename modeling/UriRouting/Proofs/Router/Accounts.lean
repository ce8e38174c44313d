import Mathlib.Tactic
import UriRouting.Proofs.Live.Snapshots
import UriRouting.Proofs.Router.Places

/-!
# The counters keep account of a tree

A tree is built by hand and asked in between: a step mounts a router or adds a route somewhere in
the tree (`Act.register`), and anything may be asked of a router anywhere in it or of a template.
Whether a step succeeds shows in its reply.

What moves the counters can be read off the replies alone (`Reply.counter?`): each reply stands for
one move of one counter or for none, and a tree grows where something was added.  This holds of one
act (`accounted_act`), accounts of two runs make up one of both (`Accounted.append`), and so every
run is accounted for (`accounted_actAll`).  What a counter has moved is then a count of replies.
-/

namespace UriRouting

/-! ## Counters -/

namespace Journal

/-- The counter of the lookups that found a route. -/
def hits : String := "routebind_matches_total\x7boutcome=hit\x7d"

/-- The counter of the lookups that found none. -/
def misses : String := "routebind_matches_total\x7boutcome=miss\x7d"

/-- Does the counter belong to those of templates that did not compile, of whatever kind? -/
def isPatternError (counter : String) : Bool :=
  "routebind_pattern_errors_total\x7b".toList.isPrefixOf counter.toList

/-- How far the counters of templates that did not compile have moved together. -/
def patternErrorGrowth (journal : Journal) : Nat :=
  ((journal.counters.filter fun moved => isPatternError moved.1).map Prod.snd).sum

lemma isPatternError_patternErrors (kind : String) : isPatternError (patternErrors kind) := by
  have hfamily : "routebind_pattern_errors_total\x7b".toList <+:
      "routebind_pattern_errors_total\x7bkind=".toList := by
    decide +kernel
  have hkind : (patternErrors kind).toList =
      "routebind_pattern_errors_total\x7bkind=".toList ++ (kind ++ "\x7d").toList := by
    rw [← String.toList_append, ← String.append_assoc]
    rfl
  rw [isPatternError, List.isPrefixOf_iff_prefix, hkind]
  exact hfamily.trans (List.prefix_append _ _)

lemma nodup_eraseDups (names : List String) : names.eraseDups.Nodup := by
  cases names with
  | nil => simp
  | cons name names =>
    rw [List.eraseDups_cons, List.nodup_cons]
    constructor
    · simp [List.mem_eraseDups]
    · exact nodup_eraseDups _
termination_by names.length
decreasing_by exact Nat.lt_succ_of_le (List.length_filter_le _ _)

lemma patternErrorGrowth_eq_countP (journal : Journal) :
    journal.patternErrorGrowth = journal.moves.countP isPatternError := by
  have hperm : journal.moves.eraseDups.Perm journal.moves.dedup := by
    rw [List.perm_ext_iff_of_nodup (nodup_eraseDups _) (List.nodup_dedup _)]
    simp [List.mem_eraseDups]
  rw [← List.sum_map_count_dedup_filter_eq_countP,
    ← ((hperm.filter _).map journal.moves.count).sum_eq, patternErrorGrowth, counters,
    List.filter_map, List.map_map]
  rfl

end Journal

/-! ## The size of a tree -/

namespace Router

mutual

/-- The number of routers in a router, however deep. -/
def subrouterCount : Router → Nat
  | ⟨_, _, routers, _⟩ => subrouterCountOf routers

/-- The number of several routers and of those in them. -/
def subrouterCountOf : List Router → Nat
  | [] => 0
  | r :: rest => r.subrouterCount + 1 + subrouterCountOf rest

end

/-- The number of routers and routes in a tree. -/
def templateCount (r : Router) : Nat := r.subrouterCount + r.routeCount

lemma subrouterCountOf_append (first second : List Router) :
    subrouterCountOf (first ++ second) = subrouterCountOf first + subrouterCountOf second := by
  induction first with
  | nil => simp [subrouterCountOf]
  | cons r first ih => simp [subrouterCountOf, ih, Nat.add_assoc]

lemma routeCountOf_append (first second : List Router) :
    routeCountOf (first ++ second) = routeCountOf first + routeCountOf second := by
  induction first with
  | nil => simp [routeCountOf]
  | cons r first ih => simp [routeCountOf, ih, Nat.add_assoc]

lemma templateCount_addRouter (r : Router) (mount : Option Matchable) (fullMount : String) :
    (r.addRouter ⟨mount, fullMount, [], []⟩).templateCount = r.templateCount + 1 := by
  obtain ⟨_, _, routers, routes⟩ := r
  simp only [addRouter, templateCount, subrouterCount, routeCount, subrouterCountOf_append,
    routeCountOf_append, subrouterCountOf, routeCountOf, List.length_nil]
  omega

lemma templateCount_addRoute (r : Router) (route : Route) :
    (r.addRoute route).templateCount = r.templateCount + 1 := by
  obtain ⟨_, _, routers, routes⟩ := r
  simp only [addRoute, templateCount, subrouterCount, routeCount, List.length_append,
    List.length_singleton]
  omega

/-- A tree grows by as much as the router at a place does. -/
lemma templateCount_modifyAt {r node : Router} {place : List Nat} (h : r.at? place = some node)
    (f : Router → Router) :
    (r.modifyAt f place).templateCount + node.templateCount =
      r.templateCount + (f node).templateCount := by
  induction place generalizing r with
  | nil =>
    obtain rfl := Option.some.inj h
    exact Nat.add_comm _ _
  | cons i place ih =>
    obtain ⟨before, inner, after, hrouters, hnode, -, hmodify⟩ := exists_of_at?_cons h
    obtain ⟨_, _, routers, routes⟩ := r
    obtain rfl : routers = before ++ inner :: after := hrouters
    have hinner := ih hnode
    rw [hmodify]
    simp only [templateCount, subrouterCount, routeCount, subrouterCountOf_append,
      routeCountOf_append, subrouterCountOf, routeCountOf] at hinner ⊢
    omega

/-! ## One step -/

/-- A step compiles its template and notes nothing else. -/
lemma journal_register (r : Router) (step : Registration) :
    (r.register step).journal =
      (Matchable.compile step.template step.anchoring).run.journal := by
  rw [register_eq, map_eq_pure_bind, Recorded.journal_bind, Recorded.journal_pure, List.append_nil]

lemma templateCount_addTo (step : Registration) (r : Router) (m : Matchable) :
    (step.addTo r m).templateCount = r.templateCount + 1 := by
  cases step with
  | mount template => exact templateCount_addRouter r _ _
  | route entry => exact templateCount_addRoute r _

/-- A step moves one counter, whether it succeeds or not. -/
lemma moves_register (r : Router) (step : Registration) :
    (r.register step).journal.moves =
      [match (r.register step).value.1 with
        | .ok _ => Journal.patternsCompiled
        | .error fault => Journal.patternErrors fault.kind] := by
  rw [journal_register, Matchable.moves_compile, value_register, Registration.compiled]
  cases (Matchable.compile step.template step.anchoring).run.value <;> rfl

/-! ## Acts and replies -/

/-- Something that is done with a tree while it is built. -/
inductive Act
  /-- Mounts a router or adds a route at a place. -/
  | register (place : List Nat) (step : Registration)
  /-- Asks the router at a place. -/
  | ask (place : List Nat) (query : Query)
  | captures (m : Matchable) (path : String)
  | isMatch (m : Matchable) (path : String)
  /-- Fills a template: that of a route with those around it, or a compiled one. -/
  | buildUri (template : String) (values : List String)

/-- What comes of it. -/
inductive Reply
  | added
  | refused (fault : TemplateFault)
  | answered (answer : Answer)
  | captured (hit? : Option PathMatch)
  | matched (found : Bool)
  | built (result : Except RouteFault String)
  /-- There is no router at the place. -/
  | nowhere

/-- An act that neither adds something nor looks a path up in the tree. -/
def Act.isReadOnly : Act → Bool
  | register _ _ => false
  | ask _ (.find _) => false
  | _ => true

namespace Reply

/-- A router or a route was added. -/
@[simp]
def isAdded : Reply → Bool
  | added => true
  | _ => false

/-- A registration failed. -/
@[simp]
def isRefused : Reply → Bool
  | refused _ => true
  | _ => false

/-- A path was looked up, and there is a route. -/
@[simp]
def isHit : Reply → Bool
  | answered (.found (some _)) => true
  | _ => false

/-- A path was looked up, and there is no route. -/
@[simp]
def isMiss : Reply → Bool
  | answered (.found none) => true
  | _ => false

/-- The counter that moves where this is the reply. -/
@[simp]
def counter? : Reply → Option String
  | added => some Journal.patternsCompiled
  | refused fault => some (Journal.patternErrors fault.kind)
  | answered (.found (some _)) => some Journal.hits
  | answered (.found none) => some Journal.misses
  | _ => none

end Reply

/-- Does something with a tree. -/
def act (r : Router) : Act → Recorded (Router × Reply)
  | .register place step =>
    match r.at? place with
    | none => return (r, .nowhere)
    | some node => do
      let (result, next) ← node.register step
      return (r.modifyAt (fun _ => next) place, match result with
        | .ok () => .added
        | .error fault => .refused fault)
  | .ask place query =>
    match r.at? place with
    | none => return (r, .nowhere)
    | some node => do return (r, .answered (← node.answer query))
  | .captures m path => return (r, .captured (m.captures path))
  | .isMatch m path => return (r, .matched (m.isMatch path))
  | .buildUri template values => return (r, .built (UriRouting.buildUri template values))

/-- Does one thing after the other. -/
def actAll (r : Router) : List Act → Recorded (Router × List Reply)
  | [] => return (r, [])
  | a :: rest => do
    let (next, reply) ← r.act a
    let (last, replies) ← next.actAll rest
    return (last, reply :: replies)

/-! ## Accounts -/

/-- Between two states of a tree the counters have moved as the replies say, and the tree has grown
by what was added. -/
structure Accounted (before after : Router) (replies : List Reply) (journal : Journal) : Prop where
  moves : journal.moves = replies.filterMap Reply.counter?
  size : after.templateCount = before.templateCount + replies.countP Reply.isAdded

namespace Accounted

lemma nil (r : Router) : Accounted r r [] [] where
  moves := rfl
  size := rfl

lemma append {first second third : Router} {replies others : List Reply} {journal later : Journal}
    (h : Accounted first second replies journal) (hlater : Accounted second third others later) :
    Accounted first third (replies ++ others) (journal ++ later) where
  moves := by rw [Journal.moves_append, h.moves, hlater.moves, List.filterMap_append]
  size := by rw [hlater.size, h.size, List.countP_append, Nat.add_assoc]

end Accounted

lemma accounted_register (r : Router) (place : List Nat) (step : Registration) :
    Accounted r (r.act (.register place step)).value.1 [(r.act (.register place step)).value.2]
      (r.act (.register place step)).journal := by
  rw [act]
  cases hnode : r.at? place with
  | none => exact ⟨rfl, rfl⟩
  | some node =>
    have hmoves := node.moves_register step
    simp only [Recorded.value_bind, Recorded.journal_bind, Recorded.value_pure,
      Recorded.journal_pure, List.append_nil]
    rw [value_register] at hmoves ⊢
    cases hstep : step.compiled with
    | error fault =>
      rw [hstep] at hmoves
      exact ⟨hmoves, congrArg templateCount (modifyAt_of_eq hnode rfl)⟩
    | ok m =>
      rw [hstep] at hmoves
      refine ⟨hmoves, ?_⟩
      have hsize := templateCount_modifyAt hnode fun _ => step.addTo node m
      rw [templateCount_addTo] at hsize
      change (r.modifyAt (fun _ => step.addTo node m) place).templateCount = r.templateCount + 1
      omega

/-- Of all questions only that for a path moves a counter. -/
lemma moves_answer (r : Router) (query : Query) :
    (r.answer query).journal.moves = (Reply.answered (r.answer query).value).counter?.toList := by
  cases query with
  | find path =>
    change Journal.moves [lookupOutcome path (r.lookup path)] =
      (Reply.answered (.found (r.lookup path))).counter?.toList
    cases r.lookup path <;> rfl
  | _ => rfl

lemma accounted_act (r : Router) (a : Act) :
    Accounted r (r.act a).value.1 [(r.act a).value.2] (r.act a).journal := by
  cases a with
  | register place step => exact accounted_register r place step
  | ask place query =>
    rw [act]
    cases r.at? place with
    | none => exact ⟨rfl, rfl⟩
    | some node =>
      have hmoves := moves_answer node query
      simp only [Recorded.value_bind, Recorded.journal_bind, Recorded.value_pure,
        Recorded.journal_pure, List.append_nil]
      refine ⟨?_, rfl⟩
      rw [hmoves, List.filterMap_cons, List.filterMap_nil]
      cases (Reply.answered (node.answer query).value).counter? <;> rfl
  | _ => exact ⟨rfl, rfl⟩

/-- Every run is accounted for: `accounted_act` holds of each act, and `Accounted.append` joins the
accounts. -/
lemma accounted_actAll (r : Router) (acts : List Act) :
    Accounted r (r.actAll acts).value.1 (r.actAll acts).value.2 (r.actAll acts).journal := by
  induction acts generalizing r with
  | nil => exact .nil r
  | cons a rest ih =>
    have hrest := (accounted_act r a).append (ih (r.act a).value.1)
    simp only [actAll, Recorded.value_bind, Recorded.journal_bind, Recorded.value_pure,
      Recorded.journal_pure, List.append_nil]
    exact hrest

lemma counter?_spec (reply : Reply) :
    (reply.counter? = some Journal.patternsCompiled ↔ reply.isAdded) ∧
    ((reply.counter?.map Journal.isPatternError).getD false = reply.isRefused) ∧
    (reply.counter? = some Journal.hits ↔ reply.isHit) ∧
    (reply.counter? = some Journal.misses ↔ reply.isMiss) := by
  cases reply with
  | added => decide +kernel
  | refused fault =>
    have hhits : Journal.patternErrors fault.kind ≠ Journal.hits :=
      Journal.patternErrors_ne (by decide +kernel) _
    have hmisses : Journal.patternErrors fault.kind ≠ Journal.misses :=
      Journal.patternErrors_ne (by decide +kernel) _
    simp [hhits, hmisses, Journal.patternErrors_ne_patternsCompiled,
      Journal.isPatternError_patternErrors]
  | answered answer =>
    cases answer with
    | found found? =>
      have hdistinct : Journal.hits ≠ Journal.patternsCompiled ∧
          Journal.misses ≠ Journal.patternsCompiled ∧ Journal.hits ≠ Journal.misses ∧
          Journal.isPatternError Journal.hits = false ∧
          Journal.isPatternError Journal.misses = false := by
        decide +kernel
      obtain ⟨hhits, hmisses, hne, hhit, hmiss⟩ := hdistinct
      cases found? <;> simp [hhits, hmisses, hne, hne.symm, hhit, hmiss]
    | _ => simp
  | _ => simp

/-- The growth of a counter is the number of the replies that stand for it. -/
lemma Accounted.growth {before after : Router} {replies : List Reply} {journal : Journal}
    (h : Accounted before after replies journal) {counter : String} {stands : Reply → Bool}
    (hstands : ∀ reply : Reply, reply.counter? = some counter ↔ stands reply) :
    journal.growth counter = replies.countP stands := by
  rw [Journal.growth_eq_count, h.moves, List.count, List.countP_filterMap]
  refine List.countP_congr fun reply _ => ?_
  rw [← hstands]
  cases reply.counter? <;> simp

/-- Whatever is added to a tree and asked in between, the counters keep account of it.  The tree has
grown by as many routers and routes as templates were counted as compiled; the counters of faults
together have moved once for each step that failed, and those of lookups once for each path that was
looked up from any router, by whether there was a route.  Whatever else is asked moves no counter,
and leaves the tree as it is. -/
theorem growth_actAll (r : Router) (acts : List Act) :
    ((r.actAll acts).value.1.templateCount =
      r.templateCount + (r.actAll acts).journal.growth Journal.patternsCompiled) ∧
    ((r.actAll acts).journal.patternErrorGrowth =
      (r.actAll acts).value.2.countP Reply.isRefused) ∧
    ((r.actAll acts).journal.growth Journal.hits = (r.actAll acts).value.2.countP Reply.isHit) ∧
    ((r.actAll acts).journal.growth Journal.misses =
      (r.actAll acts).value.2.countP Reply.isMiss) ∧
    ∀ (tree : Router) (a : Act), a.isReadOnly →
      (tree.act a).value.1 = tree ∧ ∀ counter, (tree.act a).journal.growth counter = 0 := by
  have haccounted := accounted_actAll r acts
  refine ⟨?_, ?_, ?_, ?_, ?_⟩
  · rw [haccounted.size, haccounted.growth fun reply => (counter?_spec reply).1]
  · rw [Journal.patternErrorGrowth_eq_countP, haccounted.moves, List.countP_filterMap]
    exact List.countP_congr fun reply _ => by rw [(counter?_spec reply).2.1]
  · exact haccounted.growth fun reply => (counter?_spec reply).2.2.1
  · exact haccounted.growth fun reply => (counter?_spec reply).2.2.2
  · intro tree a hreadOnly
    cases a with
    | register place step => cases hreadOnly
    | ask place query =>
      rw [act]
      cases tree.at? place with
      | none => exact ⟨rfl, fun _ => rfl⟩
      | some node =>
        cases query with
        | find path => cases hreadOnly
        | _ => exact ⟨rfl, fun _ => rfl⟩
    | _ => exact ⟨rfl, fun _ => rfl⟩

/-- A router is mounted, a route is added in it and another one is not; then a path is looked up
from the root, and another one from the router inside. -/
def fiveActs : List Act :=
  [.register [] (.mount "/a"), .register [0] (.route ⟨none, "/\x7bid\x7d", "t"⟩),
    .register [0] (.route ⟨none, "/\x7b", "t"⟩), .ask [] (.find "/a/1"), .ask [0] (.find "/b")]

/-- Of three steps one fails, and of two lookups one finds a route. -/
theorem growth_actAll_fiveActs :
    (empty.actAll fiveActs).value.1.templateCount = 2 ∧
    (empty.actAll fiveActs).journal.growth Journal.patternsCompiled = 2 ∧
    (empty.actAll fiveActs).journal.patternErrorGrowth = 1 ∧
    (empty.actAll fiveActs).journal.growth Journal.hits = 1 ∧
    (empty.actAll fiveActs).journal.growth Journal.misses = 1 ∧
    (Act.ask [0] (.url "t" [])).isReadOnly ∧
    ∀ counter,
      ((empty.actAll fiveActs).value.1.act (.ask [0] (.url "t" []))).journal.growth counter =
        0 := by
  obtain ⟨hsize, hrefused, hhits, hmisses, hreadOnly⟩ := growth_actAll empty fiveActs
  have hrun : (empty.actAll fiveActs).value.1.templateCount = 2 ∧ empty.templateCount = 0 ∧
      (empty.actAll fiveActs).value.2.countP Reply.isRefused = 1 ∧
      (empty.actAll fiveActs).value.2.countP Reply.isHit = 1 ∧
      (empty.actAll fiveActs).value.2.countP Reply.isMiss = 1 := by
    decide +kernel
  obtain ⟨hgrown, hempty, hone, hhit, hmiss⟩ := hrun
  refine ⟨hgrown, by omega, hrefused.trans hone, hhits.trans hhit, hmisses.trans hmiss, rfl, ?_⟩
  exact (hreadOnly (empty.actAll fiveActs).value.1 (.ask [0] (.url "t" [])) rfl).2

end Router

end UriRouting
