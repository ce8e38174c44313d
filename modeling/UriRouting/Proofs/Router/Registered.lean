import Mathlib.Tactic
import UriRouting.Proofs.Router.SearchOrder
import UriRouting.Router.Builder
import UriRouting.Router.OfTable

/-!
# Trees that can be built

A tree is registered if a table describes it or a sequence of steps of a builder leads to it.  In
such a tree every template has been compiled, those of routers for the beginning of a path and those
of routes for all of it, and the full template of a route is made up of all templates on the way
down to it (`Registered.coherent`).

Routers keep the templates around them as text only.  So coherence is said of a router together with
the text of what is around it, and each step of a builder preserves it at every level.
-/

namespace UriRouting

/-! ## Registered trees -/

/-- Builders that a sequence of steps leads to. -/
inductive Builder.Reachable : Builder → Prop
  | start : Reachable Builder.start
  | enter {b inner : Builder} {mount : String} (hb : Reachable b)
      (h : (b.enter mount).run.value = .ok inner) : Reachable inner
  | leave {b outer : Builder} (hb : Reachable b) (h : b.leave? = some outer) : Reachable outer
  | addRoute {b next : Builder} {template target : String} {names : List String} {route : Route}
      (hb : Reachable b) (h : (b.addRoute template target names).run.value = .ok (next, route)) :
      Reachable next

/-- Trees that have been built, by steps of a builder or from a table. -/
inductive Router.Registered : Router → Prop
  | ofBuilder {b : Builder} (h : b.Reachable) : Registered b.root
  | ofTable {table : Table} {r : Router} (h : (Router.ofTable table).run.value = .ok r) :
      Registered r

/-- What can be asked of a builder. -/
inductive Builder.Step
  | enter (mount : String)
  | leave
  | addRoute (template target : String) (names : List String)

/-- The builder after a step; a step that fails leaves everything as it is. -/
def Builder.after (b : Builder) : Builder.Step → Builder
  | .enter mount => (b.enter mount).run.value.toOption.getD b
  | .leave => b.leave?.getD b
  | .addRoute template target names =>
    ((b.addRoute template target names).run.value.toOption.map Prod.fst).getD b

lemma Builder.Reachable.after {b : Builder} (hb : b.Reachable) (step : Builder.Step) :
    (b.after step).Reachable := by
  cases step with
  | enter mount =>
    rw [Builder.after]
    cases h : (b.enter mount).run.value with
    | error fault => exact hb
    | ok inner => exact hb.enter h
  | leave =>
    rw [Builder.after]
    cases h : b.leave? with
    | none => exact hb
    | some outer => exact hb.leave h
  | addRoute template target names =>
    rw [Builder.after]
    cases h : (b.addRoute template target names).run.value with
    | error fault => exact hb
    | ok next => exact hb.addRoute h

/-- Whatever steps are asked for, successful or not, the tree that they leave is registered. -/
theorem Router.registered_of_steps (steps : List Builder.Step) :
    (steps.foldl Builder.after Builder.start).root.Registered := by
  have hreachable (b : Builder) (hb : b.Reachable) : (steps.foldl Builder.after b).Reachable := by
    induction steps generalizing b with
    | nil => exact hb
    | cons step steps ih => exact ih (b.after step) (hb.after step)
  exact .ofBuilder (hreachable Builder.start .start)

/-! ## Coherence -/

/-- The template has been compiled to this. -/
def Matchable.IsCompiled (m : Matchable) (anchoring : Anchoring) : Prop :=
  (Matchable.compile m.template anchoring).run.value = .ok m

lemma Matchable.isCompiled_of_compile {template : String} {anchoring : Anchoring} {m : Matchable}
    (h : (Matchable.compile template anchoring).run.value = .ok m) :
    m.template = template ∧ m.IsCompiled anchoring := by
  obtain ⟨_, _, _, _, _, _, htemplate, _⟩ := Matchable.compile_eq_ok h
  exact ⟨htemplate, by rw [IsCompiled, htemplate, h]⟩

/-- The text of several templates one after the other. -/
def Entry.templates (e : Entry) : String := String.join (e.chain.map Matchable.template)

/-- The templates of the entry have been compiled, and with what is around them they make up the
full template of its route. -/
structure Entry.Coherent (outer : String) (e : Entry) : Prop where
  mounts : ∀ m ∈ e.mounts, m.IsCompiled .leading
  route : e.route.matchable.IsCompiled .full
  fullTemplate : e.route.fullTemplate = outer ++ e.templates

/-- Everything in the router is coherent, where `outer` is the text of the templates around it. -/
structure Router.Coherent (outer : String) (r : Router) : Prop where
  mount : ∀ m ∈ r.mount, m.IsCompiled .leading
  fullMount : r.fullMount = outer ++ String.join (r.mount.toList.map Matchable.template)
  entries : ∀ e ∈ r.searchOrder, e.Coherent outer

lemma Entry.Coherent.under {outer full : String} {mount : Option Matchable} {e : Entry}
    (hmount : ∀ m ∈ mount, m.IsCompiled .leading)
    (hfull : full = outer ++ String.join (mount.toList.map Matchable.template))
    (h : e.Coherent full) : (e.under mount).Coherent outer where
  mounts m hm := by
    rcases List.mem_append.mp hm with hm | hm
    · exact hmount m (by simpa using hm)
    · exact h.mounts m hm
  route := h.route
  fullTemplate := by
    have htemplates : (e.under mount).templates =
        String.join (mount.toList.map Matchable.template) ++ e.templates := by
      simp [Entry.templates, Entry.chain, Entry.under]
    rw [htemplates, ← String.append_assoc, ← hfull]
    exact h.fullTemplate

namespace Router

lemma searchOrderOf_append (first second : List Router) :
    searchOrderOf (first ++ second) = searchOrderOf first ++ searchOrderOf second := by
  induction first with
  | nil => rfl
  | cons r first ih => simp [searchOrderOf, ih]

lemma coherent_empty : empty.Coherent "" where
  mount m hm := by cases hm
  fullMount := rfl
  entries e he := by simp [empty, searchOrder, searchOrderOf] at he

lemma coherent_child {mount : String} {r inner : Router}
    (h : (r.child mount).run.value = .ok inner) : inner.Coherent r.fullMount := by
  obtain ⟨m, hm, h⟩ := Attempt.value_bind_eq_ok.mp h
  obtain rfl := Except.ok.inj h
  obtain ⟨htemplate, hcompiled⟩ := Matchable.isCompiled_of_compile hm
  refine ⟨?_, ?_, ?_⟩
  · simpa using hcompiled
  · simp [htemplate]
  · simp [searchOrder, searchOrderOf]

lemma mem_searchOrder_addRouter {r inner : Router} {e : Entry}
    (h : e ∈ (r.addRouter inner).searchOrder) :
    e ∈ r.searchOrder ∨ ∃ below ∈ inner.searchOrder, e = below.under r.mount := by
  obtain ⟨mount, fullMount, routers, routes⟩ := r
  simp only [addRouter, searchOrder, searchOrderOf_append, searchOrderOf, List.append_nil,
    List.map_append, List.mem_append] at h ⊢
  rcases h with (h | h) | h
  · exact .inl (.inl h)
  · obtain ⟨below, hbelow, rfl⟩ := List.mem_map.mp h
    exact .inr ⟨below, hbelow, rfl⟩
  · exact .inl (.inr h)

lemma searchOrder_addRoute (r : Router) (route : Route) :
    (r.addRoute route).searchOrder = r.searchOrder ++ [(Entry.mk [] route).under r.mount] := by
  obtain ⟨mount, fullMount, routers, routes⟩ := r
  simp [addRoute, searchOrder]

section Step

variable {outer : String} {r : Router} (hr : r.Coherent outer)
include hr

lemma Coherent.addRouter {inner : Router} (hinner : inner.Coherent r.fullMount) :
    (r.addRouter inner).Coherent outer where
  mount := hr.mount
  fullMount := hr.fullMount
  entries e he := by
    rcases mem_searchOrder_addRouter he with he | ⟨below, hbelow, rfl⟩
    · exact hr.entries e he
    · exact (hinner.entries below hbelow).under hr.mount hr.fullMount

lemma Coherent.addRoute {template target : String} {leaf route : Route}
    (hleaf : (r.leaf template target).run.value = .ok leaf)
    (hroute : route.matchable = leaf.matchable ∧ route.fullTemplate = leaf.fullTemplate) :
    (r.addRoute route).Coherent outer where
  mount := hr.mount
  fullMount := hr.fullMount
  entries e he := by
    rw [searchOrder_addRoute, List.mem_append, List.mem_singleton] at he
    rcases he with he | rfl
    · exact hr.entries e he
    · obtain ⟨m, hm, h⟩ := Attempt.value_bind_eq_ok.mp hleaf
      obtain rfl := Except.ok.inj h
      obtain ⟨htemplate, hcompiled⟩ := Matchable.isCompiled_of_compile hm
      have hown : (Entry.mk [] route).Coherent r.fullMount := by
        refine ⟨by simp, ?_, ?_⟩
        · simpa [hroute.1] using hcompiled
        · simp [Entry.templates, Entry.chain, hroute.1, hroute.2, htemplate]
      exact hown.under hr.mount hr.fullMount

end Step

end Router

/-! ## Builders -/

namespace Builder

/-- A router and those around it are coherent, each with the text of those around it. -/
def CoherentAt : Router → List Router → Prop
  | here, [] => here.Coherent ""
  | here, outer :: rest => here.Coherent outer.fullMount ∧ CoherentAt outer rest

lemma CoherentAt.imp {here next : Router} {around : List Router} (h : CoherentAt here around)
    (hnext : ∀ outer, here.Coherent outer → next.Coherent outer) : CoherentAt next around := by
  cases around with
  | nil => exact hnext "" h
  | cons outer rest => exact ⟨hnext outer.fullMount h.1, h.2⟩

/-- Going back to the router around keeps everything coherent. -/
lemma CoherentAt.leave {here outer : Router} {rest : List Router}
    (h : CoherentAt here (outer :: rest)) : CoherentAt (outer.addRouter here) rest :=
  h.2.imp fun _ houter => houter.addRouter h.1

lemma CoherentAt.root {here : Router} {around : List Router} (h : CoherentAt here around) :
    (Builder.mk here around).root.Coherent "" := by
  induction around generalizing here with
  | nil => exact h
  | cons outer rest ih => exact ih h.leave

lemma named_foldl (route : Route) (names : List String) :
    (names.foldl Route.named route).matchable = route.matchable ∧
      (names.foldl Route.named route).fullTemplate = route.fullTemplate := by
  induction names generalizing route with
  | nil => exact ⟨rfl, rfl⟩
  | cons name names ih => exact ih (route.named name)

/-- Every step of a builder keeps all routers of its tree coherent. -/
theorem Reachable.coherentAt {b : Builder} (h : b.Reachable) : CoherentAt b.here b.around := by
  induction h with
  | start => exact Router.coherent_empty
  | enter _ h ih =>
    obtain ⟨inner, hinner, h⟩ := Attempt.value_bind_eq_ok.mp h
    obtain rfl := Except.ok.inj h
    exact ⟨Router.coherent_child hinner, ih⟩
  | @leave b outer _ h ih =>
    obtain ⟨here, around⟩ := b
    cases around with
    | nil => cases h
    | cons _ rest =>
      obtain rfl := Option.some.inj h
      exact ih.leave
  | @addRoute b next template target names route _ h ih =>
    obtain ⟨leaf, hleaf, h⟩ := Attempt.value_bind_eq_ok.mp h
    obtain ⟨rfl, rfl⟩ := Prod.mk.inj (Except.ok.inj h)
    exact ih.imp fun _ hhere => hhere.addRoute hleaf (named_foldl leaf names)

end Builder

/-! ## Tables -/

namespace Router

lemma nameRoute_eq_ok {route named : Route} {name : Option String} {names names' : List String}
    (h : nameRoute route name names = .ok (named, names')) :
    named.matchable = route.matchable ∧ named.fullTemplate = route.fullTemplate := by
  unfold nameRoute at h
  split at h
  · obtain ⟨rfl, _⟩ := Prod.mk.inj (Except.ok.inj h)
    exact ⟨rfl, rfl⟩
  · split at h
    · cases h
    · obtain ⟨rfl, _⟩ := Prod.mk.inj (Except.ok.inj h)
      exact ⟨rfl, rfl⟩

lemma coherent_registerRoutes {outer : String} {entries : List RouteEntry} {r r' : Router}
    {names names' : List String} (hr : r.Coherent outer)
    (h : (registerRoutes entries r names).run.value = .ok (r', names')) : r'.Coherent outer := by
  induction entries generalizing r names with
  | nil =>
    obtain ⟨rfl, _⟩ := Prod.mk.inj (Except.ok.inj h)
    exact hr
  | cons entry rest ih =>
    rw [registerRoutes] at h
    obtain ⟨leaf, hleaf, h⟩ := Attempt.value_bind_eq_ok.mp h
    rw [Attempt.value_adapt, Attempt.mapError_eq_ok] at hleaf
    obtain ⟨⟨route, _⟩, hroute, h⟩ := Attempt.value_bind_eq_ok.mp h
    exact ih (hr.addRoute hleaf (nameRoute_eq_ok hroute)) h

mutual

/-- The router of an entry is coherent where it is to be mounted. -/
theorem coherent_registerRouter (entry : RouterEntry) {parent r : Router}
    {names names' : List String}
    (h : (registerRouter entry parent names).run.value = .ok (r, names')) :
    r.Coherent parent.fullMount := by
  match entry with
  | ⟨mount, routes, routers⟩ =>
    rw [registerRouter] at h
    obtain ⟨inner, hinner, h⟩ := Attempt.value_bind_eq_ok.mp h
    rw [Attempt.value_adapt, Attempt.mapError_eq_ok] at hinner
    obtain ⟨⟨filled, _⟩, hfilled, h⟩ := Attempt.value_bind_eq_ok.mp h
    exact coherent_registerRoutes
      (coherent_registerRouters routers (coherent_child hinner) hfilled) h

/-- Mounting the routers of entries keeps a router coherent. -/
theorem coherent_registerRouters (entries : List RouterEntry) {outer : String} {r r' : Router}
    {names names' : List String} (hr : r.Coherent outer)
    (h : (registerRouters entries r names).run.value = .ok (r', names')) : r'.Coherent outer := by
  match entries with
  | [] =>
    rw [registerRouters] at h
    obtain ⟨rfl, _⟩ := Prod.mk.inj (Except.ok.inj h)
    exact hr
  | entry :: rest =>
    rw [registerRouters] at h
    obtain ⟨⟨inner, _⟩, hinner, h⟩ := Attempt.value_bind_eq_ok.mp h
    exact coherent_registerRouters rest (hr.addRouter (coherent_registerRouter entry hinner)) h

end

theorem Registered.coherent {r : Router} (h : r.Registered) : r.Coherent "" := by
  cases h with
  | ofBuilder h => exact h.coherentAt.root
  | ofTable h =>
    obtain ⟨⟨filled, _⟩, hfilled, h⟩ := Attempt.value_bind_eq_ok.mp h
    obtain ⟨⟨whole, _⟩, hwhole, h⟩ := Attempt.value_bind_eq_ok.mp h
    obtain ⟨_, _, h⟩ := Attempt.value_bind_eq_ok.mp h
    obtain rfl := Except.ok.inj h
    exact coherent_registerRoutes (coherent_registerRouters _ coherent_empty hfilled) hwhole

section Entries

variable {r : Router} (hr : r.Registered) {e : Entry} (he : e ∈ r.searchOrder)
include hr he

/-- The full template of a route is all templates on the way down to it, one after the other. -/
lemma Registered.fullTemplate_eq : e.route.fullTemplate = e.templates := by
  rw [(hr.coherent.entries e he).fullTemplate, String.empty_append]

/-- The templates on the way down to a route have been compiled. -/
lemma Registered.isCompiled : ∀ m ∈ e.chain, ∃ anchoring, m.IsCompiled anchoring := by
  have hcoherent := hr.coherent.entries e he
  intro m hm
  rcases List.mem_append.mp hm with hm | hm
  · exact ⟨_, hcoherent.mounts m hm⟩
  · obtain rfl := List.mem_singleton.mp hm
    exact ⟨_, hcoherent.route⟩

end Entries

end Router

end UriRouting
