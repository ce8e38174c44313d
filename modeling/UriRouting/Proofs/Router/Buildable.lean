import Mathlib.Tactic
import UriRouting.Proofs.Router.Places
import UriRouting.Proofs.Table.Described

/-!
# Which trees can be built

Whether a tree has been built by steps of a builder, or from a table, can be seen from the tree: at
every level the templates are compiled ones and the texts that routers and routes keep are those of
the templates around them (`Router.WellBuilt`).  A tree with these properties can be built, by going
through it and asking for each of its routers and routes again (`Router.registered_iff`).

So a tree that has been rearranged is one that could have been built in the first place if only it
is well-built where it was touched (`Router.WellBuilt.modifyAt`).
-/

namespace UriRouting

/-- The route has been compiled in a router where `full` is the text of the templates down to it. -/
structure Route.StandsIn (full : String) (route : Route) : Prop where
  compiled : route.matchable.IsCompiled .full
  fullTemplate : route.fullTemplate = full ++ route.matchable.template

/-- The router and all in it have been compiled where they stand; `outer` is the text of the
templates around the router.  Only the root of a tree has no template of its own. -/
inductive Router.WellBuilt : String → Router → Prop
  | intro {outer : String} {r : Router}
      (mount : ∀ m ∈ r.mount, m.IsCompiled .leading)
      (fullMount : r.fullMount = outer ++ String.join (r.mount.toList.map Matchable.template))
      (mounted : ∀ inner ∈ r.routers, inner.mount.isSome)
      (routers : ∀ inner ∈ r.routers, WellBuilt r.fullMount inner)
      (routes : ∀ route ∈ r.routes, route.StandsIn r.fullMount) :
      WellBuilt outer r

namespace Router

lemma eta (r : Router) : Router.mk r.mount r.fullMount r.routers r.routes = r := by cases r; rfl

/-! ## What keeps a tree well-built -/

section Inside

variable {outer : String} {r : Router} (h : r.WellBuilt outer)
include h

lemma WellBuilt.refill {routers : List Router} {routes : List Route}
    (hmounted : ∀ inner ∈ routers, inner.mount.isSome)
    (hrouters : ∀ inner ∈ routers, inner.WellBuilt r.fullMount)
    (hroutes : ∀ route ∈ routes, route.StandsIn r.fullMount) :
    ({ r with routers, routes } : Router).WellBuilt outer := by
  cases h with
  | intro mount fullMount => exact .intro mount fullMount hmounted hrouters hroutes

lemma WellBuilt.mounted : ∀ inner ∈ r.routers, inner.mount.isSome := by
  cases h with
  | intro _ _ hmounted => exact hmounted

lemma WellBuilt.inside : ∀ inner ∈ r.routers, inner.WellBuilt r.fullMount := by
  cases h with
  | intro _ _ _ hrouters => exact hrouters

lemma WellBuilt.routes : ∀ route ∈ r.routes, route.StandsIn r.fullMount := by
  cases h with
  | intro _ _ _ _ hroutes => exact hroutes

lemma WellBuilt.of_mount {m : Matchable} (hm : r.mount = some m) :
    m.IsCompiled .leading ∧ r.fullMount = outer ++ m.template := by
  cases h with
  | intro mount fullMount =>
    rw [hm] at mount fullMount
    exact ⟨mount m rfl, by simpa using fullMount⟩

lemma WellBuilt.addRouter {inner : Router} (hmount : inner.mount.isSome)
    (hinner : inner.WellBuilt r.fullMount) : (r.addRouter inner).WellBuilt outer := by
  refine h.refill ?_ ?_ h.routes
  · simpa [or_imp, forall_and, hmount] using h.mounted
  · simpa [or_imp, forall_and, hinner] using h.inside

lemma WellBuilt.addRoute {route : Route} (hroute : route.StandsIn r.fullMount) :
    (r.addRoute route).WellBuilt outer := by
  refine h.refill h.mounted h.inside ?_
  simpa [or_imp, forall_and, hroute] using h.routes

/-- Whatever is asked for at a router, successful or not, keeps it well-built. -/
lemma WellBuilt.afterStep (step : Registration) : (r.afterStep step).WellBuilt outer := by
  rw [Router.afterStep, value_register]
  cases hstep : step.compiled with
  | error fault => exact h
  | ok m =>
    obtain ⟨htemplate, hcompiled⟩ := Matchable.isCompiled_of_compile hstep
    cases step with
    | mount template =>
      refine h.addRouter rfl (.intro ?_ ?_ (by simp) (by simp) (by simp))
      · simpa [Registration.anchoring] using hcompiled
      · simp [htemplate, Registration.template]
    | route entry => exact h.addRoute ⟨hcompiled, by rw [htemplate]; rfl⟩

end Inside

lemma WellBuilt.exists_at? {outer : String} {r node : Router} {place : List Nat}
    (h : r.WellBuilt outer) (hplace : r.at? place = some node) :
    ∃ around, node.WellBuilt around := by
  induction place generalizing outer r with
  | nil =>
    obtain rfl := Option.some.inj hplace
    exact ⟨outer, h⟩
  | cons i place ih =>
    obtain ⟨inner, hinner, hnode⟩ := Option.bind_eq_some_iff.mp hplace
    exact ih (h.inside inner (List.mem_of_getElem? hinner)) hnode

lemma mount_modifyAt {f : Router → Router} {r node : Router} {place : List Nat}
    (hplace : r.at? place = some node) (hf : (f node).mount = node.mount) :
    (r.modifyAt f place).mount = r.mount := by
  cases place with
  | nil =>
    obtain rfl := Option.some.inj hplace
    exact hf
  | cons i place => rfl

/-- Where the router at a place stays well-built and mounted as it was, the tree does. -/
lemma WellBuilt.modifyAt {f : Router → Router} {outer : String} {r node : Router}
    {place : List Nat} (h : r.WellBuilt outer) (hplace : r.at? place = some node)
    (hmount : (f node).mount = node.mount)
    (hf : ∀ around, node.WellBuilt around → (f node).WellBuilt around) :
    (r.modifyAt f place).WellBuilt outer := by
  induction place generalizing outer r with
  | nil =>
    obtain rfl := Option.some.inj hplace
    exact hf outer h
  | cons i place ih =>
    obtain ⟨before, inner, after, hrouters, hnode, -, hmodify⟩ := exists_of_at?_cons hplace
    have hmounted := h.mounted
    have hinside := h.inside
    rw [hrouters, List.forall_mem_append, List.forall_mem_cons] at hmounted hinside
    obtain ⟨hearlier, hinner, hlater⟩ := hinside
    rw [hmodify]
    refine h.refill ?_ ?_ h.routes
    · rw [List.forall_mem_append, List.forall_mem_cons, mount_modifyAt hnode hmount]
      exact hmounted
    · rw [List.forall_mem_append, List.forall_mem_cons]
      exact ⟨hearlier, ih hinner hnode, hlater⟩

/-! ## Trees that have been built -/

lemma mount_afterStep (r : Router) (step : Registration) : (r.afterStep step).mount = r.mount := by
  rw [afterStep, value_register]
  cases step.compiled with
  | error fault => rfl
  | ok m => cases step <;> rfl

lemma wellBuilt_after {b : Builder} (h : b.root.mount = none ∧ b.root.WellBuilt "")
    (step : Builder.Step) :
    (b.after step).root.mount = none ∧ (b.after step).root.WellBuilt "" := by
  obtain ⟨hplace, hroot⟩ := b.root_after step
  have hregister (asked : Registration) : (b.root.registerAt b.place asked).mount = none ∧
      (b.root.registerAt b.place asked).WellBuilt "" := by
    have hmount := mount_afterStep b.here asked
    refine ⟨?_, h.2.modifyAt hplace hmount fun around hhere => hhere.afterStep asked⟩
    exact (mount_modifyAt (f := fun node => node.afterStep asked) hplace hmount).trans h.1
  cases step with
  | enter mount =>
    rw [hroot]
    exact hregister (.mount mount)
  | leave =>
    rw [hroot]
    exact h
  | addRoute template target names =>
    rw [hroot]
    exact hregister (.route ⟨names.getLast?, template, target⟩)

lemma wellBuilt_empty : empty.WellBuilt "" := by
  refine .intro ?_ rfl ?_ ?_ ?_ <;> simp [empty]

lemma wellBuilt_of_reachable {b : Builder} (h : b.Reachable) :
    b.root.mount = none ∧ b.root.WellBuilt "" := by
  induction h with
  | start => exact ⟨rfl, wellBuilt_empty⟩
  | @enter b inner mount _ h ih =>
    have hafter : b.after (.enter mount) = inner := by
      rw [Builder.after, h]
      rfl
    rw [← hafter]
    exact wellBuilt_after ih (.enter mount)
  | @leave b outer _ h ih =>
    have hafter : b.after .leave = outer := by
      rw [Builder.after, h]
      rfl
    rw [← hafter]
    exact wellBuilt_after ih .leave
  | @addRoute b next template target names route _ h ih =>
    have hafter : b.after (.addRoute template target names) = next := by
      rw [Builder.after, h]
      rfl
    rw [← hafter]
    exact wellBuilt_after ih (.addRoute template target names)

end Router

lemma RouteEntry.Describes.standsIn {around : List String} {entry : RouteEntry} {route : Route}
    (h : entry.Describes around route) : route.StandsIn (String.join around) := by
  obtain ⟨htemplate, hcompiled⟩ := Matchable.isCompiled_of_compile h.compiled
  exact ⟨hcompiled, by rw [htemplate, h.fullTemplate]⟩

lemma standsIn_of_describes {around : List String} {entries : List RouteEntry}
    {routes : List Route} (h : List.Forall₂ (RouteEntry.Describes around) entries routes) :
    ∀ route ∈ routes, route.StandsIn (String.join around) := by
  induction h with
  | nil => simp
  | cons hfirst _ ih => exact List.forall_mem_cons.mpr ⟨hfirst.standsIn, ih⟩

mutual

/-- What an entry describes is well-built where the entry stands. -/
lemma RouterEntry.Describes.wellBuilt {around : List String} (entry : RouterEntry) {r : Router}
    (h : entry.Describes around r) : r.mount.isSome ∧ r.WellBuilt (String.join around) := by
  match entry with
  | ⟨mount, routes, routers⟩ =>
    cases h with
    | @intro _ _ _ m hmount hcompiled hfull hrouters hroutes =>
      obtain ⟨htemplate, hm⟩ := Matchable.isCompiled_of_compile hcompiled
      have hinside := DescribeAll.wellBuilt routers hrouters
      rw [← hfull] at hinside
      refine ⟨by rw [hmount]; rfl, .intro ?_ ?_ (fun inner hi => (hinside inner hi).1)
        (fun inner hi => (hinside inner hi).2) ?_⟩
      · rw [hmount]
        rintro _ ⟨⟩
        exact hm
      · simp [hfull, hmount, htemplate]
      · rw [hfull]
        exact standsIn_of_describes hroutes

lemma DescribeAll.wellBuilt {around : List String} (entries : List RouterEntry)
    {routers : List Router} (h : DescribeAll around entries routers) :
    ∀ r ∈ routers, r.mount.isSome ∧ r.WellBuilt (String.join around) := by
  match entries with
  | [] =>
    cases h
    simp
  | entry :: rest =>
    cases h with
    | cons hfirst hrest =>
      exact List.forall_mem_cons.mpr
        ⟨RouterEntry.Describes.wellBuilt entry hfirst, DescribeAll.wellBuilt rest hrest⟩

end

lemma Table.Describes.wellBuilt {table : Table} {r : Router} (h : table.Describes r) :
    r.mount = none ∧ r.WellBuilt "" := by
  have hinside := DescribeAll.wellBuilt table.routers h.routers
  have hroutes := standsIn_of_describes h.routes
  refine ⟨h.mount, .intro ?_ ?_ (fun inner hi => (hinside inner hi).1) ?_ ?_⟩
  · simp [h.mount]
  · simp [h.mount, h.fullMount]
  · rw [h.fullMount]
    exact fun inner hi => (hinside inner hi).2
  · rw [h.fullMount]
    exact hroutes

/-! ## Building a tree again -/

namespace Builder

lemma Reachable.addRoute_standsIn {here : Router} {around : List Router} {route : Route}
    (h : (Builder.mk here around).Reachable) (hroute : route.StandsIn here.fullMount) :
    (Builder.mk (here.addRoute route) around).Reachable := by
  obtain ⟨name, target, full, m⟩ := route
  obtain rfl : full = here.fullMount ++ m.template := hroute.fullTemplate
  have hleaf : (here.leaf m.template target).run.value =
      .ok ⟨none, target, here.fullMount ++ m.template, m⟩ :=
    Attempt.value_bind_eq_ok.mpr ⟨m, hroute.compiled, rfl⟩
  have hadd : ((Builder.mk here around).addRoute m.template target name.toList).run.value =
      .ok (⟨here.addRoute ⟨name, target, here.fullMount ++ m.template, m⟩, around⟩,
        ⟨name, target, here.fullMount ++ m.template, m⟩) := by
    refine Attempt.value_bind_eq_ok.mpr ⟨_, hleaf, ?_⟩
    cases name <;> rfl
  exact h.addRoute hadd

/-- Where routers have been compiled in a router and can be added there again, so can they all, with
routes. -/
lemma Reachable.refill {here : Router} {around : List Router} {routers : List Router}
    {routes : List Route} (h : (Builder.mk here around).Reachable)
    (hrouters : ∀ inner ∈ routers, ∀ (outer : Router) (rest : List Router),
      outer.fullMount = here.fullMount → (Builder.mk outer rest).Reachable →
      (Builder.mk (outer.addRouter inner) rest).Reachable)
    (hroutes : ∀ route ∈ routes, route.StandsIn here.fullMount) :
    (Builder.mk { here with routers := here.routers ++ routers, routes := here.routes ++ routes }
      around).Reachable := by
  induction routers generalizing here with
  | nil =>
    induction routes generalizing here with
    | nil => simpa [Router.eta] using h
    | cons route rest ih =>
      obtain ⟨hroute, hrest⟩ := List.forall_mem_cons.mp hroutes
      simpa [Router.addRoute] using ih (h.addRoute_standsIn hroute) (by simp) hrest
  | cons inner rest ih =>
    obtain ⟨hinner, hrest⟩ := List.forall_mem_cons.mp hrouters
    simpa [Router.addRouter] using ih (hinner here around rfl h) hrest hroutes

lemma reachable_addRouter {outer : String} {r : Router} (h : r.WellBuilt outer)
    (hmount : r.mount.isSome) (here : Router) (around : List Router)
    (hfull : here.fullMount = outer) (hhere : (Builder.mk here around).Reachable) :
    (Builder.mk (here.addRouter r) around).Reachable := by
  induction h generalizing here around with
  | @intro outer r mount fullMount mounted routers routes ih =>
    obtain ⟨m, hm⟩ := Option.isSome_iff_exists.mp hmount
    rw [hm] at mount fullMount
    have hcompiled : m.IsCompiled .leading := mount m rfl
    have htext : r.fullMount = here.fullMount ++ m.template := by
      rw [fullMount, hfull]
      simp
    have hentered : ((Builder.mk here around).enter m.template).run.value =
        .ok ⟨⟨some m, here.fullMount ++ m.template, [], []⟩, here :: around⟩ :=
      Attempt.value_bind_eq_ok.mpr ⟨_, Attempt.value_bind_eq_ok.mpr ⟨m, hcompiled, rfl⟩, rfl⟩
    rw [htext] at routes
    have hfilled : (Builder.mk ⟨some m, here.fullMount ++ m.template, [] ++ r.routers,
        [] ++ r.routes⟩ (here :: around)).Reachable := by
      refine (hhere.enter hentered).refill ?_ routes
      intro inner hinner outer rest houter hreach
      exact ih inner hinner (mounted inner hinner) outer rest (houter.trans htext.symm) hreach
    rw [← hm, ← htext, List.nil_append, List.nil_append, Router.eta] at hfilled
    exact hfilled.leave rfl

end Builder

/-- The trees that can be built, by steps of a builder or from a table, are the well-built ones
without a template at the root. -/
theorem Router.registered_iff {r : Router} :
    r.Registered ↔ r.mount = none ∧ r.WellBuilt "" := by
  constructor
  · intro h
    cases h with
    | ofBuilder h => exact wellBuilt_of_reachable h
    | ofTable h => exact (describes_of_value_ofTable h).wellBuilt
  · rintro ⟨hmount, h⟩
    cases h with
    | intro _ fullMount mounted routers routes =>
      have hfull : r.fullMount = "" := by simpa [hmount] using fullMount
      rw [hfull] at routes
      have hfilled : (Builder.mk ⟨none, "", [] ++ r.routers, [] ++ r.routes⟩ []).Reachable := by
        refine Builder.Reachable.start.refill ?_ routes
        intro inner hinner outer rest houter hreach
        exact Builder.reachable_addRouter (routers inner hinner) (mounted inner hinner) outer rest
          (houter.trans hfull.symm) hreach
      rw [← hmount, ← hfull, List.nil_append, List.nil_append, Router.eta] at hfilled
      exact .ofBuilder hfilled

end UriRouting
