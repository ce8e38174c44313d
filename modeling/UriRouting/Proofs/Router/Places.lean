import Mathlib.Tactic
import UriRouting.Proofs.Router.Names
import UriRouting.Proofs.Router.Registered
import UriRouting.Proofs.Table.Registrations

/-!
# Adding to a router anywhere in a tree

A place is given by positions: that of the next router at each step down from the root.  A step at a
place mounts a router in the router there or adds a route to it (`Router.registerAt`).  Everything
that a builder does is such a step at the place where it stands (`Builder.root_after`).

The work of a step changes the router as it goes, and the router is handed on where the work fails
as where it succeeds (`RouterWork`).  That nothing is left of a step that fails is due to the order
of its work: the template is compiled before the router is changed (`Router.register_eq`).

Whatever is put in place of the router at a place, the lists of all routes change in one piece only
(`exists_searchOrder_modifyAt`, `exists_nameOrder_modifyAt`).  So a step can be judged by what it
does to this piece: a new router adds nothing to it, a new route adds itself at its end, and if the
template does not compile the piece stays as it is (`registerAt_conservative`).  In the search order
the new route comes before everything that is tried after the router at the place, so it can take
paths away from routers further on and from all routes of the routers around.
-/

namespace UriRouting

/-- The entry seen from outside some more mounts. -/
def Entry.below (mounts : List Matchable) (e : Entry) : Entry :=
  { e with mounts := mounts ++ e.mounts }

lemma Entry.below_nil : Entry.below [] = id := rfl

lemma Entry.under_comp_below (mount : Option Matchable) (mounts : List Matchable) :
    Entry.under mount ∘ Entry.below mounts = Entry.below (mount.toList ++ mounts) := by
  funext e
  simp [Entry.under, Entry.below]

namespace Router

/-! ## Places -/

/-- The router at a place. -/
def at? : Router → List Nat → Option Router
  | r, [] => some r
  | r, i :: place => r.routers[i]?.bind fun inner => inner.at? place

/-- The mounts of the routers around a place, outermost first. -/
def mountsAround : Router → List Nat → List Matchable
  | _, [] => []
  | r, i :: place =>
    r.mount.toList ++ r.routers[i]?.elim [] fun inner => inner.mountsAround place

/-- The router with one of the routers in it changed. -/
def modifyIn (f : Router → Router) (r : Router) (i : Nat) : Router :=
  { r with routers := r.routers.modify i f }

/-- The tree with the router at a place changed. -/
def modifyAt (f : Router → Router) : Router → List Nat → Router
  | r, [] => f r
  | r, i :: place => r.modifyIn (fun inner => inner.modifyAt f place) i

/-- Below the root a place lies in one of the routers, and only this one is changed. -/
lemma exists_of_at?_cons {r node : Router} {i : Nat} {place : List Nat}
    (h : r.at? (i :: place) = some node) :
    ∃ before inner after, r.routers = before ++ inner :: after ∧ inner.at? place = some node ∧
      r.mountsAround (i :: place) = r.mount.toList ++ inner.mountsAround place ∧
      ∀ f, r.modifyAt f (i :: place) =
        { r with routers := before ++ inner.modifyAt f place :: after } := by
  obtain ⟨inner, hinner, hnode⟩ := Option.bind_eq_some_iff.mp h
  obtain ⟨hi, hget⟩ := List.getElem?_eq_some_iff.mp hinner
  refine ⟨r.routers.take i, inner, r.routers.drop (i + 1), ?_, hnode, ?_, ?_⟩
  · rw [← hget, List.getElem_cons_drop, List.take_append_drop]
  · rw [mountsAround, hinner, Option.elim_some]
  · intro f
    rw [modifyAt, modifyIn, List.modify_eq_take_cons_drop hi, hget]

lemma at?_modifyAt {r node : Router} {place : List Nat} (h : r.at? place = some node)
    (f : Router → Router) : (r.modifyAt f place).at? place = some (f node) := by
  induction place generalizing r with
  | nil =>
    obtain rfl := Option.some.inj h
    rfl
  | cons i place ih =>
    obtain ⟨inner, hinner, hnode⟩ := Option.bind_eq_some_iff.mp h
    rw [modifyAt, at?, modifyIn, List.getElem?_modify_eq, hinner]
    exact ih hnode

lemma at?_concat (r : Router) (place : List Nat) (i : Nat) :
    r.at? (place ++ [i]) = (r.at? place).bind fun inner => inner.routers[i]? := by
  induction place generalizing r with
  | nil => simp [at?]
  | cons j place ih =>
    rw [List.cons_append, at?, at?]
    simp only [ih, Option.bind_assoc]

lemma modifyAt_concat (f : Router → Router) (r : Router) (place : List Nat) (i : Nat) :
    r.modifyAt f (place ++ [i]) =
      r.modifyAt (fun inner => inner.modifyIn f i) place := by
  induction place generalizing r with
  | nil => rfl
  | cons j place ih =>
    rw [List.cons_append, modifyAt, modifyAt]
    simp only [ih]

lemma modifyAt_of_eq {r node : Router} {place : List Nat} (h : r.at? place = some node)
    {f : Router → Router} (hf : f node = node) : r.modifyAt f place = r := by
  induction place generalizing r with
  | nil =>
    obtain rfl := Option.some.inj h
    exact hf
  | cons i place ih =>
    obtain ⟨before, inner, after, hrouters, hnode, -, hmodify⟩ := exists_of_at?_cons h
    rw [hmodify, ih hnode, ← hrouters]
    cases r
    rfl

/-- Of the search order, `modifyAt` changes what the entries of the router at the place are, and no
more. -/
lemma exists_searchOrder_modifyAt {r node : Router} {place : List Nat}
    (h : r.at? place = some node) :
    ∃ before after, (place = [] → after = []) ∧ ∀ f, (r.modifyAt f place).searchOrder =
      before ++ (f node).searchOrder.map (Entry.below (r.mountsAround place)) ++ after := by
  induction place generalizing r with
  | nil =>
    obtain rfl := Option.some.inj h
    refine ⟨[], [], fun _ => rfl, ?_⟩
    intro f
    simp [modifyAt, mountsAround, Entry.below_nil]
  | cons i place ih =>
    obtain ⟨earlier, inner, later, hrouters, hnode, hmounts, hmodify⟩ := exists_of_at?_cons h
    obtain ⟨before, after, -, hinner⟩ := ih hnode
    refine ⟨(searchOrderOf earlier ++ before).map (Entry.under r.mount),
      (after ++ searchOrderOf later ++ r.routes.map (Entry.mk [])).map (Entry.under r.mount),
      by simp, ?_⟩
    intro f
    rw [hmodify, searchOrder, searchOrderOf_append, searchOrderOf, hinner, hmounts,
      ← Entry.under_comp_below]
    simp

/-- Of the order in which names are looked for, `modifyAt` changes the part of the router at the
place, and no more. -/
lemma exists_nameOrder_modifyAt {r node : Router} {place : List Nat}
    (h : r.at? place = some node) :
    ∃ before after, ∀ f, (r.modifyAt f place).nameOrder =
      before ++ (f node).nameOrder ++ after := by
  induction place generalizing r with
  | nil =>
    obtain rfl := Option.some.inj h
    exact ⟨[], [], fun f => by simp [modifyAt]⟩
  | cons i place ih =>
    obtain ⟨earlier, inner, later, hrouters, hnode, -, hmodify⟩ := exists_of_at?_cons h
    obtain ⟨before, after, hinner⟩ := ih hnode
    refine ⟨r.routes ++ nameOrderOf earlier ++ before, after ++ nameOrderOf later, ?_⟩
    intro f
    rw [hmodify, nameOrder, nameOrderOf_append, nameOrderOf, hinner]
    simp

end Router

/-! ## Steps -/

/-- Work on a router that may fail.  The router is handed on in either case, in the state in which
the work left it. -/
abbrev RouterWork (α : Type) := ExceptT TemplateFault (StateT Router Recorded) α

/-- Takes over what is made for the router as it stands. -/
def RouterWork.make {α : Type} (f : Router → Attempt TemplateFault α) : RouterWork α :=
  ExceptT.mk fun r => do
    let result ← (f r).run
    return (result, r)

lemma RouterWork.run_make {α β : Type} (f : Router → Attempt TemplateFault α)
    (next : α → RouterWork β) (r : Router) :
    (RouterWork.make f >>= next).run.run r = (do
      match ← (f r).run with
      | .ok a => (next a).run.run r
      | .error fault => return (.error fault, r)) := by
  rw [ExceptT.run_bind, StateT.run_bind, RouterWork.make, ExceptT.run_mk]
  simp only [StateT.run]
  rw [bind_assoc]
  refine bind_congr fun result => ?_
  cases result <;> rfl

namespace Registration

/-- The work of a step at a router.  What is added comes after what is there. -/
def work : Registration → RouterWork Unit
  | mount template => do
    let inner ← RouterWork.make fun r => r.child template
    modify fun r => r.addRouter inner
  | route entry => do
    let route ← RouterWork.make fun r => r.leaf entry.template entry.target
    modify fun r => r.addRoute (entry.name.elim route route.named)

/-- The router with what a step adds to it, once the template has been compiled. -/
def addTo (step : Registration) (r : Router) (m : Matchable) : Router :=
  match step with
  | mount template => r.addRouter ⟨some m, r.fullMount ++ template, [], []⟩
  | route entry => r.addRoute ⟨entry.name, entry.target, r.fullMount ++ entry.template, m⟩

end Registration

namespace Router

/-- Carries a step out at a router, and tells what has become of the router. -/
def register (r : Router) (step : Registration) : Recorded (Except TemplateFault Unit × Router) :=
  step.work.run.run r

/-- The router after a step was tried. -/
def afterStep (r : Router) (step : Registration) : Router := (r.register step).value.2

/-- The tree after a step was tried at a place. -/
def registerAt (r : Router) (place : List Nat) (step : Registration) : Router :=
  r.modifyAt (fun node => node.afterStep step) place

/-- A step changes the router at its very end, after the template has been compiled, and nothing of
it has happened where that fails. -/
lemma register_eq (r : Router) (step : Registration) :
    r.register step = (fun result => match result with
      | .ok m => (.ok (), step.addTo r m)
      | .error fault => (.error fault, r)) <$>
        (Matchable.compile step.template step.anchoring).run := by
  cases step with
  | mount template =>
    rw [register, Registration.work, RouterWork.run_make, child_eq, ExceptT.run_map, bind_map_left,
      ← bind_pure_comp]
    refine bind_congr fun result => ?_
    cases result <;> rfl
  | route entry =>
    rw [register, Registration.work, RouterWork.run_make, leaf_eq, ExceptT.run_map, bind_map_left,
      ← bind_pure_comp]
    refine bind_congr fun result => ?_
    obtain ⟨name, _, _⟩ := entry
    cases result with
    | error fault => rfl
    | ok m => cases name <;> rfl

lemma value_register (r : Router) (step : Registration) :
    (r.register step).value = match step.compiled with
      | .ok m => (.ok (), step.addTo r m)
      | .error fault => (.error fault, r) := by
  rw [register_eq]
  rfl

lemma register_eq_error {r next : Router} {step : Registration} {fault : TemplateFault} :
    (r.register step).value = (.error fault, next) ↔ step.compiled = .error fault ∧ next = r := by
  rw [value_register]
  cases step.compiled <;> simp [eq_comm]

lemma register_eq_ok {r next : Router} {step : Registration} :
    (r.register step).value = (.ok (), next) ↔
      ∃ m, step.compiled = .ok m ∧ next = step.addTo r m := by
  rw [value_register]
  cases step.compiled <;> simp [eq_comm]

lemma exists_register_of_compiles (r : Router) (step : Registration) (h : step.compiles) :
    ∃ next, (r.register step).value = (.ok (), next) := by
  unfold Registration.compiles at h
  cases hcompiled : step.compiled with
  | ok m => exact ⟨_, register_eq_ok.mpr ⟨m, hcompiled, rfl⟩⟩
  | error fault =>
    rw [hcompiled] at h
    cases h

lemma exists_register_of_not_compiles (r : Router) (step : Registration)
    (h : step.compiles = false) : ∃ fault, (r.register step).value = (.error fault, r) := by
  unfold Registration.compiles at h
  cases hcompiled : step.compiled with
  | ok m =>
    rw [hcompiled] at h
    cases h
  | error fault => exact ⟨fault, register_eq_error.mpr ⟨hcompiled, rfl⟩⟩

lemma orders_addRouter (r : Router) (mount : Option Matchable) (fullMount : String) :
    (r.addRouter ⟨mount, fullMount, [], []⟩).searchOrder = r.searchOrder ∧
      (r.addRouter ⟨mount, fullMount, [], []⟩).nameOrder = r.nameOrder := by
  obtain ⟨_, _, routers, routes⟩ := r
  constructor
  · simp [addRouter, searchOrder, searchOrderOf_append, searchOrderOf]
  · simp [addRouter, nameOrder, nameOrderOf_append, nameOrderOf]

/-! ## What changes -/

/-- Two trees give the same answers, and note the same. -/
structure AnswersAlike (r other : Router) : Prop where
  find : ∀ path, r.find path = other.find path
  routeByName? : ∀ name, r.routeByName? name = other.routeByName? name
  url : ∀ name values, r.url name values = other.url name values
  routeCount : r.routeCount = other.routeCount

/-- The answers of a tree depend on the two lists of its routes only. -/
lemma answersAlike_of_orders {r other : Router} (hsearch : r.searchOrder = other.searchOrder)
    (hnames : r.nameOrder = other.nameOrder) : r.AnswersAlike other := by
  have hnamed (name : String) : r.routeByName? name = other.routeByName? name := by
    rw [routeByName?_eq_find?, routeByName?_eq_find?, hnames]
  refine ⟨?_, hnamed, ?_, ?_⟩
  · intro path
    have hlookup : r.lookup path = other.lookup path := by
      rw [lookup_eq_findSome?, lookup_eq_findSome?, hsearch]
    rw [Router.find, Router.find, hlookup]
  · intro name values
    rw [Router.url, Router.url, hnamed]
  · rw [routeCount_eq_length, routeCount_eq_length, hnames]

/-- The path leads to the entry where `before` are tried before it: the templates of the entry
capture the path one after the other, and those of no entry before it do. -/
def IsTaken (before : List Entry) (e : Entry) (path : String) : Prop :=
  (∃ layers, e.layers? path = some layers) ∧ ∀ b ∈ before, b.layers? path = none

/-- One more entry in the search order takes the paths that lead to it and no others. -/
lemma lookup_insert {r tree : Router} {before after : List Entry} {e : Entry}
    (hr : r.searchOrder = before ++ after) (htree : tree.searchOrder = before ++ e :: after)
    (path : String) :
    (IsTaken before e path → tree.lookup path = e.found? path ∧
      (after = [] → r.lookup path = none)) ∧
    (¬ IsTaken before e path → tree.lookup path = r.lookup path) := by
  have hnone (b : Entry) : b.found? path = none ↔ b.layers? path = none := by simp [Entry.found?]
  rw [lookup_eq_findSome?, lookup_eq_findSome?, hr, htree, List.findSome?_append,
    List.findSome?_append, List.findSome?_cons]
  constructor
  · rintro ⟨⟨layers, hlayers⟩, hbefore⟩
    have hmissed : (before.findSome? fun b => b.found? path) = none := by
      rw [List.findSome?_eq_none_iff]
      intro b hb
      exact (hnone b).mpr (hbefore b hb)
    rw [hmissed]
    refine ⟨?_, ?_⟩
    · simp [Entry.found?, hlayers]
    · rintro rfl
      rfl
  · intro htaken
    cases hfound : before.findSome? fun b => b.found? path with
    | some found => rfl
    | none =>
      -- No entry before takes the path, so it must be that this one does not capture it.
      have hmissed : e.found? path = none := by
        by_contra hcaptures
        rw [hnone, ← ne_eq, Option.ne_none_iff_exists'] at hcaptures
        refine htaken ⟨hcaptures, ?_⟩
        intro b hb
        exact (hnone b).mp (List.findSome?_eq_none_iff.mp hfound b hb)
      rw [hmissed]

section Place

variable {r node : Router} {place : List Nat} (h : r.at? place = some node)
include h

lemma at?_registerAt (step : Registration) :
    (r.registerAt place step).at? place = some (node.afterStep step) := by
  rw [registerAt, at?_modifyAt h]

lemma answersAlike_modifyAt {f : Router → Router}
    (hf : (f node).searchOrder = node.searchOrder ∧ (f node).nameOrder = node.nameOrder) :
    (r.modifyAt f place).AnswersAlike r := by
  obtain ⟨before, after, -, hsearch⟩ := exists_searchOrder_modifyAt h
  obtain ⟨earlier, later, hnames⟩ := exists_nameOrder_modifyAt h
  have hsame : r.modifyAt id place = r := modifyAt_of_eq h rfl
  apply answersAlike_of_orders
  · rw [hsearch, hf.1, ← congrArg searchOrder hsame, hsearch]
    rfl
  · rw [hnames, hf.2, ← congrArg nameOrder hsame, hnames]
    rfl

/-- A new route comes after all that the router at the place tries. -/
lemma exists_searchOrder_addRoute {f : Router → Router} {route : Route}
    (hf : f node = node.addRoute route) :
    ∃ before after, (place = [] → after = []) ∧ r.searchOrder = before ++ after ∧
      (r.modifyAt f place).searchOrder =
        before ++ ⟨r.mountsAround place ++ node.mount.toList, route⟩ :: after := by
  obtain ⟨before, after, hroot, hsearch⟩ := exists_searchOrder_modifyAt h
  have hsame : r.modifyAt id place = r := modifyAt_of_eq h rfl
  refine ⟨before ++ node.searchOrder.map (Entry.below (r.mountsAround place)), after, hroot, ?_, ?_⟩
  · rw [← congrArg searchOrder hsame, hsearch]
    rfl
  · rw [hsearch, hf, searchOrder_addRoute, List.map_append]
    simp [Entry.below, Entry.under]

end Place

/-- A step at a router anywhere in a tree does all or nothing.  If it fails, the tree is as it was.
If it mounts a router, the tree has the router at this place, and no answer is another than before.
If it adds a route, the tree has the route at this place, and the route is somewhere in the search
order while all else is as it was; the answer for a path is the new route if the path leads to it,
and otherwise what it was before.  Where the route was added to the root, only paths lead to it that
had no route before. -/
theorem registerAt_conservative {r node : Router} {place : List Nat}
    (h : r.at? place = some node) :
    (∀ step fault next, (node.register step).value = (.error fault, next) →
      next = node ∧ r.registerAt place step = r) ∧
    (∀ mount next, (node.register (.mount mount)).value = (.ok (), next) →
      (r.registerAt place (.mount mount)).at? place = some next ∧
      (∃ m, next = node.addRouter ⟨some m, node.fullMount ++ mount, [], []⟩) ∧
      (r.registerAt place (.mount mount)).AnswersAlike r) ∧
    ∀ entry next, (node.register (.route entry)).value = (.ok (), next) →
      ∃ route before after, (r.registerAt place (.route entry)).at? place = some next ∧
        next = node.addRoute route ∧ r.searchOrder = before ++ after ∧
        (r.registerAt place (.route entry)).searchOrder =
          before ++ ⟨r.mountsAround place ++ node.mount.toList, route⟩ :: after ∧
        ∀ path,
          (IsTaken before ⟨r.mountsAround place ++ node.mount.toList, route⟩ path →
            ((r.registerAt place (.route entry)).find path).value =
              (Entry.mk (r.mountsAround place ++ node.mount.toList) route).found? path ∧
            (place = [] → (r.find path).value = none)) ∧
          (¬ IsTaken before ⟨r.mountsAround place ++ node.mount.toList, route⟩ path →
            ((r.registerAt place (.route entry)).find path).value = (r.find path).value) := by
  refine ⟨?_, ?_, ?_⟩
  · intro step fault next hfault
    have hafter : node.afterStep step = next := by rw [afterStep, hfault]
    obtain ⟨-, rfl⟩ := register_eq_error.mp hfault
    exact ⟨rfl, modifyAt_of_eq h hafter⟩
  · intro mount next hok
    have hafter : node.afterStep (.mount mount) = next := by rw [afterStep, hok]
    obtain ⟨m, -, hnext⟩ := register_eq_ok.mp hok
    refine ⟨hafter ▸ at?_registerAt h _, ⟨m, hnext⟩, answersAlike_modifyAt h ?_⟩
    rw [hafter, hnext]
    exact orders_addRouter node (some m) _
  · intro entry next hok
    have hafter : node.afterStep (.route entry) = next := by rw [afterStep, hok]
    obtain ⟨m, -, hnext⟩ := register_eq_ok.mp hok
    obtain ⟨before, after, hroot, hr, htree⟩ :=
      exists_searchOrder_addRoute (f := fun node => node.afterStep (.route entry)) h
        (hafter.trans hnext)
    refine ⟨_, before, after, hafter ▸ at?_registerAt h _, hnext, hr, htree, ?_⟩
    intro path
    obtain ⟨htaken, hother⟩ := lookup_insert hr htree path
    refine ⟨?_, hother⟩
    intro hpath
    obtain ⟨hfound, hnone⟩ := htaken hpath
    exact ⟨hfound, fun hplace => hnone (hroot hplace)⟩

/-- Two routers side by side.  The path `/docs/view` leads to the route of the second one. -/
def sectionsTree : Router :=
  ([Builder.Step.enter "/\x7bsection\x7d", .addRoute "/edit" "edit" [], .leave,
    .enter "", .addRoute "/docs/\x7bpage\x7d" "page" [], .leave].foldl
    Builder.after Builder.start).root

/-- A route that is added to the first router of `sectionsTree` takes a path from the second one. -/
theorem registerAt_conservative_sections : ∃ node, sectionsTree.at? [0] = some node ∧
    sectionsTree.registerAt [0] (.mount "/\x7bbroken") = sectionsTree ∧
    (sectionsTree.registerAt [0] (.mount "/more")).AnswersAlike sectionsTree ∧
    ∃ route before, IsTaken before ⟨sectionsTree.mountsAround [0] ++ node.mount.toList, route⟩
        "/docs/view" ∧
      ((sectionsTree.registerAt [0] (.route ⟨none, "/view", "view"⟩)).find "/docs/view").value =
        (Entry.mk (sectionsTree.mountsAround [0] ++ node.mount.toList) route).found? "/docs/view" ∧
      (sectionsTree.find "/docs/view").value.map (fun found => found.route.target) =
        some "page" := by
  obtain ⟨node, hnode⟩ : ∃ node, sectionsTree.at? [0] = some node :=
    Option.isSome_iff_exists.mp (by decide +kernel)
  obtain ⟨fault, hbroken⟩ := node.exists_register_of_not_compiles (.mount "/\x7bbroken")
    (by decide +kernel)
  obtain ⟨mounted, hmore⟩ := node.exists_register_of_compiles (.mount "/more") (by decide +kernel)
  obtain ⟨added, hview⟩ := node.exists_register_of_compiles (.route ⟨none, "/view", "view"⟩)
    (by decide +kernel)
  obtain ⟨hfails, hmounts, hadds⟩ := registerAt_conservative hnode
  have htarget : (sectionsTree.find "/docs/view").value.map (fun found => found.route.target) =
      some "page" := by
    decide +kernel
  have hother : ((sectionsTree.registerAt [0] (.route ⟨none, "/view", "view"⟩)).find
      "/docs/view").value.map (fun found => found.route.target) = some "view" := by
    decide +kernel
  obtain ⟨route, before, -, -, -, -, -, hpaths⟩ := hadds _ added hview
  obtain ⟨htaken, hsame⟩ := hpaths "/docs/view"
  have hpath : IsTaken before ⟨sectionsTree.mountsAround [0] ++ node.mount.toList, route⟩
      "/docs/view" := by
    by_contra hnot
    rw [hsame hnot, htarget] at hother
    exact absurd hother (by decide)
  exact ⟨node, hnode, (hfails _ fault node hbroken).2, (hmounts _ mounted hmore).2.2, route, before,
    hpath, (htaken hpath).1, htarget⟩

end Router

/-! ## Builders -/

namespace Builder

/-- The place where a builder stands.  Each router around will have the next one as its last. -/
def place (b : Builder) : List Nat := (b.around.map fun outer => outer.routers.length).reverse

lemma root_cons (here outer : Router) (rest : List Router) :
    (Builder.mk here (outer :: rest)).root = (Builder.mk (outer.addRouter here) rest).root ∧
      (Builder.mk here (outer :: rest)).place =
        (Builder.mk (outer.addRouter here) rest).place ++ [outer.routers.length] := by
  refine ⟨rfl, ?_⟩
  simp [place]

lemma at?_place (b : Builder) : b.root.at? b.place = some b.here := by
  obtain ⟨here, around⟩ := b
  induction around generalizing here with
  | nil => rfl
  | cons outer rest ih =>
    obtain ⟨hroot, hplace⟩ := root_cons here outer rest
    rw [hroot, hplace, Router.at?_concat, ih, Option.bind_some]
    simp [Router.addRouter]

/-- Changing a router before it is mounted is changing it where it is mounted then. -/
lemma root_change (f : Router → Router) (here : Router) (around : List Router) :
    (Builder.mk (f here) around).root =
      (Builder.mk here around).root.modifyAt f (Builder.mk here around).place := by
  induction around generalizing here f with
  | nil => rfl
  | cons outer rest ih =>
    have hlast : outer.addRouter (f here) =
        (outer.addRouter here).modifyIn f outer.routers.length := by
      have hlength : outer.routers.length < (outer.routers ++ [here]).length := by simp
      simp [Router.modifyIn, Router.addRouter, List.modify_eq_take_cons_drop hlength]
    obtain ⟨hroot, hplace⟩ := root_cons here outer rest
    rw [(root_cons (f here) outer rest).1, hroot, hplace, hlast, Router.modifyAt_concat]
    exact ih (fun r => r.modifyIn f outer.routers.length) (outer.addRouter here)

lemma foldl_named (route : Route) (names : List String) :
    names.foldl Route.named route = names.getLast?.elim route route.named := by
  induction names using List.reverseRecOn with
  | nil => rfl
  | append_singleton names name ih =>
    rw [List.foldl_concat, ih, List.getLast?_concat]
    cases names.getLast? <;> rfl

/-- What a `Builder.Step` does to the tree is a step at the place where the builder stands; going
back changes nothing. -/
theorem root_after (b : Builder) (step : Builder.Step) :
    b.root.at? b.place = some b.here ∧ (b.after step).root = match step with
      | .enter mount => b.root.registerAt b.place (.mount mount)
      | .leave => b.root
      | .addRoute template target names =>
        b.root.registerAt b.place (.route ⟨names.getLast?, template, target⟩) := by
  refine ⟨at?_place b, ?_⟩
  obtain ⟨here, around⟩ := b
  cases step with
  | enter mount =>
    simp only [Router.registerAt, ← root_change, Router.afterStep, Router.value_register,
      Registration.compiled, Registration.template, Registration.anchoring, after, enter,
      Router.child_eq, Attempt.value_bind, Attempt.value_map]
    cases (Matchable.compile mount .leading).run.value <;> rfl
  | leave =>
    cases around with
    | nil => rfl
    | cons outer rest => rfl
  | addRoute template target names =>
    simp only [Router.registerAt, ← root_change, Router.afterStep, Router.value_register,
      Registration.compiled, Registration.template, Registration.anchoring, Registration.addTo,
      after, addRoute, Router.leaf_eq, Attempt.value_bind, Attempt.value_map, foldl_named]
    cases (Matchable.compile template .full).run.value with
    | error fault => rfl
    | ok m => cases names.getLast? <;> rfl

end Builder

end UriRouting
