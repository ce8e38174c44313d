import Mathlib.Tactic
import UriRouting.Proofs.Router.Buildable
import UriRouting.Proofs.Router.OneShot

/-!
# Rearranging a tree

Two ways to rearrange a tree somewhere inside leave all its answers for paths as they are, and the
tree that comes out is one that could have been built.

A router with an empty template takes nothing of a path and binds nothing, so all it does is to keep
routes together.  If it is the last one of the router around, its routers and routes can as well
stand there themselves (`find_dissolveLast`).

Routers or routes that stand side by side can change places if no path can lead into both.  For
plain templates it is enough that neither begins with the literal text with which the other one
begins (`find_swap`): a path that a template captures begins with this text.

Both rest on the lookup itself, which tries routers and routes one after the other, and on the fact
that a lookup does not change if it does not change at the place that was touched
(`find_modifyAt`).
-/

namespace UriRouting

namespace Router

/-! ## Lookups one after the other -/

lemma lookupRouters_append (first second : List Router) (path : String) :
    lookupRouters (first ++ second) path =
      (lookupRouters first path).or (lookupRouters second path) := by
  induction first with
  | nil => rfl
  | cons r rest ih =>
    rw [List.cons_append, lookupRouters, lookupRouters, ih]
    cases r.lookup path <;> rfl

lemma lookupRoutes_append (path : String) (first second : List Route) :
    lookupRoutes path (first ++ second) =
      (lookupRoutes path first).or (lookupRoutes path second) := by
  induction first with
  | nil => rfl
  | cons route rest ih =>
    rw [List.cons_append, lookupRoutes, lookupRoutes, ih]
    cases route.matchable.captures path <;> rfl

/-- A lookup depends on what is found inside the router, whatever stands there. -/
lemma lookup_congr {r other : Router} (hmount : r.mount = other.mount)
    (hinside : ∀ path, (lookupRouters r.routers path).or (lookupRoutes path r.routes) =
      (lookupRouters other.routers path).or (lookupRoutes path other.routes)) (path : String) :
    r.lookup path = other.lookup path := by
  obtain ⟨mount, _, routers, routes⟩ := r
  obtain ⟨_, _, routers', routes'⟩ := other
  obtain rfl := hmount
  simp only [lookup]
  cases enterMount mount path with
  | none => rfl
  | some entry =>
    dsimp only
    rw [hinside entry.remainder]

lemma find_modifyAt {f : Router → Router} {r node : Router} {place : List Nat}
    (h : r.at? place = some node) (hf : ∀ path, (f node).lookup path = node.lookup path)
    (path : String) : (r.modifyAt f place).find path = r.find path := by
  have hlookup : (r.modifyAt f place).lookup path = r.lookup path := by
    induction place generalizing r path with
    | nil =>
      obtain rfl := Option.some.inj h
      exact hf path
    | cons i place ih =>
      obtain ⟨before, inner, after, hrouters, hnode, -, hmodify⟩ := exists_of_at?_cons h
      rw [hmodify]
      apply lookup_congr
      · rfl
      · intro rest
        rw [hrouters, lookupRouters_append, lookupRouters_append, lookupRouters, lookupRouters,
          ih hnode rest]
  rw [find, find, hlookup]

/-- A change at a place that leaves the router there well-built, mounted as it was and with the same
answers leaves the tree one that can be built, with the same answers. -/
lemma registered_modifyAt {f : Router → Router} {r node : Router} {place : List Nat}
    (hr : r.Registered) (h : r.at? place = some node) (hmount : (f node).mount = node.mount)
    (hbuilt : ∀ around, node.WellBuilt around → (f node).WellBuilt around)
    (hfound : ∀ path, (f node).lookup path = node.lookup path) :
    (r.modifyAt f place).Registered ∧ ∀ path, (r.modifyAt f place).find path = r.find path := by
  obtain ⟨hroot, hwhole⟩ := registered_iff.mp hr
  refine ⟨registered_iff.mpr ⟨(mount_modifyAt h hmount).trans hroot, ?_⟩, find_modifyAt h hfound⟩
  exact hwhole.modifyAt h hmount hbuilt

/-! ## Groups without a template -/

lemma captures_of_template_eq_empty {m : Matchable} (h : m.IsCompiled .leading)
    (hempty : m.template = "") (path : String) :
    m.captures path = some ⟨Parameters.empty, path⟩ := by
  have hplain : IsPlain m.template := by
    rw [hempty]
    decide
  have htokens : tokensOf m.template = [] := by
    rw [hempty]
    rfl
  rw [captures_of_isCompiled hplain h, htokens]
  simp [Token.fit, Token.bindings, Token.names, Parameters.bindAll]

lemma lookup_of_template_eq_empty {group : Router} {m : Matchable} (hmount : group.mount = some m)
    (h : m.IsCompiled .leading) (hempty : m.template = "") (path : String) :
    group.lookup path =
      (lookupRouters group.routers path).or (lookupRoutes path group.routes) := by
  have hunder (e : Entry) : (e.under (some m)).found? path = e.found? path := by
    rw [found?_under, enterMount, captures_of_template_eq_empty h hempty, Option.bind_some,
      Entry.found?, Option.map_map]
    congr 1
    funext layers
    exact congrArg (Found.mk e.route) (Parameters.merge_bindAll [] layers.flatten)
  obtain ⟨_, full, routers, routes⟩ := group
  obtain rfl := hmount
  rw [lookup_eq_findSome?, lookupRouters_eq_findSome?, lookupRoutes_eq_findSome?, searchOrder,
    List.findSome?_map, ← List.findSome?_append]
  simp only [Function.comp_def, hunder]

/-- The router without its last router, which leaves what was in it: its routers behind the others
and its routes in front of the others. -/
def dissolveLast (r : Router) : Router :=
  match r.routers.getLast? with
  | none => r
  | some group =>
    { r with routers := r.routers.dropLast ++ group.routers, routes := group.routes ++ r.routes }

lemma dissolveLast_of_eq {r group : Router} {before : List Router}
    (h : r.routers = before ++ [group]) :
    r.dissolveLast =
      { r with routers := before ++ group.routers, routes := group.routes ++ r.routes } := by
  rw [dissolveLast, h, List.getLast?_concat, List.dropLast_concat]

lemma WellBuilt.dissolveLast {outer : String} {r group : Router} {before : List Router}
    {m : Matchable} (h : r.WellBuilt outer) (hrouters : r.routers = before ++ [group])
    (hmount : group.mount = some m) (hempty : m.template = "") :
    r.dissolveLast.WellBuilt outer := by
  have hmounted := h.mounted
  have hinside := h.inside
  rw [hrouters, List.forall_mem_append] at hmounted hinside
  have hgroup : group.WellBuilt r.fullMount := hinside.2 group List.mem_cons_self
  have hfull : group.fullMount = r.fullMount := by
    rw [(hgroup.of_mount hmount).2, hempty, String.append_empty]
  have hroutes := hgroup.routes
  have hrouters' := hgroup.inside
  rw [hfull] at hroutes hrouters'
  rw [dissolveLast_of_eq hrouters]
  refine h.refill ?_ ?_ ?_
  · exact List.forall_mem_append.mpr ⟨hmounted.1, hgroup.mounted⟩
  · exact List.forall_mem_append.mpr ⟨hinside.1, hrouters'⟩
  · exact List.forall_mem_append.mpr ⟨hroutes, h.routes⟩

/-- A group that comes last is found in where it was. -/
lemma lookup_dissolveLast {r group : Router} {before : List Router} {m : Matchable}
    (hrouters : r.routers = before ++ [group]) (hmount : group.mount = some m)
    (h : m.IsCompiled .leading) (hempty : m.template = "") (path : String) :
    r.dissolveLast.lookup path = r.lookup path := by
  rw [dissolveLast_of_eq hrouters]
  apply lookup_congr
  · rfl
  · intro rest
    have hgroup : lookupRouters [group] rest = group.lookup rest := by
      rw [lookupRouters, lookupRouters]
      cases group.lookup rest <;> rfl
    rw [hrouters, lookupRouters_append, lookupRouters_append, lookupRoutes_append, hgroup,
      lookup_of_template_eq_empty hmount h hempty]
    simp only [Option.or_assoc]

/-- Wherever in a tree the last router of a router has the empty template, it can be dissolved: the
tree is then one that could have been built as it is, so that all full templates are in order, and
it finds for each path the same route with the same parameters. -/
theorem find_dissolveLast {r node group : Router} {place : List Nat} {before : List Router}
    {m : Matchable} (hr : r.Registered) (h : r.at? place = some node)
    (hrouters : node.routers = before ++ [group]) (hmount : group.mount = some m)
    (hempty : m.template = "") :
    (r.modifyAt dissolveLast place).Registered ∧
      ∀ path, (r.modifyAt dissolveLast place).find path = r.find path := by
  obtain ⟨around, hnode⟩ := (registered_iff.mp hr).2.exists_at? h
  have hgroup : group.WellBuilt node.fullMount := hnode.inside group (by simp [hrouters])
  have hcompiled : m.IsCompiled .leading := (hgroup.of_mount hmount).1
  have hkeeps : node.dissolveLast.mount = node.mount := by rw [dissolveLast_of_eq hrouters]
  refine registered_modifyAt hr h hkeeps ?_ (lookup_dissolveLast hrouters hmount hcompiled hempty)
  exact fun outer hbuilt => hbuilt.dissolveLast hrouters hmount hempty

/-- A router with a group in it, behind a router that is tried first, and another router. -/
def groupedTree : Router :=
  ([Builder.Step.enter "/v1", .enter "/users", .addRoute "/{id}" "user" [], .leave,
    .enter "", .enter "/{section}", .addRoute "/new" "new" [], .leave,
    .addRoute "/status" "status" [], .leave, .addRoute "/{page}" "page" [],
    .addRoute "/help/{topic}" "help" [], .addRoute "/about/{topic}" "about" [], .leave,
    .enter "/docs", .addRoute "/{id}" "doc" [], .leave].foldl
    Builder.after Builder.start).root

/-- The group in the first router of `groupedTree` can be dissolved. -/
theorem find_dissolveLast_groupedTree : ∃ node before group m,
    groupedTree.at? [0] = some node ∧ node.routers = before ++ [group] ∧ group.mount = some m ∧
      m.template = "" ∧ (groupedTree.modifyAt dissolveLast [0]).Registered ∧
      ∀ path, (groupedTree.modifyAt dissolveLast [0]).find path = groupedTree.find path := by
  have hgroup : (((groupedTree.at? [0]).bind fun node => node.routers.getLast?).bind
      mount).map Matchable.template = some "" := by
    decide +kernel
  obtain ⟨m, hm, hempty⟩ := Option.map_eq_some_iff.mp hgroup
  obtain ⟨group, hlast, hmount⟩ := Option.bind_eq_some_iff.mp hm
  obtain ⟨node, hnode, hlast⟩ := Option.bind_eq_some_iff.mp hlast
  obtain ⟨before, hrouters⟩ := List.getLast?_eq_some_iff.mp hlast
  exact ⟨node, before, group, m, hnode, hrouters, hmount, hempty,
    find_dissolveLast (registered_of_steps _) hnode hrouters hmount hempty⟩

end Router

/-! ## Templates that lead apart -/

/-- The literal text with which a template begins: all up to the first placeholder. -/
def leadingText (template : String) : List Char := template.toList.takeWhile (· != '\x7b')

lemma Segment.tokens_of_splitFrom {current template : List Char} {segments : List Segment}
    (h : splitFrom 0 current template = .ok segments) :
    ∃ rest, tokens segments =
      (current.reverse ++ template.takeWhile (· != '\x7b')).map Token.letter ++ rest := by
  induction template generalizing current segments with
  | nil =>
    obtain rfl : [literal current.reverse] = segments := by simpa [splitFrom] using h
    exact ⟨[], by simp [tokens]⟩
  | cons c template ih =>
    rw [splitFrom_cons] at h
    by_cases hopen : c = '\x7b'
    · rw [if_pos ⟨hopen, rfl⟩] at h
      cases hr : splitFrom 1 [] template with
      | error _ => simp [hr, Except.map] at h
      | ok tail =>
        obtain rfl : literal current.reverse :: tail = segments := by
          simpa [hr, Except.map] using h
        exact ⟨tokens tail, by simp [tokens, hopen]⟩
    · have hclose : c ≠ '\x7d' := by
        rintro rfl
        simp at h
      have hnext : splitFrom 0 (c :: current) template = .ok segments := by
        simpa [hopen, hclose] using h
      obtain ⟨rest, hrest⟩ := ih hnext
      exact ⟨rest, by simpa [hopen] using hrest⟩

/-- What a plain template captures a path of begins the path. -/
lemma leadingText_prefix {m : Matchable} {anchoring : Anchoring} (hplain : IsPlain m.template)
    (h : m.IsCompiled anchoring) {path : String} {hit : PathMatch}
    (hhit : m.captures path = some hit) : leadingText m.template <+: path.toList := by
  obtain ⟨segments, hsplit⟩ := hplain.1
  obtain ⟨rest, htokens⟩ := Segment.tokens_of_splitFrom hsplit
  rw [captures_of_isCompiled hplain h] at hhit
  obtain ⟨f, hf, -⟩ := Option.map_eq_some_iff.mp hhit
  rw [(Token.fit_spec hf).1, tokensOf_of_split hsplit, htokens, List.reverse_nil, List.nil_append,
    Token.fill_map_letter_append, List.append_assoc]
  exact List.prefix_append _ _

/-- Two plain templates of which neither begins with the literal text that the other begins with. -/
structure LeadApart (first second : String) : Prop where
  plain : IsPlain first ∧ IsPlain second
  apart : ¬ leadingText first <+: leadingText second ∧ ¬ leadingText second <+: leadingText first

lemma LeadApart.captures {first second : Matchable} {anchoring : Anchoring}
    (h : LeadApart first.template second.template) (hfirst : first.IsCompiled anchoring)
    (hsecond : second.IsCompiled anchoring) (path : String) :
    first.captures path = none ∨ second.captures path = none := by
  by_contra hboth
  obtain ⟨hne, hne'⟩ := not_or.mp hboth
  obtain ⟨hit, hhit⟩ := Option.ne_none_iff_exists'.mp hne
  obtain ⟨hit', hhit'⟩ := Option.ne_none_iff_exists'.mp hne'
  have hlead := leadingText_prefix h.plain.1 hfirst hhit
  have hlead' := leadingText_prefix h.plain.2 hsecond hhit'
  rcases List.prefix_or_prefix_of_prefix hlead hlead' with hwithin | hwithin
  · exact h.apart.1 hwithin
  · exact h.apart.2 hwithin

namespace Router

/-- The router with other routers in it. -/
def withRouters (routers : List Router) (r : Router) : Router := { r with routers }

/-- The router with other routes. -/
def withRoutes (routes : List Route) (r : Router) : Router := { r with routes }

/-! ## Changing places -/

/-- Two routers side by side of which no path leads into both can change places. -/
lemma lookupRouters_swap {first second : Router}
    (h : ∀ path, first.lookup path = none ∨ second.lookup path = none)
    (before after : List Router) (path : String) :
    lookupRouters (before ++ second :: first :: after) path =
      lookupRouters (before ++ first :: second :: after) path := by
  rw [lookupRouters_append, lookupRouters_append]
  simp only [lookupRouters]
  rcases h path with hnone | hnone <;> simp [hnone]

lemma lookupRoutes_swap {first second : Route}
    (h : ∀ path, first.matchable.captures path = none ∨ second.matchable.captures path = none)
    (before after : List Route) (path : String) :
    lookupRoutes path (before ++ second :: first :: after) =
      lookupRoutes path (before ++ first :: second :: after) := by
  rw [lookupRoutes_append, lookupRoutes_append]
  simp only [lookupRoutes]
  rcases h path with hnone | hnone <;> simp [hnone]

lemma mem_swap {α : Type} {before after : List α} {first second x : α} :
    x ∈ before ++ second :: first :: after ↔ x ∈ before ++ first :: second :: after :=
  ((List.Perm.swap first second after).append_left before).mem_iff

section Swap

variable {r node : Router} {place : List Nat} (hr : r.Registered) (h : r.at? place = some node)
include hr h

lemma swap_routers {before after : List Router} {first second : Router} {m n : Matchable}
    (hrouters : node.routers = before ++ first :: second :: after) (hfirst : first.mount = some m)
    (hsecond : second.mount = some n) (hapart : LeadApart m.template n.template) :
    (r.modifyAt (withRouters (before ++ second :: first :: after)) place).Registered ∧
      ∀ path, (r.modifyAt (withRouters (before ++ second :: first :: after)) place).find path =
        r.find path := by
  obtain ⟨around, hnode⟩ := (registered_iff.mp hr).2.exists_at? h
  have hm : m.IsCompiled .leading :=
    ((hnode.inside first (by simp [hrouters])).of_mount hfirst).1
  have hn : n.IsCompiled .leading :=
    ((hnode.inside second (by simp [hrouters])).of_mount hsecond).1
  have hnever (path : String) : first.lookup path = none ∨ second.lookup path = none := by
    obtain ⟨_, _, _, _⟩ := first
    obtain ⟨_, _, _, _⟩ := second
    obtain rfl := hfirst
    obtain rfl := hsecond
    refine (hapart.captures hm hn path).imp ?_ ?_ <;>
    · intro hnone
      simp [lookup, enterMount, hnone]
  refine registered_modifyAt hr h rfl ?_ ?_
  · intro outer hbuilt
    refine hbuilt.refill ?_ ?_ hbuilt.routes
    · intro inner hinner
      exact hbuilt.mounted inner (hrouters ▸ mem_swap.mp hinner)
    · intro inner hinner
      exact hbuilt.inside inner (hrouters ▸ mem_swap.mp hinner)
  · apply lookup_congr
    · rfl
    · intro rest
      rw [hrouters, withRouters, lookupRouters_swap hnever]

lemma swap_routes {before after : List Route} {first second : Route}
    (hroutes : node.routes = before ++ first :: second :: after)
    (hapart : LeadApart first.matchable.template second.matchable.template) :
    (r.modifyAt (withRoutes (before ++ second :: first :: after)) place).Registered ∧
      ∀ path, (r.modifyAt (withRoutes (before ++ second :: first :: after)) place).find path =
        r.find path := by
  obtain ⟨around, hnode⟩ := (registered_iff.mp hr).2.exists_at? h
  have hnever := hapart.captures (hnode.routes first (by simp [hroutes])).compiled
    (hnode.routes second (by simp [hroutes])).compiled
  refine registered_modifyAt hr h rfl ?_ ?_
  · intro outer hbuilt
    refine hbuilt.refill hbuilt.mounted hbuilt.inside ?_
    intro route hroute
    exact hbuilt.routes route (hroutes ▸ mem_swap.mp hroute)
  · apply lookup_congr
    · rfl
    · intro rest
      rw [hroutes, withRoutes, lookupRoutes_swap hnever]

end Swap

/-- Two routers that stand side by side anywhere in a tree can change places, and so can two routes,
if their templates are plain and neither begins with the literal text that the other begins with,
whatever else there is in the tree: the tree is still one that can be built, and it finds for each
path the same route with the same parameters. -/
theorem find_swap {r node : Router} {place : List Nat} (hr : r.Registered)
    (h : r.at? place = some node) :
    (∀ before first second after m n, node.routers = before ++ first :: second :: after →
      first.mount = some m → second.mount = some n → LeadApart m.template n.template →
      (r.modifyAt (withRouters (before ++ second :: first :: after)) place).Registered ∧
        ∀ path, (r.modifyAt (withRouters (before ++ second :: first :: after)) place).find path =
          r.find path) ∧
    ∀ before first second after, node.routes = before ++ first :: second :: after →
      LeadApart first.matchable.template second.matchable.template →
      (r.modifyAt (withRoutes (before ++ second :: first :: after)) place).Registered ∧
        ∀ path, (r.modifyAt (withRoutes (before ++ second :: first :: after)) place).find path =
          r.find path := by
  constructor
  · intro before first second after m n hrouters hfirst hsecond hapart
    exact swap_routers hr h hrouters hfirst hsecond hapart
  · intro before first second after hroutes hapart
    exact swap_routes hr h hroutes hapart

/-- The routers of `groupedTree` can change places, and so can two routes in the first of them. -/
theorem find_swap_groupedTree :
    (∃ first second m n, groupedTree.routers = [] ++ first :: second :: [] ∧
      first.mount = some m ∧ second.mount = some n ∧ LeadApart m.template n.template ∧
      (groupedTree.modifyAt (withRouters ([] ++ second :: first :: [])) []).Registered ∧
      ∀ path, (groupedTree.modifyAt (withRouters ([] ++ second :: first :: [])) []).find path =
        groupedTree.find path) ∧
    ∃ node page help about, groupedTree.at? [0] = some node ∧
      node.routes = [page] ++ help :: about :: [] ∧
      LeadApart help.matchable.template about.matchable.template ∧
      (groupedTree.modifyAt (withRoutes ([page] ++ about :: help :: [])) [0]).Registered ∧
      ∀ path, (groupedTree.modifyAt (withRoutes ([page] ++ about :: help :: [])) [0]).find path =
        groupedTree.find path := by
  have hr : groupedTree.Registered := registered_of_steps _
  constructor
  · have hmounts : groupedTree.routers.map (fun r => r.mount.map Matchable.template) =
        [some "/v1", some "/docs"] := by
      decide +kernel
    obtain ⟨first, rest, hrouters, hfirst, hrest⟩ := List.map_eq_cons_iff.mp hmounts
    obtain ⟨second, rest, rfl, hsecond, hnil⟩ := List.map_eq_cons_iff.mp hrest
    obtain rfl := List.map_eq_nil_iff.mp hnil
    obtain ⟨m, hm, hmtext⟩ := Option.map_eq_some_iff.mp hfirst
    obtain ⟨n, hn, hntext⟩ := Option.map_eq_some_iff.mp hsecond
    have hapart : LeadApart m.template n.template := by
      rw [hmtext, hntext]
      exact ⟨by decide, by decide⟩
    exact ⟨first, second, m, n, hrouters, hm, hn, hapart,
      (find_swap hr rfl).1 [] first second [] m n hrouters hm hn hapart⟩
  · have htemplates : (groupedTree.at? [0]).map (fun node => node.routes.map fun route =>
        route.matchable.template) =
          some ["/\x7bpage\x7d", "/help/\x7btopic\x7d", "/about/\x7btopic\x7d"] := by
      decide +kernel
    obtain ⟨node, hnode, hroutes⟩ := Option.map_eq_some_iff.mp htemplates
    obtain ⟨page, rest, hroutes, -, hrest⟩ := List.map_eq_cons_iff.mp hroutes
    obtain ⟨help, rest, rfl, hhelp, hrest⟩ := List.map_eq_cons_iff.mp hrest
    obtain ⟨about, rest, rfl, habout, hnil⟩ := List.map_eq_cons_iff.mp hrest
    obtain rfl := List.map_eq_nil_iff.mp hnil
    have hapart : LeadApart help.matchable.template about.matchable.template := by
      rw [hhelp, habout]
      exact ⟨by decide, by decide⟩
    exact ⟨node, page, help, about, hnode, hroutes, hapart,
      (find_swap hr hnode).2 [page] help about [] hroutes hapart⟩

end Router

end UriRouting
