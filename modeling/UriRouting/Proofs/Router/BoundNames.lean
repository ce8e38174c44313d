import Mathlib.Tactic
import UriRouting.Proofs.Router.Reverse

/-!
# The names that a lookup binds

A lookup merges what the templates on the way down to a route have captured, while the names of the
route can be read off its full template alone.  Both give the same names (`names_of_find`): each
template binds all of its parameters whenever it is found, whether their groups took part in the
match or not, and branches that failed leave nothing behind.

All values are pieces of the path.  A placeholder whose group took no part has the empty text, which
is what its name is bound to unless a later placeholder of that name binds it anew.
-/

namespace UriRouting

/-- The names of the placeholders in a template, in order; none if its braces are not in order. -/
def declaredNames (template : String) : List String :=
  match Segment.split template.toList with
  | .ok segments => (Segment.bodies segments).map Placeholder.nameOf
  | .error _ => []

/-- Did the group take part in the match?  Then both of its ends are marked. -/
def Trail.tookPart (trail : Trail) (index : Nat) : Bool :=
  (trail.last? (2 * index)).isSome && (trail.last? (2 * index + 1)).isSome

/-! ## What one template binds -/

lemma Trail.groupText_infix (trail : Trail) (text : List Char) (index : Nat) :
    trail.groupText text index <:+: text := by
  unfold groupText
  split
  · exact (List.take_prefix _ _).isInfix.trans (List.drop_suffix _ _).isInfix
  · exact List.nil_infix

lemma Trail.groupText_of_tookPart {trail : Trail} {index : Nat}
    (h : trail.tookPart index = false) (text : List Char) : trail.groupText text index = [] := by
  unfold groupText
  split
  next start stop hstart hstop => simp [tookPart, hstart, hstop] at h
  next => rfl

namespace Matchable

variable {m : Matchable} {path : String}

/-- What a template binds are pieces of the text that it was searched in. -/
lemma captured_infix {e : String × String} (h : e ∈ m.captured path) :
    e.2.toList <:+: path.toList := by
  cases htrail : m.search path.toList with
  | none => simp [captured, htrail] at h
  | some trail =>
    rw [captured_of_search htrail] at h
    obtain ⟨_, hvalue⟩ := List.of_mem_zip h
    obtain ⟨i, _, hi⟩ := List.mem_map.mp hvalue
    rw [← hi, String.toList_ofList]
    exact trail.groupText_infix path.toList (i + 1)

lemma remainder_suffix {hit : PathMatch} (h : m.captures path = some hit) :
    hit.remainder.toList <:+ path.toList := by
  obtain ⟨trail, _, hrest⟩ := search_of_captures h
  rw [hrest, String.toList_ofList]
  exact List.drop_suffix _ _

/-- A placeholder whose group took no part is bound to the empty text, in its place among the
others. -/
lemma captured_of_tookPart {trail : Trail} (htrail : m.search path.toList = some trail) {i : Nat}
    {name : String} (hname : m.parameters[i]? = some name)
    (hpart : trail.tookPart (i + 1) = false) :
    ∃ before after, m.captured path = before ++ (name, "") :: after ∧
      after.map Prod.fst = m.parameters.drop (i + 1) := by
  have hempty : trail.groupText path.toList (i + 1) = [] := Trail.groupText_of_tookPart hpart _
  have hi : i < m.parameters.length := (List.getElem?_eq_some_iff.mp hname).1
  set values := (List.range m.parameters.length).map fun i =>
    String.ofList (trail.groupText path.toList (i + 1)) with hvalues
  have hvalue : values[i]? = some "" := by
    simp [hvalues, hi, hempty]
  have hentry : (m.parameters.zip values)[i]? = some (name, "") := by
    rw [List.getElem?_zip_eq_some]
    exact ⟨hname, hvalue⟩
  obtain ⟨hlt, hget⟩ := List.getElem?_eq_some_iff.mp hentry
  refine ⟨(m.parameters.zip values).take i, (m.parameters.zip values).drop (i + 1), ?_, ?_⟩
  · rw [captured_of_search htrail, ← hvalues, ← hget, ← List.drop_eq_getElem_cons hlt,
      List.take_append_drop]
  · rw [List.map_drop, List.map_fst_zip (by simp [hvalues])]

end Matchable

/-! ## What a chain of templates binds -/

/-- What several templates, each searched in what the one before it left, leave of a path. -/
def remainderAlong : List Matchable → String → Option String
  | [], path => some path
  | m :: rest, path => (m.captures path).bind fun hit => remainderAlong rest hit.remainder

section Layers

variable {chain : List Matchable} {path : String} {layers : List (List (String × String))}

lemma names_layersAlong (h : layersAlong chain path = some layers) :
    layers.flatten.map Prod.fst = chain.flatMap Matchable.parameters := by
  induction chain generalizing path layers with
  | nil =>
    obtain rfl := Option.some.inj h
    rfl
  | cons m chain ih =>
    obtain ⟨hit, inner, hhit, hinner, rfl⟩ := layersAlong_cons h
    have hrest := ih hinner
    rw [List.flatten_cons, List.map_append, hrest, Matchable.names_captured hhit,
      List.flatMap_cons]

lemma layersAlong_infix (h : layersAlong chain path = some layers) {e : String × String}
    (he : e ∈ layers.flatten) : e.2.toList <:+: path.toList := by
  induction chain generalizing path layers with
  | nil =>
    obtain rfl := Option.some.inj h
    cases he
  | cons m chain ih =>
    obtain ⟨hit, inner, hhit, hinner, rfl⟩ := layersAlong_cons h
    rw [List.flatten_cons, List.mem_append] at he
    rcases he with he | he
    · exact Matchable.captured_infix he
    · exact (ih hinner he).trans (Matchable.remainder_suffix hhit).isInfix

/-- What a template of the chain binds stands between what those before it and those behind it
bind. -/
lemma layersAlong_split {before after : List Matchable} {m : Matchable} {rest : String}
    (h : layersAlong (before ++ m :: after) path = some layers)
    (hrest : remainderAlong before path = some rest) :
    ∃ outer inner, layers.flatten = outer ++ m.captured rest ++ inner ∧
      inner.map Prod.fst = after.flatMap Matchable.parameters := by
  induction before generalizing path layers with
  | nil =>
    obtain rfl := Option.some.inj hrest
    obtain ⟨hit, inner, _, hinner, rfl⟩ := layersAlong_cons h
    exact ⟨[], inner.flatten, rfl, names_layersAlong hinner⟩
  | cons first before ih =>
    obtain ⟨hit, inner, hhit, hinner, rfl⟩ := layersAlong_cons h
    rw [remainderAlong, hhit, Option.bind_some] at hrest
    obtain ⟨outer, behind, hflat, hnames⟩ := ih hinner hrest
    refine ⟨first.captured path ++ outer, behind, ?_, hnames⟩
    rw [List.flatten_cons, hflat]
    simp only [List.append_assoc]

end Layers

namespace Router

/-- The names that are read off a full template are those of the templates on the way down to its
route. -/
lemma declaredNames_fullTemplate {r : Router} (hr : r.Registered) {e : Entry}
    (he : e ∈ r.searchOrder) :
    declaredNames e.route.fullTemplate = e.chain.flatMap Matchable.parameters := by
  rw [declaredNames, hr.split_fullTemplate he]
  exact names_chain (hr.isCompiled he)

/-- The full template of the route that a lookup finds can be scanned.  The lookup binds the names
in it and no others, and all values are pieces of the path.  Where the group of a placeholder took
no part in the match, the name is bound to the empty text, unless it is also the name of a later
placeholder of the same template or of one that stands further in. -/
theorem names_of_find {r : Router} (hr : r.Registered) {path : String} {found : Found}
    (h : (r.find path).value = some found) :
    (∃ segments, Segment.split found.route.fullTemplate.toList = .ok segments) ∧
    (∀ name, name ∈ found.params.names ↔ name ∈ declaredNames found.route.fullTemplate) ∧
    (∀ name value, found.params.get? name = some value → value.toList <:+: path.toList) ∧
    ∃ e ∈ r.searchOrder, e.found? path = some found ∧
      ∀ before m after rest trail i name, e.chain = before ++ m :: after →
        remainderAlong before path = some rest → m.search rest.toList = some trail →
        m.parameters[i]? = some name → trail.tookPart (i + 1) = false →
        name ∉ m.parameters.drop (i + 1) ++ after.flatMap Matchable.parameters →
        found.params.get? name = some "" := by
  rw [value_find, lookup_eq_findSome?] at h
  obtain ⟨e, he, hfound⟩ := List.exists_of_findSome?_eq_some h
  obtain ⟨layers, hlayers, rfl⟩ := Option.map_eq_some_iff.mp hfound
  refine ⟨⟨chainSegments e.chain, hr.split_fullTemplate he⟩, ?_, ?_, e, he, hfound, ?_⟩
  · intro name
    have hnames := names_layersAlong hlayers
    rw [Parameters.mem_names_bindAll, hnames]
    exact iff_of_eq (congrArg (name ∈ ·) (declaredNames_fullTemplate hr he).symm)
  · intro name value hvalue
    rw [Parameters.get?_bindAll] at hvalue
    exact layersAlong_infix hlayers (Parameters.mem_of_lastValue hvalue)
  · intro before m after rest trail i name hchain hrest htrail hname hpart hlater
    rw [Entry.layers?, hchain] at hlayers
    obtain ⟨outer, inner, hflat, hinner⟩ := layersAlong_split hlayers hrest
    obtain ⟨first, last, hcaptured, hlast⟩ := Matchable.captured_of_tookPart htrail hname hpart
    have hsplit : layers.flatten = (outer ++ first) ++ (name, "") :: (last ++ inner) := by
      rw [hflat, hcaptured]
      simp only [List.append_assoc, List.cons_append]
    have hfree : name ∉ (last ++ inner).map Prod.fst := by
      rw [List.map_append, hlast, hinner]
      exact hlater
    rw [Parameters.get?_bindAll, hsplit, Parameters.lastValue_of_last hfree]

/-- A tree with one route, whose template has a placeholder in the second one of two branches. -/
def branchedTree : Router :=
  ([Builder.Step.enter "/\x7ba\x7d", .addRoute "/x|/\x7bb\x7d" "branches" []].foldl
    Builder.after Builder.start).root

/-- The path takes the first branch, in which the placeholder `b` has no part. -/
theorem names_of_find_branchedTree : ∃ found, (branchedTree.find "/q/x").value = some found ∧
    (∃ segments, Segment.split found.route.fullTemplate.toList = .ok segments) ∧
    (∀ name, name ∈ found.params.names ↔ name ∈ declaredNames found.route.fullTemplate) ∧
    (∀ name value, found.params.get? name = some value → value.toList <:+: "/q/x".toList) ∧
    found.params.get? "b" = some "" := by
  have hr : branchedTree.Registered := registered_of_steps _
  obtain ⟨found, hfind⟩ : ∃ found, (branchedTree.find "/q/x").value = some found :=
    Option.isSome_iff_exists.mp (by decide +kernel)
  obtain ⟨hscan, hnames, hvalues, e, he, _, hempty⟩ := names_of_find hr hfind
  -- The prefix leaves `/x`, which the route matches without a part for its only placeholder.
  have hentries : ∀ e ∈ branchedTree.searchOrder, remainderAlong e.mounts "/q/x" = some "/x" ∧
      e.route.matchable.parameters = ["b"] ∧
      (e.route.matchable.search "/x".toList).map (Trail.tookPart · 1) = some false := by
    decide +kernel
  obtain ⟨hrest, hparameters, hpart⟩ := hentries e he
  obtain ⟨trail, htrail, hpart⟩ := Option.map_eq_some_iff.mp hpart
  have hname : e.route.matchable.parameters[0]? = some "b" := by
    rw [hparameters]
    rfl
  have hlast : "b" ∉ e.route.matchable.parameters.drop 1 ++ [] := by
    rw [hparameters]
    decide
  exact ⟨found, hfind, hscan, hnames, hvalues,
    hempty e.mounts e.route.matchable [] "/x" trail 0 "b" rfl hrest htrail hname hpart hlast⟩

end Router

end UriRouting
