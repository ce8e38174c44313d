import Mathlib.Tactic
import UriRouting.Proofs.Router.OneShot
import UriRouting.Proofs.Template.Joined

/-!
# Back from a lookup to the path

What a lookup has bound is enough to build the path again (`buildUri_of_find`), as long as the
templates on the way to the route consist of literal text and of placeholders without sub-patterns.
Such placeholders may touch each other, and then a template can share out its part of the path among
them in several ways.  Whichever way it takes, the tokens of the template filled with the values
make up what it took of the path, and it left the rest to the templates inside it.

Nothing is said of how the values are chosen, so this needs no condition on where slashes stand.
-/

namespace UriRouting

/-- Plain templates of which each is found in what the one before it left, the last one up to the
end, share out the path: the tokens of all of them, filled with what they bind, make it up. -/
theorem exists_fill_of_layersAlong {mounts : List Matchable} {last : Matchable}
    (hmounts : ∀ m ∈ mounts, m.IsCompiled .leading) (hlast : last.IsCompiled .full)
    (hplain : ∀ m ∈ mounts ++ [last], IsPlain m.template) {path : String}
    {layers : List (List (String × String))}
    (h : layersAlong (mounts ++ [last]) path = some layers) :
    ∃ f : Fit, layers.flatten = Token.bindings (chainTokens (mounts ++ [last])) f ∧
      f.values.length = (Token.names (chainTokens (mounts ++ [last]))).length ∧
      path.toList = Token.fill (chainTokens (mounts ++ [last])) f.values := by
  induction mounts generalizing path layers with
  | nil =>
    have hone : IsPlain last.template := hplain last (by simp)
    have htokens : chainTokens [last] = tokensOf last.template := by simp [chainTokens]
    obtain ⟨hit, inner, hhit, hinner, rfl⟩ := layersAlong_cons h
    obtain rfl := Option.some.inj hinner
    rw [captures_of_isCompiled hone hlast] at hhit
    obtain ⟨f, hf, rfl⟩ := Option.map_eq_some_iff.mp hhit
    obtain ⟨hfill, hlength, _, hend⟩ := Token.fit_spec hf
    rw [hend rfl, List.append_nil] at hfill
    rw [List.nil_append, htokens]
    refine ⟨f, ?_, hlength, hfill⟩
    rw [List.flatten_cons, captured_of_isCompiled hone hlast hf, List.flatten_nil, List.append_nil]
  | cons m mounts ih =>
    obtain ⟨hm, hmounts⟩ := List.forall_mem_cons.mp hmounts
    rw [List.cons_append] at hplain h ⊢
    obtain ⟨hone, hrest⟩ := List.forall_mem_cons.mp hplain
    have htokens : chainTokens (m :: (mounts ++ [last])) =
        tokensOf m.template ++ chainTokens (mounts ++ [last]) := rfl
    obtain ⟨hit, inner, hhit, hinner, rfl⟩ := layersAlong_cons h
    rw [captures_of_isCompiled hone hm] at hhit
    obtain ⟨f, hf, rfl⟩ := Option.map_eq_some_iff.mp hhit
    obtain ⟨hfill, hlength, _, _⟩ := Token.fit_spec hf
    -- The others share out what the first template left.
    obtain ⟨g, hflatten, hcount, hleft⟩ := ih hmounts hrest hinner
    rw [String.toList_ofList] at hleft
    refine ⟨f.andThen g, ?_, ?_, ?_⟩
    · rw [List.flatten_cons, captured_of_isCompiled hone hm hf, hflatten, htokens,
        bindings_andThen hlength]
    · rw [htokens, Token.names_append, List.length_append, Fit.andThen, List.length_append,
        hlength, hcount]
    · rw [htokens, Fit.andThen, Token.fill_append hlength, hfill, hleft]

namespace Router

/-- Every template on the way to a route of the tree is plain. -/
def AllPlain (r : Router) : Prop := ∀ e ∈ r.searchOrder, ∀ m ∈ e.chain, IsPlain m.template

/-- The values that a lookup binds, in the order of the placeholders of the route, build the path
that was looked up, if no two of these placeholders have one name. -/
theorem buildUri_of_find {r : Router} (hr : r.Registered) (hplain : r.AllPlain) {path : String}
    {found : Found} (h : (r.find path).value = some found)
    (hnames : (placeholderNames found.route.fullTemplate).Nodup) :
    ∃ values, (placeholderNames found.route.fullTemplate).map found.params.get? =
      values.map some ∧ found.route.buildUri values = .ok path := by
  rw [value_find, lookup_eq_findSome?] at h
  obtain ⟨e, he, hfound⟩ := List.exists_of_findSome?_eq_some h
  obtain ⟨layers, hlayers, rfl⟩ := Option.map_eq_some_iff.mp hfound
  have hcoherent := hr.coherent.entries e he
  obtain ⟨f, hflatten, hlength, hfill⟩ :=
    exists_fill_of_layersAlong hcoherent.mounts hcoherent.route (hplain e he) hlayers
  obtain ⟨hfull, htokens⟩ := hr.isPlain_fullTemplate he (hplain e he)
  have hchain : e.chain = e.mounts ++ [e.route.matchable] := rfl
  rw [← hchain, ← htokens] at hflatten hlength hfill
  obtain ⟨segments, hsplit⟩ := hfull.1
  refine ⟨f.values.map String.ofList, ?_, ?_⟩
  · have hcount : (f.values.map String.ofList).length =
        (placeholderNames e.route.fullTemplate).length := by
      rw [placeholderNames, List.length_map, List.length_map, hlength]
    rw [hflatten]
    exact Parameters.map_get?_bind hnames hcount
  · have hbodies : (f.values.map String.ofList).length = (Segment.bodies segments).length := by
      rw [List.length_map, hlength, tokensOf_of_split hsplit, Segment.names_tokens]
    have hvalues : (f.values.map String.ofList).map String.toList = f.values := by
      simp
    have huri : String.ofList (Segment.fill segments (f.values.map String.ofList)) = path := by
      rw [Segment.fill_eq_fill_tokens segments _ hbodies, ← tokensOf_of_split hsplit, hvalues,
        ← hfill, String.ofList_toList]
    simp only [Route.buildUri, UriRouting.buildUri, hsplit, hbodies, ne_eq, not_true_eq_false,
      if_false, huri]

/-- Mounts and a route whose placeholders touch each other and texts of several bytes. -/
def touchingTree : Router :=
  ([Builder.Step.enter "/\x7ba\x7d\x7bb\x7d-", .enter "\x7bc\x7d/",
    .addRoute "é\x7bd\x7d\x7be\x7d" "touch" []].foldl Builder.after Builder.start).root

/-- Both `a` and `b` could have taken less or more of `x-yz`. -/
theorem buildUri_of_find_touchingTree : touchingTree.AllPlain ∧
    ∃ found, (touchingTree.find "/x-yz-ü/éß1").value = some found ∧
      (placeholderNames found.route.fullTemplate).Nodup ∧
      ∃ values, (placeholderNames found.route.fullTemplate).map found.params.get? =
        values.map some ∧ found.route.buildUri values = .ok "/x-yz-ü/éß1" := by
  have hr : touchingTree.Registered := registered_of_steps _
  have hplain : touchingTree.AllPlain := by
    have h : ∀ e ∈ touchingTree.searchOrder, ∀ m ∈ e.chain, IsPlain m.template := by
      decide +kernel
    exact h
  obtain ⟨found, hfind⟩ : ∃ found, (touchingTree.find "/x-yz-ü/éß1").value = some found :=
    Option.isSome_iff_exists.mp (by decide +kernel)
  have hdistinct : ((touchingTree.find "/x-yz-ü/éß1").value.all fun found =>
      (placeholderNames found.route.fullTemplate).Nodup) = true := by
    decide +kernel
  rw [hfind, Option.all_some, decide_eq_true_iff] at hdistinct
  exact ⟨hplain, found, hfind, hdistinct, buildUri_of_find hr hplain hfind hdistinct⟩

end Router

end UriRouting
