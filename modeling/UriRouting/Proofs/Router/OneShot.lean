import Mathlib.Tactic
import UriRouting.Proofs.Router.Registered
import UriRouting.Proofs.Template.Plain

/-!
# Trees of slash-separated templates

A lookup commits to what each router takes of a path and never turns back into it, while the full
template of a route might share the path out among its placeholders in another way.  Where all
templates are slash-separated there is one way only: the templates on the way down to a route
capture one after the other what its full template captures at once (`found?_eq_captures_full`).

So a path that is built for a route leads back to it, unless an earlier route takes it, and the
values it was built from are found again (`find_buildUri`).
-/

namespace UriRouting

/-! ## Chains of templates -/

/-- The tokens of several templates one after the other. -/
def chainTokens (chain : List Matchable) : List Token := chain.flatMap fun m => tokensOf m.template

lemma isPlain_join {chain : List Matchable} (h : ∀ m ∈ chain, IsPlain m.template) :
    IsPlain (String.join (chain.map Matchable.template)) ∧
      tokensOf (String.join (chain.map Matchable.template)) = chainTokens chain := by
  induction chain with
  | nil => exact ⟨⟨⟨_, rfl⟩, rfl⟩, rfl⟩
  | cons m chain ih =>
    obtain ⟨hm, hchain⟩ := List.forall_mem_cons.mp h
    obtain ⟨hjoin, htokens⟩ := ih hchain
    rw [List.map_cons, String.join_cons]
    refine ⟨hm.append hjoin, ?_⟩
    rw [hm.tokensOf_append hjoin, htokens]
    rfl

lemma slashSeparated_join {chain : List Matchable} (h : ∀ m ∈ chain, SlashSeparated m.template) :
    SlashSeparated (String.join (chain.map Matchable.template)) := by
  induction chain with
  | nil => exact ⟨⟨⟨_, rfl⟩, rfl⟩, rfl, rfl⟩
  | cons m chain ih =>
    obtain ⟨hm, hchain⟩ := List.forall_mem_cons.mp h
    rw [List.map_cons, String.join_cons]
    exact hm.append (ih hchain)

lemma Matchable.IsCompiled.eq_ofPlain {m : Matchable} {anchoring : Anchoring}
    (h : m.IsCompiled anchoring) (hplain : IsPlain m.template) :
    m = .ofPlain m.template anchoring := eq_ofPlain_of_compile hplain h

section Plain

variable {m : Matchable} {anchoring : Anchoring} (hplain : IsPlain m.template)
  (h : m.IsCompiled anchoring)
include hplain h

lemma captures_of_isCompiled (path : String) :
    m.captures path =
      (Token.fit (decide (anchoring = .full)) (tokensOf m.template) path.toList).map fun f =>
        ⟨Parameters.bindAll (Token.bindings (tokensOf m.template) f), String.ofList f.rest⟩ := by
  conv_lhs => rw [h.eq_ofPlain hplain]
  exact Matchable.captures_ofPlain _ _ _

lemma captured_of_isCompiled {path : String} {f : Fit}
    (hf : Token.fit (decide (anchoring = .full)) (tokensOf m.template) path.toList = some f) :
    m.captured path = Token.bindings (tokensOf m.template) f := by
  conv_lhs => rw [h.eq_ofPlain hplain]
  exact Matchable.captured_ofPlain hf

end Plain

lemma bindings_andThen {first second : List Token} {f g : Fit}
    (hf : f.values.length = (Token.names first).length) :
    Token.bindings (first ++ second) (f.andThen g) =
      Token.bindings first f ++ Token.bindings second g := by
  simp only [Token.bindings, Token.names_append, Fit.andThen, List.map_append]
  exact List.zip_append (by simpa using hf.symm)

/-- What slash-separated templates capture one after the other is one parse of all their tokens. -/
theorem layersAlong_eq_parse? {mounts : List Matchable} {last : Matchable}
    (hmounts : ∀ m ∈ mounts, m.IsCompiled .leading) (hlast : last.IsCompiled .full)
    (hseparated : ∀ m ∈ mounts ++ [last], SlashSeparated m.template) (path : String) :
    (layersAlong (mounts ++ [last]) path).map List.flatten =
      ((Token.parse? (chainTokens (mounts ++ [last])) path.toList).filter
        fun f => f.rest.isEmpty).map (Token.bindings (chainTokens (mounts ++ [last]))) := by
  induction mounts generalizing path with
  | nil =>
    have hone : SlashSeparated last.template := hseparated last (by simp)
    have htokens : chainTokens [last] = tokensOf last.template := by simp [chainTokens]
    have hfit := Token.fit_eq_parse? hone.2.2 true path.toList
    simp only [Bool.not_true, Bool.false_or] at hfit
    have hcaptures := captures_of_isCompiled hone.1 hlast path
    rw [decide_eq_true (rfl : Anchoring.full = .full)] at hcaptures
    rw [List.nil_append, htokens, layersAlong, hcaptures, ← hfit]
    cases hparse : Token.fit true (tokensOf last.template) path.toList with
    | none => rfl
    | some f => simp [layersAlong, captured_of_isCompiled hone.1 hlast hparse]
  | cons m mounts ih =>
    obtain ⟨hm, hmounts⟩ := List.forall_mem_cons.mp hmounts
    rw [List.cons_append] at hseparated ⊢
    obtain ⟨hone, hrest⟩ := List.forall_mem_cons.mp hseparated
    have htokens : chainTokens (m :: (mounts ++ [last])) =
        tokensOf m.template ++ chainTokens (mounts ++ [last]) := rfl
    have hcaptures := captures_of_isCompiled hone.1 hm path
    rw [decide_eq_false (by decide : Anchoring.leading ≠ .full)] at hcaptures
    rw [layersAlong, hcaptures, htokens, Token.parse?_append,
      ← Token.fit_leading_eq_parse? hone.2.2]
    cases hparse : Token.fit false (tokensOf m.template) path.toList with
    | none => rfl
    | some f =>
      have hflatten := ih hmounts hrest (String.ofList f.rest)
      rw [String.toList_ofList] at hflatten
      have hlength : f.values.length = (Token.names (tokensOf m.template)).length :=
        (Token.fit_spec hparse).2.1
      -- What the first template captured stands in front of what the others do.
      have hlayer : (layersAlong (mounts ++ [last]) (String.ofList f.rest)).map
          (List.flatten ∘ (m.captured path :: ·)) =
          ((layersAlong (mounts ++ [last]) (String.ofList f.rest)).map List.flatten).map
            (m.captured path ++ ·) := by
        rw [Option.map_map]
        rfl
      simp only [Option.map_some, Option.bind_some, Option.map_map]
      rw [hlayer, hflatten, captured_of_isCompiled hone.1 hm hparse]
      cases Token.parse? (chainTokens (mounts ++ [last])) f.rest with
      | none => rfl
      | some g =>
        by_cases hend : g.rest.isEmpty = true
        · simp [Option.filter, hend, Fit.andThen, ← bindings_andThen hlength]
        · simp [Option.filter, hend, Fit.andThen]

/-! ## Trees -/

/-- A full template that consists of plain ones is plain, and asks for what they ask for one after
the other. -/
lemma Router.Registered.isPlain_fullTemplate {r : Router} (hr : r.Registered) {e : Entry}
    (he : e ∈ r.searchOrder) (hplain : ∀ m ∈ e.chain, IsPlain m.template) :
    IsPlain e.route.fullTemplate ∧ tokensOf e.route.fullTemplate = chainTokens e.chain := by
  rw [hr.fullTemplate_eq he]
  exact isPlain_join hplain

/-- Every template on the way to a route of the tree is slash-separated. -/
def Router.AllSlashSeparated (r : Router) : Prop :=
  ∀ e ∈ r.searchOrder, ∀ m ∈ e.chain, SlashSeparated m.template

/-- The names of the placeholders of a template, in order. -/
def placeholderNames (template : String) : List String :=
  (Token.names (tokensOf template)).map String.ofList

namespace Router

section Tree

variable {r : Router} (hr : r.Registered) (hseparated : r.AllSlashSeparated)
include hr hseparated

lemma slashSeparated_fullTemplate {e : Entry} (he : e ∈ r.searchOrder) :
    SlashSeparated e.route.fullTemplate ∧ tokensOf e.route.fullTemplate = chainTokens e.chain := by
  have htokens := (hr.isPlain_fullTemplate he fun m hm => (hseparated e he m hm).1).2
  refine ⟨?_, htokens⟩
  rw [hr.fullTemplate_eq he]
  exact slashSeparated_join (hseparated e he)

/-- The path leads to an entry if it parses as the full template. -/
lemma found?_eq_parse? {e : Entry} (he : e ∈ r.searchOrder) (path : String) :
    e.found? path =
      ((Token.parse? (tokensOf e.route.fullTemplate) path.toList).filter
        fun f => f.rest.isEmpty).map fun f =>
          ⟨e.route, Parameters.bindAll (Token.bindings (tokensOf e.route.fullTemplate) f)⟩ := by
  have hcoherent := hr.coherent.entries e he
  have hlayers := layersAlong_eq_parse? hcoherent.mounts hcoherent.route (hseparated e he) path
  have hfound : e.found? path = ((layersAlong e.chain path).map List.flatten).map
      fun entries => ⟨e.route, Parameters.bindAll entries⟩ := by
    rw [Option.map_map]
    rfl
  rw [hfound, (slashSeparated_fullTemplate hr hseparated he).2]
  change ((layersAlong (e.mounts ++ [e.route.matchable]) path).map List.flatten).map _ = _
  rw [hlayers, Option.map_map]
  rfl

/-- The templates on the way to a route capture one after the other what the full template of the
route captures at once: the same paths, with the same values for the same names. -/
theorem found?_eq_captures_full {e : Entry} (he : e ∈ r.searchOrder)
    (hsize : (Matchable.compile e.route.fullTemplate .full).run.value ≠
      .error (.invalidPattern e.route.fullTemplate .tooLarge)) :
    ∃ m, (Matchable.compile e.route.fullTemplate .full).run.value = .ok m ∧ ∀ path,
      (e.found? path).map Found.params = (m.captures path).map PathMatch.params ∧
        ∀ hit, m.captures path = some hit → hit.remainder = "" := by
  obtain ⟨hfull, _⟩ := slashSeparated_fullTemplate hr hseparated he
  refine ⟨.ofPlain e.route.fullTemplate .full, ?_, fun path => ?_⟩
  · rw [compile_plain hfull.1] at hsize ⊢
    split at hsize
    next hfits => rw [if_pos hfits]
    next => exact absurd rfl hsize
  · have hcaptures := Matchable.captures_ofPlain e.route.fullTemplate .full path
    rw [decide_eq_true (rfl : Anchoring.full = .full), Token.fit_eq_parse? hfull.2.2] at hcaptures
    simp only [Bool.not_true, Bool.false_or] at hcaptures
    constructor
    · rw [found?_eq_parse? hr hseparated he, hcaptures, Option.map_map, Option.map_map]
      rfl
    · intro hit hhit
      rw [hcaptures] at hhit
      obtain ⟨f, hf, rfl⟩ := Option.map_eq_some_iff.mp hhit
      obtain ⟨_, hend⟩ := Option.filter_eq_some_iff.mp hf
      rw [List.isEmpty_iff.mp hend]

end Tree

/-- A table with one route below a router. -/
def postTable : Table :=
  { routers := [{ mount := "/users/{id}", routes := [⟨none, "/posts/{post}", "show_post"⟩] }] }

/-- The tree of `postTable`. -/
def postTree : Router := ((ofTable postTable).run.value.toOption).getD empty

lemma registered_postTree : postTree.Registered := by
  have hok : (ofTable postTable).run.value.toOption.isSome = true := by decide +kernel
  refine .ofTable (?_ : (ofTable postTable).run.value = .ok postTree)
  rw [postTree]
  cases h : (ofTable postTable).run.value with
  | error fault => rw [h] at hok; cases hok
  | ok r => rfl

lemma allSlashSeparated_postTree : postTree.AllSlashSeparated := by
  have h : ∀ e ∈ postTree.searchOrder, ∀ m ∈ e.chain, SlashSeparated m.template := by decide +kernel
  exact h

lemma searchOrder_postTree : ∃ e, postTree.searchOrder = [e] :=
  List.length_eq_one_iff.mp (by decide +kernel)

/-- The route of `postTree` has a full template that captures the same, and a path of its own. -/
theorem found?_eq_captures_full_postTree : ∃ e ∈ postTree.searchOrder,
    (∃ m, (Matchable.compile e.route.fullTemplate .full).run.value = .ok m ∧ ∀ path,
      (e.found? path).map Found.params = (m.captures path).map PathMatch.params ∧
        ∀ hit, m.captures path = some hit → hit.remainder = "") ∧
    (e.found? "/users/7/posts/x").isSome = true := by
  obtain ⟨e, horder⟩ := searchOrder_postTree
  have he : e ∈ postTree.searchOrder := by simp [horder]
  have hcompiles : ∀ e ∈ postTree.searchOrder,
      (Matchable.compile e.route.fullTemplate .full).run.value.toOption.isSome = true := by
    decide +kernel
  have hfound : ∀ e ∈ postTree.searchOrder, (e.found? "/users/7/posts/x").isSome = true := by
    decide +kernel
  refine ⟨e, he, found?_eq_captures_full registered_postTree allSlashSeparated_postTree he ?_,
    hfound e he⟩
  intro h
  have hok := hcompiles e he
  rw [h] at hok
  cases hok

section Tree

variable {r : Router} (hr : r.Registered) (hseparated : r.AllSlashSeparated)
include hr hseparated

/-- A path that is built for a route from texts without a slash leads to this route or to one that
comes before it.  If it leads to this route, then each placeholder name has the value that was given
for the last placeholder of the name. -/
theorem find_buildUri {before after : List Entry} {e : Entry}
    (horder : r.searchOrder = before ++ e :: after) {values : List String}
    (hcount : values.length = (placeholderNames e.route.fullTemplate).length)
    (hvalues : ∀ value ∈ values, value ≠ "" ∧ '/' ∉ value.toList) :
    ∃ uri, e.route.buildUri values = .ok uri ∧ ∃ found, (r.find uri).value = some found ∧
      (∃ b ∈ before ++ [e], found.route = b.route) ∧
      (found.route = e.route → ∀ name, found.params.get? name =
        Parameters.lastValue ((placeholderNames e.route.fullTemplate).zip values) name) := by
  have he : e ∈ r.searchOrder := by simp [horder]
  obtain ⟨hfull, _⟩ := slashSeparated_fullTemplate hr hseparated he
  obtain ⟨segments, hsplit⟩ := hfull.1.1
  have htokens := tokensOf_of_split hsplit
  have hlength : values.length = (Token.names (tokensOf e.route.fullTemplate)).length := by
    simpa [placeholderNames] using hcount
  have hbodies : values.length = (Segment.bodies segments).length := by
    rw [hlength, htokens, Segment.names_tokens]
  set uri := String.ofList (Segment.fill segments values) with huri
  have hbuild : e.route.buildUri values = .ok uri := by
    simp [Route.buildUri, buildUri, hsplit, hbodies, huri]
  -- The path parses as the full template, with the values that it was built from.
  have hparse : Token.parse? (tokensOf e.route.fullTemplate) uri.toList =
      some ⟨values.map String.toList, []⟩ := by
    rw [huri, String.toList_ofList, Segment.fill_eq_fill_tokens segments values hbodies, ← htokens]
    refine Token.parse?_fill hfull.2.2 (by simpa using hlength) ?_
    intro text htext
    obtain ⟨value, hvalue, rfl⟩ := List.mem_map.mp htext
    simpa using hvalues value hvalue
  have hown := found?_eq_parse? hr hseparated he uri
  rw [hparse] at hown
  obtain ⟨found, b, hfind, hb, hfound⟩ : ∃ found b, (r.find uri).value = some found ∧
      b ∈ before ++ [e] ∧ b.found? uri = some found := by
    rw [value_find, lookup_eq_findSome?, horder, List.findSome?_append, List.findSome?_cons, hown]
    cases hbefore : before.findSome? fun b => b.found? uri with
    | none => exact ⟨_, e, rfl, by simp, hown⟩
    | some found =>
      obtain ⟨b, hb, hfound⟩ := List.exists_of_findSome?_eq_some hbefore
      exact ⟨found, b, rfl, List.mem_append_left [e] hb, hfound⟩
  have hbr : b ∈ r.searchOrder := by
    rw [horder]
    simp only [List.mem_append, List.mem_cons] at hb ⊢
    tauto
  rw [found?_eq_parse? hr hseparated hbr] at hfound
  obtain ⟨f, hf, rfl⟩ := Option.map_eq_some_iff.mp hfound
  refine ⟨uri, hbuild, _, hfind, ⟨b, hb, rfl⟩, fun (hsame : b.route = e.route) name => ?_⟩
  -- Routes that are equal have one full template, so the path parses in the same way for both.
  rw [hsame, hparse] at hf
  obtain rfl : (⟨values.map String.toList, []⟩ : Fit) = f := by simpa [Option.filter] using hf
  rw [hsame, Parameters.get?_bindAll, placeholderNames, Token.bindings, List.map_map]
  have hsame : String.ofList ∘ String.toList = id := funext fun _ => String.ofList_toList
  rw [hsame, List.map_id]

end Tree

/-- A path that is built for the route of `postTree` leads back to it. -/
theorem find_buildUri_postTree : ∃ e, postTree.searchOrder = [] ++ e :: [] ∧
    ∃ uri, e.route.buildUri ["7", "x"] = .ok uri ∧ ∃ found, (postTree.find uri).value = some found ∧
      (∃ b ∈ [] ++ [e], found.route = b.route) ∧
      (found.route = e.route → ∀ name, found.params.get? name =
        Parameters.lastValue ((placeholderNames e.route.fullTemplate).zip ["7", "x"]) name) := by
  obtain ⟨e, horder⟩ := searchOrder_postTree
  have hnames : ∀ e ∈ postTree.searchOrder,
      (placeholderNames e.route.fullTemplate).length = 2 := by
    decide +kernel
  refine ⟨e, horder, find_buildUri registered_postTree allSlashSeparated_postTree horder ?_ ?_⟩
  · exact (hnames e (by simp [horder])).symm
  · decide

end Router

end UriRouting
