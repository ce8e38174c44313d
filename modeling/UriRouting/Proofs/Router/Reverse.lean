import Mathlib.Tactic
import UriRouting.Proofs.Router.Registered
import UriRouting.Proofs.Template.Joined

/-!
# Building a path template by template

A route keeps its full template as a text, in which nothing tells any more where the template of one
router ends and that of the next one begins.  For a tree that has been built this makes no
difference: the placeholders found in the full template are those of the templates on the way down
to the route, in order and each in its place, and a path is built by giving every template its share
of the values (`buildUri_chain`).

So the only fault that can arise is a wrong number of values.  The scan of the full template cannot
fail, since the scan of each of its pieces did not when the piece was compiled.
-/

namespace UriRouting

/-! ## The segments of a compiled template -/

/-- The name in the body of a placeholder: all of it up to the first colon. -/
def Placeholder.nameOf (body : List Char) : String := String.ofList (cut body).1

lemma Placeholder.name_of_ofBody {body : List Char} {p : Placeholder} (h : ofBody body = .ok p) :
    String.ofList p.name = nameOf body := by
  unfold ofBody at h
  simp only at h
  split_ifs at h
  rw [nameOf, ← Except.ok.inj h]

lemma Placeholder.names_of_read {bodies : List (List Char)} {placeholders : List Placeholder}
    (h : List.Forall₂ (fun body p => ofBody body = .ok p) bodies placeholders) :
    (placeholders.map fun p => String.ofList p.name) = bodies.map nameOf := by
  induction h with
  | nil => rfl
  | cons hp _ ih => rw [List.map_cons, List.map_cons, name_of_ofBody hp, ih]

/-- The segments of a compiled template. -/
def Matchable.segments (m : Matchable) : List Segment :=
  (Segment.split m.template.toList).toOption.getD []

section Compiled

variable {m : Matchable} {anchoring : Anchoring} (h : m.IsCompiled anchoring)
include h

lemma Matchable.IsCompiled.segments_spec :
    Segment.split m.template.toList = .ok m.segments ∧
      m.parameters = (Segment.bodies m.segments).map Placeholder.nameOf := by
  obtain ⟨segments, placeholders, hsplit, hread, _, _, _, hparameters, _⟩ :=
    Matchable.compile_eq_ok h
  have hsegments : m.segments = segments := by
    rw [Matchable.segments, hsplit]
    rfl
  refine ⟨hsegments ▸ hsplit, ?_⟩
  rw [hparameters, hsegments, Placeholder.names_of_read hread]

end Compiled

/-! ## Chains of templates -/

/-- The segments of several templates written one after the other. -/
def chainSegments (chain : List Matchable) : List Segment :=
  chain.foldr (fun m rest => Segment.glue m.segments rest) [.literal []]

/-- The placeholders of several templates, of which the first begins at a byte offset and each other
one where the one before it ends. -/
def locatedAlong (offset : Nat) : List Matchable → Except BraceFault (List Segment.Located)
  | [] => .ok []
  | m :: rest => do
    let own ← Segment.locate m.template.toList
    let others ← locatedAlong (offset + Utf8.byteLength m.template.toList) rest
    return own.map (.shift offset) ++ others

/-- How many parameters several templates have. -/
def parameterCount (chain : List Matchable) : Nat := (chain.map fun m => m.parameters.length).sum

/-- The values shared out among several templates, as many to each as it has parameters. -/
def shares : List Matchable → List String → List (Matchable × List String)
  | [], _ => []
  | m :: rest, values =>
    (m, values.take m.parameters.length) :: shares rest (values.drop m.parameters.length)

section Chain

variable {chain : List Matchable} (h : ∀ m ∈ chain, ∃ anchoring, m.IsCompiled anchoring)
include h

lemma split_chain :
    Segment.split (String.join (chain.map Matchable.template)).toList =
      .ok (chainSegments chain) := by
  induction chain with
  | nil => rfl
  | cons m chain ih =>
    obtain ⟨⟨_, hm⟩, hchain⟩ := List.forall_mem_cons.mp h
    have hrest := ih hchain
    rw [List.map_cons, String.join_cons, String.toList_append]
    exact Segment.split_append hm.segments_spec.1 hrest

lemma names_chain :
    (Segment.bodies (chainSegments chain)).map Placeholder.nameOf =
      chain.flatMap Matchable.parameters := by
  induction chain with
  | nil => rfl
  | cons m chain ih =>
    obtain ⟨⟨_, hm⟩, hchain⟩ := List.forall_mem_cons.mp h
    have hrest := ih hchain
    change (Segment.bodies (Segment.glue m.segments (chainSegments chain))).map _ = _
    rw [Segment.bodies_glue, List.map_append, hrest, ← hm.segments_spec.2]
    rfl

lemma length_bodies_chain :
    (Segment.bodies (chainSegments chain)).length = parameterCount chain := by
  have hnames := congrArg List.length (names_chain h)
  rw [List.length_map, List.length_flatMap] at hnames
  exact hnames

/-- Each template stands where it was written. -/
lemma locatedAlong_eq (offset : Nat) :
    ∃ places, Segment.locate (String.join (chain.map Matchable.template)).toList = .ok places ∧
      locatedAlong offset chain = .ok (places.map (.shift offset)) := by
  induction chain generalizing offset with
  | nil => exact ⟨[], rfl, rfl⟩
  | cons m chain ih =>
    obtain ⟨⟨_, hm⟩, hchain⟩ := List.forall_mem_cons.mp h
    obtain ⟨places, hplaces, hrest⟩ := ih hchain (offset + Utf8.byteLength m.template.toList)
    have hown : Segment.locate m.template.toList = .ok (Segment.locateFrom 0 m.segments) := by
      rw [Segment.locate, hm.segments_spec.1]
      rfl
    refine ⟨Segment.locateFrom 0 m.segments ++
      places.map (.shift (Utf8.byteLength m.template.toList)), ?_, ?_⟩
    · rw [List.map_cons, String.join_cons, String.toList_append]
      exact Segment.locate_append hown hplaces
    · have hshift : Segment.Located.shift offset ∘
          Segment.Located.shift (Utf8.byteLength m.template.toList) =
            Segment.Located.shift (offset + Utf8.byteLength m.template.toList) :=
        funext (Segment.Located.shift_shift offset _)
      rw [locatedAlong, hown, hrest, List.map_append, List.map_map, hshift]
      rfl

/-- Every template is filled with its share of the values. -/
lemma fill_chain {values : List String} (hcount : values.length = parameterCount chain) :
    ∃ texts, List.Forall₂ (fun share text => share.1.buildUri share.2 = .ok text)
        (shares chain values) texts ∧
      String.ofList (Segment.fill (chainSegments chain) values) = String.join texts := by
  induction chain generalizing values with
  | nil =>
    obtain rfl : values = [] := List.eq_nil_of_length_eq_zero hcount
    exact ⟨[], .nil, rfl⟩
  | cons m chain ih =>
    obtain ⟨⟨_, hm⟩, hchain⟩ := List.forall_mem_cons.mp h
    obtain ⟨hsplit, hparameters⟩ := hm.segments_spec
    have hsum : parameterCount (m :: chain) = m.parameters.length + parameterCount chain := rfl
    have hbodies : (Segment.bodies m.segments).length = m.parameters.length := by
      rw [hparameters, List.length_map]
    have hown : (values.take m.parameters.length).length = (Segment.bodies m.segments).length := by
      rw [List.length_take]
      omega
    have hothers : (values.drop m.parameters.length).length = parameterCount chain := by
      rw [List.length_drop]
      omega
    obtain ⟨texts, hbuilt, hjoin⟩ := ih hchain hothers
    refine ⟨String.ofList (Segment.fill m.segments (values.take m.parameters.length)) :: texts,
      .cons ?_ hbuilt, ?_⟩
    · simp only [Matchable.buildUri, buildUri, hsplit, hown, ne_eq, not_true_eq_false, if_false]
    · have hrest : (values.drop m.parameters.length).length =
          (Segment.bodies (chainSegments chain)).length := by
        rw [hothers, length_bodies_chain hchain]
      have hfill := Segment.fill_glue hown hrest
      rw [List.take_append_drop] at hfill
      change String.ofList (Segment.fill (Segment.glue m.segments (chainSegments chain)) values) = _
      rw [hfill, String.ofList_append, hjoin, String.join_cons]

end Chain

namespace Router

/-- The scan of a full template cuts it into the segments of the templates that it is made of. -/
lemma Registered.split_fullTemplate {r : Router} (hr : r.Registered) {e : Entry}
    (he : e ∈ r.searchOrder) :
    Segment.split e.route.fullTemplate.toList = .ok (chainSegments e.chain) := by
  rw [hr.fullTemplate_eq he]
  exact split_chain (hr.isCompiled he)

/-- The placeholders of a full template are those of the templates on the way down to the route, in
order and each where it stands in its own template.  A path is built from as many values as these
templates have parameters, and from no other number of them; it consists of what the templates build
one after the other, each from its share of the values. -/
theorem buildUri_chain {r : Router} (hr : r.Registered) {e : Entry} (he : e ∈ r.searchOrder)
    (values : List String) :
    (∃ places, Segment.locate e.route.fullTemplate.toList = .ok places ∧
      locatedAlong 0 e.chain = .ok places) ∧
    (values.length ≠ parameterCount e.chain → e.route.buildUri values =
      .error (.parameterCount e.route.fullTemplate (parameterCount e.chain) values.length)) ∧
    (values.length = parameterCount e.chain → ∃ texts,
      List.Forall₂ (fun share text => share.1.buildUri share.2 = .ok text)
        (shares e.chain values) texts ∧
      e.route.buildUri values = .ok (String.join texts)) := by
  have hcompiled := hr.isCompiled he
  have hsplit := hr.split_fullTemplate he
  have hbodies := length_bodies_chain hcompiled
  refine ⟨?_, ?_, ?_⟩
  · obtain ⟨places, hplaces, halong⟩ := locatedAlong_eq hcompiled 0
    refine ⟨places, ?_, ?_⟩
    · rw [hr.fullTemplate_eq he]
      exact hplaces
    · rw [halong, List.map_id'' Segment.Located.shift_zero]
  · intro hcount
    simp only [Route.buildUri, UriRouting.buildUri, hsplit, hbodies, ne_eq, hcount.symm,
      not_false_eq_true, if_true]
  · intro hcount
    obtain ⟨texts, hbuilt, hjoin⟩ := fill_chain hcompiled hcount
    refine ⟨texts, hbuilt, ?_⟩
    simp only [Route.buildUri, UriRouting.buildUri, hsplit, hbodies, hcount, ne_eq,
      not_true_eq_false, if_false, hjoin]

/-- Steps that mount two routers and add a route to the inner one.  The second step and the last one
fail. -/
def versionedSteps : List Builder.Step :=
  [.enter "/api/\x7bversion:v[0-9]\x7b1,2\x7d\x7d", .addRoute "/\x7bbroken" "lost" [],
    .enter "/users/\x7bid:[0-9]+\x7d", .addRoute "/posts/\x7bslug\x7d" "post" ["post"], .leave,
    .leave, .leave]

/-- The tree of `versionedSteps`. -/
def versionedTree : Router := (versionedSteps.foldl Builder.after Builder.start).root

/-- The only route of `versionedTree` has a placeholder of its own and two of the routers around it;
one of them has braces in its sub-pattern. -/
theorem buildUri_chain_versionedTree : ∃ e ∈ versionedTree.searchOrder,
    (∃ places, Segment.locate e.route.fullTemplate.toList = .ok places ∧
      locatedAlong 0 e.chain = .ok places) ∧
    e.route.buildUri ["v1", "7"] = .error (.parameterCount e.route.fullTemplate 3 2) ∧
    ∃ texts, List.Forall₂ (fun share text => share.1.buildUri share.2 = .ok text)
        (shares e.chain ["v1", "7", "hello"]) texts ∧
      e.route.buildUri ["v1", "7", "hello"] = .ok (String.join texts) := by
  have hr : versionedTree.Registered := registered_of_steps versionedSteps
  obtain ⟨e, horder⟩ : ∃ e, versionedTree.searchOrder = [e] :=
    List.length_eq_one_iff.mp (by decide +kernel)
  have he : e ∈ versionedTree.searchOrder := by simp [horder]
  have hcounts : ∀ e ∈ versionedTree.searchOrder, parameterCount e.chain = 3 := by decide +kernel
  have hcount := hcounts e he
  obtain ⟨hplaces, hfew, _⟩ := buildUri_chain hr he ["v1", "7"]
  obtain ⟨_, _, hall⟩ := buildUri_chain hr he ["v1", "7", "hello"]
  rw [hcount] at hfew hall
  exact ⟨e, he, hplaces, hfew (by decide), hall rfl⟩

end Router

end UriRouting
