import Mathlib.Tactic
import UriRouting.Proofs.Template.Grammar
import UriRouting.Proofs.Template.Outcome
import UriRouting.Template.Uri

/-!
# Filling the placeholders of a template

Two things are made of the segments of a template: the expression that it compiles to, and the paths
that are built from it.  Both are the literals with something put between them, in one pass, so that
the text put in is not looked at again, braces or not (`buildUri_eq_interleave`).  The expression is
what the template builds from its sub-patterns in parentheses, between the anchors
(`patternText_eq_fill`), and from the bodies of its own placeholders a template builds itself.
-/

namespace UriRouting

/-- Texts with values between them. -/
def interleave : List String → List String → String
  | text :: texts, value :: values => text ++ value ++ interleave texts values
  | text :: _, [] => text
  | [], _ => ""

namespace Segment

/-- The texts between the placeholders, in order. -/
def literals : List Segment → List String
  | [] => []
  | literal text :: rest => String.ofList text :: literals rest
  | placeholder _ :: rest => literals rest

/-- Where literals and placeholders come in turn, each value is put between two literals. -/
lemma fill_eq_interleave {segments : List Segment} (h : WellFormed segments) {values : List String}
    (hcount : values.length = (bodies segments).length) :
    String.ofList (fill segments values) = interleave (literals segments) values := by
  induction h generalizing values with
  | last htext =>
    obtain rfl : values = [] := List.eq_nil_of_length_eq_zero hcount
    simp [fill, literals, interleave]
  | cons htext hne hbody hrest ih =>
    cases values with
    | nil => simp [bodies] at hcount
    | cons value values =>
      have hothers := ih (by simpa [bodies] using hcount)
      rw [fill, fill, String.ofList_append, String.ofList_append, String.ofList_toList, hothers,
        ← String.append_assoc]
      rfl

/-- The bodies with their braces around them make up the template again. -/
lemma fill_bodies (segments : List Segment) :
    fill segments ((bodies segments).map fun body => "\x7b" ++ String.ofList body ++ "\x7d") =
      join segments := by
  induction segments with
  | nil => rfl
  | cons s rest ih =>
    cases s with
    | literal text => exact congrArg (text ++ ·) ih
    | placeholder body =>
      rw [bodies, List.map_cons, fill, ih]
      simp [join, text]

end Segment

/-! ## Building a path -/

/-- A path is built from a template with braces in order and a value for each placeholder. -/
lemma buildUri_of_split {template : String} {segments : List Segment} {values : List String}
    (hsplit : Segment.split template.toList = .ok segments)
    (hcount : values.length = (Segment.bodies segments).length) :
    buildUri template values = .ok (String.ofList (Segment.fill segments values)) := by
  simp only [buildUri, hsplit, hcount, ne_eq, not_true_eq_false, if_false]

lemma exists_buildUri_iff {template : String} {values : List String} :
    (∃ uri, buildUri template values = .ok uri) ↔
      ∃ segments, Segment.split template.toList = .ok segments ∧
        values.length = (Segment.bodies segments).length := by
  constructor
  · rintro ⟨uri, h⟩
    rw [buildUri] at h
    cases hsplit : Segment.split template.toList with
    | error fault =>
      rw [hsplit] at h
      cases h
    | ok segments =>
      rw [hsplit] at h
      simp only at h
      split at h
      next => cases h
      next hcount => exact ⟨segments, rfl, (not_not.mp hcount).symm⟩
  · rintro ⟨segments, hsplit, hcount⟩
    exact ⟨_, buildUri_of_split hsplit hcount⟩

lemma buildUri_eq_interleave {template : String} {segments : List Segment} {values : List String}
    (hsplit : Segment.split template.toList = .ok segments)
    (hcount : values.length = (Segment.bodies segments).length) :
    buildUri template values = .ok (interleave (Segment.literals segments) values) := by
  obtain ⟨hsegments, -⟩ := Segment.split_eq_ok_iff.mp hsplit
  rw [buildUri_of_split hsplit hcount, Segment.fill_eq_interleave hsegments hcount]

/-! ## The assembled expression -/

namespace Matchable

/-- `patternText` fills the segments with the sub-patterns, each in its parentheses. -/
lemma patternText_eq_fill (segments : List Segment) (placeholders : List Placeholder) :
    patternText segments placeholders = Segment.fill segments
      (placeholders.map fun p => "(" ++ String.ofList p.pattern ++ ")") := by
  induction segments generalizing placeholders with
  | nil => cases placeholders <;> rfl
  | cons s rest ih =>
    cases s with
    | literal text => rw [patternText, Segment.fill, ih]
    | placeholder body =>
      cases placeholders with
      | nil => rfl
      | cons p placeholders =>
        rw [List.map_cons, patternText, Segment.fill, ih]
        simp

lemma ofList_anchored (anchoring : Anchoring) (text : List Char) :
    String.ofList (anchored anchoring text) =
      "^" ++ String.ofList text ++ if anchoring = .full then "$" else "" := by
  apply String.toList_inj.mp
  cases anchoring <;> simp [anchored]

end Matchable

/-- What a template is cut into does not depend on what is made of it.  The expression that it
compiles to is the path that it builds from its sub-patterns, each between parentheses, with the
anchors around it.  A path can be built if the braces of the template are in order and there is a
value for each placeholder; it consists of the literals with the values between them, just as they
are.  So a template builds itself from its own placeholders. -/
theorem pattern_eq_buildUri (template : String) :
    (∀ anchoring m, (Matchable.compile template anchoring).run.value = .ok m →
      ∃ segments text, Segment.split template.toList = .ok segments ∧
        buildUri template ((Segment.bodies segments).map fun body =>
          "(" ++ String.ofList (Placeholder.written body).pattern ++ ")") = .ok text ∧
        m.pattern = "^" ++ text ++ if anchoring = .full then "$" else "") ∧
    (∀ values, (∃ uri, buildUri template values = .ok uri) ↔
      ∃ segments, Segment.split template.toList = .ok segments ∧
        values.length = (Segment.bodies segments).length) ∧
    (∀ segments values, Segment.split template.toList = .ok segments →
      values.length = (Segment.bodies segments).length →
      buildUri template values = .ok (interleave (Segment.literals segments) values)) ∧
    ∀ segments, Segment.split template.toList = .ok segments →
      buildUri template ((Segment.bodies segments).map fun body =>
        "\x7b" ++ String.ofList body ++ "\x7d") = .ok template := by
  refine ⟨?_, fun values => exists_buildUri_iff, fun _ _ => buildUri_eq_interleave, ?_⟩
  · intro anchoring m hm
    cases Matchable.value_compile_eq_iff.mp hm with
    | @compiled segments e hsplit hgood htext hgroups =>
      refine ⟨segments, _, hsplit, buildUri_of_split hsplit (List.length_map _), ?_⟩
      rw [Matchable.assembledText, Matchable.ofList_anchored, Matchable.patternText_eq_fill,
        List.map_map]
      rfl
  · intro segments hsplit
    rw [buildUri_of_split hsplit (List.length_map _), Segment.fill_bodies,
      Segment.join_split hsplit, String.ofList_toList]

end UriRouting
