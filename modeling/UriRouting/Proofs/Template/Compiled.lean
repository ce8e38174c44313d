import Mathlib.Tactic
import UriRouting.Proofs.Attempt
import UriRouting.Proofs.Parameters
import UriRouting.Proofs.Template.Bodies
import UriRouting.Template.Matchable

/-!
# Compiled templates

What a successful compilation tells about a template (`compile_eq_ok`): its braces are in order,
every body is a placeholder, the assembled text is an expression, and the expression has as many
groups as the template has placeholders.

The parameters of a match are the texts that the groups took, bound to the names of the placeholders
(`params_of_captures`).
-/

namespace UriRouting.Matchable

/-! ## Compiling -/

/-- Placeholders are read one body at a time; that a name is repeated does not matter. -/
lemma value_readPlaceholders_cons (template : String) (seen : List (List Char)) (body : List Char)
    (rest : List (List Char)) :
    (readPlaceholders template seen (body :: rest)).run.value =
      match Placeholder.ofBody body with
      | .error fault => .error fault
      | .ok p => (readPlaceholders template (seen ++ [p.name]) rest).run.value.map (p :: ·) := by
  rw [readPlaceholders, Attempt.value_bind, Attempt.value_ofExcept]
  cases Placeholder.ofBody body with
  | error fault => rfl
  | ok p =>
    have hothers : (do
        let others ← readPlaceholders template (seen ++ [p.name]) rest
        return p :: others : Attempt TemplateFault (List Placeholder)).run.value =
          (readPlaceholders template (seen ++ [p.name]) rest).run.value.map (p :: ·) := by
      rw [Attempt.value_bind]
      cases (readPlaceholders template (seen ++ [p.name]) rest).run.value <;> rfl
    simp only
    split
    · rw [Attempt.value_bind, Attempt.value_note]
      exact hothers
    · exact hothers

lemma placeholders_of_read {template : String} {seen bodies : List (List Char)}
    {placeholders : List Placeholder}
    (h : (readPlaceholders template seen bodies).run.value = .ok placeholders) :
    List.Forall₂ (fun body p => Placeholder.ofBody body = .ok p) bodies placeholders := by
  induction bodies generalizing seen placeholders with
  | nil =>
    obtain rfl : [] = placeholders := Except.ok.inj h
    exact .nil
  | cons body rest ih =>
    rw [value_readPlaceholders_cons] at h
    cases hbody : Placeholder.ofBody body with
    | error fault =>
      rw [hbody] at h
      cases h
    | ok p =>
      rw [hbody] at h
      cases hrest : (readPlaceholders template (seen ++ [p.name]) rest).run.value with
      | error fault => simp [hrest, Except.map] at h
      | ok others =>
        obtain rfl : p :: others = placeholders := by simpa [hrest, Except.map] using h
        exact .cons hbody (ih hrest)

lemma value_readPlaceholders_of_good (template : String) (seen : List (List Char))
    {bodies : List (List Char)} (hne : ∀ body ∈ bodies, body ≠ [])
    (hgood : ∀ body ∈ bodies, Placeholder.IsGood body) :
    (readPlaceholders template seen bodies).run.value = .ok (bodies.map Placeholder.written) := by
  induction bodies generalizing seen with
  | nil => rfl
  | cons body rest ih =>
    obtain ⟨hbody, hrest⟩ := List.forall_mem_cons.mp hne
    obtain ⟨hgood, hothers⟩ := List.forall_mem_cons.mp hgood
    have hread := ih (seen ++ [(Placeholder.written body).name]) hrest hothers
    rw [value_readPlaceholders_cons, Placeholder.ofBody_of_isGood hbody hgood]
    simp only [hread, Except.map, List.map_cons]

/-- The first body with a fault ends the reading, whatever comes after it. -/
lemma value_readPlaceholders_of_bad (template : String) (seen : List (List Char))
    {before : List (List Char)} {body : List Char} {fault : TemplateFault}
    (hne : ∀ b ∈ before, b ≠ []) (hgood : ∀ b ∈ before, Placeholder.IsGood b)
    (hbad : Placeholder.ofBody body = .error fault) (after : List (List Char)) :
    (readPlaceholders template seen (before ++ body :: after)).run.value = .error fault := by
  induction before generalizing seen with
  | nil => rw [List.nil_append, value_readPlaceholders_cons, hbad]
  | cons b before ih =>
    obtain ⟨hb, hrest⟩ := List.forall_mem_cons.mp hne
    obtain ⟨hgood, hothers⟩ := List.forall_mem_cons.mp hgood
    have hread := ih (seen ++ [(Placeholder.written b).name]) hrest hothers
    rw [List.cons_append, value_readPlaceholders_cons, Placeholder.ofBody_of_isGood hb hgood]
    simp only [hread, Except.map]

/-- What `compile` makes a template of: its segments, the placeholders of their bodies, and the
expression of the assembled text. -/
theorem compile_eq_ok {template : String} {anchoring : Anchoring} {m : Matchable}
    (h : (compile template anchoring).run.value = .ok m) :
    ∃ segments placeholders, Segment.split template.toList = .ok segments ∧
      List.Forall₂ (fun body p => Placeholder.ofBody body = .ok p) (Segment.bodies segments)
        placeholders ∧
      Expression.ofText (anchored anchoring (patternText segments placeholders)) =
        .ok m.expression ∧
      m.expression.highestGroup = placeholders.length ∧ m.template = template ∧
      m.parameters = placeholders.map (fun p => String.ofList p.name) ∧
      m.anchoring = anchoring := by
  have hassemble : (assemble template anchoring).run.value = .ok m := h
  rw [assemble] at hassemble
  obtain ⟨segments, hsplit, h⟩ := Attempt.value_bind_eq_ok.mp hassemble
  obtain ⟨placeholders, hread, h⟩ := Attempt.value_bind_eq_ok.mp h
  obtain ⟨expression, htext, h⟩ := Attempt.value_bind_eq_ok.mp h
  simp only at h
  split at h
  next => cases h
  next hgroups =>
    obtain rfl := Except.ok.inj h
    exact ⟨segments, placeholders, Attempt.mapError_eq_ok.mp hsplit, placeholders_of_read hread,
      Attempt.mapError_eq_ok.mp htext, not_not.mp hgroups, rfl, rfl, rfl⟩

/-! ## Matching -/

/-- The names of the placeholders in order, each with the text that its group took in a path; empty
if the template is not found in the path. -/
def captured (m : Matchable) (path : String) : List (String × String) :=
  match m.search path.toList with
  | none => []
  | some trail => m.parameters.zip ((List.range m.parameters.length).map fun i =>
      String.ofList (trail.groupText path.toList (i + 1)))

lemma params_of_captures {m : Matchable} {path : String} {hit : PathMatch}
    (h : m.captures path = some hit) : hit.params = Parameters.bindAll (m.captured path) := by
  unfold captures at h
  unfold captured
  cases hs : m.search path.toList with
  | none => simp [hs] at h
  | some trail =>
    simp only [hs, Option.map_some, Option.some.injEq] at h
    rw [← h, Parameters.bind_eq_bindAll]

lemma captured_of_search {m : Matchable} {path : String} {trail : Trail}
    (h : m.search path.toList = some trail) :
    m.captured path = m.parameters.zip ((List.range m.parameters.length).map fun i =>
      String.ofList (trail.groupText path.toList (i + 1))) := by
  rw [captured, h]

lemma search_of_captures {m : Matchable} {path : String} {hit : PathMatch}
    (h : m.captures path = some hit) :
    ∃ trail, m.search path.toList = some trail ∧
      hit.remainder = String.ofList (path.toList.drop trail.stop) := by
  obtain ⟨trail, htrail, rfl⟩ := Option.map_eq_some_iff.mp h
  exact ⟨trail, htrail, rfl⟩

/-- A template that is found binds all of its parameters. -/
lemma names_captured {m : Matchable} {path : String} {hit : PathMatch}
    (h : m.captures path = some hit) :
    (m.captured path).map Prod.fst = m.parameters := by
  obtain ⟨trail, htrail, _⟩ := search_of_captures h
  rw [captured_of_search htrail]
  exact List.map_fst_zip (by simp)

end UriRouting.Matchable
