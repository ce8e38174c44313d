import Mathlib.Data.List.TakeWhile
import Mathlib.Tactic
import UriRouting.Template.Placeholder

/-!
# The bodies of placeholders

The first colon of a body divides the name from the sub-pattern.  Three things can be wrong with a
body: there is nothing before that colon, there is nothing behind it, or the parentheses behind it
are not balanced (`IsBad`).  No body has two of these faults, and reading a body finds the one that
it has (`ofBody_eq_error_iff`).  A body without faults is read as it is written
(`ofBody_of_isGood`).
-/

namespace UriRouting.Placeholder

/-! ## Cutting a body -/

/-- The placeholder that is written in a body, whatever may be wrong with it: the text before the
first colon and the text behind it, or the default if there is no colon. -/
def written (body : List Char) : Placeholder where
  name := body.takeWhile (· ≠ ':')
  pattern := if ':' ∈ body then (body.dropWhile (· ≠ ':')).tail else anySegment

lemma cut_of_not_mem {text : List Char} (h : ':' ∉ text) : cut text = (text, none) := by
  induction text with
  | nil => rfl
  | cons c text ih =>
    simp only [List.mem_cons, not_or] at h
    rw [cut, if_neg (Ne.symm h.1), ih h.2]

lemma cut_colon {name : List Char} (h : ':' ∉ name) (sub : List Char) :
    cut (name ++ ':' :: sub) = (name, some sub) := by
  induction name with
  | nil => rfl
  | cons c name ih =>
    simp only [List.mem_cons, not_or] at h
    rw [List.cons_append, cut, if_neg (Ne.symm h.1), ih h.2]

lemma ne_colon_of_not_mem {text : List Char} (h : ':' ∉ text) :
    ∀ c ∈ text, decide (c ≠ ':') = true := by
  intro c hc
  rw [decide_eq_true_eq]
  rintro rfl
  exact h hc

lemma written_of_not_mem {body : List Char} (h : ':' ∉ body) :
    written body = ⟨body, anySegment⟩ := by
  have hname := List.takeWhile_eq_self_iff.mpr (ne_colon_of_not_mem h)
  rw [written, hname, if_neg h]

lemma written_colon {name : List Char} (h : ':' ∉ name) (sub : List Char) :
    written (name ++ ':' :: sub) = ⟨name, sub⟩ := by
  have hname := ne_colon_of_not_mem h
  rw [written, List.takeWhile_append_of_pos hname, List.dropWhile_append_of_pos hname]
  simp

/-- A body without a colon is a name; any other one is cut at its first colon. -/
lemma body_cases (body : List Char) :
    ':' ∉ body ∨ ∃ name sub, ':' ∉ name ∧ body = name ++ ':' :: sub := by
  by_cases h : ':' ∈ body
  · obtain ⟨name, sub, hbody, hname⟩ := List.eq_append_cons_of_mem h
    exact .inr ⟨name, sub, hname, hbody⟩
  · exact .inl h

/-! ## Faults -/

/-- What can be wrong with a body. -/
inductive IsBad : List Char → TemplateFault → Prop
  /-- It starts with a colon. -/
  | missingName (sub : List Char) : IsBad (':' :: sub) (.missingName (String.ofList (':' :: sub)))
  /-- Its first colon is its last character. -/
  | missingPattern {name : List Char} (hne : name ≠ []) (hname : ':' ∉ name) :
      IsBad (name ++ [':']) (.missingPattern (String.ofList (name ++ [':'])))
  /-- The parentheses behind its first colon are not balanced. -/
  | unbalanced {name sub : List Char} (hne : name ≠ []) (hname : ':' ∉ name) (hsub : sub ≠ [])
      (hbalanced : balanced sub = false) :
      IsBad (name ++ ':' :: sub) (.unbalancedSubpattern (String.ofList (name ++ ':' :: sub)))

/-- Nothing is wrong with a body. -/
def IsGood (body : List Char) : Prop := ∀ fault, ¬ IsBad body fault

lemma ofBody_of_not_mem {body : List Char} (hne : body ≠ []) (h : ':' ∉ body) :
    ofBody body = .ok (written body) := by
  have hbalanced : balanced anySegment = true := by decide
  rw [written_of_not_mem h]
  simp [ofBody, cut_of_not_mem h, hne, hbalanced]

lemma ofBody_colon {name : List Char} (h : ':' ∉ name) (sub : List Char) :
    ofBody (name ++ ':' :: sub) =
      if name = [] then .error (.missingName (String.ofList (name ++ ':' :: sub)))
      else if sub = [] then .error (.missingPattern (String.ofList (name ++ ':' :: sub)))
      else if balanced sub then .ok (written (name ++ ':' :: sub))
      else .error (.unbalancedSubpattern (String.ofList (name ++ ':' :: sub))) := by
  rw [written_colon h, ofBody, cut_colon h]
  by_cases hname : name = []
  · simp [hname]
  · by_cases hsub : sub = []
    · simp [hname, hsub]
    · cases hbalanced : balanced sub <;> simp [hname, hsub, hbalanced]

/-- `ofBody` finds the fault of a body that `IsBad` says it has. -/
theorem ofBody_eq_error_iff {body : List Char} (hne : body ≠ []) {fault : TemplateFault} :
    ofBody body = .error fault ↔ IsBad body fault := by
  constructor
  · intro h
    rcases body_cases body with hcolon | ⟨name, sub, hname, rfl⟩
    · rw [ofBody_of_not_mem hne hcolon] at h
      cases h
    · rw [ofBody_colon hname] at h
      split_ifs at h with hempty hsub hbalanced
      · subst hempty
        obtain rfl := Except.error.inj h
        exact .missingName sub
      · subst hsub
        obtain rfl := Except.error.inj h
        exact .missingPattern hempty hname
      · obtain rfl := Except.error.inj h
        exact .unbalanced hempty hname hsub (Bool.not_eq_true _ ▸ hbalanced)
  · intro h
    cases h with
    | missingName sub =>
      have hnone : ':' ∉ ([] : List Char) := List.not_mem_nil
      have hread := ofBody_colon hnone sub
      rwa [if_pos rfl] at hread
    | missingPattern hempty hname => rw [ofBody_colon hname, if_neg hempty, if_pos rfl]
    | unbalanced hempty hname hsub hbalanced =>
      rw [ofBody_colon hname, if_neg hempty, if_neg hsub, hbalanced]
      rfl

/-- A body that can be read is read as it is written. -/
lemma written_of_ofBody {body : List Char} {p : Placeholder} (h : ofBody body = .ok p) :
    p = written body := by
  rcases body_cases body with hcolon | ⟨name, sub, hname, rfl⟩
  · cases body with
    | nil => cases h
    | cons c body =>
      rw [ofBody_of_not_mem (List.cons_ne_nil c body) hcolon] at h
      exact (Except.ok.inj h).symm
  · rw [ofBody_colon hname] at h
    split_ifs at h
    exact (Except.ok.inj h).symm

theorem ofBody_of_isGood {body : List Char} (hne : body ≠ []) (h : IsGood body) :
    ofBody body = .ok (written body) := by
  cases hread : ofBody body with
  | error fault => exact absurd ((ofBody_eq_error_iff hne).mp hread) (h fault)
  | ok p => rw [written_of_ofBody hread]

lemma isGood_of_not_mem {name : List Char} (hne : name ≠ []) (hcolon : ':' ∉ name) :
    IsGood name := by
  intro fault hbad
  have hread := (ofBody_eq_error_iff hne).mpr hbad
  rw [ofBody_of_not_mem hne hcolon] at hread
  cases hread

end UriRouting.Placeholder
