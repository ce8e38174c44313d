import Mathlib.Tactic
import UriRouting.Proofs.Template.Compiled
import UriRouting.Proofs.Template.Noted
import UriRouting.Proofs.Template.Tokens

/-!
# How a compilation comes out

A template can fail to compile in seven ways, and one template may have several of these faults at
once.  They come in four stages.  If the braces are not in order, nothing else is looked at.  Then
the bodies of the placeholders are read from left to right, up to the first that has a fault.  Only
a template without any such fault is handed to the reader of expressions, and only an expression
that can be read has groups that are counted.

`Outcome` says this as a set of rules.  They contradict each other nowhere and leave no template
out, and a compilation comes out as they say (`compile_outcome`).  As the rules for the first two
stages do not mention the anchoring, neither do their faults depend on it.
-/

namespace UriRouting

/-- Can the fault be found only with the expression at hand? -/
def TemplateFault.isLate : TemplateFault → Bool
  | .invalidPattern _ _ => true
  | .capturingGroup _ => true
  | _ => false

namespace Matchable

/-! ## The rules -/

/-- The text of the expression that a template with these segments stands for. -/
def assembledText (anchoring : Anchoring) (segments : List Segment) : List Char :=
  anchored anchoring (patternText segments ((Segment.bodies segments).map Placeholder.written))

/-- What comes of a template, one rule for each way to end. -/
inductive Outcome (template : String) (anchoring : Anchoring) :
    Except TemplateFault Matchable → Prop
  /-- The braces are not in order. -/
  | braces {fault : BraceFault} (hsplit : Segment.split template.toList = .error fault) :
      Outcome template anchoring (.error (braceFault template fault))
  /-- Something is wrong with a body, and nothing with those before it. -/
  | body {segments : List Segment} {before after : List (List Char)} {body : List Char}
      {fault : TemplateFault} (hsplit : Segment.split template.toList = .ok segments)
      (hbodies : Segment.bodies segments = before ++ body :: after)
      (hgood : ∀ b ∈ before, Placeholder.IsGood b) (hbad : Placeholder.IsBad body fault) :
      Outcome template anchoring (.error fault)
  /-- The assembled text is no expression. -/
  | text {segments : List Segment} {cause : ExpressionFault}
      (hsplit : Segment.split template.toList = .ok segments)
      (hgood : ∀ b ∈ Segment.bodies segments, Placeholder.IsGood b)
      (htext : Expression.ofText (assembledText anchoring segments) = .error cause) :
      Outcome template anchoring (.error (.invalidPattern template cause))
  /-- The expression has more or fewer groups than there are placeholders. -/
  | groups {segments : List Segment} {e : Expression}
      (hsplit : Segment.split template.toList = .ok segments)
      (hgood : ∀ b ∈ Segment.bodies segments, Placeholder.IsGood b)
      (htext : Expression.ofText (assembledText anchoring segments) = .ok e)
      (hgroups : e.highestGroup ≠ (Segment.bodies segments).length) :
      Outcome template anchoring (.error (.capturingGroup template))
  /-- There is nothing wrong. -/
  | compiled {segments : List Segment} {e : Expression}
      (hsplit : Segment.split template.toList = .ok segments)
      (hgood : ∀ b ∈ Segment.bodies segments, Placeholder.IsGood b)
      (htext : Expression.ofText (assembledText anchoring segments) = .ok e)
      (hgroups : e.highestGroup = (Segment.bodies segments).length) :
      Outcome template anchoring (.ok
        { template := template
          pattern := String.ofList (assembledText anchoring segments)
          parameters := (Segment.bodies segments).map fun body =>
            String.ofList (Placeholder.written body).name
          anchoring := anchoring
          expression := e })

/-- The counter that goes with a result. -/
def counterOf : Except TemplateFault Matchable → String
  | .ok _ => Journal.patternsCompiled
  | .error fault => Journal.patternErrors fault.kind

/-! ## Carrying the rules out -/

lemma value_compile (template : String) (anchoring : Anchoring) :
    (compile template anchoring).run.value = (assemble template anchoring).run.value := rfl

section Split

variable {template : String} {segments : List Segment}
  (hsplit : Segment.split template.toList = .ok segments)
include hsplit

lemma ne_nil_of_mem_bodies {body : List Char} (h : body ∈ Segment.bodies segments) :
    body ≠ [] := by
  exact Segment.isRegular_of_split hsplit _ (Segment.mem_bodies.mp h)

lemma value_of_bad {before after : List (List Char)} {body : List Char} {fault : TemplateFault}
    (hbodies : Segment.bodies segments = before ++ body :: after)
    (hgood : ∀ b ∈ before, Placeholder.IsGood b) (hbad : Placeholder.IsBad body fault)
    (anchoring : Anchoring) : (compile template anchoring).run.value = .error fault := by
  have hne : ∀ b ∈ Segment.bodies segments, b ≠ [] := fun b hb => ne_nil_of_mem_bodies hsplit hb
  rw [hbodies, List.forall_mem_append, List.forall_mem_cons] at hne
  obtain ⟨hbefore, hbody, -⟩ := hne
  have hread := value_readPlaceholders_of_bad template [] hbefore hgood
    ((Placeholder.ofBody_eq_error_iff hbody).mpr hbad) after
  rw [value_compile, assemble]
  simp only [Attempt.value_bind, Attempt.value_ofExcept, hsplit, Except.mapError, hbodies, hread]

lemma value_of_good (hgood : ∀ b ∈ Segment.bodies segments, Placeholder.IsGood b)
    (anchoring : Anchoring) :
    (compile template anchoring).run.value =
      match Expression.ofText (assembledText anchoring segments) with
      | .error cause => .error (.invalidPattern template cause)
      | .ok e =>
        if e.highestGroup ≠ (Segment.bodies segments).length then .error (.capturingGroup template)
        else .ok ⟨template, String.ofList (assembledText anchoring segments),
          (Segment.bodies segments).map fun body => String.ofList (Placeholder.written body).name,
          anchoring, e⟩ := by
  have hne : ∀ b ∈ Segment.bodies segments, b ≠ [] := fun b hb => ne_nil_of_mem_bodies hsplit hb
  have hread := value_readPlaceholders_of_good template [] hne hgood
  rw [value_compile, assemble]
  simp only [Attempt.value_bind, Attempt.value_ofExcept, hsplit, Except.mapError, hread,
    ← assembledText.eq_1]
  cases Expression.ofText (assembledText anchoring segments) with
  | error cause => rfl
  | ok e =>
    simp only [List.length_map]
    split
    · rfl
    · simp only [Attempt.value_pure, List.map_map]
      rfl

end Split

/-- Either nothing is wrong with any of some bodies, or there is a first one with a fault. -/
lemma exists_first_bad (bodies : List (List Char)) :
    (∀ b ∈ bodies, Placeholder.IsGood b) ∨
      ∃ before body after fault, bodies = before ++ body :: after ∧
        (∀ b ∈ before, Placeholder.IsGood b) ∧ Placeholder.IsBad body fault := by
  induction bodies with
  | nil => exact .inl (by simp)
  | cons body rest ih =>
    by_cases hbody : Placeholder.IsGood body
    · rcases ih with hrest | ⟨before, bad, after, fault, rfl, hbefore, hbad⟩
      · exact .inl (List.forall_mem_cons.mpr ⟨hbody, hrest⟩)
      · exact .inr ⟨body :: before, bad, after, fault, rfl,
          List.forall_mem_cons.mpr ⟨hbody, hbefore⟩, hbad⟩
    · obtain ⟨fault, hbad⟩ := not_forall_not.mp hbody
      exact .inr ⟨[], body, rest, fault, rfl, by simp, hbad⟩

variable {template : String} {anchoring : Anchoring} {result : Except TemplateFault Matchable}

/-- A compilation follows the rules of `Outcome`. -/
lemma Outcome.value_eq (h : Outcome template anchoring result) :
    (compile template anchoring).run.value = result := by
  cases h with
  | braces hsplit =>
    rw [value_compile, assemble]
    simp only [Attempt.value_bind, Attempt.value_ofExcept, hsplit, Except.mapError]
  | body hsplit hbodies hgood hbad => exact value_of_bad hsplit hbodies hgood hbad anchoring
  | text hsplit hgood htext => rw [value_of_good hsplit hgood, htext]
  | groups hsplit hgood htext hgroups =>
    rw [value_of_good hsplit hgood, htext]
    exact if_pos hgroups
  | compiled hsplit hgood htext hgroups =>
    rw [value_of_good hsplit hgood, htext]
    exact if_neg (not_not.mpr hgroups)

/-- `Outcome` has a rule for every template. -/
lemma exists_outcome (template : String) (anchoring : Anchoring) :
    ∃ result, Outcome template anchoring result := by
  cases hsplit : Segment.split template.toList with
  | error fault => exact ⟨_, .braces hsplit⟩
  | ok segments =>
    rcases exists_first_bad (Segment.bodies segments) with
      hgood | ⟨before, body, after, fault, hbodies, hbefore, hbad⟩
    · cases htext : Expression.ofText (assembledText anchoring segments) with
      | error cause => exact ⟨_, .text hsplit hgood htext⟩
      | ok e =>
        by_cases hgroups : e.highestGroup = (Segment.bodies segments).length
        · exact ⟨_, .compiled hsplit hgood htext hgroups⟩
        · exact ⟨_, .groups hsplit hgood htext hgroups⟩
    · exact ⟨_, .body hsplit hbodies hbefore hbad⟩

/-- A compilation comes out as the rules of `Outcome` say, and in no other way. -/
theorem value_compile_eq_iff :
    (compile template anchoring).run.value = result ↔ Outcome template anchoring result := by
  constructor
  · rintro rfl
    obtain ⟨result, hresult⟩ := exists_outcome template anchoring
    rw [hresult.value_eq]
    exact hresult
  · intro h
    exact h.value_eq

/-- The rules for early faults do not depend on the anchoring. -/
lemma Outcome.early {fault : TemplateFault} (h : Outcome template anchoring (.error fault))
    (hearly : fault.isLate = false) (other : Anchoring) :
    Outcome template other (.error fault) := by
  cases h with
  | braces hsplit => exact .braces hsplit
  | body hsplit hbodies hgood hbad => exact .body hsplit hbodies hgood hbad
  | text hsplit hgood htext => cases hearly
  | groups hsplit hgood htext hgroups => cases hearly

/-- A template compiles, or has a fault, as the rules say.  A fault of the braces or of a body is
the same for both anchorings.  The counter of the result moves by one, and no other counter
moves. -/
theorem compile_outcome (template : String) (anchoring : Anchoring) :
    (∀ result, (compile template anchoring).run.value = result ↔
      Outcome template anchoring result) ∧
    (∀ fault other, fault.isLate = false →
      ((compile template anchoring).run.value = .error fault ↔
        (compile template other).run.value = .error fault)) ∧
    ∀ counter, (compile template anchoring).run.journal.growth counter =
      if counter = counterOf (compile template anchoring).run.value then 1 else 0 := by
  refine ⟨fun result => value_compile_eq_iff, ?_, ?_⟩
  · intro fault other hearly
    rw [value_compile_eq_iff, value_compile_eq_iff]
    constructor
    · intro h
      exact h.early hearly other
    · intro h
      exact h.early hearly anchoring
  · intro counter
    have hmoved (result : Except TemplateFault Matchable) :
        (Matchable.outcome result).counter? = some (counterOf result) := by
      cases result <;> rfl
    rw [growth_compile, hmoved]
    simp only [Option.some.injEq, eq_comm]

end Matchable

end UriRouting
