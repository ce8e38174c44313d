import Mathlib.Tactic
import UriRouting.Proofs.Attempt
import UriRouting.Template.Matchable

/-!
# What is noted while a template compiles

Every compilation notes once, and last, whether it could be done; all that comes before are remarks
about names that occur again (`journal_compile`).  So exactly one counter moves, by one, and the
result alone says which (`moves_compile`).
-/

namespace UriRouting

/-! ## Counters -/

namespace Journal

/-- The counter of the templates that compiled. -/
def patternsCompiled : String := "routebind_patterns_compiled_total"

/-- The counter of the templates that did not compile, by the kind of their faults. -/
def patternErrors (kind : String) : String :=
  "routebind_pattern_errors_total\x7bkind=" ++ kind ++ "\x7d"

/-- The counters of faults have a beginning of their own. -/
lemma patternErrors_ne {counter : String}
    (h : ¬ "routebind_pattern_errors_total\x7bkind=".toList <+: counter.toList) (kind : String) :
    patternErrors kind ≠ counter := by
  rintro rfl
  refine h ⟨(kind ++ "\x7d").toList, ?_⟩
  rw [← String.toList_append, ← String.append_assoc]
  rfl

lemma patternErrors_ne_patternsCompiled (kind : String) : patternErrors kind ≠ patternsCompiled :=
  patternErrors_ne (by decide +kernel) kind

/-- The counters in the order in which they were moved, each as often as it was. -/
def moves (journal : Journal) : List String := journal.filterMap Observation.counter?

lemma moves_append (a b : Journal) : moves (a ++ b) = moves a ++ moves b := by
  rw [moves, List.filterMap_append]
  rfl

lemma growth_eq_count (journal : Journal) (counter : String) :
    journal.growth counter = journal.moves.count counter := by
  rw [growth, moves]

lemma growth_cons (o : Observation) (journal : Journal) (counter : String) :
    growth (o :: journal) counter =
      (if o.counter? = some counter then 1 else 0) + growth journal counter := by
  rw [growth, growth, List.filterMap_cons]
  cases o.counter? with
  | none => simp
  | some moved => by_cases h : moved = counter <;> simp [h, Nat.add_comm]

end Journal

namespace Matchable

/-! ## Compiling -/

variable (template : String) (anchoring : Anchoring)

lemma noted_readPlaceholders {seen bodies : List (List Char)} {o : Observation}
    (h : o ∈ (readPlaceholders template seen bodies).run.journal) :
    ∃ name, o = .repeatedParameter template name := by
  induction bodies generalizing seen with
  | nil => cases h
  | cons body rest ih =>
    rw [readPlaceholders] at h
    rcases Attempt.mem_journal_bind.mp h with h | ⟨p, _, h⟩
    · cases h
    · simp only at h
      split at h
      · rcases Attempt.mem_journal_bind.mp h with h | ⟨_, _, h⟩
        · exact ⟨_, List.mem_singleton.mp h⟩
        · rcases Attempt.mem_journal_bind.mp h with h | ⟨_, _, h⟩
          · exact ih h
          · cases h
      · rcases Attempt.mem_journal_bind.mp h with h | ⟨_, _, h⟩
        · exact ih h
        · cases h

lemma noted_assemble {o : Observation} (h : o ∈ (assemble template anchoring).run.journal) :
    ∃ name, o = .repeatedParameter template name := by
  rw [assemble] at h
  rcases Attempt.mem_journal_bind.mp h with h | ⟨segments, _, h⟩
  · cases h
  rcases Attempt.mem_journal_bind.mp h with h | ⟨placeholders, _, h⟩
  · exact noted_readPlaceholders template h
  rcases Attempt.mem_journal_bind.mp h with h | ⟨expression, _, h⟩
  · cases h
  simp only at h
  split at h
  · cases h
  · cases h

/-- The outcome of a compilation is noted last, after what there is to say about repeated names. -/
theorem journal_compile :
    ∃ remarks : Journal, (∀ o ∈ remarks, ∃ name, o = .repeatedParameter template name) ∧
      (compile template anchoring).run.journal =
        remarks ++ [outcome (compile template anchoring).run.value] := by
  refine ⟨(assemble template anchoring).run.journal, ?_, rfl⟩
  intro o ho
  exact noted_assemble template anchoring ho

/-- All that a compilation notes is names that occur again, and its outcome. -/
lemma noted_compile {o : Observation} (h : o ∈ (compile template anchoring).run.journal) :
    (∃ name, o = .repeatedParameter template name) ∨
      o = outcome (compile template anchoring).run.value := by
  obtain ⟨remarks, hremarks, hjournal⟩ := journal_compile template anchoring
  rw [hjournal] at h
  rcases List.mem_append.mp h with h | h
  · exact .inl (hremarks o h)
  · exact .inr (List.mem_singleton.mp h)

/-- A compilation moves one counter, that of its outcome. -/
theorem moves_compile :
    (compile template anchoring).run.journal.moves =
      (outcome (compile template anchoring).run.value).counter?.toList := by
  obtain ⟨remarks, hremarks, hjournal⟩ := journal_compile template anchoring
  have hnone : Journal.moves remarks = [] := by
    rw [Journal.moves, List.filterMap_eq_nil_iff]
    intro o ho
    obtain ⟨name, rfl⟩ := hremarks o ho
    rfl
  rw [hjournal, Journal.moves_append, hnone, List.nil_append, Journal.moves, List.filterMap_cons,
    List.filterMap_nil]
  cases (outcome (compile template anchoring).run.value).counter? <;> rfl

theorem growth_compile (counter : String) :
    (compile template anchoring).run.journal.growth counter =
      if (outcome (compile template anchoring).run.value).counter? = some counter then 1
      else 0 := by
  rw [Journal.growth_eq_count, moves_compile]
  cases (outcome (compile template anchoring).run.value).counter? with
  | none => rfl
  | some moved => simp [List.count_singleton]

end Matchable

end UriRouting
