import Mathlib.Tactic
import UriRouting.Proofs.Table.Problems
import UriRouting.Proofs.Text.LowerCase

/-!
# Which levels of logging a table may ask for

The check of a table and the directive for the log both put the level that the table asks for in
lower case.  That is done with all of Unicode, but the names of the levels are in ASCII and have no
`k` in them.  So nothing is taken for a level but its name with some letters as capitals
(`lowerText_eq_level_iff`), and the two agree on what that is (`Table.knows_logLevel_iff`).
-/

namespace UriRouting

/-- The lower case of a text is the name of a level just if the text is a case variant of it. -/
lemma lowerText_eq_level_iff {text name : String} (hname : name ∈ logLevels) :
    lowerText text = name ↔ IsCaseVariant text name := by
  have hletters : ∀ name ∈ logLevels, name.toList.all fun d =>
      d.toNat < 0x80 ∧ d ≠ 'k' ∧ ¬ ('A' ≤ d ∧ d ≤ 'Z') := by decide +kernel
  apply lowerText_eq_iff
  simpa only [List.all_eq_true, decide_eq_true_eq] using hletters name hname

lemma isLogLevel_iff {text : String} :
    isLogLevel text ↔ ∃ name ∈ logLevels, IsCaseVariant text name := by
  rw [isLogLevel, List.contains_iff_mem]
  constructor
  · intro h
    exact ⟨_, h, (lowerText_eq_level_iff h).mp rfl⟩
  · rintro ⟨name, hname, hvariant⟩
    rwa [(lowerText_eq_level_iff hname).mpr hvariant]

lemma directiveFor_inj {level other : String} :
    Observability.directiveFor level = Observability.directiveFor other ↔ level = other := by
  rw [Observability.directiveFor, Observability.directiveFor, String.append_right_inj]

/-- The check of a table knows the level that it asks for if and only if this is the name of a level
in letters of either case, where the letters are those of ASCII.  Just then the directive for the
log is that of a level, and it is the one with this name in small letters. -/
theorem Table.knows_logLevel_iff (table : Table) :
    ((∀ level, TableProblem.unknownLogLevel level ∉ table.check) ↔
      ∃ name ∈ logLevels, IsCaseVariant table.observability.logLevel name) ∧
    ∀ name ∈ logLevels, table.observability.defaultDirective = "routebind=" ++ name ↔
      IsCaseVariant table.observability.logLevel name := by
  constructor
  · rw [← isLogLevel_iff, isLogLevel, List.contains_iff_mem]
    simp [Table.mem_check, TableProblem.HoldsIn]
  · intro name hname
    rw [Observability.defaultDirective, ← lowerText_eq_level_iff hname]
    exact directiveFor_inj

theorem Table.knows_logLevel_iff_mixedCase :
    let table : Table := { observability := { logLevel := "wArN" } }
    "warn" ∈ logLevels ∧ (∀ level, TableProblem.unknownLogLevel level ∉ table.check) ∧
      table.observability.defaultDirective = "routebind=warn" := by
  intro table
  obtain ⟨hcheck, hdirective⟩ := table.knows_logLevel_iff
  have hname : "warn" ∈ logLevels := by decide
  have hvariant : IsCaseVariant "wArN" "warn" := by decide
  exact ⟨hname, hcheck.mpr ⟨"warn", hname, hvariant⟩, (hdirective "warn" hname).mpr hvariant⟩

end UriRouting
