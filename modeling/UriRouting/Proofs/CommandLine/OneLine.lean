import Mathlib.Tactic
import UriRouting.CommandLine.Answer

/-!
# An answer is one line

Whatever path is answered and whatever it leads to, there is no line feed in the answer: the texts
in it are written as JSON strings, which have none.
-/

namespace UriRouting.CommandLine

/-- There is no line feed in the text. -/
def IsOneLine (text : String) : Prop := '\n' ∉ text.toList

lemma IsOneLine.append {text other : String} (h : IsOneLine text) (hother : IsOneLine other) :
    IsOneLine (text ++ other) := by
  rw [IsOneLine, String.toList_append, List.mem_append, not_or]
  exact ⟨h, hother⟩

lemma isOneLine_intercalate {separator : String} {texts : List String}
    (hseparator : IsOneLine separator) (h : ∀ text ∈ texts, IsOneLine text) :
    IsOneLine (String.intercalate separator texts) := by
  induction texts with
  | nil => simp [IsOneLine]
  | cons text texts ih =>
    rw [List.forall_mem_cons] at h
    cases texts with
    | nil => simpa using h.1
    | cons other texts =>
      rw [String.intercalate_cons_cons]
      exact (h.1.append hseparator).append (ih h.2)

lemma lineFeed_notMem_escapeJson (c : Char) : '\n' ∉ escapeJson c := by
  have hdigits : ∀ n < 0x20, '\n' ∉ Nat.toDigits 16 n := by decide +kernel
  have hnumber := hdigits c.toNat
  by_cases hlineFeed : c = '\n'
  · rw [hlineFeed]
    decide
  · rw [escapeJson]
    split_ifs <;> simp [Ne.symm hlineFeed, *]

lemma isOneLine_jsonString (text : String) : IsOneLine (jsonString text) := by
  rw [IsOneLine, jsonString, String.toList_ofList]
  simp [lineFeed_notMem_escapeJson]

lemma isOneLine_jsonObject {fields : List (String × String)}
    (h : ∀ field ∈ fields, IsOneLine field.2) : IsOneLine (jsonObject fields) := by
  have hbrace : IsOneLine "\x7b" ∧ IsOneLine "\x7d" ∧ IsOneLine "," ∧ IsOneLine ":" := by
    simp only [IsOneLine]
    decide
  obtain ⟨hopen, hclose, hcomma, hcolon⟩ := hbrace
  refine (hopen.append (isOneLine_intercalate hcomma ?_)).append hclose
  intro text htext
  obtain ⟨field, hfield, rfl⟩ := List.mem_map.mp htext
  exact ((isOneLine_jsonString field.1).append hcolon).append (h field hfield)

lemma isOneLine_jsonParameters (params : Parameters) : IsOneLine (jsonParameters params) := by
  apply isOneLine_jsonObject
  intro field hfield
  obtain ⟨e, -, rfl⟩ := List.mem_map.mp hfield
  exact isOneLine_jsonString e.2

/-- There is no line feed in an answer. -/
theorem isOneLine_answer (path : String) (found? : Option Found) :
    IsOneLine (answer path found?) := by
  have hword : IsOneLine "true" ∧ IsOneLine "false" ∧ IsOneLine "null" := by
    simp only [IsOneLine]
    decide
  obtain ⟨htrue, hfalse, hnull⟩ := hword
  cases found? with
  | none => exact isOneLine_jsonObject (by simp [hfalse, isOneLine_jsonString])
  | some found =>
    apply isOneLine_jsonObject
    simp only [List.forall_mem_cons]
    refine ⟨htrue, ?_, isOneLine_jsonParameters _, isOneLine_jsonString _, isOneLine_jsonString _,
      by simp⟩
    cases found.route.name with
    | none => exact hnull
    | some name => exact isOneLine_jsonString name

end UriRouting.CommandLine
