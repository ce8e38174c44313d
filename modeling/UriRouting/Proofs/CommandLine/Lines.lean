import Mathlib.Data.List.DropRight
import Mathlib.Tactic
import UriRouting.CommandLine.Watch
import UriRouting.Proofs.Text.Utf8

/-!
# The lines of an input and their paths

An input is cut at its line feeds (`IsCut`).  The lines that the program works on are those between
the line feeds, each with the line feed behind it, and what comes after the last one unless it is
empty (`linesOf_of_isCut`).  So bytes that come in one after the other may be cut anywhere: lines
that are complete stay as they are, and what is left is the beginning of the next one
(`linesOf_append`).

The line feed does not count for the path of a line, since it is white space and a character of its
own (`pathOf_concat_lineFeed`).
-/

namespace UriRouting

/-! ## White space around a text -/

/-- The path is the text without the white space at either end. -/
structure IsTrimmed (text path : List Char) : Prop where
  around : ∃ before after, text = before ++ path ++ after ∧ (∀ c ∈ before, isBlank c) ∧
    ∀ c ∈ after, isBlank c
  begins : ∀ c ∈ path.head?, isBlank c = false
  ends : ∀ c ∈ path.getLast?, isBlank c = false

lemma trimRight_eq (text : List Char) : trimRight text = text.rdropWhile isBlank := rfl

lemma isTrimmed_trimBlank (text : List Char) : IsTrimmed text (trimBlank text) := by
  have hsplit : text.dropWhile isBlank =
      trimBlank text ++ (text.dropWhile isBlank).rtakeWhile isBlank := by
    rw [trimBlank, trimRight_eq, List.rdropWhile_append_rtakeWhile]
  refine ⟨⟨text.takeWhile isBlank, (text.dropWhile isBlank).rtakeWhile isBlank, ?_, ?_, ?_⟩, ?_, ?_⟩
  · rw [List.append_assoc, ← hsplit, List.takeWhile_append_dropWhile]
  · intro c hc
    exact List.mem_takeWhile_imp hc
  · intro c hc
    exact List.mem_rtakeWhile_imp hc
  · intro c hc
    -- what is left begins as the text does without the white space in front
    have hhead : (text.dropWhile isBlank).head? = some c := by
      rw [hsplit, List.head?_append, Option.mem_def.mp hc]
      rfl
    have hbegins := List.head?_dropWhile_not isBlank text
    rwa [hhead] at hbegins
  · intro c hc
    obtain ⟨hne, hlast⟩ := List.mem_getLast?_eq_getLast hc
    rw [hlast, ← Bool.not_eq_true]
    exact List.rdropWhile_last_not isBlank _ hne

lemma trimBlank_concat {c : Char} (hc : isBlank c) (text : List Char) :
    trimBlank (text ++ [c]) = trimBlank text := by
  rw [trimBlank, trimBlank, trimRight_eq, trimRight_eq, List.dropWhile_append]
  split
  · next hempty =>
    rw [List.isEmpty_iff.mp hempty, List.dropWhile_cons_of_pos hc, List.dropWhile_nil]
  · rw [List.rdropWhile_concat_pos isBlank _ _ hc]

namespace CommandLine

/-! ## Lines -/

/-- The input consists of complete lines, each with a line feed behind it, and of what comes after
the last line feed. -/
structure IsCut (input : List UInt8) (complete : List (List UInt8)) (last : List UInt8) : Prop where
  input : input = complete.flatMap (· ++ [0x0A]) ++ last
  complete : ∀ line ∈ complete, 0x0A ∉ line
  last : 0x0A ∉ last

/-- What comes after the last line feed is a line unless it is empty. -/
def lastLine (last : List UInt8) : List (List UInt8) := if last = [] then [] else [last]

lemma exists_isCut (input : List UInt8) : ∃ complete last, IsCut input complete last := by
  induction input with
  | nil => exact ⟨[], [], rfl, by simp, by simp⟩
  | cons b input ih =>
    obtain ⟨complete, last, rfl, hcomplete, hlast⟩ := ih
    by_cases hb : b = 0x0A
    · exact ⟨[] :: complete, last, by simp [hb], by simpa using hcomplete, hlast⟩
    cases complete with
    | nil => exact ⟨[], b :: last, by simp, by simp, by simp [hlast, Ne.symm hb]⟩
    | cons line complete =>
      refine ⟨(b :: line) :: complete, last, by simp, ?_, hlast⟩
      simpa [Ne.symm hb] using hcomplete

lemma linesOf_line {line : List UInt8} (h : 0x0A ∉ line) (rest : List UInt8) :
    linesOf (line ++ 0x0A :: rest) = (line ++ [0x0A]) :: linesOf rest := by
  induction line with
  | nil => simp [linesOf]
  | cons b line ih =>
    rw [List.mem_cons, not_or] at h
    rw [List.cons_append, linesOf, if_neg (Ne.symm h.1), ih h.2]
    rfl

lemma linesOf_lastLine {last : List UInt8} (h : 0x0A ∉ last) : linesOf last = lastLine last := by
  induction last with
  | nil => rfl
  | cons b last ih =>
    rw [List.mem_cons, not_or] at h
    rw [linesOf, if_neg (Ne.symm h.1), ih h.2]
    cases last <;> rfl

lemma linesOf_complete {complete : List (List UInt8)} (h : ∀ line ∈ complete, 0x0A ∉ line)
    (rest : List UInt8) :
    linesOf (complete.flatMap (· ++ [0x0A]) ++ rest) =
      complete.map (· ++ [0x0A]) ++ linesOf rest := by
  induction complete with
  | nil => rfl
  | cons line complete ih =>
    rw [List.forall_mem_cons] at h
    simp only [List.flatMap_cons, List.map_cons, List.append_assoc, List.cons_append,
      List.nil_append]
    rw [linesOf_line h.1, ih h.2]

lemma linesOf_of_isCut {input last : List UInt8} {complete : List (List UInt8)}
    (h : IsCut input complete last) :
    linesOf input = complete.map (· ++ [0x0A]) ++ lastLine last := by
  rw [h.input, linesOf_complete h.complete, linesOf_lastLine h.last]

lemma isComplete_concat (line : List UInt8) : isComplete (line ++ [0x0A]) = true := by
  rw [isComplete, List.getLast?_concat]
  rfl

lemma isComplete_of_not_mem {line : List UInt8} (h : 0x0A ∉ line) : isComplete line = false := by
  rw [isComplete, beq_eq_false_iff_ne]
  exact fun hlast => h (List.mem_of_getLast? hlast)

lemma filter_complete {input last : List UInt8} {complete : List (List UInt8)}
    (h : IsCut input complete last) :
    (linesOf input).filter isComplete = complete.map (· ++ [0x0A]) ∧
      ((linesOf input).filter fun line => !isComplete line).flatten = last := by
  have hcomplete : ∀ line ∈ complete.map (· ++ [0x0A]), isComplete line := by
    intro line hline
    obtain ⟨before, -, rfl⟩ := List.mem_map.mp hline
    exact isComplete_concat before
  have hlast : ∀ line ∈ lastLine last, isComplete line = false := by
    intro line hline
    rw [lastLine] at hline
    split at hline
    · cases hline
    · rw [List.mem_singleton.mp hline]
      exact isComplete_of_not_mem h.last
  rw [linesOf_of_isCut h, List.filter_append, List.filter_append]
  constructor
  · rw [List.filter_eq_self.mpr hcomplete, List.filter_eq_nil_iff.mpr (by simpa using hlast),
      List.append_nil]
  · rw [List.filter_eq_nil_iff.mpr (by simpa using hcomplete),
      List.filter_eq_self.mpr (by simpa using hlast), List.nil_append, lastLine]
    split
    · next hempty => rw [hempty]; rfl
    · exact List.flatten_singleton

/-- Lines that are complete stay so, whatever comes in later. -/
lemma linesOf_append (input more : List UInt8) :
    linesOf (input ++ more) = (linesOf input).filter isComplete ++
      linesOf (((linesOf input).filter fun line => !isComplete line).flatten ++ more) := by
  obtain ⟨complete, last, h⟩ := exists_isCut input
  obtain ⟨hcomplete, hlast⟩ := filter_complete h
  rw [hcomplete, hlast, h.input, List.append_assoc, linesOf_complete h.complete]

/-! ## Paths -/

lemma pathOf_encode (text : String) :
    pathOf (Utf8.encode text) = .ok (if (trimBlank text.toList).isEmpty then none
      else some (String.ofList (trimBlank text.toList))) := by
  rw [pathOf, Utf8.decode_eq_ok.mpr rfl]
  rfl

lemma pathOf_concat_lineFeed (line : List UInt8) :
    (pathOf (line ++ [0x0A])).toOption = (pathOf line).toOption := by
  cases hdecoded : Utf8.decode line with
  | ok text =>
    obtain rfl := Utf8.decode_eq_ok.mp hdecoded
    have hlineFeed : Utf8.encode text ++ [0x0A] = Utf8.encode (text ++ "\n") :=
      (Utf8.encode_eq_concat_lineFeed.mpr ⟨text, rfl, rfl⟩).symm
    have hblank : isBlank '\n' := by decide
    have htrimmed : trimBlank (text ++ "\n").toList = trimBlank text.toList := by
      rw [String.toList_append]
      exact trimBlank_concat hblank text.toList
    rw [hlineFeed, pathOf_encode, pathOf_encode, htrimmed]
  | error fault =>
    have hrefused := Utf8.exists_decode_eq_error.mp ⟨fault, hdecoded⟩
    obtain ⟨other, hother⟩ : ∃ other, Utf8.decode (line ++ [0x0A]) = .error other := by
      rw [Utf8.exists_decode_eq_error]
      intro text htext
      obtain ⟨before, -, hbefore⟩ := Utf8.encode_eq_concat_lineFeed.mp htext.symm
      exact hrefused before hbefore.symm
    rw [pathOf, pathOf, hdecoded, hother]
    rfl

end CommandLine

end UriRouting
