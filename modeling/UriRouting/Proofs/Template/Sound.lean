import Mathlib.Tactic
import UriRouting.Proofs.Expression.FirstGroup
import UriRouting.Proofs.Template.Alignment
import UriRouting.Proofs.Template.Checked
import UriRouting.Proofs.Template.Grammar
import UriRouting.Proofs.Template.Outcome

/-!
# Sound sub-patterns

A sub-pattern is sound if it can stand between two parentheses, which are the only capturing group
then, and between the anchors as well (`IsSound`).  As far as the reader of expressions is
concerned, there is nothing wrong with a template that has it for the sub-pattern of its only
placeholder.

The check of parentheses comes before.  It lets a sound sub-pattern through if it understands it,
and then the template compiles.  Otherwise it may turn it away, and this is the only fault that can
be found (`compile_of_isSound`).  The class `[A-[]` is an example of what the check does not
understand (`compile_rangeToBracket`).
-/

namespace UriRouting.Matchable

open Expression Placeholder

/-! ## A template of one placeholder -/

/-- The body of a placeholder called `id`. -/
def idBody (sub : List Char) : List Char := ['i', 'd'] ++ ':' :: sub

/-- The template that is a placeholder called `id`. -/
def idTemplate (sub : List Char) : String := String.ofList ('\x7b' :: (idBody sub ++ ['\x7d']))

/-- The segments of that template. -/
def idSegments (sub : List Char) : List Segment :=
  [.literal [], .placeholder (idBody sub), .literal []]

instance : DecidablePred Segment.IsBalanced := fun text =>
  decidable_of_iff ((∀ start ∈ text.inits, 0 ≤ Segment.depth start) ∧ Segment.depth text = 0)
    ⟨fun h => ⟨fun start hstart => h.1 start ((List.mem_inits start text).mpr hstart), h.2⟩,
      fun h => ⟨fun start hstart => h.nonneg start ((List.mem_inits start text).mp hstart),
        h.closed⟩⟩

lemma isBalanced_cons {c : Char} {text : List Char} (hopen : c ≠ '\x7b') (hclose : c ≠ '\x7d')
    (h : Segment.IsBalanced text) : Segment.IsBalanced (c :: text) where
  nonneg start hstart := by
    rcases List.prefix_cons_iff.mp hstart with rfl | ⟨rest, rfl, hrest⟩
    · exact le_rfl
    · simpa [Segment.depth_cons, hopen, hclose] using h.nonneg rest hrest
  closed := by simpa [Segment.depth_cons, hopen, hclose] using h.closed

section Template

variable {sub : List Char}

/-- Where the braces of the sub-pattern are balanced, so are those of the template. -/
lemma split_idTemplate (h : Segment.IsBalanced sub) :
    Segment.split (idTemplate sub).toList = .ok (idSegments sub) := by
  have hbody : Segment.IsBalanced (idBody sub) :=
    isBalanced_cons (by decide) (by decide) (isBalanced_cons (by decide) (by decide)
      (isBalanced_cons (by decide) (by decide) h))
  have hwell : Segment.WellFormed (idSegments sub) :=
    .cons Segment.isRegular_nil (by simp [idBody]) hbody (.last Segment.isRegular_nil)
  rw [← Segment.split_join_of_wellFormed hwell]
  simp [idTemplate, idSegments, Segment.join, Segment.text]

lemma written_idBody (sub : List Char) : written (idBody sub) = ⟨['i', 'd'], sub⟩ :=
  written_colon (by decide) sub

lemma assembledText_idSegments (anchoring : Anchoring) (sub : List Char) :
    assembledText anchoring (idSegments sub) = anchored anchoring ('(' :: (sub ++ [')'])) := by
  simp [assembledText, idSegments, Segment.bodies, written_idBody, patternText]

/-- The only thing that can be wrong with the body is that its parentheses are not balanced. -/
lemma isBad_idBody_iff (hne : sub ≠ []) {fault : TemplateFault} :
    IsBad (idBody sub) fault ↔
      fault = .unbalancedSubpattern (String.ofList (idBody sub)) ∧ balanced sub = false := by
  have hname : ':' ∉ ['i', 'd'] := by decide
  have hread := ofBody_colon hname sub
  rw [if_neg (by decide), if_neg hne] at hread
  rw [← ofBody_eq_error_iff (by simp [idBody]), idBody, hread]
  cases hbalanced : balanced sub <;> simp [eq_comm]

/-- What compiling the template answers if the check of parentheses turns the sub-pattern away. -/
lemma value_of_unbalanced (hne : sub ≠ []) (hbraces : Segment.IsBalanced sub)
    (hunbalanced : balanced sub = false) (anchoring : Anchoring) :
    (compile (idTemplate sub) anchoring).run.value =
      .error (.unbalancedSubpattern (String.ofList (idBody sub))) := by
  have hbad := (isBad_idBody_iff hne).mpr ⟨rfl, hunbalanced⟩
  have hbodies : Segment.bodies (idSegments sub) = [] ++ idBody sub :: [] := rfl
  exact value_of_bad (split_idTemplate hbraces) hbodies (by simp) hbad anchoring

end Template

/-! ## Sound sub-patterns -/

/-- A sub-pattern that is sound for the reader of expressions: between two parentheses it is an
expression with one capturing group, which is these parentheses, and it is an expression between the
anchors, too. -/
structure IsSound (sub : List Char) : Prop where
  ne_nil : sub ≠ []
  braces : Segment.IsBalanced sub
  alone : ∃ e, ofText ('(' :: (sub ++ [')'])) = .ok e ∧ e.highestGroup = 1
  closes : Sealed sub
  anchored : ∀ anchoring, ∃ e, ofText (anchored anchoring ('(' :: (sub ++ [')']))) = .ok e

lemma exists_ok_iff {ε α : Type} {x : Except ε α} {kind : α → Bool} :
    (∃ a, x = .ok a ∧ kind a = true) ↔ x.toOption.any kind = true := by
  cases x <;> simp [Except.toOption]

lemma isSound_iff (sub : List Char) : IsSound sub ↔ sub ≠ [] ∧ Segment.IsBalanced sub ∧
    (ofText ('(' :: (sub ++ [')']))).toOption.any (fun e => e.highestGroup == 1) = true ∧
    Sealed sub ∧ ∀ anchoring ∈ [Anchoring.full, .leading],
      (ofText (anchored anchoring ('(' :: (sub ++ [')'])))).toOption.any
        (fun _ => true) = true := by
  have hall (anchoring : Anchoring) : anchoring ∈ [Anchoring.full, .leading] := by
    cases anchoring <;> decide
  simp only [← exists_ok_iff, beq_iff_eq, and_true]
  exact ⟨fun h => ⟨h.ne_nil, h.braces, h.alone, h.closes, fun anchoring _ => h.anchored anchoring⟩,
    fun ⟨hne, hbraces, halone, hcloses, hanchored⟩ =>
      ⟨hne, hbraces, halone, hcloses, fun anchoring => hanchored anchoring (hall anchoring)⟩⟩

instance : DecidablePred IsSound := fun sub => decidable_of_iff _ (isSound_iff sub).symm

/-- Between the anchors there are no more groups than without them. -/
lemma groups_anchored {sub : List Char} {alone : Expression} {anchoring : Anchoring}
    {e : Expression} (hsealed : Sealed sub) (halone : ofText ('(' :: (sub ++ [')'])) = .ok alone)
    (htext : ofText (anchored anchoring ('(' :: (sub ++ [')']))) = .ok e) :
    e.highestGroup = alone.highestGroup := by
  obtain ⟨inside, depth, hgroup⟩ := exists_firstGroup hsealed
  have halone : alone = group 1 inside := by
    obtain ⟨r, hreads, hflags, _, hbody⟩ := hgroup Reader.start ⟨rfl, rfl, rfl, rfl⟩ []
    obtain ⟨last, left, hlast, hend, rfl⟩ := reads_of_ofText halone
    have hfinished : Finished (r, []) := skip_of_default hflags []
    have hsame : (last, left) = (r, []) := by
      rcases (Reads.to_end hlast hreads hfinished).cases_head with hsame | ⟨_, hround, _⟩
      · exact hsame
      · exact absurd hround hend.not_round
    obtain ⟨rfl, _⟩ := Prod.mk.inj hsame
    rw [hbody]
    rfl
  obtain ⟨r, hreads, hflags, hopened, hbody⟩ :=
    hgroup (Reader.start.add (look .textStart) 0) ⟨rfl, rfl, rfl, rfl⟩ (endAnchor anchoring)
  have hstart := reads_startAnchor anchoring ('(' :: (sub ++ [')']))
  simp only [List.cons_append, List.append_assoc, List.nil_append] at hstart
  have htop : r.AtTop := ⟨hflags, hopened, by rw [hbody]; rfl⟩
  obtain ⟨parts, rfl, hparts⟩ := expression_of_reads htext htop (hstart.trans hreads)
  refine highestGroup_congr fun n => ?_
  have hend : groupsOf (Token.endParts (decide (anchoring = .full))).reverse = [] := by
    cases anchoring <;> rfl
  rw [Body.groups_branch, hparts, hbody, halone, groupsOf_append, hend]
  simp [Body.add, Reader.add, Reader.start, Body.start, Expression.groups]

/-- A template of one placeholder with a sound sub-pattern compiles if the check of parentheses
understands the sub-pattern.  The only fault that it can have is that its parentheses are not
balanced in the eyes of the check. -/
theorem compile_of_isSound {sub : List Char} (h : IsSound sub) (anchoring : Anchoring) :
    (Regular ('(' :: (sub ++ [')'])) →
      ∃ m, (compile (idTemplate sub) anchoring).run.value = .ok m ∧ m.parameters = ["id"]) ∧
    ∀ fault, (compile (idTemplate sub) anchoring).run.value = .error fault ↔
      fault = .unbalancedSubpattern (String.ofList (idBody sub)) ∧ balanced sub = false := by
  have hsplit := split_idTemplate h.braces
  obtain ⟨alone, halone, hone⟩ := h.alone
  obtain ⟨e, htext⟩ := h.anchored anchoring
  have hgroups : e.highestGroup = (Segment.bodies (idSegments sub)).length :=
    (groups_anchored h.closes halone htext).trans hone
  rw [← assembledText_idSegments] at htext
  -- A body without a fault leaves nothing that could be wrong.
  have hgood (hbalanced : balanced sub = true) :
      ∃ m, (compile (idTemplate sub) anchoring).run.value = .ok m ∧ m.parameters = ["id"] := by
    have hgood : ∀ body ∈ Segment.bodies (idSegments sub), IsGood body := by
      refine List.forall_mem_singleton.mpr fun fault hbad => ?_
      obtain ⟨_, hunbalanced⟩ := (isBad_idBody_iff h.ne_nil).mp hbad
      rw [hbalanced] at hunbalanced
      cases hunbalanced
    refine ⟨_, (Outcome.compiled hsplit hgood htext hgroups).value_eq, ?_⟩
    simp [idSegments, Segment.bodies, written_idBody]
  refine ⟨fun hregular => hgood (balanced_of_enclosed (enclosed_of_sealed h.closes) hregular),
    fun fault => ?_⟩
  cases hbalanced : balanced sub with
  | true =>
    obtain ⟨m, hm, _⟩ := hgood hbalanced
    rw [hm]
    simp
  | false =>
    rw [value_of_unbalanced h.ne_nil h.braces hbalanced]
    simp [eq_comm]

/-- The check understands a sub-pattern with parentheses and brackets that are escaped or stand in
classes. -/
theorem compile_of_isSound_nested :
    IsSound "[^]]\x7b2\x7d|\\((?:[(-)]|\\[)*\\)".toList ∧
      Regular ('(' :: ("[^]]\x7b2\x7d|\\((?:[(-)]|\\[)*\\)".toList ++ [')'])) ∧
      ∀ anchoring, ∃ m, (compile (idTemplate "[^]]\x7b2\x7d|\\((?:[(-)]|\\[)*\\)".toList)
        anchoring).run.value = .ok m ∧ m.parameters = ["id"] := by
  have hsound : IsSound "[^]]\x7b2\x7d|\\((?:[(-)]|\\[)*\\)".toList := by decide +kernel
  have hregular : Regular ('(' :: ("[^]]\x7b2\x7d|\\((?:[(-)]|\\[)*\\)".toList ++ [')'])) := by
    decide +kernel
  exact ⟨hsound, hregular, fun anchoring => (compile_of_isSound hsound anchoring).1 hregular⟩

/-- The bracket at the end of a range opens a class in the eyes of the check, and so the closing
parenthesis of the group does not count. -/
theorem compile_rangeToBracket :
    IsSound "(?:[A-[])".toList ∧ ∀ anchoring, (compile (idTemplate "(?:[A-[])".toList)
      anchoring).run.value = .error (.unbalancedSubpattern "id:(?:[A-[])") := by
  have hsound : IsSound "(?:[A-[])".toList := by decide +kernel
  have hunbalanced : balanced "(?:[A-[])".toList = false := by decide +kernel
  exact ⟨hsound, fun anchoring =>
    value_of_unbalanced hsound.ne_nil hsound.braces hunbalanced anchoring⟩

end UriRouting.Matchable
