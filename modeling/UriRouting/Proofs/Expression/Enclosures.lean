import Mathlib.Tactic
import UriRouting.Proofs.Expression.GroupNumbers

/-!
# Groups that stay open

A text that is put between two parentheses may close the group of the first one and go on outside of
it.  Then a branch in the text is no branch of the group any more but one of the whole expression.
`Reader.Encloses` says that this does not happen: the first parenthesis opens a group of some kind,
and the group stays open until the second parenthesis closes it.

An enclosing group adds one part to what has been read around it, and leaves the reader as it was
otherwise (`part_of_encloses`).  As with `Sealed`, it depends on the text alone whether it can be
enclosed, and it can be checked (`enclosed_iff`).  All sealed texts are enclosed
(`enclosed_of_sealed`).  The converse does not hold, since the group of an enclosed text need not
capture.
-/

namespace UriRouting.Expression

/-- A group is open. -/
def Reader.InGroup (r : Reader) : Prop := r.opened ≠ []

/-- The parenthesis before `inside` opens a group, which stays open until the one before `after`
closes it.  No group is open around it. -/
def Reader.Encloses (r : Reader) (inside after : List Char) : Prop :=
  ∃ first last behind left, r.step '(' inside = .ok (first, behind) ∧ first.InGroup ∧
    ReadsKeeping Reader.InGroup (first, behind) (last, left) ∧
      last.flags.skip left = ')' :: after ∧ last.opened.length = 1

/-! ## The part of an enclosing group -/

/-- The group is the outermost one that is open. -/
def OpenGroup.AtBottom (g : OpenGroup) (r : Reader) : Prop := ∃ above, r.opened = above ++ [g]

/-- As long as any group is open, the outermost one is the same. -/
lemma OpenGroup.AtBottom.round {g : OpenGroup} {s t : Stage} (h : g.AtBottom s.1)
    (hround : Round s t) (hgroup : t.1.InGroup) : g.AtBottom t.1 := by
  obtain ⟨above, habove⟩ := h
  obtain ⟨c, tail, _, hstep⟩ := hround
  obtain ⟨a, hact, _⟩ := step_act hstep
  rcases act_cases hact with ⟨index, hopened, _⟩ | ⟨top, hopened, _⟩ | ⟨hopened, _⟩
  · refine ⟨⟨index, s.1.flags, s.1.body⟩ :: above, ?_⟩
    rw [hopened, habove]
    rfl
  · rw [habove] at hopened
    cases above with
    | nil =>
      -- The group itself is closed, and so none is open.
      obtain ⟨_, hnone⟩ := List.cons.inj hopened
      exact absurd hnone.symm hgroup
    | cons _ above =>
      obtain ⟨_, hrest⟩ := List.cons.inj hopened
      exact ⟨above, hrest.symm⟩
  · exact ⟨above, hopened.trans habove⟩

lemma OpenGroup.AtBottom.reads {g : OpenGroup} {s t : Stage} (h : g.AtBottom s.1)
    (hreads : ReadsKeeping Reader.InGroup s t) : g.AtBottom t.1 := by
  induction hreads with
  | refl => exact h
  | tail _ last ih => exact ih.round last.1 last.2

section Fresh

variable {r : Reader} (hflags : r.flags = {}) (hopened : r.opened = [])
include hflags hopened

/-- An enclosing group adds one part, and the reader is left with no flag and no open group. -/
theorem part_of_encloses {inside post : List Char} (h : r.Encloses inside post) :
    ∃ (r' : Reader) (e : Expression) (depth : Nat), Reads (r, '(' :: inside) (r', post) ∧
      r'.flags = {} ∧ r'.opened = [] ∧ r'.body = r.body.add ⟨e, depth, false⟩ := by
  obtain ⟨first, last, behind, left, hstep, hgroup, hreads, hskip, hone⟩ := h
  obtain ⟨index, hfirst⟩ : ∃ index, first.opened = [⟨index, {}, r.body⟩] := by
    obtain ⟨a, hact, _⟩ := step_act hstep
    rcases act_cases hact with ⟨index, hopen, _⟩ | ⟨g, hopen, _⟩ | ⟨hsame, _⟩
    · exact ⟨index, by rw [hopen, hopened, hflags]⟩
    · rw [hopened] at hopen
      cases hopen
    · exact absurd (hsame.trans hopened) hgroup
  -- The only group that is open in the end is the one that has been opened here.
  have hlast : last.opened = [⟨index, {}, r.body⟩] := by
    have hbottom : OpenGroup.AtBottom ⟨index, {}, r.body⟩ first := ⟨[], hfirst⟩
    obtain ⟨above, habove⟩ := hbottom.reads hreads
    have hnone : above = [] := by
      rw [habove, List.length_append, List.length_singleton] at hone
      exact List.eq_nil_of_length_eq_zero (by omega)
    rw [habove, hnone, List.nil_append]
  obtain ⟨closed, e, hclosing, hflags', hopened', hbody⟩ : ∃ closed e, last.closing = .ok closed ∧
      closed.flags = {} ∧ closed.opened = [] ∧
      closed.body = r.body.add ⟨e, last.body.whole.depth + 1, false⟩ := by
    rw [Reader.closing, hlast]
    exact ⟨_, _, rfl, rfl, rfl, rfl⟩
  have hopen : Round (r, '(' :: inside) (first, behind) := by
    refine ⟨'(', inside, ?_, hstep⟩
    rw [hflags]
    rfl
  have hclose : Round (last, left) (closed, post) := by
    refine ⟨')', post, hskip, ?_⟩
    change last.closing.map (·, post) = _
    rw [hclosing]
    rfl
  exact ⟨closed, e, _, .head hopen (hreads.reads.tail hclose), hflags', hopened', hbody⟩

end Fresh

/-! ## Texts that can be enclosed -/

lemma Reader.Encloses.after {r : Reader} {sub post : List Char}
    (h : r.Encloses (sub ++ ')' :: post) post) (other : List Char) :
    r.Encloses (sub ++ ')' :: other) other := by
  obtain ⟨first, last, behind, left, hstep, hgroup, hreads, hskip, hone⟩ := h
  obtain ⟨behind', left', hstep', hreads', hskip'⟩ := reads_with_after hstep hreads hskip other
  exact ⟨first, last, behind', left', hstep', hgroup, hreads', hskip', hone⟩

/-- A text that can stand between two parentheses: it does not leave the group that they are. -/
def Enclosed (sub : List Char) : Prop := Reader.start.Encloses (sub ++ [')']) []

lemma Alike.length_opened {off : Nat} {q r : Reader} (h : Alike off q r) :
    q.opened.length = r.opened.length := h.opened.length_eq

lemma Alike.inGroup_iff {off : Nat} {q r : Reader} (h : Alike off q r) :
    q.InGroup ↔ r.InGroup := by
  have hlength := h.length_opened
  simp only [Reader.InGroup, ← List.length_pos_iff, hlength]

section Fresh

variable {r : Reader} (hflags : r.flags = {}) (hopened : r.opened = [])
include hflags hopened

/-- A text that is enclosed where nothing is open is so on its own. -/
lemma enclosed_of_encloses {sub post : List Char} (h : r.Encloses (sub ++ ')' :: post) post) :
    Enclosed sub := by
  obtain ⟨first, last, behind, left, hstep, hgroup, hreads, hskip, hone⟩ := h
  obtain ⟨first', hstep', halike, hcan⟩ := open_alike hflags hopened rfl hstep
  obtain ⟨last', hreads', halike', _⟩ :=
    halike.reads hcan (fun _ _ hsame => hsame.inGroup_iff.mpr) hreads
  have hencloses : Reader.start.Encloses (sub ++ ')' :: post) post := by
    refine ⟨first', last', behind, left, hstep', halike.inGroup_iff.mpr hgroup, hreads', ?_, ?_⟩
    · rw [halike'.flags]
      exact hskip
    · rw [halike'.length_opened]
      exact hone
  exact hencloses.after []

/-- A text that is enclosed on its own is so in a text that can be read. -/
lemma encloses_of_enclosed {sub post : List Char} (h : Enclosed sub) {end' : Stage}
    (hreads : Reads (r, '(' :: (sub ++ ')' :: post)) end') (hend : Finished end') :
    r.Encloses (sub ++ ')' :: post) post := by
  obtain ⟨first', last', behind', left, hstep', hgroup', hreads', hskip', hone'⟩ := h.after post
  obtain ⟨first, hstep, halike, hcan, hrest⟩ := open_alike_back hflags hopened hstep' hreads hend
  obtain ⟨last, hlast, halike', _⟩ :=
    halike.reads_back hcan (fun _ _ hsame => hsame.inGroup_iff.mp) hrest hend hreads'
  refine ⟨first, last, behind', left, hstep, halike.inGroup_iff.mp hgroup', hlast, ?_, ?_⟩
  · rw [← halike'.flags]
    exact hskip'
  · rw [← halike'.length_opened]
    exact hone'

end Fresh

/-! ## Sealed texts -/

lemma Inside.inGroup {number : Nat} {bottom : OpenGroup} {r : Reader}
    (h : Inside number bottom r) : r.InGroup := by
  obtain ⟨above, habove, _⟩ := h.opened
  simp [Reader.InGroup, habove]

/-- A group that is still open in the end has been open all the time. -/
lemma Inside.reads_keeping {number : Nat} {bottom : OpenGroup}
    (hbottom : bottom.index = some number) {s t : Stage} (hs : Inside number bottom s.1)
    (hreads : Reads s t) (ht : Inside number bottom t.1) : ReadsKeeping Reader.InGroup s t := by
  induction hreads with
  | refl => exact .refl
  | @tail u v hreads last ih =>
    obtain ⟨c, tail, hskip, hstep⟩ := last
    obtain ⟨a, hact, _⟩ := step_act hstep
    have hu : Inside number bottom u.1 := by
      rcases Reads.inside hreads hs with hin | hout
      · exact hin
      · -- A group that has been closed is not opened again.
        obtain ⟨above, habove, _⟩ := ht.opened
        have hmem : bottom ∈ v.1.opened := by simp [habove]
        exact absurd hbottom ((hout.act hact).opened bottom hmem)
    exact (ih hu).tail ⟨⟨c, tail, hskip, hstep⟩, ht.inGroup⟩

theorem enclosed_of_sealed {sub : List Char} (h : Sealed sub) : Enclosed sub := by
  obtain ⟨first, last, behind, left, g, outer, hstep, hgroups, hreads, hskip, hg, hindex⟩ := h
  have hfirst := inside_of_opening rfl rfl hstep hgroups
  obtain ⟨hlast, hbottom⟩ := Reads.innermost hreads hfirst hg hindex
  have hkeeps := Inside.reads_keeping rfl hfirst hreads hlast
  have hone : last.opened.length = 1 := congrArg List.length hbottom
  exact ⟨first, last, behind, left, hstep, hfirst.inGroup, hkeeps, hskip, hone⟩

/-! ## Deciding -/

/-- Can the text be enclosed?  It is read between two parentheses. -/
def isEnclosed (sub : List Char) : Bool :=
  match Reader.start.step '(' (sub ++ [')']) with
  | .ok (first, behind) => !first.opened.isEmpty && closesWithin (fun r => !r.opened.isEmpty)
      (fun r => r.opened.length == 1) behind.length first behind
  | .error _ => false

lemma not_isEmpty_opened_iff (r : Reader) : (!r.opened.isEmpty) = true ↔ r.InGroup := by
  simp [Reader.InGroup]

theorem enclosed_iff (sub : List Char) : Enclosed sub ↔ isEnclosed sub = true := by
  unfold isEnclosed
  have hcloses (s : Stage) : closesWithin (fun r => !r.opened.isEmpty)
      (fun r => r.opened.length == 1) s.2.length s.1 s.2 = true ↔ ∃ last left,
        ReadsKeeping Reader.InGroup s (last, left) ∧ last.flags.skip left = [')'] ∧
          last.opened.length = 1 := by
    simp only [closesWithin_iff le_rfl, not_isEmpty_opened_iff, beq_iff_eq]
  constructor
  · rintro ⟨first, last, behind, left, hstep, hgroup, hreads, hskip, hone⟩
    have hlast := (hcloses (first, behind)).mpr ⟨last, left, hreads, hskip, hone⟩
    simp only [hstep, Bool.and_eq_true, not_isEmpty_opened_iff]
    exact ⟨hgroup, hlast⟩
  · intro h
    cases hstep : Reader.start.step '(' (sub ++ [')']) with
    | error _ => simp [hstep] at h
    | ok found =>
      obtain ⟨first, behind⟩ := found
      simp only [hstep, Bool.and_eq_true, not_isEmpty_opened_iff] at h
      obtain ⟨last, left, hreads, hskip, hone⟩ := (hcloses (first, behind)).mp h.2
      exact ⟨first, last, behind, left, hstep, h.1, hreads, hskip, hone⟩

instance : DecidablePred Enclosed := fun sub => decidable_of_iff _ (enclosed_iff sub).symm

end UriRouting.Expression
