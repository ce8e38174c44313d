import Mathlib.Tactic
import UriRouting.Proofs.Expression.Enclosures
import UriRouting.Proofs.Template.CheckedClass

/-!
# What the check of parentheses lets through

A text that can stand between two parentheses has balanced parentheses in the eyes of the check, if
the check understands it (`balanced_of_enclosed`).

Where a reader has opened a number of groups inside of the two parentheses, the check has counted as
many.  One step of the reader keeps it so (`step_goesAlong`), and from step to step this leads to
the end of the text, where neither has any left.  Comments must stay switched off all the way, also
where a group closes and the flags from outside of it hold again (`Reader.Unextended`).
-/

namespace UriRouting.Expression

open Placeholder

/-- Comments are switched off, here and outside of the open groups. -/
structure Reader.Unextended (r : Reader) : Prop where
  flags : r.flags.extended = false
  opened : ∀ g ∈ r.opened, g.flags.extended = false

lemma Reader.Unextended.enter {r : Reader} (h : r.Unextended) (index : Option Nat) {inside : Flags}
    (hinside : inside.extended = false) : (r.enter index inside).Unextended where
  flags := hinside
  opened := List.forall_mem_cons.mpr ⟨h.flags, h.opened⟩

/-- The reader takes a text up to the rest, and the check counts the groups that it opens and
closes, without the outermost one. -/
structure GoesAlong (r : Reader) (text : List Char) (r' : Reader) (rest : List Char) : Prop where
  unextended : r'.Unextended
  regular : RegularFrom .outside rest
  balanced : ∃ taken, text = taken ++ rest ∧ ∀ more,
    balancedFrom (r.opened.length - 1) 0 .plain (taken ++ more) =
      balancedFrom (r'.opened.length - 1) 0 .plain more

/-- Where no group is opened or closed, it is enough that nothing counts. -/
lemma goesAlong_of_passes {r r' : Reader} {taken rest : List Char} (hplain : r.Unextended)
    (hregular : RegularFrom .outside (taken ++ rest)) (hpasses : Passes .outside taken .outside)
    (hflags : r'.flags = r.flags) (hopened : r'.opened = r.opened) :
    GoesAlong r (taken ++ rest) r' rest where
  unextended := ⟨by rw [hflags]; exact hplain.flags, by rw [hopened]; exact hplain.opened⟩
  regular := hregular.after hpasses
  balanced := by
    refine ⟨taken, rfl, fun more => ?_⟩
    rw [hopened]
    exact hpasses.balancedFrom_append _ more

/-! ## Groups and flags -/

/-- Behind an opening parenthesis the reader takes a text up to the rest, and nothing in it counts.
It begins a group, or it sets flags and ends with a closing parenthesis. -/
structure Begins (r : Reader) (text : List Char) (r' : Reader) (rest : List Char) : Prop where
  unextended : r'.Unextended
  passes : ∃ taken, Passes .outside taken .outside ∧
    (text = taken ++ rest ∧ r'.opened.length = r.opened.length + 1 ∨
      text = taken ++ ')' :: rest ∧ r'.opened = r.opened)

section Begins

variable {r r' : Reader} {rest : List Char} (hplain : r.Unextended)
include hplain

lemma namedGroup_begins (lead : List Char) {behind : List Char} (hlead : Unmarked lead)
    (hname : plainName behind = true) (h : namedGroup r behind = .ok (r', rest)) :
    Begins r (lead ++ behind) r' rest := by
  unfold namedGroup at h
  cases hgroup : groupName r.names behind with
  | error _ => simp [hgroup, Except.map] at h
  | ok read =>
    obtain ⟨name, left⟩ := read
    simp only [hgroup, Except.map, Except.ok.injEq, Prod.mk.injEq] at h
    obtain ⟨rfl, rfl⟩ := h
    obtain ⟨taken, rfl, htaken⟩ := groupName_passes hgroup hname
    have henter := hplain.enter (some (r.groups + 1)) hplain.flags
    exact ⟨⟨henter.flags, henter.opened⟩, lead ++ taken, (hlead.passes 0).append htaken,
      .inl ⟨(List.append_assoc ..).symm, rfl⟩⟩

/-- Flags do not count.  Those that stand alone end with a parenthesis that closes nothing. -/
lemma flagGroup_begins {behind : List Char} (hx : (switchedOn behind).contains 'x' = false)
    (h : flagGroup r behind = .ok (r', rest)) : Begins r ('?' :: behind) r' rest := by
  unfold flagGroup at h
  cases hflags : readFlags r.flags [] false behind with
  | error _ => simp [hflags] at h
  | ok read =>
    obtain ⟨flags, isEmpty, sign, left⟩ := read
    obtain ⟨hend, ⟨letters, rfl, hletters⟩, hextended⟩ := readFlags_unmarked hflags
    have hoff := hextended hplain.flags (.inr hx)
    simp only [hflags] at h
    split at h
    next hcolon =>
      obtain ⟨rfl, rfl⟩ := Prod.mk.inj (Except.ok.inj h)
      subst hcolon
      have htaken : Unmarked ('?' :: (letters ++ [':'])) :=
        (hletters.append (by decide)).cons (by decide)
      exact ⟨hplain.enter none hoff, _, htaken.passes 0, .inl ⟨by simp, rfl⟩⟩
    next hcolon =>
      split at h
      next => cases h
      next =>
        obtain ⟨rfl, rfl⟩ := Prod.mk.inj (Except.ok.inj h)
        obtain rfl := hend.resolve_left hcolon
        have htaken : Unmarked ('?' :: letters) := hletters.cons (by decide)
        exact ⟨⟨hoff, hplain.opened⟩, _, htaken.passes 0, .inr ⟨rfl, rfl⟩⟩

/-- What an opening parenthesis begins in a regular text. -/
theorem opening_begins {text : List Char} (hregular : RegularFrom .outside ('(' :: text))
    (h : r.opening text = .ok (r', rest)) : Begins r text r' rest := by
  have hskip := skip_eq_self hplain.flags text
  rcases opening_cases (r.flags.skip text) with hother | hlook | ⟨behind, hname⟩ |
    ⟨behind, hname, hsign⟩ | ⟨behind, hquestion, hlook, hangle, hname⟩
  · rw [opening_plain hother, hskip] at h
    obtain ⟨rfl, rfl⟩ := Prod.mk.inj (Except.ok.inj h)
    exact ⟨hplain.enter _ hplain.flags, [], .nil _, .inl ⟨rfl, rfl⟩⟩
  · rw [opening_lookAround hlook] at h
    cases h
  · rw [opening_named hname] at h
    rw [hskip] at hname
    subst hname
    have hsigns := hregular.signs
    exact namedGroup_begins hplain ['?', 'P', '<'] (by decide) hsigns h
  · rw [opening_angle hname hsign] at h
    rw [hskip] at hname
    subst hname
    have hsigns := hregular.signs
    exact namedGroup_begins hplain ['?', '<'] (by decide) hsigns h
  · rw [opening_flags hquestion hlook hangle hname] at h
    rw [hskip] at hquestion
    subst hquestion
    have hx : (switchedOn behind).contains 'x' = false := by
      have hsigns := hregular.signs
      unfold plainSigns at hsigns
      split at hsigns
      next => exact absurd rfl (hname _)
      next => exact absurd rfl hangle
      next => simpa using hsigns
    exact flagGroup_begins hplain hx h

end Begins

/-! ## One step -/

lemma step_letter_keeps {r r' : Reader} {c : Char} {tail rest : List Char}
    (h : r.step c tail = .ok (r', rest))
    (hopen : c ≠ '(') (hclose : c ≠ ')') (hclass : c ≠ '[') (hone : c ≠ '?') (hmany : c ≠ '*')
    (hsome : c ≠ '+') (hcount : c ≠ '\x7b') (hslash : c ≠ '\\') :
    tail = rest ∧ r'.flags = r.flags ∧ r'.opened = r.opened := by
  have hsame {added : Reader} (h : Except.ok (ε := ExpressionFault) (added, tail) = .ok (r', rest))
      (hflags : added.flags = r.flags) (hopened : added.opened = r.opened) :
      tail = rest ∧ r'.flags = r.flags ∧ r'.opened = r.opened := by
    obtain ⟨rfl, rfl⟩ := Prod.mk.inj (Except.ok.inj h)
    exact ⟨rfl, hflags, hopened⟩
  have hadded {read : Except ExpressionFault Expression}
      (h : (do return (r.add (← read) 0, tail)) = Except.ok (r', rest)) :
      tail = rest ∧ r'.flags = r.flags ∧ r'.opened = r.opened := by
    obtain ⟨e, _, h⟩ := bind_eq_ok h
    exact hsame h rfl rfl
  unfold Reader.step at h
  rw [if_neg hopen, if_neg hclose] at h
  by_cases hnext : c = '|'
  · rw [if_pos hnext] at h
    exact hsame h rfl rfl
  rw [if_neg hnext, if_neg hclass, if_neg hone, if_neg hmany, if_neg hsome, if_neg hcount,
    if_neg hslash] at h
  by_cases hdot : c = '.'
  · rw [if_pos hdot] at h
    exact hadded h
  rw [if_neg hdot] at h
  by_cases hstart : c = '^'
  · rw [if_pos hstart] at h
    exact hsame h rfl rfl
  rw [if_neg hstart] at h
  by_cases hstop : c = '$'
  · rw [if_pos hstop] at h
    exact hsame h rfl rfl
  rw [if_neg hstop] at h
  exact hadded h

lemma quantify_goesAlong {r r' : Reader} {tail rest : List Char} (hplain : r.Unextended) {c : Char}
    (hc : c ∉ marks) (htaken : ∃ taken, tail = taken ++ rest ∧ Unmarked taken) {least : Nat}
    {most : Option Nat} {lazy : Bool} (h : r.quantify least most lazy = .ok r')
    (hregular : RegularFrom .outside (c :: tail)) : GoesAlong r (c :: tail) r' rest := by
  obtain ⟨taken, rfl, htaken⟩ := htaken
  obtain ⟨_, _, hflags, _, _, hopened⟩ := canRepeat_of_quantify h
  exact goesAlong_of_passes hplain hregular ((htaken.cons hc).passes 0) hflags hopened

lemma sign_goesAlong {r r' : Reader} {tail rest : List Char} (hplain : r.Unextended) {c : Char}
    (hc : c ∉ marks) {least : Nat} {most : Option Nat}
    (h : r.sign least most tail = .ok (r', rest)) (hregular : RegularFrom .outside (c :: tail)) :
    GoesAlong r (c :: tail) r' rest := by
  obtain ⟨lazy, hquantify, _⟩ := sign_act h
  exact quantify_goesAlong hplain hc (sign_unmarked h) hquantify hregular

section Step

variable {r r' : Reader} {tail rest : List Char} (hplain : r.Unextended) (hgroup : r.InGroup)
include hplain hgroup

lemma opening_goesAlong (hregular : RegularFrom .outside ('(' :: tail))
    (h : r.opening tail = .ok (r', rest)) : GoesAlong r ('(' :: tail) r' rest := by
  have hlength : 0 < r.opened.length := List.length_pos_iff.mpr hgroup
  obtain ⟨hplain', taken, hpasses, ⟨rfl, hopened⟩ | ⟨rfl, hopened⟩⟩ :=
    opening_begins hplain hregular h
  · refine ⟨hplain', RegularFrom.after hregular.tail hpasses, '(' :: taken, rfl, fun more => ?_⟩
    have hdepth : r.opened.length - 1 + 1 = r'.opened.length - 1 := by omega
    rw [List.cons_append, balancedFrom_open, hdepth]
    exact hpasses.balancedFrom_append _ more
  · have hbehind := RegularFrom.after hregular.tail hpasses
    refine ⟨hplain', hbehind.tail, '(' :: (taken ++ [')']), by simp, fun more => ?_⟩
    have hclose := hpasses.balancedFrom_append (r.opened.length - 1 + 1) (')' :: more)
    rw [List.cons_append, balancedFrom_open, List.append_assoc, hopened]
    exact hclose.trans (balancedFrom_close _ more)

lemma closing_goesAlong (hgroup' : r'.InGroup) (hregular : RegularFrom .outside (')' :: tail))
    (h : r.closing = .ok r') : GoesAlong r (')' :: tail) r' tail := by
  unfold Reader.closing at h
  split at h
  next hnone => exact absurd hnone hgroup
  next g opened hopened =>
    obtain rfl := Except.ok.inj h
    have hplain' := hplain.opened
    rw [hopened] at hplain'
    obtain ⟨hflags, hrest⟩ := List.forall_mem_cons.mp hplain'
    refine ⟨⟨hflags, hrest⟩, hregular.tail, [')'], rfl, fun more => ?_⟩
    have hlength : 0 < opened.length := List.length_pos_iff.mpr hgroup'
    have hdepth : r.opened.length - 1 = opened.length - 1 + 1 := by
      rw [hopened, List.length_cons]
      omega
    rw [hdepth]
    exact balancedFrom_close _ more

/-- As long as the outermost group is open, the check goes along with the reader. -/
theorem step_goesAlong (hgroup' : r'.InGroup) {c : Char}
    (hregular : RegularFrom .outside (c :: tail)) (h : r.step c tail = .ok (r', rest)) :
    GoesAlong r (c :: tail) r' rest := by
  by_cases hopen : c = '('
  · subst hopen
    exact opening_goesAlong hplain hgroup hregular h
  by_cases hclose : c = ')'
  · subst hclose
    obtain ⟨hclosing, rfl⟩ := map_pair_eq_ok (show r.closing.map (·, tail) = .ok (r', rest) from h)
    exact closing_goesAlong hplain hgroup hgroup' hregular hclosing
  by_cases hclass : c = '['
  · subst hclass
    rw [step_bracket] at h
    cases hbracket : bracket r.flags ('[' :: tail) with
    | error _ => simp [hbracket, Except.map] at h
    | ok found =>
      obtain ⟨set, left⟩ := found
      rw [hbracket] at h
      obtain ⟨rfl, rfl⟩ := Prod.mk.inj (Except.ok.inj h)
      obtain ⟨taken, rfl, hpasses⟩ := bracket_passes hplain.flags hbracket hregular
      exact goesAlong_of_passes hplain hregular hpasses rfl rfl
  by_cases hone : c = '?'
  · subst hone
    have hsign : r.sign 0 (some 1) tail = .ok (r', rest) := h
    exact sign_goesAlong hplain (by decide) hsign hregular
  by_cases hmany : c = '*'
  · subst hmany
    have hsign : r.sign 0 none tail = .ok (r', rest) := h
    exact sign_goesAlong hplain (by decide) hsign hregular
  by_cases hsome : c = '+'
  · subst hsome
    have hsign : r.sign 1 none tail = .ok (r', rest) := h
    exact sign_goesAlong hplain (by decide) hsign hregular
  by_cases hcount : c = '\x7b'
  · subst hcount
    have hcounted : r.counted ('\x7b' :: tail) = .ok (r', rest) := h
    obtain ⟨least, most, lazy, hquantify, _⟩ := counted_act hcounted
    have htaken := counted_unmarked hplain.flags hcounted
    exact quantify_goesAlong hplain (by decide) htaken hquantify hregular
  by_cases hslash : c = '\\'
  · subst hslash
    rw [step_backslash] at h
    obtain ⟨⟨atom, left⟩, hescape, h⟩ := bind_eq_ok h
    obtain ⟨hatom, rfl⟩ := map_pair_eq_ok h
    cases tail with
    | nil => cases hescape
    | cons d tail =>
      obtain ⟨taken, rfl, htaken, _⟩ := escape_unmarked hplain.flags hescape
      have hpasses := (passes_escaped 0 d).append (htaken.passes 0)
      cases he : ofAtom r.flags atom with
      | error _ => simp [he, Except.map] at hatom
      | ok e =>
        rw [he] at hatom
        obtain rfl := Except.ok.inj hatom
        exact goesAlong_of_passes hplain hregular hpasses rfl rfl
  · obtain ⟨rfl, hflags, hopened⟩ :=
      step_letter_keeps h hopen hclose hclass hone hmany hsome hcount hslash
    have hpasses : Passes .outside [c] .outside := by
      refine passes_outside (List.forall_mem_singleton.mpr ?_)
      simp only [marks, List.mem_cons, List.not_mem_nil, or_false]
      tauto
    exact goesAlong_of_passes hplain hregular hpasses hflags hopened

end Step

/-! ## Many steps -/

/-- From anywhere in the outermost group the parentheses up to its end are balanced, if those that
are open are taken into account. -/
theorem balancedFrom_of_reads {s : Stage} {last : Reader} {left : List Char}
    (hreads : ReadsKeeping Reader.InGroup s (last, left)) (hlast : last.flags.skip left = [')'])
    (hone : last.opened.length = 1) (hplain : s.1.Unextended) (hgroup : s.1.InGroup)
    (hregular : RegularFrom .outside s.2) :
    ∃ kept, s.2 = kept ++ [')'] ∧ balancedFrom (s.1.opened.length - 1) 0 .plain kept = true := by
  induction hreads using Relation.ReflTransGen.head_induction_on with
  | refl =>
    rw [skip_eq_self hplain.flags] at hlast
    refine ⟨[], hlast, ?_⟩
    rw [hone]
    rfl
  | @head s t hround _ ih =>
    obtain ⟨⟨c, tail, hskip, hstep⟩, hgroup'⟩ := hround
    rw [skip_eq_self hplain.flags] at hskip
    rw [hskip] at hregular ⊢
    obtain ⟨hplain', hregular', taken, htext, hbalanced⟩ :=
      step_goesAlong hplain hgroup hgroup' hregular hstep
    obtain ⟨kept, hkept, hrest⟩ := ih hplain' hgroup' hregular'
    exact ⟨taken ++ kept, by rw [htext, hkept, List.append_assoc], (hbalanced kept).trans hrest⟩

/-- A text that is `Enclosed` has balanced parentheses, if it is `Regular` between two of them. -/
theorem balanced_of_enclosed {sub : List Char} (henclosed : Enclosed sub)
    (hregular : Regular ('(' :: (sub ++ [')']))) : balanced sub = true := by
  obtain ⟨first, last, behind, left, hstep, hgroup, hreads, hskip, hone⟩ := henclosed
  have hstart : Reader.start.Unextended := ⟨rfl, by simp [Reader.start]⟩
  have hopening : Reader.start.opening (sub ++ [')']) = .ok (first, behind) := hstep
  obtain ⟨hplain, taken, hpasses, hfirst⟩ := opening_begins hstart hregular.start hopening
  obtain ⟨htext, hopened⟩ : sub ++ [')'] = taken ++ behind ∧ first.opened.length = 1 := by
    rcases hfirst with hfirst | ⟨_, hopened⟩
    · exact hfirst
    · exact absurd hopened hgroup
  have hbehind : RegularFrom .outside behind :=
    RegularFrom.after (htext ▸ hregular.start.tail) hpasses
  obtain ⟨kept, rfl, hbalanced⟩ :=
    balancedFrom_of_reads hreads hskip hone hplain hgroup hbehind
  obtain rfl : sub = taken ++ kept := by
    rw [← List.append_assoc] at htext
    exact List.append_cancel_right htext
  rw [hopened] at hbalanced
  exact (hpasses.balancedFrom_append 0 kept).trans hbalanced

end UriRouting.Expression
