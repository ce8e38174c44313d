import Mathlib.Tactic
import UriRouting.Proofs.Expression.SteadyClass
import UriRouting.Proofs.Template.Unmarked

/-!
# Classes in the eyes of the check

The check counts brackets, where the reader of an expression knows which of them belong to a class.
In a regular text they agree: the check stands inside as many classes as the reader has open, and it
is outside again where the reader has read the whole class (`bracket_passes`).

At the beginning of a class both know a sign of negation and a closing bracket that is a member.
From there on each round of the reader takes a text that leads the check from a place inside of
classes to another one.
-/

namespace UriRouting.Expression

open Placeholder

/-! ## The beginning of a class -/

/-- Behind `taken` a class has begun, with `classes` brackets around it.  The check may not have
left the beginning of the class yet, but if not then what comes next does not matter there. -/
structure LeadsInside (p : Checkpoint) (classes : Nat) (taken rest : List Char) : Prop where
  regular : RegularFrom p (taken ++ rest) → RegularFrom (.inside classes) rest
  passes : ∀ inner after q, rest = inner ++ after → inner ≠ [] →
    Passes (.inside classes) inner q → Passes p (taken ++ inner) q

lemma leadsInside_of_passes {p : Checkpoint} {classes : Nat} {taken : List Char}
    (h : Passes p taken (.inside classes)) (rest : List Char) :
    LeadsInside p classes taken rest where
  regular hregular := hregular.after h
  passes _ _ _ _ _ hinner := h.append hinner

lemma LeadsInside.prepend {p q : Checkpoint} {classes : Nat} {start taken rest : List Char}
    (hstart : Passes p start q) (h : LeadsInside q classes taken rest) :
    LeadsInside p classes (start ++ taken) rest where
  regular hregular := h.regular (RegularFrom.after (by simpa using hregular) hstart)
  passes inner after q hrest hne hinner := by
    rw [List.append_assoc]
    exact hstart.append (h.passes inner after q hrest hne hinner)

/-- At the beginning of a class only a sign of negation, a hyphen and a closing bracket matter. -/
lemma leadsInside_settled {classes : Nat} {spot : Spot} {c : Char} {rest : List Char}
    (hspot : spot ≠ .escaped) (hsign : spot = .classStart → c ≠ '^') (hclose : c ≠ ']')
    (hhyphen : c ≠ '-') : LeadsInside ⟨classes + 1, spot⟩ classes [] (c :: rest) where
  regular := RegularFrom.settle hspot hsign (fun _ => hclose) (fun _ => hhyphen)
  passes inner after q hrest hne hinner := by
    cases hinner with
    | nil => exact absurd rfl hne
    | cons _ htail =>
      obtain ⟨rfl, _⟩ := List.cons.inj hrest
      have hnext : Checkpoint.next ⟨classes + 1, spot⟩ c = Checkpoint.next (.inside classes) c :=
        Checkpoint.next_of_settled hspot hsign fun _ => hclose
      exact .step_inside hnext htail

/-! ## Named classes and operators -/

lemma unmarked_of_bracketName? {name : List Char} {set : CharSet}
    (h : CharSet.bracketName? name = some set) : Unmarked name := by
  intro c hc hmark
  have hne {other : String} (hother : Unmarked other.toList) : name ≠ other.toList := by
    rintro rfl
    exact hother c hc hmark
  unfold CharSet.bracketName? at h
  repeat rw [if_neg (hne (by decide))] at h
  cases h

/-- A named class leads back to where it began. -/
lemma colonText_passes {negated : Bool} {name : List Char} (hname : Unmarked name) (around : Nat) :
    Passes (.inside around) (colonText negated name) (.inside around) := by
  have hsign : Unmarked (if negated then ['^'] else []) := by cases negated <;> decide
  have hinner : Unmarked ((if negated then ['^'] else []) ++ (name ++ [':'])) :=
    hsign.append (hname.append (by decide))
  have hclose : Passes ⟨around + 2, .plain⟩ [']'] (.inside around) :=
    .step_inside (by simp [Checkpoint.next, Checkpoint.inside]) (.nil _)
  have hbody := (hinner.passes (around + 2)).append hclose
  simp only [List.append_assoc, List.cons_append, List.nil_append] at hbody
  exact .step_inside (q := ⟨around + 2, .classStart⟩) (by simp [Checkpoint.next])
    (.step_inside (by simp [Checkpoint.next]) hbody)

lemma unmarked_of_setOperator? {c d : Char} {left : List Char} {op : SetOperator}
    (h : setOperator? (c :: d :: left) = some op) : Unmarked [c, d] := by
  unfold setOperator? at h
  split at h
  case h_4 => cases h
  all_goals
    next heq =>
      simp only [List.cons.injEq] at heq
      obtain ⟨rfl, rfl, _⟩ := heq
      decide

section Class

variable {flags : Flags} (hflags : flags.extended = false)
include hflags

lemma leadingHyphens_taken {fuel : Nat} {b found : OpenBracket} {text rest : List Char}
    (hfuel : text.length ≤ fuel) (h : leadingHyphens flags fuel b text = (found, rest)) :
    rest.head? ≠ some '-' ∧ (text = rest ∧ found = b ∨
      ∃ hyphens, text = '-' :: (hyphens ++ rest) ∧ Unmarked hyphens ∧ found.members ≠ []) := by
  induction fuel generalizing b text with
  | zero =>
    obtain rfl := List.eq_nil_of_length_eq_zero (Nat.le_zero.mp hfuel)
    obtain ⟨rfl, rfl⟩ := Prod.mk.inj h
    exact ⟨by simp, .inl ⟨rfl, rfl⟩⟩
  | succ fuel ih =>
    cases text with
    | nil =>
      obtain ⟨rfl, rfl⟩ := Prod.mk.inj h
      exact ⟨by simp, .inl ⟨rfl, rfl⟩⟩
    | cons c tail =>
      simp only [leadingHyphens, advance_cons, skip_eq_self hflags] at h
      split at h
      next hc =>
        subst hc
        obtain ⟨hhead, ⟨rfl, rfl⟩ | ⟨hyphens, rfl, hunmarked, hmembers⟩⟩ :=
          ih (Nat.le_of_succ_le_succ hfuel) h
        · exact ⟨hhead, .inr ⟨[], rfl, unmarked_nil, by simp [OpenBracket.add]⟩⟩
        · exact ⟨hhead, .inr ⟨'-' :: hyphens, rfl, hunmarked.cons (by decide), hmembers⟩⟩
      next hc =>
        obtain ⟨rfl, rfl⟩ := Prod.mk.inj h
        exact ⟨by simpa using hc, .inl ⟨rfl, rfl⟩⟩

/-- Behind the sign of negation, or in its place, hyphens and a closing bracket are members. -/
lemma hyphens_lead {classes : Nat} {spot : Spot}
    (hspot : spot = .classStart ∨ spot = .classNegated) {b found : OpenBracket}
    {text left rest : List Char} (hb : b.members = [])
    (hsign : spot = .classStart → text.head? ≠ some '^')
    (hhyphens : leadingHyphens flags text.length b text = (found, left))
    (hrest : (if found.members.isEmpty && left.head? == some ']' then advance flags left
      else left) = rest) (hne : rest ≠ []) :
    ∃ taken, text = taken ++ rest ∧ LeadsInside ⟨classes + 1, spot⟩ classes taken rest := by
  obtain ⟨hhead, ⟨rfl, rfl⟩ | ⟨hyphens, rfl, hunmarked, hmembers⟩⟩ :=
    leadingHyphens_taken hflags le_rfl hhyphens
  · by_cases hclose : text.head? = some ']'
    · obtain ⟨tail, rfl⟩ : ∃ tail, text = ']' :: tail := by
        cases text with
        | nil => cases hclose
        | cons c tail => exact ⟨tail, by rw [Option.some.inj hclose]⟩
      obtain rfl : tail = rest := by simpa [hb, skip_eq_self hflags] using hrest
      have hmember : Checkpoint.next ⟨classes + 1, spot⟩ ']' = .inside classes := by
        rcases hspot with rfl | rfl <;> simp [Checkpoint.next, Checkpoint.inside]
      exact ⟨[']'], rfl, leadsInside_of_passes (.step_inside hmember (.nil _)) tail⟩
    · obtain rfl : text = rest := by simpa [hclose] using hrest
      obtain ⟨c, tail, rfl⟩ := List.exists_cons_of_ne_nil hne
      have hescaped : spot ≠ .escaped := by rcases hspot with rfl | rfl <;> decide
      exact ⟨[], rfl, leadsInside_settled hescaped (fun h => by simpa using hsign h)
        (by simpa using hclose) (by simpa using hhead)⟩
  · obtain rfl : left = rest := by simpa [hmembers] using hrest
    have hhyphen : Checkpoint.next ⟨classes + 1, spot⟩ '-' = .inside classes := by
      rcases hspot with rfl | rfl <;> simp [Checkpoint.next, Checkpoint.inside]
    exact ⟨'-' :: hyphens, rfl, leadsInside_of_passes
      (.step_inside hhyphen (hunmarked.passes _)) left⟩

/-- An opening bracket leads the check into a class. -/
lemma openBracket_leads {b : OpenBracket} {tail rest : List Char}
    (h : openBracket flags ('[' :: tail) = .ok (b, rest)) (classes : Nat) :
    ∃ taken, tail = taken ++ rest ∧ LeadsInside ⟨classes, .plain⟩ classes ('[' :: taken) rest := by
  have hopen : Passes ⟨classes, .plain⟩ ['['] ⟨classes + 1, .classStart⟩ :=
    .step_other (by decide) (by simp [Checkpoint.next]) (.nil _)
  have hsplit (negated : Bool) {text : List Char}
      (hnegated : (tail.head? == some '^') = negated)
      (htext : (if negated then tail.drop 1 else tail) = text) : ∃ found left,
        leadingHyphens flags text.length ⟨negated, none, []⟩ text = (found, left) ∧
          (if found.members.isEmpty && left.head? == some ']' then advance flags left
            else left) = rest ∧ rest ≠ [] := by
    simp only [openBracket, advance_eq_drop hflags, List.drop_succ_cons, List.drop_zero, hnegated,
      htext] at h
    rcases hfound : leadingHyphens flags text.length ⟨negated, none, []⟩ text with ⟨found, left⟩
    rw [hfound] at h
    refine ⟨found, left, rfl, ?_⟩
    rw [advance_eq_drop hflags]
    split at h
    next hclose =>
      rw [if_pos hclose]
      split at h
      next => cases h
      next hne =>
        obtain ⟨_, rfl⟩ := Prod.mk.inj (Except.ok.inj h)
        exact ⟨rfl, by simpa using hne⟩
    next hclose =>
      rw [if_neg hclose]
      split at h
      next => cases h
      next hne =>
        obtain ⟨_, rfl⟩ := Prod.mk.inj (Except.ok.inj h)
        exact ⟨rfl, by simpa using hne⟩
  by_cases hsign : tail.head? = some '^'
  · obtain ⟨text, rfl⟩ : ∃ text, tail = '^' :: text := by
      cases tail with
      | nil => cases hsign
      | cons c text => exact ⟨text, by rw [Option.some.inj hsign]⟩
    obtain ⟨found, left, hhyphens, hrest, hne⟩ := hsplit true rfl rfl
    have hnegation : Passes ⟨classes + 1, .classStart⟩ ['^'] ⟨classes + 1, .classNegated⟩ :=
      .step_other (by decide) (by simp [Checkpoint.next]) (.nil _)
    obtain ⟨taken, rfl, hleads⟩ := hyphens_lead hflags (.inr rfl) rfl (by simp) hhyphens hrest hne
    exact ⟨'^' :: taken, rfl, .prepend hopen (.prepend hnegation hleads)⟩
  · obtain ⟨found, left, hhyphens, hrest, hne⟩ := hsplit false (beq_eq_false_iff_ne.mpr hsign) rfl
    obtain ⟨taken, rfl, hleads⟩ :=
      hyphens_lead hflags (.inl rfl) rfl (fun _ => hsign) hhyphens hrest hne
    exact ⟨taken, rfl, .prepend hopen hleads⟩

/-! ## Members -/

/-- A single member leads to the next place inside of the class.  What stands before a hyphen and an
opening bracket is not such a member, unless it is a hyphen itself. -/
lemma memberAtom_passes {a : Atom} {c : Char} {tail rest : List Char} (around : Nat)
    (h : memberAtom flags (c :: tail) = .ok (a, rest)) (hopen : c ≠ '[') (hclose : c ≠ ']') :
    ∃ taken, tail = taken ++ rest ∧ Passes (.inside around) (c :: taken) (.inside around) ∧
      ((∃ more, rest = '-' :: '[' :: more) → RegularFrom (.inside around) (c :: tail) →
        c = '-' ∧ taken = []) := by
  by_cases hslash : c = '\\'
  · subst hslash
    cases tail with
    | nil => cases h
    | cons d tail =>
      have hescape : escape flags (d :: tail) = .ok (a, rest) := h
      obtain ⟨taken, rfl, hunmarked, hlast⟩ := escape_unmarked hflags hescape
      refine ⟨d :: taken, rfl, (passes_escaped _ d).append (hunmarked.passes _), ?_⟩
      rintro ⟨more, rfl⟩ hregular
      exfalso
      rcases List.eq_nil_or_concat taken with rfl | ⟨start, e, rfl⟩
      · -- The character behind the backslash is the last one.
        have hplace : Checkpoint.next ⟨around + 1, .escaped⟩ d = .inside around := rfl
        have hpasses : Passes (.inside around) ['\\'] ⟨around + 1, .escaped⟩ :=
          .step_other (by decide) (by simp [Checkpoint.next, Checkpoint.inside]) (.nil _)
        have hregular : RegularFrom (.inside around) (['\\'] ++ d :: '-' :: '[' :: more) := hregular
        exact (hregular.hyphen hpasses hplace).1 rfl
      · rw [List.concat_eq_append] at hunmarked hlast hregular
        obtain ⟨hstart, he⟩ : Unmarked start ∧ Unmarked [e] := List.forall_mem_append.mp hunmarked
        have hmark : e ∉ marks := he e List.mem_cons_self
        have hpasses : Passes (.inside around) ('\\' :: d :: start) (.inside around) :=
          (passes_escaped _ d).append (hstart.passes _)
        have hregular : RegularFrom (.inside around)
            (('\\' :: d :: start) ++ e :: '-' :: '[' :: more) := by simpa using hregular
        rcases (hregular.hyphen hpasses (next_of_not_mem_marks hmark)).2 with rfl | rfl
        · simp at hlast
        · exact hmark (by decide)
  · have hletter : memberAtom flags (c :: tail) = .ok (.letter c false, tail) := if_neg hslash
    obtain ⟨rfl, rfl⟩ := Prod.mk.inj (Except.ok.inj (hletter.symm.trans h))
    have hnext : Checkpoint.next (.inside around) c = .inside around := by
      simp [Checkpoint.next, Checkpoint.inside, hslash, hopen, hclose]
    refine ⟨[], rfl, .step_inside hnext (.nil _), ?_⟩
    rintro ⟨more, rfl⟩ hregular
    have hregular : RegularFrom (.inside around) ([] ++ c :: '-' :: '[' :: more) := hregular
    have hlast := (hregular.hyphen (.nil _) hnext).2
    exact ⟨hlast.resolve_right hclose, rfl⟩

/-- A member leads to the next place inside of the class.  It is no range that ends with an opening
bracket, since the text is regular. -/
lemma member_passes {set : CharSet} {c : Char} {tail rest : List Char} {around : Nat}
    (h : member flags (c :: tail) = .ok (set, rest)) (hopen : c ≠ '[') (hclose : c ≠ ']')
    (hop : setOperator? (c :: tail) = none) (hregular : RegularFrom (.inside around) (c :: tail)) :
    ∃ taken, tail = taken ++ rest ∧ Passes (.inside around) (c :: taken) (.inside around) := by
  rw [member_eq] at h
  split at h
  next => cases h
  next first after hfirst =>
    obtain ⟨taken, rfl, hpasses, hhyphen⟩ := memberAtom_passes hflags around hfirst hopen hclose
    simp only [skip_eq_self hflags] at h
    split at h
    next => cases h
    next =>
      split at h
      next =>
        obtain ⟨_, rfl⟩ := map_pair_eq_ok h
        exact ⟨taken, rfl, hpasses⟩
      next hrange =>
        have hrange : startsRange flags after = true := by simpa using hrange
        obtain ⟨behind, rfl⟩ := exists_of_startsRange hrange
        simp only [advance_cons, skip_eq_self hflags] at h
        split at h
        next => cases h
        next hne =>
          split at h
          next => cases h
          next last left hlast =>
            obtain ⟨_, rfl⟩ := map_pair_eq_ok h
            obtain ⟨e, more, rfl⟩ := List.exists_cons_of_ne_nil (by simpa using hne)
            have he : e ≠ '[' := by
              rintro rfl
              -- The range would begin with a hyphen, but two hyphens are an operator.
              obtain ⟨rfl, rfl⟩ := hhyphen ⟨more, rfl⟩ hregular
              cases hop
            have he' : e ≠ ']' := by
              rintro rfl
              simp [startsRange, Flags.peek, hflags] at hrange
            obtain ⟨kept, rfl, hkept, _⟩ := memberAtom_passes hflags around hlast he he'
            have hminus : Passes (.inside around) ['-'] (.inside around) :=
              (Unmarked.single (by decide)).passes _
            exact ⟨taken ++ '-' :: e :: kept, by simp, hpasses.append (hminus.append hkept)⟩

/-! ## The whole class -/

/-- Inside a class the check stands inside as many brackets as are open, and it comes outside where
the last of them closes. -/
theorem bracketWithin_passes {fuel : Nat} {b : OpenBracket} {outer : List OpenBracket}
    {found : Operand} {text rest : List Char}
    (h : bracketWithin flags fuel b outer text = .ok (found, rest))
    (hregular : RegularFrom (.inside outer.length) text) :
    ∃ taken, text = taken ++ rest ∧ Passes (.inside outer.length) taken .outside := by
  induction fuel generalizing b outer text with
  | zero => cases h
  | succ fuel ih =>
    cases text with
    | nil => simp [bracketWithin, skip_eq_self hflags, throw, throwThe, MonadExceptOf.throw] at h
    | cons c tail =>
      -- A round that ends inside of the same brackets is followed by the others.
      have hround {next : OpenBracket} {start left : List Char} (htext : c :: tail = start ++ left)
          (hstart : Passes (.inside outer.length) start (.inside outer.length))
          (h : bracketWithin flags fuel next outer left = .ok (found, rest)) :
          ∃ taken, c :: tail = taken ++ rest ∧ Passes (.inside outer.length) taken .outside := by
        rw [htext] at hregular ⊢
        obtain ⟨taken, rfl, htaken⟩ := ih h (hregular.after hstart)
        exact ⟨start ++ taken, (List.append_assoc ..).symm, hstart.append htaken⟩
      rw [bracketWithin_cons (skip_eq_self hflags _)] at h
      split_ifs at h with hopen hclose
      · cases hcolon : colonClass? (c :: tail) with
        | some read =>
          obtain ⟨negated, set, left⟩ := read
          simp only [hcolon] at h
          obtain ⟨_, _, h⟩ := bind_eq_ok h
          obtain ⟨name, _, hset, htext⟩ := eq_colonText_of_colonClass? hcolon
          exact hround htext (colonText_passes (unmarked_of_bracketName? hset) _) h
        | none =>
          simp only [hcolon] at h
          obtain ⟨⟨inner, left⟩, hinner, hwithin⟩ := bind_eq_ok h
          subst hopen
          obtain ⟨taken, rfl, hleads⟩ := openBracket_leads hflags hinner (outer.length + 1)
          obtain ⟨kept, hkept, hpasses⟩ := ih hwithin (hleads.regular hregular)
          have hne : kept ≠ [] := by
            rintro rfl
            cases hpasses
          have hall := hleads.passes kept rest _ hkept hne hpasses
          refine ⟨'[' :: (taken ++ kept), ?_, hall⟩
          rw [List.cons_append, List.append_assoc, ← hkept]
      · obtain ⟨closed, _, h⟩ := bind_eq_ok h
        subst hclose
        cases outer with
        | nil =>
          obtain ⟨_, rfl⟩ := Prod.mk.inj (Except.ok.inj h)
          exact ⟨[']'], rfl, .step_other (by decide) rfl (.nil _)⟩
        | cons around outer =>
          obtain ⟨taken, rfl, htaken⟩ := ih h hregular.tail
          exact ⟨']' :: taken, rfl, .step_other (by decide) rfl htaken⟩
      · cases hop : setOperator? (c :: tail) with
        | some op =>
          simp only [hop] at h
          obtain ⟨d, left, rfl, hop'⟩ := tail_of_setOperator? hop
          exact hround rfl ((unmarked_of_setOperator? hop).passes _) h
        | none =>
          simp only [hop] at h
          obtain ⟨⟨set, left⟩, hmember, hwithin⟩ := bind_eq_ok h
          obtain ⟨taken, rfl, htaken⟩ := member_passes hflags hmember hopen hclose hop hregular
          exact hround rfl htaken hwithin

/-- In a regular text a class leads the check back to where no bracket is open. -/
theorem bracket_passes {found : Operand} {tail rest : List Char}
    (h : bracket flags ('[' :: tail) = .ok (found, rest))
    (hregular : RegularFrom .outside ('[' :: tail)) :
    ∃ taken, tail = taken ++ rest ∧ Passes .outside ('[' :: taken) .outside := by
  obtain ⟨⟨b, left⟩, hopen, hwithin⟩ := bind_eq_ok h
  obtain ⟨taken, rfl, hleads⟩ := openBracket_leads hflags hopen 0
  obtain ⟨kept, hkept, hpasses⟩ :=
    bracketWithin_passes hflags hwithin (hleads.regular hregular)
  have hne : kept ≠ [] := by
    rintro rfl
    cases hpasses
  have hall := hleads.passes kept rest _ hkept hne hpasses
  exact ⟨taken ++ kept, by rw [List.append_assoc, ← hkept], hall⟩

end Class

end UriRouting.Expression
