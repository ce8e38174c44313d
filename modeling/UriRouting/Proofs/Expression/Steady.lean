import Mathlib.Tactic
import UriRouting.Expression.Reading

/-!
# How far the reading of an expression looks

The functions that read an expression take a text and return what they leave of it.  What they leave
is an end of the text, and they look no further than the first character of it: whatever follows
that character can be replaced by something else.  `Steady` says both of a way of reading.
-/

namespace UriRouting.Expression

/-- A way to read, as a relation between a text and what is left of it, takes the text from the
front and looks no further than the first character that it leaves. -/
def Steady (P : List Char → List Char → Prop) : Prop :=
  ∀ text rest, P text rest → ∃ taken, text = taken ++ rest ∧
    ∀ c more other, rest = c :: more → P (taken ++ c :: other) (c :: other)

/-- The same, as far as the text that follows has some property. -/
def SteadyUnder (G : List Char → Prop) (P : List Char → List Char → Prop) : Prop :=
  ∀ text rest, P text rest → ∃ taken, text = taken ++ rest ∧
    ∀ c more other, rest = c :: more → G (c :: other) → P (taken ++ c :: other) (c :: other)

lemma Steady.under {P : List Char → List Char → Prop} (hP : Steady P) (G : List Char → Prop) :
    SteadyUnder G P := by
  intro text rest h
  obtain ⟨taken, htext, hother⟩ := hP text rest h
  exact ⟨taken, htext, fun c more other hrest _ => hother c more other hrest⟩

/-- Behind the part that a `Steady` reading takes, the text may be replaced from any character
on. -/
lemma Steady.before {P : List Char → List Char → Prop} (hP : Steady P) {text kept more : List Char}
    {c : Char} (h : P text (kept ++ c :: more)) :
    ∃ taken, text = taken ++ (kept ++ c :: more) ∧
      ∀ other, P (taken ++ (kept ++ c :: other)) (kept ++ c :: other) := by
  obtain ⟨taken, htext, hother⟩ := hP _ _ h
  refine ⟨taken, htext, fun other => ?_⟩
  cases kept with
  | nil => exact hother c more other rfl
  | cons d kept => exact hother d (kept ++ c :: more) (kept ++ c :: other) rfl

lemma Steady.comp {P Q : List Char → List Char → Prop} (hP : Steady P) (hQ : Steady Q) :
    Steady fun text rest => ∃ middle, P text middle ∧ Q middle rest := by
  rintro text rest ⟨middle, hp, hq⟩
  obtain ⟨second, rfl, hsecond⟩ := hQ _ _ hq
  obtain ⟨first, rfl, _⟩ := hP _ _ hp
  refine ⟨first ++ second, by simp, ?_⟩
  rintro c more other rfl
  -- The second reading starts in the same way, whatever comes after it.
  obtain ⟨start, hstart, hfirst⟩ := hP.before hp
  obtain rfl : first = start := List.append_cancel_right hstart
  exact ⟨second ++ c :: other, by simpa using hfirst other, hsecond c more other rfl⟩

lemma Steady.head {Q : Option Char → List Char → List Char → Prop} (hQ : ∀ o, Steady (Q o)) :
    Steady fun text rest => Q text.head? text rest := by
  intro text rest h
  obtain ⟨taken, rfl, hother⟩ := hQ _ _ _ h
  refine ⟨taken, rfl, ?_⟩
  rintro c more other rfl
  have hhead : (taken ++ c :: other).head? = (taken ++ c :: more).head? := by cases taken <;> rfl
  have hagain := hother c more other rfl
  rwa [← hhead] at hagain

lemma Steady.exists {α : Type} {P : α → List Char → List Char → Prop} (hP : ∀ a, Steady (P a)) :
    Steady fun text rest => ∃ a, P a text rest := by
  rintro text rest ⟨a, h⟩
  obtain ⟨taken, htext, hother⟩ := hP a _ _ h
  exact ⟨taken, htext, fun c more other hrest => ⟨a, hother c more other hrest⟩⟩

lemma Steady.of_iff {P Q : List Char → List Char → Prop} (hP : Steady P)
    (h : ∀ text rest, Q text rest ↔ P text rest) : Steady Q := by
  obtain rfl : Q = P := funext fun text => funext fun rest => propext (h text rest)
  exact hP

lemma steady_nothing (A : Prop) : Steady fun text rest => text = rest ∧ A := by
  rintro _ rest ⟨rfl, ha⟩
  exact ⟨[], rfl, fun c more other _ => ⟨rfl, ha⟩⟩

lemma Steady.after {P : List Char → List Char → Prop} (hP : Steady P) (c : Char) :
    Steady fun text rest => ∃ tail, text = c :: tail ∧ P tail rest := by
  rintro _ rest ⟨tail, rfl, hp⟩
  obtain ⟨taken, rfl, htaken⟩ := hP _ _ hp
  exact ⟨c :: taken, rfl, fun d more other h => ⟨taken ++ d :: other, rfl, htaken d more other h⟩⟩

lemma Steady.suffix {P : List Char → List Char → Prop} (hP : Steady P) {text rest : List Char}
    (h : P text rest) : rest <:+ text := by
  obtain ⟨taken, rfl, _⟩ := hP _ _ h
  exact List.suffix_append taken rest

lemma Steady.length_le {P : List Char → List Char → Prop} (hP : Steady P) {text rest : List Char}
    (h : P text rest) : rest.length ≤ text.length := (hP.suffix h).length_le

/-! ## Layout -/

lemma steady_dropLayout (inComment : Bool) :
    Steady fun text rest => Flags.dropLayout inComment text = rest := by
  intro text
  induction text generalizing inComment with
  | nil =>
    rintro _ rfl
    exact ⟨[], rfl, by simp [Flags.dropLayout]⟩
  | cons d tail ih =>
    rintro _ rfl
    simp only [Flags.dropLayout]
    by_cases hcomment : inComment = true
    · obtain ⟨taken, htext, hother⟩ := ih (d != '\n') _ rfl
      refine ⟨d :: taken, by simpa [hcomment] using htext, fun c more other h => ?_⟩
      simpa [Flags.dropLayout, hcomment] using hother c more other (by simpa [hcomment] using h)
    · by_cases hblank : isBlank d = true
      · obtain ⟨taken, htext, hother⟩ := ih false _ rfl
        refine ⟨d :: taken, by simpa [hcomment, hblank] using htext, fun c more other h => ?_⟩
        simpa [Flags.dropLayout, hcomment, hblank] using
          hother c more other (by simpa [hcomment, hblank] using h)
      · by_cases hsign : d = '#'
        · subst hsign
          obtain ⟨taken, htext, hother⟩ := ih true _ rfl
          refine ⟨'#' :: taken, by simpa [hcomment, hblank] using htext, fun c more other h => ?_⟩
          simpa [Flags.dropLayout, hcomment, hblank] using
            hother c more other (by simpa [hcomment, hblank] using h)
        · refine ⟨[], by simp [hcomment, hblank, hsign], fun c more other h => ?_⟩
          obtain ⟨rfl, rfl⟩ : d = c ∧ tail = more := by simpa [hcomment, hblank, hsign] using h
          simp [Flags.dropLayout, hcomment, hblank, hsign]

lemma steady_skip (flags : Flags) : Steady fun text rest => flags.skip text = rest := by
  intro text rest h
  unfold Flags.skip at h ⊢
  split at h
  next hx => simpa [hx] using steady_dropLayout false text rest h
  next hx =>
    subst h
    exact ⟨[], rfl, by simp [hx]⟩

@[simp] lemma advance_cons (flags : Flags) (c : Char) (tail : List Char) :
    advance flags (c :: tail) = flags.skip tail := rfl

lemma steady_advance (flags : Flags) : Steady fun text rest => advance flags text = rest := by
  intro text rest h
  cases text with
  | nil =>
    obtain ⟨taken, htext, hother⟩ := steady_skip flags [] rest h
    obtain ⟨rfl, rfl⟩ : taken = [] ∧ rest = [] := by simpa using htext.symm
    exact ⟨[], rfl, by simp⟩
  | cons d tail =>
    obtain ⟨taken, htext, hother⟩ := steady_skip flags tail rest h
    exact ⟨d :: taken, by simp [htext], fun c more other hrest => hother c more other hrest⟩

lemma steady_dropWhile (p : Char → Bool) :
    Steady fun text rest => text.dropWhile p = rest := by
  intro text
  induction text with
  | nil =>
    rintro _ rfl
    exact ⟨[], rfl, by simp⟩
  | cons d tail ih =>
    rintro _ rfl
    by_cases hd : p d = true
    · obtain ⟨taken, htext, hother⟩ := ih _ rfl
      refine ⟨d :: taken, by simpa [hd] using htext, fun c more other h => ?_⟩
      simpa [hd] using hother c more other (by simpa [hd] using h)
    · refine ⟨[], by simp [hd], fun c more other h => ?_⟩
      obtain ⟨rfl, rfl⟩ : d = c ∧ tail = more := by simpa [hd] using h
      simp [hd]

/-- Reading behind something that has been passed over by `F`. -/
lemma Steady.behind {F : List Char → List Char} (hF : Steady fun text middle => F text = middle)
    {P : List Char → List Char → Prop}
    (h : ∀ text rest, P text rest → ∃ taken, F text = taken ++ rest ∧
      ∀ c more other, rest = c :: more →
        ∀ fresh, F fresh = taken ++ c :: other → P fresh (c :: other)) : Steady P := by
  intro text rest hp
  obtain ⟨second, hmiddle, hsecond⟩ := h text rest hp
  obtain ⟨first, htext, hfirst⟩ := hF text _ hmiddle
  refine ⟨first ++ second, by simpa using htext, ?_⟩
  rintro c more other rfl
  refine hsecond c more other rfl _ ?_
  rw [List.append_assoc]
  cases second with
  | nil => exact hfirst c more other rfl
  | cons d second => exact hfirst d _ (second ++ c :: other) rfl

lemma cons_of_append {c d : Char} {tail taken more : List Char} (other : List Char)
    (h : c :: tail = taken ++ d :: more) : ∃ fresh, taken ++ d :: other = c :: fresh := by
  cases taken with
  | nil =>
    obtain ⟨rfl, _⟩ : c = d ∧ tail = more := by simpa using h
    exact ⟨other, rfl⟩
  | cons e taken =>
    obtain ⟨rfl, _⟩ : c = e ∧ tail = taken ++ d :: more := by simpa using h
    exact ⟨taken ++ d :: other, rfl⟩

/-! ## Escapes -/

lemma steady_hexDigits (flags : Flags) (count value n : Nat) :
    Steady fun text rest => hexDigits flags count value text = .ok (n, rest) := by
  induction count generalizing value with
  | zero =>
    intro text rest h
    obtain ⟨rfl, rfl⟩ : value = n ∧ text = rest := by simpa [hexDigits] using h
    exact ⟨[], rfl, fun c more other _ => by simp [hexDigits]⟩
  | succ count ih =>
    intro text rest h
    cases text with
    | nil => simp [hexDigits] at h
    | cons c tail =>
      simp only [hexDigits] at h
      split at h
      next d hd =>
        obtain ⟨taken, htext, hother⟩ :=
          ((steady_skip flags).comp (ih (value * 16 + d))).after c _ _ ⟨tail, rfl, _, rfl, h⟩
        refine ⟨taken, htext, fun e more other hrest => ?_⟩
        obtain ⟨fresh, hfresh, _, rfl, hdigits⟩ := hother e more other hrest
        rw [hfresh, hexDigits, hd]
        exact hdigits
      next => simp at h

lemma bracedWithin_mono {flags : Flags} {fuel more : Nat} {text : List Char}
    {found : List Char × List Char} (h : bracedWithin flags fuel text = some found)
    (hle : fuel ≤ more) : bracedWithin flags more text = some found := by
  induction fuel generalizing more text found with
  | zero => simp [bracedWithin] at h
  | succ fuel ih =>
    obtain ⟨more, rfl⟩ : ∃ n, more = n + 1 := ⟨more - 1, by omega⟩
    simp only [bracedWithin] at h ⊢
    split at h
    next => simp at h
    next c rest hadvance =>
      by_cases hc : c = '\x7d'
      · simpa [hadvance, hc] using h
      · simp only [hc, if_false, Option.map_eq_some_iff] at h ⊢
        obtain ⟨inner, hinner, rfl⟩ := h
        exact ⟨inner, ih hinner (by omega), rfl⟩

lemma braced_of_bracedWithin {flags : Flags} {fuel : Nat} {text : List Char}
    {found : List Char × List Char} (h : bracedWithin flags fuel text = some found) :
    braced flags text = some found := by
  unfold braced
  induction fuel generalizing text found with
  | zero => simp [bracedWithin] at h
  | succ fuel ih =>
    simp only [bracedWithin] at h
    split at h
    next => simp at h
    next c rest hadvance =>
      -- The opening brace is passed over, so what is left is shorter.
      have hshort : (c :: rest).length + 1 ≤ text.length := by
        cases text with
        | nil =>
          have hnil := (steady_advance flags).length_le hadvance
          simp at hnil
        | cons d tail =>
          rw [← hadvance]
          exact Nat.succ_le_succ (Flags.skip_length flags tail)
      obtain ⟨n, hn⟩ : ∃ n, text.length = n + 1 := ⟨text.length - 1, by omega⟩
      rw [hn]
      simp only [bracedWithin, hadvance]
      by_cases hc : c = '\x7d'
      · simpa [hc] using h
      · simp only [hc, if_false, Option.map_eq_some_iff] at h ⊢
        obtain ⟨inner, hinner, rfl⟩ := h
        exact ⟨inner, bracedWithin_mono (ih hinner) (by omega), rfl⟩

lemma steady_braced (flags : Flags) (content : List Char) :
    Steady fun text rest => braced flags text = some (content, rest) := by
  suffices h : ∀ fuel content, Steady fun text rest =>
      bracedWithin flags fuel text = some (content, rest) by
    intro text rest hfound
    obtain ⟨taken, htext, hother⟩ := h text.length content text rest hfound
    exact ⟨taken, htext, fun c more other hrest =>
      braced_of_bracedWithin (hother c more other hrest)⟩
  intro fuel
  induction fuel with
  | zero => exact fun content text rest h => by simp [bracedWithin] at h
  | succ fuel ih =>
    intro content
    refine (steady_advance flags).behind fun text rest h => ?_
    simp only [bracedWithin] at h
    split at h
    next => simp at h
    next c tail hadvance =>
      by_cases hc : c = '\x7d'
      · obtain ⟨rfl, rfl⟩ : [] = content ∧ tail = rest := by simpa [hc] using h
        exact ⟨[c], hadvance, fun d more other _ fresh hfresh => by
          simp [bracedWithin, hfresh, hc]⟩
      · simp only [hc, if_false, Option.map_eq_some_iff, Prod.mk.injEq] at h
        obtain ⟨⟨inner, rest⟩, hinner, rfl, rfl⟩ := h
        obtain ⟨taken, htail, hother⟩ := ih inner _ _ hinner
        refine ⟨taken, hadvance.trans htail, ?_⟩
        rintro d more other rfl fresh hfresh
        have hagain := hother d more other rfl
        obtain ⟨left, hleft⟩ := cons_of_append other htail
        rw [hleft] at hfresh hagain
        rw [bracedWithin, hfresh]
        simp [hc, hagain]

lemma steady_codePoint (flags : Flags) (count : Nat) (a : Atom) :
    Steady fun text rest => codePoint flags count text = .ok (a, rest) := by
  refine (steady_skip flags).behind fun text rest h => ?_
  unfold codePoint at h
  split at h
  next => simp at h
  next c tail hskip =>
    by_cases hc : c = '\x7b'
    · simp only [hc, if_true] at h hskip
      split at h
      next => simp at h
      next digits after hbraced =>
        split at h
        next => simp at h
        next hdigits =>
          split at h
          next => simp at h
          next n hn =>
            split at h
            next d hd =>
              obtain ⟨rfl, hrest⟩ : Atom.letter d false = a ∧ flags.skip after = rest := by
                simpa using h
              obtain ⟨taken, htext, hother⟩ :=
                ((steady_braced flags digits).comp (steady_skip flags)) _ _ ⟨after, hbraced, hrest⟩
              refine ⟨taken, hskip.trans htext, ?_⟩
              rintro e more other rfl fresh hfresh
              obtain ⟨after', hbraced', hrest'⟩ := hother e more other rfl
              obtain ⟨left, hleft⟩ := cons_of_append other htext
              rw [hleft] at hfresh hbraced'
              simp [codePoint, hfresh, hbraced', hdigits, hn, hd, hrest']
            next => simp at h
    · simp only [hc, if_false] at h
      split at h
      next => simp at h
      next n after hdigits =>
        split at h
        next d hd =>
          obtain ⟨rfl, rfl⟩ : Atom.letter d (count == 2) = a ∧ after = rest := by simpa using h
          obtain ⟨taken, htext, hother⟩ := steady_hexDigits flags count 0 n _ _ hdigits
          refine ⟨taken, hskip.trans htext, ?_⟩
          rintro e more other rfl fresh hfresh
          have hdigits' := hother e more other rfl
          obtain ⟨left, hleft⟩ := cons_of_append other htext
          rw [hleft] at hfresh hdigits'
          simp [codePoint, hfresh, hc, hdigits', hd]
        next => simp at h

lemma map_pair_eq_ok {ε α β : Type} {x : Except ε α} {a : α} {left rest : β}
    (h : x.map (·, left) = .ok (a, rest)) : x = .ok a ∧ left = rest := by
  cases x with
  | error _ => simp [Except.map] at h
  | ok b => simpa [Except.map] using h

/-- The class that a query stands for, as it is asked for. -/
def queriedAtom (flags : Flags) (negated : Bool) (query : List Char) :
    Except ExpressionFault Atom :=
  if !flags.unicode then .error .needsUnicode
  else match queriedSet query with
    | .error fault => .error fault
    | .ok (unequal, set) => (signedSet flags (negated != unequal) (foldedSet flags set)).map .set

/-- The query is read first, and then looked up. -/
lemma propertyClass_eq (flags : Flags) (negated : Bool) (text : List Char) :
    propertyClass flags negated text =
      match flags.skip text with
      | [] => .error .unfinishedEscape
      | c :: tail =>
        if c = '\x7b' then
          match braced flags (c :: tail) with
          | none => .error .unfinishedEscape
          | some (query, rest) => (queriedAtom flags negated query).map (·, rest)
        else if c = '\\' then .error .unknownProperty
        else (queriedAtom flags negated [c]).map (·, flags.skip tail) := by
  have hlookup (query rest : List Char) :
      (if !flags.unicode then Except.error ExpressionFault.needsUnicode
        else match queriedSet query with
          | .error fault => .error fault
          | .ok (unequal, set) =>
            (signedSet flags (negated != unequal) (foldedSet flags set)).map (Atom.set ·, rest)) =
        (queriedAtom flags negated query).map (·, rest) := by
    unfold queriedAtom
    split
    · rfl
    · cases queriedSet query with
      | error _ => rfl
      | ok found =>
        obtain ⟨unequal, set⟩ := found
        cases h : signedSet flags (negated != unequal) (foldedSet flags set) <;>
          simp [h, Except.map]
  unfold propertyClass
  cases flags.skip text with
  | nil => rfl
  | cons c tail =>
    by_cases hc : c = '\x7b'
    · simp only [hc, if_true]
      cases braced flags ('\x7b' :: tail) with
      | none => rfl
      | some found => exact hlookup found.1 found.2
    · simp only [hc, if_false]
      by_cases hslash : c = '\\'
      · simp [hslash]
      · simp only [hslash, if_false]
        exact hlookup [c] (flags.skip tail)

lemma steady_propertyClass (flags : Flags) (negated : Bool) (a : Atom) :
    Steady fun text rest => propertyClass flags negated text = .ok (a, rest) := by
  refine (steady_skip flags).behind fun text rest h => ?_
  simp only [propertyClass_eq] at h ⊢
  split at h
  next => simp at h
  next c tail hskip =>
    by_cases hc : c = '\x7b'
    · simp only [hc, if_true] at h hskip
      split at h
      next => simp at h
      next query after hbraced =>
        obtain ⟨hquery, rfl⟩ := map_pair_eq_ok h
        obtain ⟨taken, htext, hother⟩ := steady_braced flags query _ _ hbraced
        refine ⟨taken, hskip.trans htext, ?_⟩
        rintro e more other rfl fresh hfresh
        have hbraced' := hother e more other rfl
        obtain ⟨left, hleft⟩ := cons_of_append other htext
        rw [hleft] at hfresh hbraced'
        simp [hfresh, hbraced', hquery, Except.map]
    · simp only [hc, if_false] at h
      split at h
      next => simp at h
      next hslash =>
        obtain ⟨hquery, hrest⟩ := map_pair_eq_ok h
        obtain ⟨taken, htext, hother⟩ := (steady_skip flags).after c _ _ ⟨tail, rfl, hrest⟩
        refine ⟨taken, hskip.trans htext, ?_⟩
        rintro e more other rfl fresh hfresh
        obtain ⟨left, hleft, hleft'⟩ := hother e more other rfl
        rw [hleft] at hfresh
        simp [hfresh, hc, hslash, hquery, hleft', Except.map]

/-- Nothing at the start of the text can be taken for the name of an edge of a word. -/
def NamesNoEdge (flags : Flags) (text : List Char) : Prop :=
  wordBoundary flags text = .ok (.look (.word .boundary flags.unicode), text)

lemma namesNoEdge_of_ne {flags : Flags} {c : Char} (hc : c ≠ '\x7b') (text : List Char) :
    NamesNoEdge flags (c :: text) := by
  simp [NamesNoEdge, wordBoundary, hc]

lemma advance_of_braced {flags : Flags} {text content rest : List Char} {c : Char}
    (h : braced flags text = some (c :: content, rest)) :
    ∃ tail, advance flags text = c :: tail := by
  unfold braced at h
  cases hlength : text.length with
  | zero => simp [hlength, bracedWithin] at h
  | succ n =>
    simp only [hlength, bracedWithin] at h
    split at h
    next => simp at h
    next d tail hadvance =>
      split at h
      next => simp at h
      next =>
        obtain ⟨inner, _, hinner⟩ := Option.map_eq_some_iff.mp h
        obtain ⟨⟨rfl, _⟩, _⟩ : (d = c ∧ inner.1 = content) ∧ inner.2 = rest := by
          simpa using hinner
        exact ⟨tail, hadvance⟩

/-- A boundary is read in the same way, if nothing behind it names an edge where none was named. -/
lemma steady_wordBoundary (flags : Flags) (a : Atom) :
    SteadyUnder (NamesNoEdge flags) fun text rest => wordBoundary flags text = .ok (a, rest) := by
  intro text rest h
  have hplain (hsame : Except.ok (ε := ExpressionFault)
        (Atom.look (.word .boundary flags.unicode), text) = .ok (a, rest)) :
      ∃ taken, text = taken ++ rest ∧ ∀ c more other, rest = c :: more →
        NamesNoEdge flags (c :: other) →
          wordBoundary flags (taken ++ c :: other) = .ok (a, c :: other) := by
    obtain ⟨rfl, rfl⟩ : Atom.look (.word .boundary flags.unicode) = a ∧ text = rest := by
      simpa using hsame
    exact ⟨[], rfl, fun c more other _ hnone => hnone⟩
  unfold wordBoundary at h
  split at h
  next => exact hplain h
  next c tail =>
    by_cases hc : c = '\x7b'
    · simp only [hc, ne_eq, not_true_eq_false, if_false] at h hplain ⊢
      split at h
      next => simp at h
      next first left hadvance =>
        by_cases hfirst : (!first.isAlpha && first != '-') = true
        · exact hplain (by simpa only [hfirst, if_true] using h)
        · simp only [hfirst, Bool.false_eq_true, if_false] at h
          split at h
          next => simp at h
          next name after hbraced =>
            split at h
            next edge hedge =>
              obtain ⟨rfl, rfl⟩ : Atom.look (.word edge flags.unicode) = a ∧ after = rest := by
                simpa using h
              obtain ⟨taken, htext, hother⟩ := steady_braced flags name _ _ hbraced
              refine ⟨taken, htext, ?_⟩
              rintro d more other rfl -
              have hbraced' := hother d more other rfl
              -- The name is not empty, so it begins with the character that was looked at.
              cases name with
              | nil => simp [wordEdge?] at hedge
              | cons e name =>
                obtain ⟨_, hstart⟩ := advance_of_braced hbraced
                obtain ⟨_, hstart'⟩ := advance_of_braced hbraced'
                obtain ⟨rfl, _⟩ : first = e ∧ left = _ := by simpa [hadvance] using hstart
                obtain ⟨fresh, hfresh⟩ := cons_of_append other htext
                rw [hfresh] at hbraced' hstart' ⊢
                simp [wordBoundary, hstart', hfirst, hbraced', hedge]
            next => simp at h
    · exact hplain (by simpa only [hc, ne_eq, not_false_eq_true, if_true] using h)

lemma look_of_wordBoundary {flags : Flags} {a : Atom} {text rest : List Char}
    (h : wordBoundary flags text = .ok (a, rest)) : ∃ test, a = .look test := by
  unfold wordBoundary at h
  repeat' split at h
  all_goals simp only [reduceCtorEq, Except.ok.injEq, Prod.mk.injEq] at h
  all_goals exact ⟨_, h.1.symm⟩

/-- The letter of an escape says how the reading goes on behind it. -/
lemma escape_cons (flags : Flags) (c : Char) :
    (∃ count, ∀ tail, escape flags (c :: tail) = codePoint flags count tail) ∨
    (∃ negated, ∀ tail, escape flags (c :: tail) = propertyClass flags negated tail) ∨
    (∀ tail, escape flags (c :: tail) = wordBoundary flags tail) ∨
    ∃ atom : Except ExpressionFault Atom, ∀ tail,
      escape flags (c :: tail) = atom.map (·, tail) := by
  unfold escape
  by_cases hdigit : c.isDigit = true
  · exact .inr (.inr (.inr ⟨.error .backReference, by simp [hdigit, Except.map]⟩))
  by_cases hx : c = 'x'
  · exact .inl ⟨2, by simp [hx]⟩
  by_cases hu : c = 'u'
  · exact .inl ⟨4, by simp [hu]⟩
  by_cases hU : c = 'U'
  · exact .inl ⟨8, by simp [hU]⟩
  by_cases hp : c = 'p'
  · exact .inr (.inl ⟨false, by simp [hp]⟩)
  by_cases hP : c = 'P'
  · exact .inr (.inl ⟨true, by simp [hP]⟩)
  by_cases hb : c = 'b'
  · exact .inr (.inr (.inl (by simp [hb])))
  refine .inr (.inr (.inr ?_))
  by_cases hself : standsForItself c = true
  · exact ⟨.ok (.letter c false), by simp [hdigit, hx, hu, hU, hp, hP, hb, hself, Except.map]⟩
  simp only [hdigit, hx, hu, hU, hp, hP, hb, hself, Bool.false_eq_true, if_false]
  cases letterClass? flags c with
  | some set => exact ⟨set.map .set, by cases set <;> simp [Except.map]⟩
  | none =>
    cases controlOf? c with
    | some control => exact ⟨.ok (.letter control false), by simp [Except.map]⟩
    | none =>
      cases lookOf? flags c with
      | some test => exact ⟨.ok (.look test), by simp [Except.map]⟩
      | none => exact ⟨.error (.unknownEscape c), by simp [Except.map]⟩

/-- An escape is read in the same way, if nothing behind a test names the edge of a word. -/
lemma steady_escape (flags : Flags) (a : Atom) :
    SteadyUnder (fun text => (∃ test, a = .look test) → NamesNoEdge flags text)
      fun text rest => escape flags text = .ok (a, rest) := by
  intro text rest h
  cases text with
  | nil => simp [escape] at h
  | cons c tail =>
    -- It is enough to know how the reading goes on behind the letter.
    suffices hbehind : ∃ taken, tail = taken ++ rest ∧ ∀ d more other, rest = d :: more →
        ((∃ test, a = .look test) → NamesNoEdge flags (d :: other)) →
          escape flags (c :: (taken ++ d :: other)) = .ok (a, d :: other) by
      obtain ⟨taken, rfl, hother⟩ := hbehind
      exact ⟨c :: taken, rfl, hother⟩
    rcases escape_cons flags c with ⟨count, hc⟩ | ⟨negated, hc⟩ | hc | ⟨atom, hc⟩
    · simp only [hc] at h ⊢
      obtain ⟨taken, htext, hother⟩ := steady_codePoint flags count a _ _ h
      exact ⟨taken, htext, fun d more other hrest _ => hother d more other hrest⟩
    · simp only [hc] at h ⊢
      obtain ⟨taken, htext, hother⟩ := steady_propertyClass flags negated a _ _ h
      exact ⟨taken, htext, fun d more other hrest _ => hother d more other hrest⟩
    · simp only [hc] at h ⊢
      obtain ⟨taken, htext, hother⟩ := steady_wordBoundary flags a _ _ h
      exact ⟨taken, htext, fun d more other hrest hnone =>
        hother d more other hrest (hnone (look_of_wordBoundary h))⟩
    · simp only [hc] at h ⊢
      obtain ⟨rfl, rfl⟩ := map_pair_eq_ok h
      exact ⟨[], rfl, fun d more other _ _ => rfl⟩

end UriRouting.Expression
