import Mathlib.Tactic
import UriRouting.Proofs.Expression.SteadyStep

/-!
# The rounds of the reading

`readWithin` goes from round to round; `Round` is one of them as a relation between stages of the
reading, and `Reads` any number of them.  The fuel plays no part if it is enough for the text
(`readWithin_eq_ok_iff`).

What one step of the reading sees (`steady_step`) makes up what many of them see: rounds that lead
to a character other than a brace do not depend on what follows it (`reads_before`).  This is said
of rounds that keep a property of the reader, such as that a group is open (`ReadsKeeping`).
-/

namespace UriRouting.Expression

/-- A stage of the reading: what has been read, and the text that is left. -/
abbrev Stage := Reader × List Char

/-- A round takes what begins at the next character that counts. -/
def Round (s t : Stage) : Prop :=
  ∃ c tail, s.1.flags.skip s.2 = c :: tail ∧ s.1.step c tail = .ok t

/-- Any number of rounds. -/
abbrev Reads : Stage → Stage → Prop := Relation.ReflTransGen Round

/-- Any number of rounds, each of which leads to a reader with a property. -/
abbrev ReadsKeeping (P : Reader → Prop) : Stage → Stage → Prop :=
  Relation.ReflTransGen fun s t => Round s t ∧ P t.1

/-- Nothing that counts is left of the text. -/
def Finished (s : Stage) : Prop := s.1.flags.skip s.2 = []

/-! ## One round -/

lemma suffix_of_step {r r' : Reader} {c : Char} {tail rest : List Char}
    (h : r.step c tail = .ok (r', rest)) : rest <:+ tail := by
  obtain ⟨taken, rfl, _⟩ := steady_step r r' c _ _ h
  exact List.suffix_append taken rest

lemma Round.length_lt {s t : Stage} (h : Round s t) : t.2.length < s.2.length := by
  obtain ⟨c, tail, hskip, hstep⟩ := h
  have hskipped := (steady_skip s.1.flags).length_le hskip
  have hsuffix : t.2 <:+ tail := suffix_of_step hstep
  have hleft := hsuffix.length_le
  simp only [List.length_cons] at hskipped
  omega

lemma Round.rightUnique : Relator.RightUnique Round := by
  rintro s t u ⟨c, tail, hskip, hstep⟩ ⟨d, tail', hskip', hstep'⟩
  obtain ⟨rfl, rfl⟩ := List.cons.inj (hskip.symm.trans hskip')
  exact Except.ok.inj (hstep.symm.trans hstep')

lemma Finished.not_round {s t : Stage} (h : Finished s) : ¬ Round s t := by
  rintro ⟨c, tail, hskip, _⟩
  rw [Finished, hskip] at h
  cases h

/-! ## Many rounds -/

lemma ReadsKeeping.reads {P : Reader → Prop} {s t : Stage} (h : ReadsKeeping P s t) : Reads s t :=
  Relation.ReflTransGen.mono (fun _ _ hround => hround.1) _ _ h

lemma Reads.keeping {s t : Stage} (h : Reads s t) : ReadsKeeping (fun _ => True) s t :=
  Relation.ReflTransGen.mono (fun _ _ hround => ⟨hround, trivial⟩) _ _ h

lemma Reads.length_le {s t : Stage} (h : Reads s t) : t.2.length ≤ s.2.length := by
  induction h with
  | refl => exact Nat.le_refl _
  | tail _ last ih => exact (Nat.le_of_lt last.length_lt).trans ih

lemma Reads.total {s t u : Stage} (ht : Reads s t) (hu : Reads s u) : Reads t u ∨ Reads u t :=
  Relation.ReflTransGen.total_of_right_unique Round.rightUnique ht hu

/-- A reading that comes to its end comes past every stage that it leads to. -/
lemma Reads.to_end {s t u : Stage} (ht : Reads s t) (hu : Reads s u) (hend : Finished u) :
    Reads t u := by
  rcases ht.total hu with h | h
  · exact h
  · rcases h.cases_head with rfl | ⟨_, hround, _⟩
    · exact .refl
    · exact absurd hround hend.not_round

lemma Reads.unique {s t u : Stage} (ht : Reads s t) (hu : Reads s u)
    (hlength : t.2.length = u.2.length) : t = u := by
  have hsame {t u : Stage} (h : Reads t u) (hle : t.2.length ≤ u.2.length) : t = u := by
    rcases h.cases_head with rfl | ⟨v, hround, hrest⟩
    · rfl
    · have := hround.length_lt
      have := Reads.length_le hrest
      omega
  rcases ht.total hu with h | h
  · exact hsame h (by omega)
  · exact (hsame h (by omega)).symm

/-- Where a reading comes to a character, it comes to no other stage at which this character and all
behind it are what counts. -/
lemma Reads.at_place {s t : Stage} {r : Reader} {c : Char} {rest : List Char} (ht : Reads s t)
    (hskip : t.1.flags.skip t.2 = c :: rest) (hr : Reads s (r, c :: rest)) :
    t = (r, c :: rest) := by
  have hskipped := (steady_skip t.1.flags).length_le hskip
  rcases ht.total hr with hon | hback
  · rcases hon.cases_head with hsame | ⟨⟨next, behind⟩, ⟨d, tail, hnext, hstep⟩, hrest⟩
    · exact hsame
    · -- The next round takes the character, and so the reading is past it.
      obtain ⟨rfl, rfl⟩ := List.cons.inj (hskip.symm.trans hnext)
      have hbehind := (suffix_of_step hstep).length_le
      have hpast := Reads.length_le hrest
      simp only [List.length_cons] at hbehind hpast
      omega
  · have hle := Reads.length_le hback
    simp only [List.length_cons] at hle hskipped
    exact Reads.unique ht hr (by simp only [List.length_cons]; omega)

/-! ## Reading to the end -/

lemma readWithin_of_reads {s t : Stage} (h : Reads s t) (hend : Finished t) {fuel : Nat}
    (hfuel : s.2.length ≤ fuel) : readWithin fuel s.1 s.2 = .ok t.1 := by
  induction h using Relation.ReflTransGen.head_induction_on generalizing fuel with
  | refl =>
    cases fuel with
    | zero => rfl
    | succ fuel => rw [readWithin, hend]
  | @head s u hround _ ih =>
    have hshort := hround.length_lt
    obtain ⟨fuel, rfl⟩ : ∃ n, fuel = n + 1 := ⟨fuel - 1, by omega⟩
    obtain ⟨c, tail, hskip, hstep⟩ := hround
    rw [readWithin, hskip]
    simp only [hstep]
    exact ih (by omega)

lemma reads_of_readWithin {fuel : Nat} {s : Stage} {r : Reader} (hfuel : s.2.length ≤ fuel)
    (h : readWithin fuel s.1 s.2 = .ok r) : ∃ left, Reads s (r, left) ∧ Finished (r, left) := by
  induction fuel generalizing s with
  | zero =>
    obtain ⟨reader, text⟩ := s
    obtain rfl : text = [] := List.eq_nil_of_length_eq_zero (by simpa using hfuel)
    obtain rfl : reader = r := by simpa [readWithin] using h
    refine ⟨[], .refl, ?_⟩
    have hsuffix : reader.flags.skip [] <:+ [] := (steady_skip reader.flags).suffix rfl
    exact List.suffix_nil.mp hsuffix
  | succ fuel ih =>
    rw [readWithin] at h
    split at h
    next hskip =>
      obtain rfl : s.1 = r := by simpa using h
      exact ⟨s.2, .refl, hskip⟩
    next c tail hskip =>
      split at h
      next => cases h
      next next left hstep =>
        have hround : Round s (next, left) := ⟨c, tail, hskip, hstep⟩
        have hshort := hround.length_lt
        obtain ⟨last, hreads, hend⟩ := ih (s := (next, left)) (by simp only at hshort ⊢; omega) h
        exact ⟨last, .head hround hreads, hend⟩

/-- `readWithin` succeeds if and only if rounds lead to the end of the text. -/
theorem readWithin_eq_ok_iff {r r' : Reader} {text : List Char} :
    readWithin text.length r text = .ok r' ↔
      ∃ left, Reads (r, text) (r', left) ∧ Finished (r', left) := by
  constructor
  · exact fun h => reads_of_readWithin (s := (r, text)) (Nat.le_refl _) h
  · rintro ⟨left, hreads, hend⟩
    exact readWithin_of_reads hreads hend (Nat.le_refl _)

/-! ## What the rounds see -/

/-- A brace that a round takes begins a count, and so it does not name the edge of a word. -/
lemma namesNoEdge_of_round {s t : Stage} {c : Char} {tail : List Char} (hs : s.2 = c :: tail)
    (h : Round s t) : NamesNoEdge s.1.flags (c :: tail) := by
  by_cases hc : c = '\x7b'
  · subst hc
    obtain ⟨d, left, hskip, hstep⟩ := h
    rw [hs, skip_of_counts (fun _ => ⟨by decide, by decide⟩)] at hskip
    obtain ⟨rfl, rfl⟩ := List.cons.inj hskip
    have hcounted : s.1.counted ('\x7b' :: tail) = .ok t := hstep
    exact namesNoEdge_of_counted hcounted
  · exact namesNoEdge_of_ne hc tail

/-- Rounds that lead to a character other than a brace do not depend on what follows it. -/
theorem reads_before {P : Reader → Prop} {s t : Stage} {c : Char} {more : List Char}
    (h : ReadsKeeping P s t) (ht : t.2 = c :: more) (hc : c ≠ '\x7b') :
    ∃ taken, s.2 = taken ++ c :: more ∧
      ∀ other, ReadsKeeping P (s.1, taken ++ c :: other) (t.1, c :: other) := by
  induction h using Relation.ReflTransGen.head_induction_on with
  | refl => exact ⟨[], ht, fun other => .refl⟩
  | @head s u hround hreads ih =>
    obtain ⟨kept, hkept, hagain⟩ := ih
    obtain ⟨⟨d, tail, hskip, hstep⟩, hkeeps⟩ := hround
    obtain ⟨u, left⟩ := u
    obtain rfl : left = kept ++ c :: more := hkept
    obtain ⟨taken, rfl, hother⟩ := steady_step s.1 u d _ _ hstep
    have hstep' (other : List Char) :
        s.1.step d (taken ++ (kept ++ c :: other)) = .ok (u, kept ++ c :: other) := by
      cases kept with
      | nil => exact hother c more other rfl (namesNoEdge_of_ne hc other)
      | cons e kept =>
        refine hother e (kept ++ c :: more) (kept ++ c :: other) rfl ?_
        -- The next round shows that nothing names an edge there.
        rcases (hagain other).cases_head with hsame | ⟨v, ⟨hnext, _⟩, _⟩
        · have := congrArg (fun s : Stage => s.2.length) hsame
          simp only [List.length_append, List.length_cons] at this
          omega
        · exact namesNoEdge_of_round (s := (u, e :: (kept ++ c :: other))) rfl hnext
    have hstart : s.1.flags.skip s.2 = (d :: (taken ++ kept)) ++ c :: more := by simp [hskip]
    obtain ⟨passed, htext, hpassed⟩ := (steady_skip s.1.flags).before hstart
    refine ⟨passed ++ (d :: (taken ++ kept)), by simp [htext], fun other => ?_⟩
    refine .head ⟨⟨d, _, ?_, hstep' other⟩, hkeeps⟩ (hagain other)
    simpa using hpassed other

/-- Rounds do not depend on what follows the next character that counts, with layout before it,
unless this is a brace. -/
theorem reads_to_letter {P : Reader → Prop} {s t : Stage} {c : Char} {more : List Char}
    (h : ReadsKeeping P s t) (ht : t.1.flags.skip t.2 = c :: more) (hc : c ≠ '\x7b') :
    ∃ taken, s.2 = taken ++ c :: more ∧ ∀ other, ∃ left,
      ReadsKeeping P (s.1, taken ++ c :: other) (t.1, left) ∧
        t.1.flags.skip left = c :: other := by
  have hskip : t.1.flags.skip t.2 = [] ++ c :: more := ht
  obtain ⟨passed, htext, hpassed⟩ := (steady_skip t.1.flags).before hskip
  rw [List.nil_append] at htext
  cases passed with
  | nil =>
    obtain ⟨taken, hs, hreads⟩ := reads_before h htext hc
    exact ⟨taken, hs, fun other => ⟨c :: other, hreads other, hpassed other⟩⟩
  | cons d passed =>
    have hd : d ≠ '\x7b' := by
      rintro rfl
      rw [htext, List.cons_append, skip_of_counts fun _ => ⟨by decide, by decide⟩] at ht
      exact hc (List.cons.inj ht).1.symm
    obtain ⟨taken, hs, hreads⟩ := reads_before h htext hd
    refine ⟨taken ++ d :: passed, by simpa using hs, fun other => ⟨d :: (passed ++ c :: other), ?_,
      hpassed other⟩⟩
    simpa using hreads (passed ++ c :: other)

end UriRouting.Expression
