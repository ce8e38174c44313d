import Mathlib.Tactic
import UriRouting.Template.Placeholder

/-!
# What the check of parentheses sees

The check of a sub-pattern goes through it character by character.  All that it knows of what stands
before a character is a `Checkpoint`: how many brackets are open, and whether a backslash or the
beginning of a class comes just before.  A parenthesis counts only where no bracket is open.  A text
in which none counts leads from one place to another and leaves the balance as it is
(`Passes.balancedFrom_append`).

The check does not know everything that may stand in an expression.  A bracket opens no class where
it ends a range or stands in the name of a group, and in a comment neither brackets nor parentheses
mean anything.  `Regular` says that the text has no such range and no such name, and that comments
are not switched on.
-/

namespace UriRouting.Placeholder

/-! ## Places -/

/-- What the check knows of a place: how many brackets are open, and what stands just before. -/
structure Checkpoint where
  classes : Nat
  spot : Spot
deriving DecidableEq

namespace Checkpoint

/-- No bracket is open, and nothing special stands before. -/
def outside : Checkpoint := ⟨0, .plain⟩

/-- A bracket is open inside a number of others, and nothing special stands before. -/
def inside (around : Nat) : Checkpoint := ⟨around + 1, .plain⟩

/-- The place behind a character. -/
def next (p : Checkpoint) (c : Char) : Checkpoint :=
  if p.spot = .escaped then ⟨p.classes, .plain⟩
  else if p.spot = .classStart ∧ c = '^' then ⟨p.classes, .classNegated⟩
  else if (p.spot = .classStart ∨ p.spot = .classNegated) ∧ c = ']' then ⟨p.classes, .plain⟩
  else if c = '\\' then ⟨p.classes, .escaped⟩
  else if c = '[' then ⟨p.classes + 1, .classStart⟩
  else if c = ']' then ⟨p.classes - 1, .plain⟩
  else ⟨p.classes, .plain⟩

/-- Does the character count there?  Only a parenthesis does, and only outside of classes. -/
def Counts (p : Checkpoint) (c : Char) : Prop :=
  p.spot ≠ .escaped ∧ p.classes = 0 ∧ (c = '(' ∨ c = ')')

lemma not_counts_of_escaped (classes : Nat) (c : Char) : ¬ Counts ⟨classes, .escaped⟩ c :=
  fun h => h.1 rfl

lemma not_counts_inside (classes : Nat) (spot : Spot) (c : Char) :
    ¬ Counts ⟨classes + 1, spot⟩ c := fun h => Nat.succ_ne_zero classes h.2.1

lemma not_counts_of_ne {c : Char} (hc : c ≠ '(' ∧ c ≠ ')') (p : Checkpoint) : ¬ p.Counts c :=
  fun h => h.2.2.elim hc.1 hc.2

/-- Where a class begins, a character that is no sign of negation and no closing bracket is like any
other in the class. -/
lemma next_of_settled {classes : Nat} {spot : Spot} {c : Char} (hspot : spot ≠ .escaped)
    (hsign : spot = .classStart → c ≠ '^') (hclose : spot ≠ .plain → c ≠ ']') :
    next ⟨classes, spot⟩ c = next ⟨classes, .plain⟩ c := by
  cases spot with
  | plain => rfl
  | escaped => exact absurd rfl hspot
  | classStart => simp [next, hsign rfl, hclose]
  | classNegated => simp [next, hclose]

end Checkpoint

lemma balancedFrom_cons {p : Checkpoint} {c : Char} (h : ¬ p.Counts c) (depth : Nat)
    (rest : List Char) :
    balancedFrom depth p.classes p.spot (c :: rest) =
      balancedFrom depth (p.next c).classes (p.next c).spot rest := by
  obtain ⟨classes, spot⟩ := p
  simp only [Checkpoint.next, balancedFrom.eq_def depth classes spot (c :: rest)]
  cases classes with
  | zero =>
    by_cases hescaped : spot = .escaped
    · simp only [hescaped, if_true]
    · obtain ⟨hleft, hright⟩ := not_or.mp fun hparens => h ⟨hescaped, rfl, hparens⟩
      simp only [hescaped, hleft, hright, if_false]
      split_ifs <;> rfl
  | succ classes => split_ifs <;> rfl

lemma balancedFrom_open (depth : Nat) (rest : List Char) :
    balancedFrom depth 0 .plain ('(' :: rest) = balancedFrom (depth + 1) 0 .plain rest := by
  simp [balancedFrom]

lemma balancedFrom_close (depth : Nat) (rest : List Char) :
    balancedFrom (depth + 1) 0 .plain (')' :: rest) = balancedFrom depth 0 .plain rest := by
  simp [balancedFrom]

/-! ## Texts in which nothing counts -/

/-- The text leads from one place to another, and nothing in it counts. -/
inductive Passes : Checkpoint → List Char → Checkpoint → Prop
  | nil (p : Checkpoint) : Passes p [] p
  | cons {p q : Checkpoint} {c : Char} {text : List Char} (hc : ¬ p.Counts c)
      (hrest : Passes (p.next c) text q) : Passes p (c :: text) q

lemma Passes.step {p q r : Checkpoint} {c : Char} {text : List Char} (hc : ¬ p.Counts c)
    (hnext : p.next c = q) (hrest : Passes q text r) : Passes p (c :: text) r :=
  .cons hc (hnext ▸ hrest)

lemma Passes.step_inside {classes : Nat} {spot : Spot} {q r : Checkpoint} {c : Char}
    {text : List Char} (hnext : Checkpoint.next ⟨classes + 1, spot⟩ c = q)
    (hrest : Passes q text r) : Passes ⟨classes + 1, spot⟩ (c :: text) r :=
  .step (Checkpoint.not_counts_inside classes spot c) hnext hrest

lemma Passes.step_other {p q r : Checkpoint} {c : Char} {text : List Char}
    (hc : c ≠ '(' ∧ c ≠ ')') (hnext : p.next c = q) (hrest : Passes q text r) :
    Passes p (c :: text) r := .step (Checkpoint.not_counts_of_ne hc p) hnext hrest

lemma Passes.append {p q r : Checkpoint} {first second : List Char} (hfirst : Passes p first q)
    (hsecond : Passes q second r) : Passes p (first ++ second) r := by
  induction hfirst with
  | nil _ => exact hsecond
  | cons hc _ ih => exact .cons hc (ih hsecond)

/-- What passes leaves the balance as it is. -/
theorem Passes.balancedFrom_append {p q : Checkpoint} {text : List Char} (h : Passes p text q)
    (depth : Nat) (rest : List Char) :
    balancedFrom depth p.classes p.spot (text ++ rest) =
      balancedFrom depth q.classes q.spot rest := by
  induction h with
  | nil _ => rfl
  | cons hc _ ih => rw [List.cons_append, balancedFrom_cons hc, ih]

/-- The characters that matter to the check. -/
def marks : List Char := ['(', ')', '[', ']', '\\']

/-- Nothing in the text matters to the check. -/
def Unmarked (text : List Char) : Prop := ∀ c ∈ text, c ∉ marks

-- Inference would look at all characters that there are.
instance : DecidablePred Unmarked := List.decidableBAll (· ∉ marks)

lemma Unmarked.append {first second : List Char} (hfirst : Unmarked first)
    (hsecond : Unmarked second) : Unmarked (first ++ second) :=
  List.forall_mem_append.mpr ⟨hfirst, hsecond⟩

lemma Unmarked.cons {c : Char} {text : List Char} (hc : c ∉ marks) (htext : Unmarked text) :
    Unmarked (c :: text) := List.forall_mem_cons.mpr ⟨hc, htext⟩

lemma unmarked_nil : Unmarked [] := fun _ hc => absurd hc List.not_mem_nil

lemma Unmarked.single {c : Char} (hc : c ∉ marks) : Unmarked [c] := unmarked_nil.cons hc

/-- Where nothing special stands before, a character that does not matter changes nothing. -/
lemma next_of_not_mem_marks {classes : Nat} {c : Char} (hc : c ∉ marks) :
    Checkpoint.next ⟨classes, .plain⟩ c = ⟨classes, .plain⟩ := by
  simp only [marks, List.mem_cons, List.not_mem_nil, or_false, not_or] at hc
  simp [Checkpoint.next, hc]

lemma Unmarked.passes {text : List Char} (h : Unmarked text) (classes : Nat) :
    Passes ⟨classes, .plain⟩ text ⟨classes, .plain⟩ := by
  induction text with
  | nil => exact .nil _
  | cons c text ih =>
    obtain ⟨hc, htext⟩ := List.forall_mem_cons.mp h
    have hparens : c ≠ '(' ∧ c ≠ ')' := by
      constructor <;> rintro rfl <;> exact hc (by decide)
    exact .step_other hparens (next_of_not_mem_marks hc) (ih htext)

/-- Where no class is open, a closing bracket changes nothing either. -/
lemma passes_outside {text : List Char} (h : ∀ c ∈ text, c = ']' ∨ c ∉ marks) :
    Passes .outside text .outside := by
  induction text with
  | nil => exact .nil _
  | cons c text ih =>
    obtain ⟨hc, htext⟩ := List.forall_mem_cons.mp h
    have hpasses : Passes .outside [c] .outside := by
      rcases hc with rfl | hc
      · exact .step_other (by decide) rfl (.nil _)
      · exact (Unmarked.single hc).passes 0
    exact hpasses.append (ih htext)

lemma passes_escaped (classes : Nat) (c : Char) :
    Passes ⟨classes, .plain⟩ ['\\', c] ⟨classes, .plain⟩ := by
  have hslash : Checkpoint.next ⟨classes, .plain⟩ '\\' = ⟨classes, .escaped⟩ := by
    simp [Checkpoint.next]
  exact .step_other (by decide) hslash
    (.cons (Checkpoint.not_counts_of_escaped classes c) (.nil _))

/-! ## Regular texts -/

/-- Is there nothing in the name of a group that matters to the check?  A closing bracket does not
matter where no class is open. -/
def plainName (text : List Char) : Bool :=
  (text.takeWhile (· != '>')).all fun c => c == ']' || !marks.contains c

/-- The letters of the flags that are switched on: those up to a minus sign or the end of the
flags. -/
def switchedOn (flags : List Char) : List Char :=
  flags.takeWhile fun c => c != ':' && c != ')' && c != '-'

lemma switchedOn_cons {c : Char} (hend : ¬ (c = ':' ∨ c = ')')) (hminus : c ≠ '-')
    (flags : List Char) : switchedOn (c :: flags) = c :: switchedOn flags :=
  List.takeWhile_cons_of_pos (by simp_all)

/-- May these signs stand behind a parenthesis and a question mark?  The name of a group has nothing
in it that matters to the check, and flags do not switch on comments. -/
def plainSigns : List Char → Bool
  | 'P' :: '<' :: name => plainName name
  | '<' :: name => plainName name
  | flags => !(switchedOn flags).contains 'x'

/-- May the character stand at this place, with `last` before it and `rest` behind it?  A bracket
behind a hyphen may be the end of a range, unless another hyphen or the end of a class comes
first. -/
def regularAt (p : Checkpoint) (last : Option Char) (c : Char) (rest : List Char) : Bool :=
  if c = '(' ∧ rest.head? = some '?' then p != .outside || plainSigns (rest.drop 1)
  else if c = '-' ∧ rest.head? = some '[' then
    p.classes == 0 || p.spot != .plain || last == some '-' || last == some ']'
  else true

/-- May every character of the text stand where it does?  A character behind a backslash does not
count as the last one. -/
def regularFrom (p : Checkpoint) (last : Option Char) : List Char → Bool
  | [] => true
  | c :: rest => regularAt p last c rest &&
      regularFrom (p.next c) (if p.spot = .escaped then none else some c) rest

/-- The check understands the text: no range of a class ends with an opening bracket, no name of a
group has one in it, and no flag switches on comments. -/
def Regular (text : List Char) : Prop := regularFrom .outside none text = true

instance (text : List Char) : Decidable (Regular text) :=
  inferInstanceAs (Decidable (regularFrom .outside none text = true))

/-- The rest of a regular text, from a place on. -/
def RegularFrom (p : Checkpoint) (text : List Char) : Prop := ∃ last, regularFrom p last text = true

lemma Regular.start {text : List Char} (h : Regular text) : RegularFrom .outside text := ⟨none, h⟩

lemma RegularFrom.tail {p : Checkpoint} {c : Char} {text : List Char}
    (h : RegularFrom p (c :: text)) : RegularFrom (p.next c) text := by
  obtain ⟨last, h⟩ := h
  rw [regularFrom, Bool.and_eq_true] at h
  exact ⟨_, h.2⟩

lemma RegularFrom.after {p q : Checkpoint} {text rest : List Char}
    (h : RegularFrom p (text ++ rest)) (hpasses : Passes p text q) : RegularFrom q rest := by
  induction hpasses with
  | nil _ => exact h
  | cons _ _ ih => exact ih h.tail

/-- Where a class begins, one may as well stand in it already, if nothing comes next that matters at
its beginning only. -/
lemma RegularFrom.settle {classes : Nat} {spot : Spot} {c : Char} {text : List Char}
    (hspot : spot ≠ .escaped) (hsign : spot = .classStart → c ≠ '^')
    (hclose : spot ≠ .plain → c ≠ ']') (hhyphen : spot ≠ .plain → c ≠ '-')
    (h : RegularFrom ⟨classes + 1, spot⟩ (c :: text)) :
    RegularFrom ⟨classes + 1, .plain⟩ (c :: text) := by
  obtain ⟨last, h⟩ := h
  refine ⟨last, ?_⟩
  have houtside (s : Spot) : ((⟨classes + 1, s⟩ : Checkpoint) != .outside) = true := by
    simp [Checkpoint.outside]
  have hsame : regularAt ⟨classes + 1, .plain⟩ last c text =
      regularAt ⟨classes + 1, spot⟩ last c text := by
    by_cases hplain : spot = .plain
    · rw [hplain]
    · simp [regularAt, houtside, hhyphen hplain]
  rw [regularFrom, hsame, ← Checkpoint.next_of_settled hspot hsign hclose]
  simpa [regularFrom, hspot] using h

/-- What stands behind a parenthesis and a question mark in a regular text. -/
lemma RegularFrom.signs {signs : List Char} (h : RegularFrom .outside ('(' :: '?' :: signs)) :
    plainSigns signs = true := by
  obtain ⟨last, h⟩ := h
  rw [regularFrom, Bool.and_eq_true] at h
  simpa [regularAt] using h.1

/-- In a regular text a class has an opening bracket behind a hyphen only if another hyphen or a
closing bracket comes before, and not behind a backslash. -/
lemma RegularFrom.hyphen {p q : Checkpoint} {text more : List Char} {c : Char} {around : Nat}
    (h : RegularFrom p (text ++ c :: '-' :: '[' :: more)) (hpasses : Passes p text q)
    (hplace : q.next c = .inside around) : q.spot ≠ .escaped ∧ (c = '-' ∨ c = ']') := by
  obtain ⟨last, h⟩ := h.after hpasses
  rw [regularFrom, hplace, Bool.and_eq_true, regularFrom, Bool.and_eq_true] at h
  have hhyphen := h.2.1
  by_cases hescaped : q.spot = .escaped
  · simp [regularAt, Checkpoint.inside, hescaped] at hhyphen
  · simp only [regularAt, Checkpoint.inside, hescaped, if_false] at hhyphen
    exact ⟨hescaped, by simpa using hhyphen⟩

end UriRouting.Placeholder
