import Mathlib.Tactic
import UriRouting.Expression.Search

/-!
# The search in one pass

`Program.search` follows all runs at once and `Program.firstMatch?` tries them one after the other,
each to its end.  Both find the same trail (`search_eq_firstMatch?`).

Two facts carry the argument.  At one place the runs halt in the order in which the other search
comes to them (`follow_explore`), and a run that waits at an address where a preferred one waits can
be dropped, since both go on in the same way (`outcome_settle`).  The meaning of a front is what the
other search makes of the rest of the text from there; no place changes it (`meaning_arrive`).
-/

namespace UriRouting.Program

/-! ## The first halt that leads to a match -/

/-- The trail of the first of some runs that accepts, where `resume` tells how a run goes on after
the instruction at an address has taken the character. -/
def firstOf (resume : Nat → Option Trail) : List Halt → Option Trail
  | [] => none
  | .accepting marks :: _ => some marks.reverse
  | .taking address marks :: rest =>
    ((resume address).map (marks.reverse ++ ·)).or (firstOf resume rest)

lemma firstOf_append (resume : Nat → Option Trail) (first second : List Halt) :
    firstOf resume (first ++ second) = (firstOf resume first).or (firstOf resume second) := by
  induction first with
  | nil => rfl
  | cons halt rest ih =>
    cases halt with
    | accepting marks => rfl
    | taking address marks => simp [firstOf, ih, Option.or_assoc]

/-- `follow` lists halts in the order in which `explore` tries runs.  If none of them leads to a
match, the two have visited the same addresses. -/
lemma follow_explore (p : Program) (here : Place) (resume : Nat → Option Trail)
    (fuel address : Nat) (marks : Trail) (seen : Visited) :
    firstOf resume (p.follow here fuel address marks seen).1 =
        (p.explore here resume fuel address seen).1.map (marks.reverse ++ ·) ∧
      ((p.explore here resume fuel address seen).1 = none →
        (p.explore here resume fuel address seen).2 =
          (p.follow here fuel address marks seen).2) := by
  induction fuel generalizing address marks seen with
  | zero => simp [follow, explore, firstOf]
  | succ fuel ih =>
    unfold follow explore
    by_cases hseen : seen.has address
    · simp [hseen, firstOf]
    · simp only [hseen, Bool.false_eq_true, if_false]
      split
      next h => simp [firstOf]
      next h => simp [firstOf]
      next set h =>
        cases here.after with
        | none => simp [firstOf]
        | some c =>
          by_cases hc : set.contains c <;> simp [hc, firstOf]
      next test h =>
        by_cases ht : test.holds here.before here.after
        · simpa [ht] using ih (address + 1) marks (seen.visit address)
        · simp [ht, firstOf]
      next slot h =>
        obtain ⟨htrail, hvisited⟩ :=
          ih (address + 1) ((slot, here.position) :: marks) (seen.visit address)
        refine ⟨?_, fun hnone => hvisited (by simpa using hnone)⟩
        rw [htrail]
        simp [Option.map_map, Function.comp_def]
      next target h => exact ih target marks (seen.visit address)
      next preferred other h =>
        obtain ⟨htrail, hvisited⟩ := ih preferred marks (seen.visit address)
        rcases hfirst : p.explore here resume fuel preferred (seen.visit address) with
          ⟨found, after⟩
        rw [hfirst] at htrail hvisited
        cases found with
        | some trail => simp [firstOf_append, htrail]
        | none =>
          have hafter : after =
              (p.follow here fuel preferred marks (seen.visit address)).2 := hvisited rfl
          subst hafter
          simpa [firstOf_append, htrail] using ih other marks _

/-- The halts of `haltsFrom`, tried in order, are what `runAt` finds. -/
lemma firstOf_haltsFrom (p : Program) (here : Place) (resume : Nat → Option Trail)
    (address : Nat) (marks : Trail) :
    firstOf resume (p.haltsFrom here address marks) =
      (p.runAt here resume address).map (marks.reverse ++ ·) :=
  (follow_explore p here resume _ address marks Visited.none).1

/-! ## Dropping runs -/

lemma has_visit (seen : Visited) (address other : Nat) :
    (seen.visit address).has other = (seen.has other || decide (address = other)) := by
  simp [Visited.has, Visited.visit, Nat.testBit_or, Nat.testBit_two_pow]

@[simp] lemma has_none (address : Nat) : Visited.none.has address = false := by
  simp [Visited.has, Visited.none]

/-- How the first of some runs goes on that leads to a match. -/
def outcome (resume : Nat → Option Trail) (threads : List Thread) : Option Trail :=
  threads.findSome? fun t => (resume t.address).map (t.marks.reverse ++ ·)

/-- `settle` keeps the first match among halts, as long as the addresses that it takes as visited
lead to none. -/
lemma outcome_settle (resume : Nat → Option Trail) (seen : Visited) (halts : List Halt)
    (hdead : ∀ address, seen.has address = true → resume address = none) :
    (outcome resume (settle seen halts).1).or ((settle seen halts).2.map List.reverse) =
      firstOf resume halts := by
  induction halts generalizing seen with
  | nil => rfl
  | cons halt rest ih =>
    cases halt with
    | accepting marks => rfl
    | taking address marks =>
      unfold settle
      by_cases hseen : seen.has address
      · simp [hseen, firstOf, hdead address hseen, ih seen hdead]
      · simp only [hseen, Bool.false_eq_true, if_false]
        cases hr : resume address with
        | some trail => simp [outcome, firstOf, hr]
        | none =>
          -- The run came to nothing, so its address may count as taken from here on.
          have hdead' : ∀ other, (seen.visit address).has other = true → resume other = none := by
            intro other hother
            rw [has_visit, Bool.or_eq_true, decide_eq_true_eq] at hother
            rcases hother with hother | rfl
            · exact hdead other hother
            · exact hr
          simpa [outcome, firstOf, hr] using ih (seen.visit address) hdead'

/-! ## From place to place -/

/-- How a run goes on at the next place after an instruction has taken the first character of
`text`. -/
def resumeAt (p : Program) (position : Nat) : List Char → Nat → Option Trail
  | [], _ => none
  | c :: rest, taken => p.enter (position + 1) (some c) rest (taken + 1)

lemma enter_eq_runAt (p : Program) (position : Nat) (before : Option Char) (text : List Char)
    (address : Nat) :
    p.enter position before text address =
      p.runAt ⟨position, before, text.head?⟩ (p.resumeAt position text) address := by
  cases text <;> rfl

/-- What the runs of a front come to on the rest of the text: the first of them that matches, or
else the run that has accepted, or else what begins later. -/
def meaning (p : Program) (front : Front) (position : Nat) (before : Option Char)
    (text : List Char) : Option Trail :=
  (front.threads.findSome? fun t =>
    (p.enter position before text (t.address + 1)).map (t.marks.reverse ++ ·)).or
    (match front.found with
      | some marks => some marks.reverse
      | none => p.firstMatch? position before text)

lemma firstOf_halts (p : Program) (front : Front) (position : Nat) (before : Option Char)
    (text : List Char) :
    firstOf (p.resumeAt position text)
        ((front.threads.flatMap fun t =>
            p.haltsFrom ⟨position, before, text.head?⟩ (t.address + 1) t.marks) ++
          if front.found.isSome then []
          else p.haltsFrom ⟨position, before, text.head?⟩ 0 [(0, position)]) =
      (front.threads.findSome? fun t =>
        (p.enter position before text (t.address + 1)).map (t.marks.reverse ++ ·)).or
        (if front.found.isSome then none
          else (p.enter position before text 0).map ((0, position) :: ·)) := by
  rw [firstOf_append]
  congr 1
  · induction front.threads with
    | nil => rfl
    | cons t rest ih =>
      rw [List.flatMap_cons, firstOf_append, ih, firstOf_haltsFrom, List.findSome?_cons,
        enter_eq_runAt]
      cases p.runAt ⟨position, before, text.head?⟩ (p.resumeAt position text) (t.address + 1) <;>
        rfl
  · split
    · rfl
    · rw [firstOf_haltsFrom, enter_eq_runAt]
      rfl

/-- The first match that begins after a place. -/
def laterMatch? (p : Program) (position : Nat) : List Char → Option Trail
  | [] => none
  | c :: rest => p.firstMatch? (position + 1) (some c) rest

lemma firstMatch?_eq_or (p : Program) (position : Nat) (before : Option Char) (text : List Char) :
    p.firstMatch? position before text =
      ((p.enter position before text 0).map ((0, position) :: ·)).or
        (p.laterMatch? position text) := by
  cases text with
  | nil => simp [firstMatch?, laterMatch?]
  | cons c rest =>
    rw [firstMatch?, laterMatch?]
    cases p.enter position before (c :: rest) 0 <;> rfl

/-- `arrive` keeps the meaning of a front: what its runs come to at a place is what those come to
that go on from there. -/
lemma meaning_arrive (p : Program) (front : Front) (position : Nat) (before : Option Char)
    (text : List Char) :
    p.meaning front position before text =
      (outcome (p.resumeAt position text)
          (p.arrive front ⟨position, before, text.head?⟩).threads).or
        (match (p.arrive front ⟨position, before, text.head?⟩).found with
          | some marks => some marks.reverse
          | none => p.laterMatch? position text) := by
  have hhalts := firstOf_halts p front position before text
  rw [← outcome_settle _ Visited.none _ (by simp)] at hhalts
  rw [meaning, firstMatch?_eq_or]
  simp only [arrive]
  cases hfound : front.found with
  | none =>
    simp only [hfound, Option.isSome_none, Bool.false_eq_true, if_false, Option.or_none] at hhalts ⊢
    rw [← Option.or_assoc, ← hhalts, Option.or_assoc]
    congr 1
    cases (settle Visited.none _).2 <;> rfl
  | some marks =>
    simp only [hfound, Option.isSome_some, if_true, Option.or_none, List.append_nil] at hhalts ⊢
    rw [← hhalts, Option.or_assoc]
    congr 1
    cases (settle Visited.none _).2 <;> rfl

/-- Going through all places of the rest of the text brings out the meaning of a front. -/
lemma found_foldl_arrive (p : Program) (front : Front) (position : Nat) (before : Option Char)
    (text : List Char) :
    ((places position before text).foldl p.arrive front).found.map List.reverse =
      p.meaning front position before text := by
  induction text generalizing front position before with
  | nil =>
    rw [meaning_arrive]
    have hnone (threads : List Thread) : outcome (p.resumeAt position []) threads = none := by
      simp [outcome, resumeAt]
    simp only [places, List.foldl_cons, List.foldl_nil, hnone, Option.none_or, laterMatch?,
      List.head?_nil]
    cases (p.arrive front ⟨position, before, none⟩).found <;> rfl
  | cons c rest ih =>
    rw [meaning_arrive, places, List.foldl_cons, ih]
    rfl

/-- `search`, which follows all runs at once, finds the trail that `firstMatch?` finds by trying
them one after the other. -/
theorem search_eq_firstMatch? (p : Program) (text : List Char) :
    p.search text = p.firstMatch? 0 none text := by
  rw [search, found_foldl_arrive]
  rfl

end UriRouting.Program
