import Mathlib.Tactic
import UriRouting.Proofs.Expression.Enclosures

/-!
# The first group of an expression

A text that can stand between two parentheses adds a group to what has been read before it.  Where
no group has been opened before, the group is the same, whatever else has been read: it is numbered
one, and the expression inside it depends on the text alone (`exists_firstGroup`).

While the group is open, what stands around it is kept at the bottom of the open groups, where no
step looks.  So a reading can be carried over from one surrounding to another (`Around.reads`).
-/

namespace UriRouting.Expression

/-- Both readers have read the same inside of the outermost group that is open, which is `g` in the
first and `k` in the second. -/
def Around (g k : OpenGroup) (q r : Reader) : Prop :=
  ∃ above, q.opened = above ++ [g] ∧ r = { q with opened := above ++ [k] }

section Around

variable {g k : OpenGroup} {q r : Reader} (h : Around g k q r)
include h

/-- Of two readers with different groups `Around` them, the second does what the first does inside
of the group. -/
lemma Around.act {q' : Reader} {a : Action} (hact : q.act a = .ok q') (hgroup : q'.InGroup) :
    ∃ r', r.act a = .ok r' ∧ Around g k q' r' := by
  obtain ⟨above, habove, rfl⟩ := h
  cases a with
  | capture name =>
    cases name with
    | none =>
      obtain rfl := Except.ok.inj hact
      refine ⟨_, rfl, ⟨some (q.groups + 1), q.flags, q.body⟩ :: above, ?_, rfl⟩
      simp [Reader.enter, habove]
    | some name =>
      simp only [Reader.act] at hact ⊢
      split at hact
      next => cases hact
      next hfree =>
        obtain rfl := Except.ok.inj hact
        refine ⟨_, if_neg hfree, ⟨some (q.groups + 1), q.flags, q.body⟩ :: above, ?_, rfl⟩
        simp [Reader.enter, habove]
  | enclose inside =>
    obtain rfl := Except.ok.inj hact
    refine ⟨_, rfl, ⟨none, q.flags, q.body⟩ :: above, ?_, rfl⟩
    simp [Reader.enter, habove]
  | direct flags =>
    obtain rfl := Except.ok.inj hact
    exact ⟨_, rfl, above, habove, rfl⟩
  | close =>
    simp only [Reader.act, Reader.closing, habove] at hact ⊢
    cases above with
    | nil =>
      -- The outermost group itself would be closed.
      obtain rfl := Except.ok.inj hact
      exact absurd rfl hgroup
    | cons top above =>
      obtain rfl := Except.ok.inj hact
      exact ⟨_, rfl, above, rfl, rfl⟩
  | next =>
    obtain rfl := Except.ok.inj hact
    exact ⟨_, rfl, above, habove, rfl⟩
  | char set depth =>
    obtain rfl := Except.ok.inj hact
    exact ⟨_, rfl, above, habove, rfl⟩
  | look test =>
    obtain rfl := Except.ok.inj hact
    exact ⟨_, rfl, above, habove, rfl⟩
  | quantify least most lazy =>
    obtain ⟨p, rest, hparts, hdirective, rfl⟩ := quantify_eq_ok.mp hact
    exact ⟨_, quantify_eq_ok.mpr ⟨p, rest, hparts, hdirective, rfl⟩, above, habove, rfl⟩

/-- Of two readers with different groups `Around` them, the second comes wherever the first does as
long as the group is open. -/
theorem Around.reads {text : List Char} {t : Stage}
    (hreads : ReadsKeeping Reader.InGroup (q, text) t) :
    ∃ r', Reads (r, text) (r', t.2) ∧ Around g k t.1 r' := by
  induction hreads with
  | refl => exact ⟨r, .refl, h⟩
  | @tail u v _ hlast ih =>
    obtain ⟨r', hreads', haround⟩ := ih
    obtain ⟨⟨c, tail, hskip, hstep⟩, hgroup⟩ := hlast
    obtain ⟨v, rest⟩ := v
    obtain ⟨a, hact, hother, _⟩ := step_act hstep
    obtain ⟨r'', hact', haround'⟩ := haround.act hact hgroup
    have hflags : r'.flags = u.1.flags := by
      obtain ⟨_, _, rfl⟩ := haround
      rfl
    refine ⟨r'', hreads'.tail ⟨c, tail, ?_, hother r' r'' hflags hact'⟩, haround'⟩
    rw [hflags]
    exact hskip

end Around

/-- Nothing is open, no flag is set, and no group has been opened or named. -/
structure Reader.Groupless (r : Reader) : Prop where
  flags : r.flags = {}
  opened : r.opened = []
  groups : r.groups = 0
  names : r.names = []

/-- Where no group has been opened, the first capturing group is opened in the same way. -/
lemma Reader.Groupless.capture {r first : Reader} {a : Action} (h : r.Groupless)
    (hact : Reader.start.act a = .ok first) (hgroups : first.groups = 1) :
    ∃ first', r.act a = .ok first' ∧
      Around ⟨some 1, {}, Body.start⟩ ⟨some 1, {}, r.body⟩ first first' := by
  obtain ⟨flags, body, opened, groups, names⟩ := r
  obtain ⟨rfl, rfl, rfl, rfl⟩ := h
  cases a with
  | capture name =>
    cases name with
    | none =>
      obtain rfl := Except.ok.inj hact
      exact ⟨_, rfl, [], rfl, rfl⟩
    | some name =>
      obtain rfl := Except.ok.inj hact
      exact ⟨_, rfl, [], rfl, rfl⟩
  | close => cases hact
  | quantify least most lazy => cases hact
  | _ =>
    -- Nothing else opens a group that captures.
    obtain rfl := Except.ok.inj hact
    cases hgroups

/-- Where no group has been opened before, a sealed text adds a group that depends on the text
alone. -/
theorem exists_firstGroup {sub : List Char} (h : Sealed sub) :
    ∃ (inside : Expression) (depth : Nat), ∀ r : Reader, r.Groupless → ∀ post, ∃ r' : Reader,
      Reads (r, '(' :: (sub ++ ')' :: post)) (r', post) ∧ r'.flags = {} ∧ r'.opened = [] ∧
        r'.body = r.body.add ⟨group 1 inside, depth, false⟩ := by
  obtain ⟨first, last, behind, left, g, outer, hstep, hgroups, hreads, hskip, hg, hindex⟩ := h
  have hfirst := inside_of_opening rfl rfl hstep hgroups
  obtain ⟨hlast, hbottom⟩ := Reads.innermost hreads hfirst hg hindex
  have hkeeps := Inside.reads_keeping rfl hfirst hreads hlast
  refine ⟨last.body.whole.expression, last.body.whole.depth + 1, fun r hr post => ?_⟩
  obtain ⟨behind', left', hstep', hreads', hskip'⟩ := reads_with_after hstep hkeeps hskip post
  obtain ⟨a, hact, hother, _⟩ := step_act hstep'
  obtain ⟨first', hact', haround⟩ := hr.capture hact hgroups
  obtain ⟨last', hreads'', above, habove, rfl⟩ := haround.reads hreads'
  obtain rfl : above = [] := by
    have hlength := congrArg List.length (habove.symm.trans hbottom)
    simpa using hlength
  have hopen : Round (r, '(' :: (sub ++ ')' :: post)) (first', behind') := by
    refine ⟨'(', _, ?_, hother r first' hr.flags hact'⟩
    rw [hr.flags]
    rfl
  exact ⟨_, .head hopen (hreads''.tail ⟨')', post, hskip', rfl⟩), rfl, rfl, rfl⟩

/-! ## The highest number of a group -/

lemma highestGroup_le_iff {e : Expression} {bound : Nat} :
    e.highestGroup ≤ bound ↔ ∀ n ∈ e.groups, n ≤ bound := by
  constructor
  · exact fun h n hn => (le_highestGroup hn).trans h
  · intro h
    induction e with
    | empty => exact Nat.zero_le _
    | char _ => exact Nat.zero_le _
    | look _ => exact Nat.zero_le _
    | group index body ih =>
      obtain ⟨hindex, hbody⟩ := List.forall_mem_cons.mp h
      exact Nat.max_le.mpr ⟨hindex, ih hbody⟩
    | iterate body _ _ _ ih => exact ih h
    | seq a b iha ihb =>
      obtain ⟨ha, hb⟩ := List.forall_mem_append.mp h
      exact Nat.max_le.mpr ⟨iha ha, ihb hb⟩
    | alt a b iha ihb =>
      obtain ⟨ha, hb⟩ := List.forall_mem_append.mp h
      exact Nat.max_le.mpr ⟨iha ha, ihb hb⟩

lemma highestGroup_congr {e d : Expression} (h : ∀ n, n ∈ e.groups ↔ n ∈ d.groups) :
    e.highestGroup = d.highestGroup :=
  eq_of_forall_ge_iff fun _ => by simp only [highestGroup_le_iff, h]

end UriRouting.Expression
