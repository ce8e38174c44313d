import Mathlib.Tactic
import UriRouting.Proofs.Expression.Seals

/-!
# The numbers of groups

Groups are numbered in the order in which they are opened.  The common shape of expressions may drop
groups, but it makes up none (`groups_choice`), and so the groups inside a group have higher numbers
than the group itself, up to the number of groups opened so far.

This is an invariant of the reading from where the group is opened to where it is closed (`Inside`).
With it, a group that closes where it should adds one part, in which all other numbers are higher
(`part_of_captures`).
-/

namespace UriRouting.Expression

/-! ## Groups of expressions -/

/-- The numbers of the groups in an expression. -/
def groups : Expression → List Nat
  | empty => []
  | char _ => []
  | look _ => []
  | group index body => index :: body.groups
  | iterate body _ _ _ => body.groups
  | seq a b => a.groups ++ b.groups
  | alt a b => a.groups ++ b.groups

/-- The numbers of the groups in several expressions. -/
def groupsOf (parts : List Expression) : List Nat := parts.flatMap groups

@[simp] lemma groupsOf_nil : groupsOf [] = [] := rfl

@[simp] lemma groupsOf_cons (e : Expression) (parts : List Expression) :
    groupsOf (e :: parts) = e.groups ++ groupsOf parts := rfl

@[simp] lemma groupsOf_append (first second : List Expression) :
    groupsOf (first ++ second) = groupsOf first ++ groupsOf second := List.flatMap_append

lemma mem_groupsOf {n : Nat} {parts : List Expression} :
    n ∈ groupsOf parts ↔ ∃ e ∈ parts, n ∈ e.groups := List.mem_flatMap

lemma le_highestGroup {n : Nat} {e : Expression} (h : n ∈ e.groups) : n ≤ e.highestGroup := by
  induction e with
  | empty => cases h
  | char _ => cases h
  | look _ => cases h
  | group index body ih =>
    rcases List.mem_cons.mp h with rfl | h
    · exact Nat.le_max_left _ _
    · exact (ih h).trans (Nat.le_max_right _ _)
  | iterate body _ _ _ ih => exact ih h
  | seq a b iha ihb =>
    rcases List.mem_append.mp h with h | h
    · exact (iha h).trans (Nat.le_max_left _ _)
    · exact (ihb h).trans (Nat.le_max_right _ _)
  | alt a b iha ihb =>
    rcases List.mem_append.mp h with h | h
    · exact (iha h).trans (Nat.le_max_left _ _)
    · exact (ihb h).trans (Nat.le_max_right _ _)

/-! ## The common shape -/

lemma groupsOf_pieces (e : Expression) : groupsOf e.pieces = e.groups := by
  induction e with
  | seq a b iha ihb => rw [pieces, groupsOf_append, iha, ihb, groups]
  | _ => simp [pieces, groups]

lemma groupsOf_branches (e : Expression) : groupsOf e.branches = e.groups := by
  induction e with
  | alt a b iha ihb => rw [branches, groupsOf_append, iha, ihb, groups]
  | _ => simp [branches, groups]

lemma groups_ofPieces (parts : List Expression) : (ofPieces parts).groups = groupsOf parts := by
  induction parts with
  | nil => rfl
  | cons e rest ih =>
    cases rest with
    | nil => simp [ofPieces]
    | cons d rest => exact congrArg (e.groups ++ ·) ih

lemma groups_ofBranches (parts : List Expression) : (ofBranches parts).groups = groupsOf parts := by
  induction parts with
  | nil => rfl
  | cons e rest ih =>
    cases rest with
    | nil => simp [ofBranches]
    | cons d rest => exact congrArg (e.groups ++ ·) ih

lemma groupsOf_flatMap_pieces (parts : List Expression) :
    groupsOf (parts.flatMap pieces) = groupsOf parts := by
  induction parts with
  | nil => rfl
  | cons e rest ih => simp [groupsOf_pieces, ih]

lemma groupsOf_flatMap_branches (parts : List Expression) :
    groupsOf (parts.flatMap branches) = groupsOf parts := by
  induction parts with
  | nil => rfl
  | cons e rest ih => simp [groupsOf_branches, ih]

lemma groups_sequence (parts : List Expression) : (sequence parts).groups = groupsOf parts := by
  rw [sequence, groups_ofPieces, groupsOf_flatMap_pieces]

lemma groups_repeated {body : Expression} {least : Nat} {most : Option Nat} {greedy : Bool}
    {n : Nat} (h : n ∈ (repeated body least most greedy).groups) : n ∈ body.groups := by
  unfold repeated at h
  simp only at h
  generalize (if body.alwaysEmpty = true then min least 1 else least) = low at h
  generalize (if body.alwaysEmpty = true then some (min (most.getD 1) 1) else most) = high at h
  split_ifs at h
  · cases h
  · exact h
  · exact h

lemma commonStart_subset (first second : List Expression) :
    commonStart first second ⊆ first := by
  induction first generalizing second with
  | nil => simp [commonStart]
  | cons a first ih =>
    cases second with
    | nil => simp [commonStart]
    | cons b second =>
      rw [commonStart]
      split
      · exact List.cons_subset_cons a (ih second)
      · simp

lemma groupsOf_sharedStart {parts : List Expression} {n : Nat}
    (h : n ∈ groupsOf (sharedStart parts)) : n ∈ groupsOf parts := by
  unfold sharedStart at h
  split at h
  · cases parts with
    | nil => exact h
    | cons first rest =>
      have hfold (pieces : List Expression) (rest : List Expression) :
          rest.foldl (fun shared e => commonStart shared e.pieces) pieces ⊆ pieces := by
        induction rest generalizing pieces with
        | nil => exact List.Subset.refl pieces
        | cons e rest ih => exact List.Subset.trans (ih _) (commonStart_subset pieces e.pieces)
      obtain ⟨e, he, hn⟩ := mem_groupsOf.mp h
      rw [groupsOf_cons, ← groupsOf_pieces first]
      exact List.mem_append_left _ (mem_groupsOf.mpr ⟨e, hfold first.pieces rest he, hn⟩)
  · cases h

lemma groups_choiceWithin {fuel : Nat} {parts : List Expression} {n : Nat}
    (h : n ∈ (choiceWithin fuel parts).groups) : n ∈ groupsOf parts := by
  induction fuel generalizing parts with
  | zero => rwa [choiceWithin, groups_ofBranches] at h
  | succ fuel ih =>
    rw [choiceWithin] at h
    rw [← groupsOf_flatMap_branches]
    split at h
    next => cases h
    next e hone => simpa [hone] using h
    next =>
      generalize parts.flatMap branches = parts at h ⊢
      split at h
      next => cases h
      next =>
        simp only at h
        split at h
        · rwa [groups_ofBranches] at h
        · rw [groups_sequence, groupsOf_append, List.mem_append] at h
          rcases h with h | h
          · exact groupsOf_sharedStart h
          · have hrest := ih (by simpa using h)
            obtain ⟨e, he, hn⟩ := mem_groupsOf.mp hrest
            obtain ⟨whole, hwhole, rfl⟩ := List.mem_map.mp he
            rw [groups_ofPieces] at hn
            obtain ⟨piece, hpiece, hn⟩ := mem_groupsOf.mp hn
            refine mem_groupsOf.mpr ⟨whole, hwhole, ?_⟩
            rw [← groupsOf_pieces]
            exact mem_groupsOf.mpr ⟨piece, List.mem_of_mem_drop hpiece, hn⟩

lemma groups_choice {parts : List Expression} {n : Nat} (h : n ∈ (choice parts).groups) :
    n ∈ groupsOf parts := groups_choiceWithin h

/-! ## Groups of bodies -/

/-- The numbers of the groups in what has been read of a group. -/
def Body.groups (b : Body) : List Nat :=
  groupsOf (b.branches.map Part.expression) ++ groupsOf (b.parts.map Part.expression)

@[simp] lemma Body.groups_start : Body.start.groups = [] := rfl

@[simp] lemma Body.groups_add (b : Body) (p : Part) (n : Nat) :
    n ∈ (b.add p).groups ↔ n ∈ p.expression.groups ∨ n ∈ b.groups := by
  simp only [Body.groups, Body.add, List.map_cons, groupsOf_cons, List.mem_append]
  tauto

lemma Body.groups_branch (b : Body) (n : Nat) :
    n ∈ b.branch.expression.groups ↔ n ∈ groupsOf (b.parts.map Part.expression) := by
  unfold Body.branch
  split
  next h => simp [h, Expression.groups]
  next p h => simp [h]
  next =>
    rw [groups_sequence, List.map_reverse]
    simp [mem_groupsOf]

lemma Body.groups_next {b : Body} {n : Nat} (h : n ∈ b.next.groups) : n ∈ b.groups := by
  simp only [Body.groups, Body.next, List.map_cons, List.map_nil, groupsOf_cons, groupsOf_nil,
    List.append_nil, List.mem_append, Body.groups_branch] at h ⊢
  tauto

lemma Body.groups_whole {b : Body} {n : Nat} (h : n ∈ b.whole.expression.groups) :
    n ∈ b.groups := by
  unfold Body.whole at h
  split at h
  next hone =>
    rw [Body.groups_branch] at h
    exact List.mem_append_right _ h
  next =>
    have hchoice := groups_choice h
    rw [List.map_reverse] at hchoice
    simp only [Body.groups, List.mem_append]
    obtain ⟨e, he, hn⟩ := mem_groupsOf.mp hchoice
    rcases List.mem_cons.mp (List.mem_reverse.mp he) with rfl | he
    · exact .inr ((Body.groups_branch b n).mp hn)
    · exact .inl (mem_groupsOf.mpr ⟨e, he, hn⟩)

/-! ## What an action does to groups -/

/-- An action opens a group, closes the innermost one, or stays where it is and makes up no group.
-/
lemma act_cases {r r' : Reader} {a : Action} (h : r.act a = .ok r') :
    (∃ index : Option Nat, r'.opened = ⟨index, r.flags, r.body⟩ :: r.opened ∧ r'.body = Body.start ∧
      (index = none ∧ r'.groups = r.groups ∨
        index = some (r.groups + 1) ∧ r'.groups = r.groups + 1)) ∨
    (∃ g, r.opened = g :: r'.opened ∧ r'.groups = r.groups ∧
      ∀ n ∈ r'.body.groups, n ∈ g.index ∨ n ∈ r.body.groups ∨ n ∈ g.around.groups) ∨
    (r'.opened = r.opened ∧ r'.groups = r.groups ∧ ∀ n ∈ r'.body.groups, n ∈ r.body.groups) := by
  cases a with
  | capture name =>
    cases name with
    | none =>
      obtain rfl := Except.ok.inj h
      exact .inl ⟨_, rfl, rfl, .inr ⟨rfl, rfl⟩⟩
    | some name =>
      simp only [Reader.act] at h
      split at h
      next => cases h
      next =>
        obtain rfl := Except.ok.inj h
        exact .inl ⟨_, rfl, rfl, .inr ⟨rfl, rfl⟩⟩
  | enclose inside =>
    obtain rfl := Except.ok.inj h
    exact .inl ⟨none, rfl, rfl, .inl ⟨rfl, rfl⟩⟩
  | direct flags =>
    obtain rfl := Except.ok.inj h
    exact .inr (.inr ⟨rfl, rfl, by simp [Expression.groups]⟩)
  | close =>
    simp only [Reader.act, Reader.closing] at h
    split at h
    next => cases h
    next g outer hopened =>
      obtain rfl := Except.ok.inj h
      refine .inr (.inl ⟨g, hopened, rfl, fun n hn => ?_⟩)
      rw [Body.groups_add] at hn
      rcases hn with hn | hn
      · cases hindex : g.index with
        | none =>
          simp only [hindex] at hn
          exact .inr (.inl (Body.groups_whole hn))
        | some index =>
          simp only [hindex, Expression.groups, List.mem_cons] at hn
          rcases hn with rfl | hn
          · exact .inl rfl
          · exact .inr (.inl (Body.groups_whole hn))
      · exact .inr (.inr hn)
  | next =>
    obtain rfl := Except.ok.inj h
    exact .inr (.inr ⟨rfl, rfl, fun n hn => Body.groups_next hn⟩)
  | char set depth =>
    obtain rfl := Except.ok.inj h
    exact .inr (.inr ⟨rfl, rfl, by simp [Reader.add, Expression.groups]⟩)
  | look test =>
    obtain rfl := Except.ok.inj h
    exact .inr (.inr ⟨rfl, rfl, by simp [Reader.add, Expression.groups]⟩)
  | quantify least most lazy =>
    obtain ⟨p, rest, hparts, _, rfl⟩ := quantify_eq_ok.mp h
    refine .inr (.inr ⟨rfl, rfl, fun n hn => ?_⟩)
    simp only [Body.groups, List.map_cons, groupsOf_cons, List.mem_append, hparts] at hn ⊢
    rcases hn with hn | hn | hn
    · exact .inl hn
    · exact .inr (.inl (groups_repeated hn))
    · exact .inr (.inr hn)

/-! ## Inside a group -/

/-- The number is that of a group opened after the group of a number. -/
def Later (number : Nat) (r : Reader) (n : Nat) : Prop := number < n ∧ n ≤ r.groups

/-- The group of a number is open, at the bottom; all groups read since have been opened later. -/
structure Inside (number : Nat) (bottom : OpenGroup) (r : Reader) : Prop where
  le : number ≤ r.groups
  opened : ∃ above, r.opened = above ++ [bottom] ∧ ∀ g ∈ above,
    (∀ n ∈ g.index, Later number r n) ∧ ∀ n ∈ g.around.groups, Later number r n
  body : ∀ n ∈ r.body.groups, Later number r n

/-- The group of a number has been closed. -/
structure Outside (number : Nat) (r : Reader) : Prop where
  le : number ≤ r.groups
  opened : ∀ g ∈ r.opened, g.index ≠ some number

lemma Outside.act {number : Nat} {r r' : Reader} {a : Action} (h : Outside number r)
    (hact : r.act a = .ok r') : Outside number r' := by
  have hle := h.le
  rcases act_cases hact with ⟨index, hopened, _, hindex⟩ | ⟨g, hopened, hgroups, _⟩ |
    ⟨hopened, hgroups, _⟩
  · refine ⟨by omega, ?_⟩
    rw [hopened]
    refine List.forall_mem_cons.mpr ⟨fun hnumber => ?_, h.opened⟩
    rcases hindex with ⟨rfl, _⟩ | ⟨rfl, _⟩
    · cases hnumber
    · have := Option.some.inj hnumber
      omega
  · refine ⟨by omega, fun k hk => h.opened k ?_⟩
    rw [hopened]
    exact List.mem_cons_of_mem g hk
  · refine ⟨by omega, ?_⟩
    rw [hopened]
    exact h.opened

lemma Inside.act {number : Nat} {bottom : OpenGroup} {r r' : Reader} {a : Action}
    (h : Inside number bottom r) (hact : r.act a = .ok r') :
    Inside number bottom r' ∨ Outside number r' := by
  obtain ⟨hle, ⟨above, habove, hlater⟩, hbody⟩ := h
  have hmono (hgroups : r.groups ≤ r'.groups) {n : Nat} (hn : Later number r n) :
      Later number r' n := ⟨hn.1, hn.2.trans hgroups⟩
  have habove' (hgroups : r.groups ≤ r'.groups) : ∀ g ∈ above,
      (∀ n ∈ g.index, Later number r' n) ∧ ∀ n ∈ g.around.groups, Later number r' n := fun g hg =>
    ⟨fun n hn => hmono hgroups ((hlater g hg).1 n hn),
      fun n hn => hmono hgroups ((hlater g hg).2 n hn)⟩
  rcases act_cases hact with ⟨index, hopened, hstart, hindex⟩ | ⟨g, hopened, hgroups, hclosed⟩ |
    ⟨hopened, hgroups, hsame⟩
  · have hgroups : r.groups ≤ r'.groups := by omega
    refine .inl ⟨by omega, ⟨⟨index, r.flags, r.body⟩ :: above, ?_, ?_⟩, ?_⟩
    · rw [hopened, habove]
      rfl
    · refine List.forall_mem_cons.mpr ⟨⟨fun n hn => ?_, fun n hn => hmono hgroups (hbody n hn)⟩,
        habove' hgroups⟩
      rcases hindex with ⟨rfl, _⟩ | ⟨rfl, hnext⟩
      · cases hn
      · obtain rfl := Option.some.inj hn
        exact ⟨by omega, by omega⟩
    · simp [hstart]
  · cases above with
    | nil =>
      -- The group itself is closed.
      obtain ⟨rfl, hnone⟩ := List.cons.inj (hopened.symm.trans habove)
      exact .inr ⟨by omega, by simp [hnone]⟩
    | cons top above =>
      obtain ⟨rfl, hrest⟩ := List.cons.inj (hopened.symm.trans habove)
      obtain ⟨⟨htop, haround⟩, _⟩ := List.forall_mem_cons.mp hlater
      refine .inl ⟨by omega, ⟨above, hrest, (List.forall_mem_cons.mp (habove' hgroups.ge)).2⟩, ?_⟩
      intro n hn
      rcases hclosed n hn with hn | hn | hn
      · exact hmono hgroups.ge (htop n hn)
      · exact hmono hgroups.ge (hbody n hn)
      · exact hmono hgroups.ge (haround n hn)
  · refine .inl ⟨by omega, ⟨above, hopened.trans habove, habove' hgroups.ge⟩, ?_⟩
    exact fun n hn => hmono hgroups.ge (hbody n (hsame n hn))

lemma Reads.inside {number : Nat} {bottom : OpenGroup} {s t : Stage} (h : Reads s t)
    (hs : Inside number bottom s.1) : Inside number bottom t.1 ∨ Outside number t.1 := by
  induction h with
  | refl => exact .inl hs
  | @tail u v _ last ih =>
    obtain ⟨c, tail, _, hstep⟩ := last
    obtain ⟨a, hact, _⟩ := step_act hstep
    rcases ih with hin | hout
    · exact hin.act hact
    · exact .inr (hout.act hact)

/-! ## A group that closes where it should -/

/-- An opening parenthesis that opens the next capturing group puts it at the bottom. -/
lemma inside_of_opening {r first : Reader} {tail behind : List Char} (hflags : r.flags = {})
    (hopened : r.opened = []) (hstep : r.step '(' tail = .ok (first, behind))
    (hgroups : first.groups = r.groups + 1) :
    Inside (r.groups + 1) ⟨some (r.groups + 1), {}, r.body⟩ first := by
  obtain ⟨a, hact, _⟩ := step_act hstep
  rcases act_cases hact with ⟨index, hopen, hstart, hnumber⟩ | ⟨g, hopen, _⟩ | ⟨_, hsame, _⟩
  · obtain rfl : index = some (r.groups + 1) := by
      rcases hnumber with ⟨_, hsame⟩ | ⟨rfl, _⟩
      · omega
      · rfl
    refine ⟨by omega, ⟨[], ?_, by simp⟩, by simp [hstart]⟩
    rw [hopen, hopened, hflags]
    rfl
  · rw [hopened] at hopen
    cases hopen
  · omega

/-- Where the innermost open group has the number of the group that was at the bottom, it is this
group, and no other is open. -/
lemma Reads.innermost {number : Nat} {bottom g : OpenGroup} {outer : List OpenGroup} {s t : Stage}
    (hreads : Reads s t) (hs : Inside number bottom s.1) (hg : t.1.opened = g :: outer)
    (hindex : g.index = some number) : Inside number bottom t.1 ∧ t.1.opened = [bottom] := by
  rcases Reads.inside hreads hs with hin | hout
  · refine ⟨hin, ?_⟩
    obtain ⟨above, habove, hlater⟩ := hin.opened
    cases above with
    | nil => exact habove
    | cons top above =>
      obtain ⟨rfl, _⟩ := List.cons.inj (hg.symm.trans habove)
      have hself := ((hlater g List.mem_cons_self).1 number hindex).1
      omega
  · exact absurd hindex (hout.opened g (hg ▸ List.mem_cons_self))

/-- A group that closes where it should adds one part, and the groups in it have higher numbers. -/
theorem part_of_captures {r : Reader} {inside post : List Char} (hflags : r.flags = {})
    (hopened : r.opened = []) (h : r.Captures inside post) :
    ∃ (r' : Reader) (e : Expression) (depth : Nat), Reads (r, '(' :: inside) (r', post) ∧
      r'.flags = {} ∧ r'.opened = [] ∧ r'.body = r.body.add ⟨group (r.groups + 1) e, depth, false⟩ ∧
      r.groups + 1 ≤ r'.groups ∧ ∀ n ∈ e.groups, Later (r.groups + 1) r' n := by
  obtain ⟨first, last, behind, left, g, outer, hstep, hgroups, hreads, hskip, hg, hindex⟩ := h
  have hfirst := inside_of_opening hflags hopened hstep hgroups
  -- The group that is closed is the one at the bottom, and no other is open.
  obtain ⟨hin, hbottom⟩ : Inside (r.groups + 1) ⟨some (r.groups + 1), {}, r.body⟩ last ∧
      last.opened = [⟨some (r.groups + 1), {}, r.body⟩] :=
    Reads.innermost hreads hfirst hg hindex
  obtain ⟨closed, hclosing, hafter⟩ : ∃ closed, last.closing = .ok closed ∧ closed.flags = {} ∧
      closed.opened = [] ∧
      closed.body = r.body.add ⟨group (r.groups + 1) last.body.whole.expression,
        last.body.whole.depth + 1, false⟩ ∧ closed.groups = last.groups := by
    simp [Reader.closing, hbottom]
  obtain ⟨hflags', hopened', hbody', hgroups'⟩ := hafter
  have hopen : Round (r, '(' :: inside) (first, behind) := by
    refine ⟨'(', inside, ?_, hstep⟩
    rw [hflags]
    rfl
  have hclose : Round (last, left) (closed, post) := by
    refine ⟨')', post, hskip, ?_⟩
    change last.closing.map (·, post) = _
    rw [hclosing]
    rfl
  have hle := hin.le
  refine ⟨closed, _, _, .head hopen (hreads.tail hclose), hflags', hopened', hbody', by omega,
    fun n hn => ?_⟩
  rw [Later, hgroups']
  exact hin.body n (Body.groups_whole hn)

end UriRouting.Expression
