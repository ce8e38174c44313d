import Mathlib.Tactic
import UriRouting.Proofs.Expression.Rounds

/-!
# What a step does

A step of the reading takes some text and acts on what has been read: it opens or closes a group,
sets flags, turns to the next branch, adds a part or repeats the last one.  Which action it is, and
what text it takes, depends on the flags and the text only (`step_act`).  So two readers with the
same flags do the same at the same text, if both can.
-/

namespace UriRouting.Expression

/-- What a step does to what has been read. -/
inductive Action
  /-- Opens a group that captures, with a name if it is given one. -/
  | capture (name : Option (List Char))
  /-- Opens a group that does not capture. -/
  | enclose (inside : Flags)
  | direct (flags : Flags)
  | close
  /-- Turns to the next branch. -/
  | next
  | char (set : CharSet) (depth : Nat)
  | look (test : Look)
  /-- Repeats the last part. -/
  | quantify (least : Nat) (most : Option Nat) (lazy : Bool)

/-- Does the action act on the last part? -/
def Action.isQuantifier : Action → Bool
  | quantify _ _ _ => true
  | _ => false

/-- Acts on what has been read. -/
def Reader.act (r : Reader) : Action → Except ExpressionFault Reader
  | .capture none => .ok (r.enter (some (r.groups + 1)) r.flags)
  | .capture (some name) =>
    if r.names.contains name then .error .takenGroupName
    else .ok { r.enter (some (r.groups + 1)) r.flags with names := name :: r.names }
  | .enclose inside => .ok (r.enter none inside)
  | .direct flags => .ok { r with flags := flags, body := r.body.add ⟨empty, 0, true⟩ }
  | .close => r.closing
  | .next => .ok { r with body := r.body.next }
  | .char set depth => .ok (r.add (.char set) depth)
  | .look test => .ok (r.add (.look test) 0)
  | .quantify least most lazy => r.quantify least most lazy

/-- With the flags the text before `rest` stands for the action, whatever has been read. -/
def StandsFor (flags : Flags) (c : Char) (tail : List Char) (a : Action) (rest : List Char) :
    Prop :=
  ∀ q q' : Reader, q.flags = flags → q.act a = .ok q' → q.step c tail = .ok (q', rest)

/-! ## Groups and flags -/

/-- A name that is not taken is read whatever names are taken. -/
lemma groupName_of_names {names others : List (List Char)} {text name rest : List Char}
    (h : groupName names text = .ok (name, rest)) :
    groupName others text =
      if others.contains name then .error .takenGroupName else .ok (name, rest) := by
  rw [groupName_eq] at h ⊢
  cases hdrop : text.dropWhile (· != '>') with
  | nil => simp [hdrop] at h
  | cons closer left =>
    rw [hdrop] at h
    obtain ⟨hname, rfl⟩ := map_pair_eq_ok h
    obtain hsame := checkedName_ok hname
    simp only [hsame] at hname ⊢
    unfold checkedName at hname ⊢
    cases name with
    | nil => cases hname
    | cons first more =>
      simp only at hname ⊢
      split at hname
      next => cases hname
      next hletters =>
        rw [if_neg hletters]
        split <;> rfl

lemma namedGroup_act {r r' : Reader} {text rest : List Char}
    (h : namedGroup r text = .ok (r', rest)) :
    ∃ name, r.act (.capture (some name)) = .ok r' ∧
      ∀ q q' : Reader, q.act (.capture (some name)) = .ok q' →
        namedGroup q text = .ok (q', rest) := by
  unfold namedGroup at h
  cases hname : groupName r.names text with
  | error _ => simp [hname, Except.map] at h
  | ok read =>
    obtain ⟨name, left⟩ := read
    have hany (names : List (List Char)) : groupName names text =
        if names.contains name then .error .takenGroupName else .ok (name, left) :=
      groupName_of_names hname
    have hfree : r.names.contains name = false := by
      have hown := hany r.names
      rw [hname] at hown
      by_contra htaken
      rw [if_pos (by simpa using htaken)] at hown
      cases hown
    simp only [hname, Except.map, Except.ok.injEq, Prod.mk.injEq] at h
    obtain ⟨rfl, rfl⟩ := h
    refine ⟨name, by simp only [Reader.act, hfree]; rfl, fun q q' hq => ?_⟩
    simp only [Reader.act] at hq
    split at hq
    next => cases hq
    next hfree =>
      obtain rfl := Except.ok.inj hq
      rw [namedGroup, hany q.names, if_neg hfree]
      rfl

lemma flagGroup_act {r r' : Reader} {text rest : List Char}
    (h : flagGroup r text = .ok (r', rest)) :
    ∃ a, r.act a = .ok r' ∧ a.isQuantifier = false ∧
      ∀ q q' : Reader, q.flags = r.flags → q.act a = .ok q' →
        flagGroup q text = .ok (q', rest) := by
  unfold flagGroup at h
  cases hflags : readFlags r.flags [] false text with
  | error _ => simp [hflags] at h
  | ok read =>
    obtain ⟨flags, isEmpty, sign, left⟩ := read
    simp only [hflags] at h
    split at h
    next hsign =>
      obtain ⟨rfl, rfl⟩ := Prod.mk.inj (Except.ok.inj h)
      refine ⟨.enclose flags, rfl, rfl, fun q q' hq hact => ?_⟩
      obtain rfl := Except.ok.inj hact
      simp [flagGroup, hq, hflags, hsign]
    next hsign =>
      split at h
      next => cases h
      next hempty =>
        obtain ⟨rfl, rfl⟩ := Prod.mk.inj (Except.ok.inj h)
        refine ⟨.direct flags, rfl, rfl, fun q q' hq hact => ?_⟩
        obtain rfl := Except.ok.inj hact
        simp [flagGroup, hq, hflags, hsign, hempty]

/-- An opening parenthesis opens a group or sets flags. -/
lemma opening_act {r r' : Reader} {text rest : List Char} (h : r.opening text = .ok (r', rest)) :
    ∃ a, r.act a = .ok r' ∧ a.isQuantifier = false ∧
      ∀ q q' : Reader, q.flags = r.flags → q.act a = .ok q' → q.opening text = .ok (q', rest) := by
  have hnamed {behind : List Char} (hgroup : namedGroup r behind = .ok (r', rest))
      (hopen : ∀ q : Reader, q.flags = r.flags → q.opening text = namedGroup q behind) :
      ∃ a, r.act a = .ok r' ∧ a.isQuantifier = false ∧
        ∀ q q' : Reader, q.flags = r.flags → q.act a = .ok q' →
          q.opening text = .ok (q', rest) := by
    obtain ⟨name, hact, hother⟩ := namedGroup_act hgroup
    exact ⟨_, hact, rfl, fun q q' hq hq' => (hopen q hq).trans (hother q q' hq')⟩
  rcases opening_cases (r.flags.skip text) with hplain | hlook | ⟨behind, hskip⟩ |
    ⟨behind, hskip, hsign⟩ | ⟨behind, hskip, hlook, hangle, hname⟩
  · rw [opening_plain hplain] at h
    obtain ⟨rfl, rfl⟩ := Prod.mk.inj (Except.ok.inj h)
    refine ⟨.capture none, rfl, rfl, fun q q' hq hact => ?_⟩
    obtain rfl := Except.ok.inj hact
    rw [← hq] at hplain ⊢
    exact opening_plain hplain
  · rw [opening_lookAround hlook] at h
    cases h
  · rw [opening_named hskip] at h
    exact hnamed h fun q hq => opening_named (hq ▸ hskip)
  · rw [opening_angle hskip hsign] at h
    exact hnamed h fun q hq => opening_angle (hq ▸ hskip) hsign
  · rw [opening_flags hskip hlook hangle hname] at h
    obtain ⟨a, hact, hkind, hother⟩ := flagGroup_act h
    refine ⟨a, hact, hkind, fun q q' hq hq' => ?_⟩
    rw [opening_flags (hq ▸ hskip) hlook hangle hname]
    exact hother q q' hq hq'

/-! ## Quantifiers -/

lemma sign_act {r r' : Reader} {least : Nat} {most : Option Nat} {text rest : List Char}
    (h : r.sign least most text = .ok (r', rest)) :
    ∃ lazy, r.quantify least most lazy = .ok r' ∧
      ∀ q q' : Reader, q.quantify least most lazy = .ok q' →
        q.sign least most text = .ok (q', rest) := by
  unfold Reader.sign at h
  split at h
  next left =>
    obtain ⟨hquantify, rfl⟩ := map_pair_eq_ok h
    exact ⟨true, hquantify, fun q q' hq => by simp [Reader.sign, hq, Except.map]⟩
  next hplain =>
    obtain ⟨hquantify, rfl⟩ := map_pair_eq_ok h
    refine ⟨false, hquantify, fun q q' hq => ?_⟩
    unfold Reader.sign
    split
    next left => exact absurd rfl (hplain left)
    next => simp [hq, Except.map]

lemma parts_of_quantify {q q' : Reader} {least : Nat} {most : Option Nat} {lazy : Bool}
    (h : q.quantify least most lazy = .ok q') : q.body.parts.isEmpty = false := by
  cases hparts : q.body.parts with
  | nil => simp [Reader.quantify, hparts] at h
  | cons _ _ => rfl

lemma countEnd_act {r r' : Reader} {least : Nat} {most : Option Nat} {text rest : List Char}
    (h : countEnd r least most text = .ok (r', rest)) :
    ∃ lazy, r.quantify least most lazy = .ok r' ∧
      ∀ q q' : Reader, q.flags = r.flags → q.quantify least most lazy = .ok q' →
        countEnd q least most text = .ok (q', rest) := by
  cases text with
  | nil => cases h
  | cons d tail =>
    by_cases hd : d = '\x7d'
    · subst hd
      rw [countEnd_brace] at h
      split at h
      next => cases h
      next hordered =>
        obtain ⟨hquantify, rfl⟩ := map_pair_eq_ok h
        refine ⟨_, hquantify, fun q q' hflags hq => ?_⟩
        rw [countEnd_brace, if_neg hordered, hflags, hq]
        rfl
    · have hsign : (some d != some '\x7d') = true := by simpa using hd
      simp [countEnd, hsign, throw, throwThe, MonadExceptOf.throw, bind, Except.bind] at h

lemma counted_act {r r' : Reader} {c : Char} {tail rest : List Char}
    (h : r.counted (c :: tail) = .ok (r', rest)) :
    ∃ least most lazy, r.quantify least most lazy = .ok r' ∧
      ∀ q q' : Reader, q.flags = r.flags → q.quantify least most lazy = .ok q' →
        q.counted (c :: tail) = .ok (q', rest) := by
  rw [counted_cons] at h
  split at h
  next => cases h
  next =>
    split at h
    next => cases h
    next htail =>
      obtain ⟨first, hfirst, h⟩ := bind_eq_ok h
      obtain ⟨bounds, hbounds, h⟩ := bind_eq_ok h
      obtain ⟨lazy, hquantify, hother⟩ := countEnd_act h
      refine ⟨bounds.1, bounds.2.1, lazy, hquantify, fun q q' hflags hq => ?_⟩
      have hend := hother q q' hflags hq
      rw [counted_cons, parts_of_quantify hq, hflags, if_neg Bool.false_ne_true, if_neg htail]
      simp only [bind, Except.bind, hfirst, hbounds, hend]

/-! ## Single characters -/

lemma ofLetter_eq_ok {flags : Flags} {c : Char} {asByte : Bool} {e : Expression}
    (h : ofLetter flags c asByte = .ok e) : ∃ set, e = .char set := by
  unfold ofLetter at h
  split at h
  · exact ⟨_, (Except.ok.inj h).symm⟩
  · split at h
    · cases h
    · exact ⟨_, (Except.ok.inj h).symm⟩

lemma dot_eq_ok {flags : Flags} {e : Expression} (h : dot flags = .ok e) :
    ∃ set, e = .char set := by
  unfold dot at h
  repeat' split at h
  all_goals first
    | exact ⟨_, (Except.ok.inj h).symm⟩
    | cases h

lemma ofAtom_act {r r' : Reader} {atom : Atom}
    (h : (ofAtom r.flags atom).map (r.add · 0) = .ok r') :
    ∃ a, r.act a = .ok r' ∧ a.isQuantifier = false ∧ ∀ q q' : Reader, q.flags = r.flags →
      q.act a = .ok q' → (ofAtom q.flags atom).map (q.add · 0) = .ok q' := by
  cases hatom : ofAtom r.flags atom with
  | error _ => simp [hatom, Except.map] at h
  | ok e =>
    rw [hatom] at h
    have hadds (q : Reader) (hq : q.flags = r.flags) :
        (ofAtom q.flags atom).map (q.add · 0) = .ok (q.add e 0) := by
      rw [hq, hatom]
      rfl
    cases atom with
    | letter c asByte =>
      obtain ⟨set, rfl⟩ := ofLetter_eq_ok hatom
      exact ⟨.char set 0, h, rfl, fun q q' hq hact => (hadds q hq).trans hact⟩
    | set s =>
      obtain rfl := Except.ok.inj hatom
      exact ⟨.char s 0, h, rfl, fun q q' hq hact => (hadds q hq).trans hact⟩
    | look test =>
      obtain rfl := Except.ok.inj hatom
      exact ⟨.look test, h, rfl, fun q q' hq hact => (hadds q hq).trans hact⟩

/-! ## One step -/

/-- What begins at a sign of one character is added as it is. -/
lemma step_sign_act {r r' : Reader} {c : Char} {tail rest : List Char}
    (h : r.step c tail = .ok (r', rest))
    (hopen : c ≠ '(') (hclass : c ≠ '[') (hone : c ≠ '?') (hmany : c ≠ '*') (hsome : c ≠ '+')
    (hcount : c ≠ '\x7b') (hslash : c ≠ '\\') :
    ∃ a, r.act a = .ok r' ∧ a.isQuantifier = false ∧ StandsFor r.flags c tail a rest := by
  simp only [StandsFor]
  unfold Reader.step at h ⊢
  simp only [hopen, hclass, hone, hmany, hsome, hcount, hslash, if_false] at h ⊢
  by_cases hclose : c = ')'
  · simp only [hclose, if_true] at h ⊢
    obtain ⟨hact, rfl⟩ := map_pair_eq_ok h
    exact ⟨.close, hact, rfl, fun q q' _ hq => by
      simp only [Reader.act] at hq
      rw [hq]
      rfl⟩
  simp only [hclose, if_false] at h ⊢
  by_cases hnext : c = '|'
  · simp only [hnext, if_true] at h ⊢
    obtain ⟨rfl, rfl⟩ := Prod.mk.inj (Except.ok.inj h)
    exact ⟨.next, rfl, rfl, fun q q' _ hq => by
      obtain rfl := Except.ok.inj hq
      rfl⟩
  simp only [hnext, if_false] at h ⊢
  -- The dot and letters are sets of characters, if they are anything with the flags.
  have hset (read : Flags → Except ExpressionFault Expression)
      (hread : ∀ e, read r.flags = .ok e → ∃ set, e = .char set)
      (h : (do return (r.add (← read r.flags) 0, tail)) = Except.ok (r', rest)) :
      ∃ a, r.act a = .ok r' ∧ a.isQuantifier = false ∧ ∀ q q' : Reader, q.flags = r.flags →
        q.act a = .ok q' → (do return (q.add (← read q.flags) 0, tail)) = Except.ok (q', rest) := by
    obtain ⟨e, he, h⟩ := bind_eq_ok h
    obtain ⟨set, rfl⟩ := hread e he
    obtain ⟨rfl, rfl⟩ := Prod.mk.inj (Except.ok.inj h)
    refine ⟨.char set 0, rfl, rfl, fun q q' hq hact => ?_⟩
    obtain rfl := Except.ok.inj hact
    simp [hq, he, bind, Except.bind, pure, Except.pure]
  by_cases hdot : c = '.'
  · simp only [hdot, if_true] at h ⊢
    exact hset dot (fun e => dot_eq_ok) h
  simp only [hdot, if_false] at h ⊢
  by_cases hstart : c = '^'
  · simp only [hstart, if_true] at h ⊢
    obtain ⟨rfl, rfl⟩ := Prod.mk.inj (Except.ok.inj h)
    refine ⟨.look _, rfl, rfl, fun q q' hq hact => ?_⟩
    obtain rfl := Except.ok.inj hact
    rw [hq]
  simp only [hstart, if_false] at h ⊢
  by_cases hstop : c = '$'
  · simp only [hstop, if_true] at h ⊢
    obtain ⟨rfl, rfl⟩ := Prod.mk.inj (Except.ok.inj h)
    refine ⟨.look _, rfl, rfl, fun q q' hq hact => ?_⟩
    obtain rfl := Except.ok.inj hact
    rw [hq]
  simp only [hstop, if_false] at h ⊢
  exact hset (fun flags => ofLetter flags c false) (fun e => ofLetter_eq_ok) h

/-- A step is an action, which depends on the flags and the text only.  An opening parenthesis does
not act on what stands before it. -/
theorem step_act {r r' : Reader} {c : Char} {tail rest : List Char}
    (h : r.step c tail = .ok (r', rest)) :
    ∃ a, r.act a = .ok r' ∧ StandsFor r.flags c tail a rest ∧
      (a.isQuantifier = true → c ≠ '(') := by
  by_cases hopen : c = '('
  · subst hopen
    obtain ⟨a, hact, hkind, hother⟩ := opening_act (show r.opening tail = .ok (r', rest) from h)
    exact ⟨a, hact, hother, fun hquantifier => by simp [hkind] at hquantifier⟩
  by_cases hclass : c = '['
  · subst hclass
    rw [step_bracket] at h
    cases hbracket : bracket r.flags ('[' :: tail) with
    | error _ => simp [hbracket, Except.map] at h
    | ok found =>
      rw [hbracket] at h
      obtain ⟨rfl, rfl⟩ := Prod.mk.inj (Except.ok.inj h)
      refine ⟨.char found.1.set found.1.depth, rfl, fun q q' hq hact => ?_, fun _ => hopen⟩
      obtain rfl := Except.ok.inj hact
      rw [step_bracket, hq, hbracket]
      rfl
  by_cases hone : c = '?'
  · subst hone
    obtain ⟨lazy, hact, hother⟩ := sign_act (show r.sign 0 (some 1) tail = .ok (r', rest) from h)
    exact ⟨.quantify 0 (some 1) lazy, hact, fun q q' _ => hother q q', fun _ => hopen⟩
  by_cases hmany : c = '*'
  · subst hmany
    obtain ⟨lazy, hact, hother⟩ := sign_act (show r.sign 0 none tail = .ok (r', rest) from h)
    exact ⟨.quantify 0 none lazy, hact, fun q q' _ => hother q q', fun _ => hopen⟩
  by_cases hsome : c = '+'
  · subst hsome
    obtain ⟨lazy, hact, hother⟩ := sign_act (show r.sign 1 none tail = .ok (r', rest) from h)
    exact ⟨.quantify 1 none lazy, hact, fun q q' _ => hother q q', fun _ => hopen⟩
  by_cases hcount : c = '\x7b'
  · subst hcount
    obtain ⟨least, most, lazy, hact, hother⟩ :=
      counted_act (show r.counted ('\x7b' :: tail) = .ok (r', rest) from h)
    exact ⟨.quantify least most lazy, hact, hother, fun _ => hopen⟩
  by_cases hslash : c = '\\'
  · subst hslash
    rw [step_backslash] at h
    obtain ⟨⟨atom, left⟩, hescape, h⟩ := bind_eq_ok h
    obtain ⟨hatom, rfl⟩ := map_pair_eq_ok h
    obtain ⟨a, hact, _, hother⟩ := ofAtom_act hatom
    refine ⟨a, hact, fun q q' hq hq' => ?_, fun _ => hopen⟩
    rw [step_backslash, hq, hescape]
    have hadded := hother q q' hq hq'
    rw [hq] at hadded
    simp only [Except.bind, hadded]
    rfl
  · obtain ⟨a, hact, _, hother⟩ := step_sign_act h hopen hclass hone hmany hsome hcount hslash
    exact ⟨a, hact, hother, fun _ => hopen⟩

end UriRouting.Expression
