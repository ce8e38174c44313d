import Mathlib.Tactic
import UriRouting.Proofs.Expression.Actions

/-!
# Groups that close where they should

A parenthesis put in front of a text need not open a capturing group, and the group it opens need
not end at the parenthesis put behind the text: what stands between may set flags, close the group,
or keep it open in a class or a comment.  `Reader.Captures` says that both go as intended.

Where no group is open and no flag is set, what was read before makes no difference but to the
numbers of groups, and neither does what follows.  So it depends on the text alone whether it can
stand between two parentheses, which is what `Sealed` says (`sealed_of_captures`,
`captures_of_sealed`).
-/

namespace UriRouting.Expression

/-! ## Readers that do the same -/

/-- The first reader does what the second does, but that it has opened `off` groups fewer and has
given no name that the second has not. -/
structure Alike (off : Nat) (q r : Reader) : Prop where
  flags : q.flags = r.flags
  groups : q.groups + off = r.groups
  names : ∀ name ∈ q.names, name ∈ r.names
  opened : List.Forall₂ (fun g h => g.flags = h.flags ∧ g.index.map (· + off) = h.index)
    q.opened r.opened

/-- Can the last part be repeated? -/
def Body.canRepeat (b : Body) : Bool := b.parts.head?.any fun p => !p.isDirective

/-- A quantifier takes what can be repeated, and changes nothing else. -/
lemma quantify_eq_ok {r r' : Reader} {least : Nat} {most : Option Nat} {lazy : Bool} :
    r.quantify least most lazy = .ok r' ↔ ∃ p rest, r.body.parts = p :: rest ∧
      p.isDirective = false ∧ r' = { r with body := { r.body with parts :=
        ⟨repeated p.expression least most (lazy == r.flags.swapGreed), p.depth + 1, false⟩ ::
          rest } } := by
  unfold Reader.quantify
  cases hparts : r.body.parts with
  | nil => simp
  | cons p rest =>
    constructor
    · intro h
      simp only at h
      split at h
      next => cases h
      next hdirective =>
        exact ⟨p, rest, rfl, by simpa using hdirective, (Except.ok.inj h).symm⟩
    · rintro ⟨_, _, hsame, hdirective, rfl⟩
      obtain ⟨rfl, rfl⟩ := List.cons.inj hsame
      simp [hdirective]

lemma exists_quantify {r : Reader} (h : r.body.canRepeat = true) (least : Nat) (most : Option Nat)
    (lazy : Bool) : ∃ r', r.quantify least most lazy = .ok r' := by
  unfold Body.canRepeat at h
  cases hparts : r.body.parts with
  | nil => simp [hparts] at h
  | cons p rest => exact ⟨_, quantify_eq_ok.mpr ⟨p, rest, hparts, by simpa [hparts] using h, rfl⟩⟩

lemma canRepeat_of_quantify {r r' : Reader} {least : Nat} {most : Option Nat} {lazy : Bool}
    (h : r.quantify least most lazy = .ok r') :
    r.body.canRepeat = true ∧ r'.body.canRepeat = true ∧ r'.flags = r.flags ∧
      r'.groups = r.groups ∧ r'.names = r.names ∧ r'.opened = r.opened := by
  obtain ⟨p, rest, hparts, hdirective, rfl⟩ := quantify_eq_ok.mp h
  simp [Body.canRepeat, hparts, hdirective]

lemma Alike.enter {off : Nat} {q r : Reader} (h : Alike off q r) (flags : Flags)
    {index index' : Option Nat} (hindex : index.map (· + off) = index') :
    Alike off (q.enter index flags) (r.enter index' flags) := by
  refine ⟨rfl, ?_, h.names, .cons ⟨h.flags, hindex⟩ h.opened⟩
  have hgroups := h.groups
  have hcount : index.isSome = index'.isSome := by rw [← hindex, Option.isSome_map]
  simp only [Reader.enter, hcount]
  omega

lemma Alike.capture {off : Nat} {q r r' : Reader} {name : Option (List Char)} (h : Alike off q r)
    (hact : r.act (.capture name) = .ok r') :
    ∃ q', q.act (.capture name) = .ok q' ∧ Alike off q' r' ∧
      q'.body.canRepeat = r'.body.canRepeat := by
  have hnext : (some (q.groups + 1)).map (· + off) = some (r.groups + 1) := by
    have hgroups := h.groups
    simp only [Option.map_some, Option.some.injEq]
    omega
  have halike : Alike off (q.enter (some (q.groups + 1)) q.flags)
      (r.enter (some (r.groups + 1)) r.flags) := by
    rw [h.flags]
    exact h.enter r.flags hnext
  cases name with
  | none =>
    obtain rfl := Except.ok.inj hact
    exact ⟨_, rfl, halike, rfl⟩
  | some name =>
    simp only [Reader.act] at hact
    split at hact
    next => cases hact
    next hfree =>
      obtain rfl := Except.ok.inj hact
      have hfree' : ¬ q.names.contains name = true := by
        simp only [List.contains_iff_mem] at hfree ⊢
        exact fun hmem => hfree (h.names name hmem)
      refine ⟨{ q.enter (some (q.groups + 1)) q.flags with names := name :: q.names },
        if_neg hfree', ⟨halike.flags, halike.groups, ?_, halike.opened⟩, rfl⟩
      intro other hother
      rcases List.mem_cons.mp hother with rfl | hother
      · exact List.mem_cons_self
      · exact List.mem_cons_of_mem _ (h.names other hother)

/-- What the second of two readers that are `Alike` does, the first does as well. -/
lemma Alike.act {off : Nat} {q r r' : Reader} {a : Action} (h : Alike off q r)
    (hact : r.act a = .ok r') (hrepeat : a.isQuantifier = true → q.body.canRepeat = true) :
    ∃ q', q.act a = .ok q' ∧ Alike off q' r' ∧ q'.body.canRepeat = r'.body.canRepeat := by
  cases a with
  | capture name => exact h.capture hact
  | enclose inside =>
    obtain rfl := Except.ok.inj hact
    exact ⟨_, rfl, h.enter inside rfl, rfl⟩
  | direct flags =>
    obtain rfl := Except.ok.inj hact
    exact ⟨_, rfl, ⟨rfl, h.groups, h.names, h.opened⟩, rfl⟩
  | close =>
    simp only [Reader.act, Reader.closing] at hact ⊢
    have hopened := h.opened
    cases hr : r.opened with
    | nil => simp [hr] at hact
    | cons g outer =>
      rw [hr] at hopened hact
      obtain ⟨g', outer', ⟨hflags, _⟩, houter, hq⟩ := List.forall₂_cons_right_iff.mp hopened
      obtain rfl := Except.ok.inj hact
      rw [hq]
      exact ⟨_, rfl, ⟨hflags, h.groups, h.names, houter⟩, rfl⟩
  | next =>
    obtain rfl := Except.ok.inj hact
    exact ⟨_, rfl, ⟨h.flags, h.groups, h.names, h.opened⟩, rfl⟩
  | char set depth =>
    obtain rfl := Except.ok.inj hact
    exact ⟨_, rfl, ⟨h.flags, h.groups, h.names, h.opened⟩, rfl⟩
  | look test =>
    obtain rfl := Except.ok.inj hact
    exact ⟨_, rfl, ⟨h.flags, h.groups, h.names, h.opened⟩, rfl⟩
  | quantify least most lazy =>
    obtain ⟨q', hq⟩ := exists_quantify (hrepeat rfl) least most lazy
    obtain ⟨_, hcan, hflags, hgroups, hnames, hopened⟩ := canRepeat_of_quantify hq
    obtain ⟨_, hcan', hflags', hgroups', hnames', hopened'⟩ := canRepeat_of_quantify hact
    refine ⟨q', hq, ⟨?_, ?_, ?_, ?_⟩, hcan.trans hcan'.symm⟩
    · rw [hflags, hflags', h.flags]
    · rw [hgroups, hgroups', h.groups]
    · rw [hnames, hnames']
      exact h.names
    · rw [hopened, hopened']
      exact h.opened

/-! ## Readings that do the same -/

section Alike

variable {off : Nat} {q r : Reader} {text : List Char} (h : Alike off q r)
  (hrepeat : q.body.canRepeat = r.body.canRepeat)
include h hrepeat

lemma Alike.round {t : Stage} (hround : Round (r, text) t) :
    ∃ q', Round (q, text) (q', t.2) ∧ Alike off q' t.1 ∧
      q'.body.canRepeat = t.1.body.canRepeat := by
  obtain ⟨c, tail, hskip, hstep⟩ := hround
  obtain ⟨r', rest⟩ := t
  obtain ⟨a, hact, hother, _⟩ := step_act hstep
  have hcan : a.isQuantifier = true → q.body.canRepeat = true := by
    intro hkind
    cases a with
    | quantify least most lazy => exact hrepeat.trans (canRepeat_of_quantify hact).1
    | _ => cases hkind
  obtain ⟨q', hq, halike, hrepeat'⟩ := h.act hact hcan
  refine ⟨q', ⟨c, tail, ?_, hother q q' h.flags hq⟩, halike, hrepeat'⟩
  rw [h.flags]
  exact hskip

/-- The first of two readers that are `Alike` comes wherever the second does. -/
lemma Alike.reads {P : Reader → Prop} (hP : ∀ q r : Reader, Alike off q r → P r → P q) {t : Stage}
    (hreads : ReadsKeeping P (r, text) t) :
    ∃ q', ReadsKeeping P (q, text) (q', t.2) ∧ Alike off q' t.1 ∧
      q'.body.canRepeat = t.1.body.canRepeat := by
  induction hreads with
  | refl => exact ⟨q, .refl, h, hrepeat⟩
  | tail _ last ih =>
    obtain ⟨q', hreads', halike, hcan⟩ := ih
    obtain ⟨hlast, hkeeps⟩ := last
    obtain ⟨q'', hround, halike', hcan'⟩ := halike.round hcan hlast
    exact ⟨q'', hreads'.tail ⟨hround, hP _ _ halike' hkeeps⟩, halike', hcan'⟩

/-- The second of two readers that are `Alike` comes wherever the first does, if it comes to the end
at all. -/
lemma Alike.reads_back {P : Reader → Prop} (hP : ∀ q r : Reader, Alike off q r → P q → P r)
    {t last : Stage} (hlast : Reads (r, text) last) (hend : Finished last)
    (hreads : ReadsKeeping P (q, text) t) :
    ∃ r', ReadsKeeping P (r, text) (r', t.2) ∧ Alike off t.1 r' ∧
      t.1.body.canRepeat = r'.body.canRepeat := by
  induction hreads with
  | refl => exact ⟨r, .refl, h, hrepeat⟩
  | @tail u v _ hround ih =>
    obtain ⟨r', hreads', halike, hcan⟩ := ih
    obtain ⟨hround, hkeeps⟩ := hround
    rcases (Reads.to_end hreads'.reads hlast hend).cases_head with rfl | ⟨⟨next, left⟩, hnext, _⟩
    · rw [Finished, ← halike.flags] at hend
      exact absurd hround (Finished.not_round hend)
    · obtain ⟨q', hround', halike', hcan'⟩ := halike.round hcan hnext
      obtain rfl : v = (q', left) := Round.rightUnique hround hround'
      exact ⟨next, hreads'.tail ⟨hnext, hP _ _ halike' hkeeps⟩, halike', hcan'⟩

end Alike

/-! ## Groups that close where they should -/

/-- The parenthesis before `inside` opens the next capturing group, and the one before `after`
closes it. -/
def Reader.Captures (r : Reader) (inside after : List Char) : Prop :=
  ∃ first last behind left g outer, r.step '(' inside = .ok (first, behind) ∧
    first.groups = r.groups + 1 ∧ Reads (first, behind) (last, left) ∧
    last.flags.skip left = ')' :: after ∧ last.opened = g :: outer ∧ g.index = some (r.groups + 1)

/-- What follows a closing parenthesis makes no difference to the rounds between it and the opening
one. -/
lemma reads_with_after {P : Reader → Prop} {r first last : Reader}
    {sub post behind left : List Char}
    (hstep : r.step '(' (sub ++ ')' :: post) = .ok (first, behind))
    (hreads : ReadsKeeping P (first, behind) (last, left))
    (hskip : last.flags.skip left = ')' :: post) (other : List Char) :
    ∃ behind' left', r.step '(' (sub ++ ')' :: other) = .ok (first, behind') ∧
      ReadsKeeping P (first, behind') (last, left') ∧ last.flags.skip left' = ')' :: other := by
  obtain ⟨kept, hbehind, hagain⟩ := reads_to_letter hreads hskip (by decide)
  obtain rfl : behind = kept ++ ')' :: post := hbehind
  have hopening : r.opening (sub ++ ')' :: post) = .ok (first, kept ++ ')' :: post) := hstep
  obtain ⟨taken, htext, hother⟩ := (steady_opening r first).before hopening
  obtain rfl : sub = taken ++ kept := by
    rw [← List.append_assoc] at htext
    exact List.append_cancel_right htext
  obtain ⟨left', hreads', hskip'⟩ := hagain other
  refine ⟨_, left', ?_, hreads', hskip'⟩
  rw [List.append_assoc]
  exact hother other

lemma Reader.Captures.after {r : Reader} {sub post : List Char}
    (h : r.Captures (sub ++ ')' :: post) post) (other : List Char) :
    r.Captures (sub ++ ')' :: other) other := by
  obtain ⟨first, last, behind, left, g, outer, hstep, hgroups, hreads, hskip, hg⟩ := h
  obtain ⟨behind', left', hstep', hreads', hskip'⟩ :=
    reads_with_after hstep hreads.keeping hskip other
  exact ⟨first, last, behind', left', g, outer, hstep', hgroups, hreads'.reads, hskip', hg⟩

/-- A text that can stand between two parentheses: they are a capturing group. -/
def Sealed (sub : List Char) : Prop := Reader.start.Captures (sub ++ [')']) []

section Fresh

variable {r : Reader} (hflags : r.flags = {}) (hopened : r.opened = [])
include hflags hopened

lemma alike_start : Alike r.groups Reader.start r where
  flags := hflags.symm
  groups := Nat.zero_add r.groups
  names name hname := by cases hname
  opened := by
    rw [hopened]
    exact .nil

lemma open_alike {c : Char} {tail behind : List Char} {first : Reader} (hc : c = '(')
    (hstep : r.step c tail = .ok (first, behind)) :
    ∃ first', Reader.start.step c tail = .ok (first', behind) ∧ Alike r.groups first' first ∧
      first'.body.canRepeat = first.body.canRepeat := by
  have hstart := alike_start hflags hopened
  obtain ⟨a, hact, hother, hkind⟩ := step_act hstep
  obtain ⟨first', hact', halike, hcan⟩ := hstart.act hact fun hquantifier =>
    absurd hc (hkind hquantifier)
  exact ⟨first', hother Reader.start first' hstart.flags hact', halike, hcan⟩

/-- A group that closes where it should in a text does so on its own. -/
lemma sealed_of_captures {sub post : List Char} (h : r.Captures (sub ++ ')' :: post) post) :
    Sealed sub := by
  obtain ⟨first, last, behind, left, g, outer, hstep, hgroups, hreads, hskip, hg, hindex⟩ := h
  obtain ⟨first', hstep', halike, hcan⟩ := open_alike hflags hopened rfl hstep
  obtain ⟨last', hreads', halike', _⟩ := halike.reads hcan (fun _ _ _ h => h) hreads.keeping
  have hopened' := halike'.opened
  rw [hg] at hopened'
  obtain ⟨g', outer', ⟨_, hshift⟩, _, hg'⟩ := List.forall₂_cons_right_iff.mp hopened'
  have hcaptures : Reader.start.Captures (sub ++ ')' :: post) post := by
    refine ⟨first', last', behind, left, g', outer', hstep', ?_, hreads'.reads, ?_, hg', ?_⟩
    · have := halike.groups
      simp only [Reader.start]
      omega
    · rw [halike'.flags]
      exact hskip
    · rw [hindex] at hshift
      obtain ⟨index, hindex', hsum⟩ := Option.map_eq_some_iff.mp hshift
      rw [hindex', show index = Reader.start.groups + 1 by simp only [Reader.start]; omega]
  exact hcaptures.after []

lemma open_alike_back {inside behind : List Char} {first' : Reader}
    (hstep' : Reader.start.step '(' inside = .ok (first', behind)) {end' : Stage}
    (hreads : Reads (r, '(' :: inside) end') (hend : Finished end') :
    ∃ first, r.step '(' inside = .ok (first, behind) ∧ Alike r.groups first' first ∧
      first'.body.canRepeat = first.body.canRepeat ∧ Reads (first, behind) end' := by
  have hskip : r.flags.skip ('(' :: inside) = '(' :: inside := by
    rw [hflags]
    rfl
  rcases hreads.cases_head with rfl | ⟨⟨first, behind''⟩, ⟨c, tail, hc, hstep⟩, hrest⟩
  · rw [Finished, hskip] at hend
    cases hend
  · obtain ⟨rfl, rfl⟩ := List.cons.inj (hskip.symm.trans hc)
    obtain ⟨again, hagain, halike, hcan⟩ := open_alike hflags hopened rfl hstep
    obtain ⟨rfl, rfl⟩ : first' = again ∧ behind = behind'' :=
      Prod.mk.inj (Except.ok.inj (hstep'.symm.trans hagain))
    exact ⟨first, hstep, halike, hcan, hrest⟩

/-- A group that closes where it should on its own does so in a text, if the text can be read. -/
lemma captures_of_sealed {sub post : List Char} (h : Sealed sub) {end' : Stage}
    (hreads : Reads (r, '(' :: (sub ++ ')' :: post)) end') (hend : Finished end') :
    r.Captures (sub ++ ')' :: post) post := by
  obtain ⟨first', last', behind', left, g', outer', hstep', hgroups', hreads', hskip', hg',
    hindex'⟩ := h.after post
  obtain ⟨first, hstep, halike, hcan, hrest⟩ := open_alike_back hflags hopened hstep' hreads hend
  obtain ⟨last, hlast, halike', _⟩ :=
    halike.reads_back hcan (fun _ _ _ h => h) hrest hend hreads'.keeping
  have hopened' := halike'.opened
  rw [hg'] at hopened'
  obtain ⟨g, outer, ⟨_, hshift⟩, _, hg⟩ := List.forall₂_cons_left_iff.mp hopened'
  refine ⟨first, last, behind', left, g, outer, hstep, ?_, hlast.reads, ?_, hg, ?_⟩
  · have := halike.groups
    simp only [Reader.start] at hgroups'
    omega
  · rw [← halike'.flags]
    exact hskip'
  · rw [← hshift, hindex']
    simp only [Reader.start, Option.map_some, Option.some.injEq]
    omega

end Fresh

/-! ## Deciding -/

/-- Is the last character of the text a closing parenthesis to which a reader comes that closes, and
do all readers on the way keep a property?  Each round takes at least one character, so `fuel`
bounds the rounds. -/
def closesWithin (keeps closes : Reader → Bool) : Nat → Reader → List Char → Bool
  | 0, _, _ => false
  | fuel + 1, r, text =>
    match r.flags.skip text with
    | [] => false
    | c :: rest =>
      c == ')' && rest.isEmpty && closes r ||
        match r.step c rest with
        | .ok (r, rest) => keeps r && closesWithin keeps closes fuel r rest
        | .error _ => false

/-- `closesWithin` looks for a reading that keeps the property and stands before the last
parenthesis with a reader that closes. -/
lemma closesWithin_iff {keeps closes : Reader → Bool} {fuel : Nat} {s : Stage}
    (hfuel : s.2.length ≤ fuel) :
    closesWithin keeps closes fuel s.1 s.2 = true ↔ ∃ last left,
      ReadsKeeping (fun r => keeps r = true) s (last, left) ∧ last.flags.skip left = [')'] ∧
        closes last = true := by
  constructor
  · intro h
    induction fuel generalizing s with
    | zero => cases h
    | succ fuel ih =>
      rw [closesWithin] at h
      cases hskip : s.1.flags.skip s.2 with
      | nil => simp [hskip] at h
      | cons c rest =>
        simp only [hskip, Bool.or_eq_true, Bool.and_eq_true, beq_iff_eq, List.isEmpty_iff] at h
        rcases h with ⟨⟨rfl, rfl⟩, hcloses⟩ | h
        · exact ⟨s.1, s.2, .refl, hskip, hcloses⟩
        · cases hstep : s.1.step c rest with
          | error _ => simp [hstep] at h
          | ok next =>
            have hround : Round s next := ⟨c, rest, hskip, hstep⟩
            have hshort := hround.length_lt
            simp only [hstep, Bool.and_eq_true] at h
            obtain ⟨hkeeps, h⟩ := h
            obtain ⟨last, left, hreads, hlast⟩ := ih (by omega) h
            exact ⟨last, left, .head ⟨hround, hkeeps⟩ hreads, hlast⟩
  · rintro ⟨last, left, hreads, hskip, hcloses⟩
    induction hreads using Relation.ReflTransGen.head_induction_on generalizing fuel with
    | refl =>
      cases fuel with
      | zero =>
        have hleft := (steady_skip last.flags).length_le hskip
        simp only [List.length_singleton] at hleft hfuel
        omega
      | succ fuel => simp [closesWithin, hskip, hcloses]
    | @head s next hround _ ih =>
      obtain ⟨hround, hkeeps⟩ := hround
      have hshort := hround.length_lt
      obtain ⟨fuel, rfl⟩ : ∃ n, fuel = n + 1 := ⟨fuel - 1, by omega⟩
      obtain ⟨c, tail, hnext, hstep⟩ := hround
      have hrest : closesWithin keeps closes fuel next.1 next.2 = true := ih (by omega)
      simp only [closesWithin, hnext, hstep, hkeeps, hrest, Bool.and_self, Bool.or_true]

/-- Does a closing parenthesis close group one here? -/
def closesFirst (r : Reader) : Bool := r.opened.head?.any fun g => g.index == some 1

lemma closesFirst_iff {r : Reader} :
    closesFirst r = true ↔ ∃ g outer, r.opened = g :: outer ∧ g.index = some 1 := by
  rw [closesFirst]
  cases r.opened <;> simp

/-- Can the text stand between two parentheses?  They are read with the text. -/
def isSealed (sub : List Char) : Bool :=
  match Reader.start.step '(' (sub ++ [')']) with
  | .ok (first, behind) =>
    first.groups == 1 && closesWithin (fun _ => true) closesFirst behind.length first behind
  | .error _ => false

theorem sealed_iff (sub : List Char) : Sealed sub ↔ isSealed sub = true := by
  unfold isSealed
  have hcloses (s : Stage) : closesWithin (fun _ => true) closesFirst s.2.length s.1 s.2 = true ↔
      ∃ last left, Reads s (last, left) ∧ last.flags.skip left = [')'] ∧
        ∃ g outer, last.opened = g :: outer ∧ g.index = some 1 := by
    simp only [closesWithin_iff le_rfl, closesFirst_iff]
    refine exists_congr fun last => exists_congr fun left => and_congr_left fun _ => ?_
    exact ⟨ReadsKeeping.reads, fun hreads => by simpa using hreads.keeping⟩
  constructor
  · rintro ⟨first, last, behind, left, g, outer, hstep, hgroups, hreads, hskip, hg, hindex⟩
    have hlast := (hcloses (first, behind)).mpr ⟨last, left, hreads, hskip, g, outer, hg, hindex⟩
    have hone : first.groups = 1 := hgroups
    simp only [hstep, hone, BEq.rfl, Bool.true_and]
    exact hlast
  · intro h
    cases hstep : Reader.start.step '(' (sub ++ [')']) with
    | error _ => simp [hstep] at h
    | ok found =>
      obtain ⟨first, behind⟩ := found
      simp only [hstep, Bool.and_eq_true, beq_iff_eq] at h
      obtain ⟨last, left, hreads, hskip, g, outer, hg, hindex⟩ := (hcloses (first, behind)).mp h.2
      exact ⟨first, last, behind, left, g, outer, hstep, h.1, hreads, hskip, hg, hindex⟩

instance : DecidablePred Sealed := fun sub => decidable_of_iff _ (sealed_iff sub).symm

end UriRouting.Expression
