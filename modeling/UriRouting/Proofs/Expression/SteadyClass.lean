import Mathlib.Tactic
import UriRouting.Expression.Bracket
import UriRouting.Proofs.Expression.Steady

/-!
# How far the reading of a class looks

A class between brackets ends with a bracket, and what stands behind that bracket has no influence
on the class: it can be replaced by any other text, or by none (`bracket_before`).

Inside the class a reader may look one character further than it reads, and behind a hyphen even
past white space.  The closing bracket, which is there in any case, is as far as it can see.
-/

namespace UriRouting.Expression

/-! ## The start of a bracket -/

lemma leadingHyphens_local {flags : Flags} {fuel : Nat} {b found : OpenBracket}
    {text rest : List Char} (hfuel : text.length ≤ fuel)
    (h : leadingHyphens flags fuel b text = (found, rest)) :
    ∃ taken, text = taken ++ rest ∧ ∀ c more other, rest = c :: more →
      ∀ enough, (taken ++ c :: other).length ≤ enough →
        leadingHyphens flags enough b (taken ++ c :: other) = (found, c :: other) := by
  induction fuel generalizing b text with
  | zero =>
    obtain rfl : text = [] := List.eq_nil_of_length_eq_zero (by omega)
    obtain ⟨rfl, rfl⟩ : b = found ∧ [] = rest := by simpa [leadingHyphens] using h
    exact ⟨[], rfl, by simp⟩
  | succ fuel ih =>
    cases text with
    | nil =>
      obtain ⟨rfl, rfl⟩ : b = found ∧ [] = rest := by simpa [leadingHyphens] using h
      exact ⟨[], rfl, by simp⟩
    | cons d tail =>
      by_cases hd : d = '-'
      · subst hd
        simp only [leadingHyphens, if_true] at h
        have hshort : (advance flags ('-' :: tail)).length ≤ fuel := by
          have := Flags.skip_length flags tail
          simp only [List.length_cons] at hfuel
          simp only [advance, List.drop_succ_cons, List.drop_zero]
          omega
        obtain ⟨second, hsecond, hother⟩ := ih hshort h
        cases rest with
        | nil =>
          exact ⟨'-' :: tail, by simp, by simp⟩
        | cons c more =>
          have hadvance : flags.skip tail = second ++ c :: more := hsecond
          obtain ⟨first, hfirst, hagain⟩ := (steady_skip flags).before hadvance
          refine ⟨'-' :: (first ++ second), by simp [hfirst], ?_⟩
          rintro _ _ other ⟨rfl, rfl⟩ enough henough
          obtain ⟨enough, rfl⟩ : ∃ n, enough = n + 1 := ⟨enough - 1, by simp at henough; omega⟩
          have hskip : advance flags ('-' :: (first ++ second) ++ c :: other) =
              second ++ c :: other := by
            simpa [advance] using hagain other
          rw [List.cons_append, leadingHyphens]
          simp only [if_true]
          rw [← List.cons_append, hskip]
          refine hother c more other rfl enough ?_
          simp only [List.length_append, List.length_cons] at henough ⊢
          omega
      · obtain ⟨rfl, rfl⟩ : b = found ∧ d :: tail = rest := by simpa [leadingHyphens, hd] using h
        refine ⟨[], rfl, ?_⟩
        rintro c more other ⟨rfl, rfl⟩ enough henough
        obtain ⟨enough, rfl⟩ : ∃ n, enough = n + 1 := ⟨enough - 1, by simp at henough; omega⟩
        simp [leadingHyphens, hd]

lemma steady_leadingHyphens (flags : Flags) (b found : OpenBracket) :
    Steady fun text rest => leadingHyphens flags text.length b text = (found, rest) := by
  intro text rest h
  obtain ⟨taken, htext, hother⟩ := leadingHyphens_local (Nat.le_refl _) h
  exact ⟨taken, htext, fun c more other hrest => hother c more other hrest _ (Nat.le_refl _)⟩

lemma steady_openBracket (flags : Flags) (c : Char) (b : OpenBracket) :
    Steady fun tail rest => openBracket flags (c :: tail) = .ok (b, rest) := by
  have hsign (o : Option Char) : Steady fun text rest =>
      (if o == some '^' then advance flags text else text) = rest := by
    split
    · exact steady_advance flags
    · exact (steady_nothing True).of_iff (by simp)
  have hcloser (b' : OpenBracket) (o : Option Char) : Steady fun text rest =>
      (if b'.members.isEmpty && o == some ']' then
        (b'.add ⟨CharSet.singleton ']', 0⟩, advance flags text)
      else (b', text)) = (b, rest) := by
    split
    · exact ((steady_nothing (b'.add ⟨CharSet.singleton ']', 0⟩ = b)).comp
        (steady_advance flags)).of_iff (by simp [and_comm])
    · exact (steady_nothing (b' = b)).of_iff (by simp [and_comm])
  -- A sign of negation, the hyphens, and a closing bracket as a member.
  have hall := (steady_skip flags).comp (Steady.head fun sign => (hsign sign).comp
    (Steady.exists fun b' => (steady_leadingHyphens flags ⟨sign == some '^', none, []⟩ b').comp
      (Steady.head fun closer => hcloser b' closer)))
  have hsplit (text rest : List Char) : openBracket flags text = .ok (b, rest) ↔
      rest ≠ [] ∧ ∃ middle, advance flags text = middle ∧ ∃ middle',
        (if middle.head? == some '^' then advance flags middle else middle) = middle' ∧
        ∃ b' last,
          leadingHyphens flags middle'.length ⟨middle.head? == some '^', none, []⟩ middle' =
          (b', last) ∧ (if b'.members.isEmpty && last.head? == some ']' then
              (b'.add ⟨CharSet.singleton ']', 0⟩, advance flags last)
            else (b', last)) = (b, rest) := by
    simp only [openBracket, exists_eq_left']
    generalize advance flags text = middle
    generalize (if middle.head? == some '^' then advance flags middle else middle) = middle'
    rcases leadingHyphens flags middle'.length ⟨middle.head? == some '^', none, []⟩ middle'
      with ⟨b', last⟩
    simp only [Prod.mk.injEq]
    generalize hclose : (if b'.members.isEmpty && last.head? == some ']' then
      (b'.add ⟨CharSet.singleton ']', 0⟩, advance flags last) else (b', last)) = closed
    obtain ⟨b₁, left⟩ := closed
    constructor
    · intro h
      by_cases hleft : left = []
      · simp [hleft] at h
      · obtain ⟨rfl, rfl⟩ : b₁ = b ∧ left = rest := by simpa [hleft] using h
        exact ⟨hleft, b', last, ⟨rfl, rfl⟩, hclose⟩
    · rintro ⟨hrest, _, _, ⟨rfl, rfl⟩, h⟩
      obtain ⟨rfl, rfl⟩ := Prod.mk.inj (hclose.symm.trans h)
      simp [hrest]
  intro tail rest h
  obtain ⟨hrest, hparts⟩ := (hsplit (c :: tail) rest).mp h
  obtain ⟨taken, htail, hother⟩ := hall _ _ hparts
  refine ⟨taken, htail, ?_⟩
  rintro d more other hmore
  exact (hsplit _ _).mpr ⟨by simp, hother d more other hmore⟩

/-! ## Members -/

/-- No class goes by a name with a closing bracket in it. -/
lemma bracketName?_of_closer {name : List Char} (h : ']' ∈ name) :
    CharSet.bracketName? name = none := by
  have hne {other : String} (ho : (']' ∈ other.toList) = False) : name ≠ other.toList := by
    rintro rfl
    exact ho ▸ h
  unfold CharSet.bracketName?
  repeat rw [if_neg (hne (by decide))]

lemma takeWhile_stop {stop : Char} {name : List Char} (hname : ∀ c ∈ name, (c != stop) = true)
    (rest : List Char) : (name ++ stop :: rest).takeWhile (· != stop) = name ∧
      (name ++ stop :: rest).dropWhile (· != stop) = stop :: rest := by
  rw [List.takeWhile_append_of_pos hname, List.dropWhile_append_of_pos hname]
  simp

/-- A name between colons, with its sign. -/
def colonText (negated : Bool) (name : List Char) : List Char :=
  '[' :: ':' :: ((if negated then ['^'] else []) ++ (name ++ [':', ']']))

/-- A name is read up to the first colon, and its sign in front of it. -/
structure IsColonName (negated : Bool) (name : List Char) : Prop where
  colons : ∀ c ∈ name, (c != ':') = true
  sign : negated = false → ((name ++ [':']).head? == some '^') = false

lemma colonClass?_colonText {negated : Bool} {name : List Char} (h : IsColonName negated name)
    (rest : List Char) : colonClass? (colonText negated name ++ rest) =
      (CharSet.bracketName? name).map (negated, ·, rest) := by
  obtain ⟨htake, hdrop⟩ := takeWhile_stop h.colons (']' :: rest)
  unfold colonClass? colonText
  cases negated with
  | true =>
    simp only [if_true, List.cons_append, List.nil_append, List.append_assoc, List.head?_cons,
      BEq.rfl, List.drop_succ_cons, List.drop_zero, htake, hdrop]
  | false =>
    have hhead : ((name ++ ':' :: ']' :: rest).head? == some '^') = false := by
      have hsame : (name ++ ':' :: ']' :: rest).head? = (name ++ [':']).head? := by
        cases name <;> rfl
      rw [hsame]
      exact h.sign rfl
    simp only [Bool.false_eq_true, if_false, List.nil_append, List.cons_append, List.append_assoc,
      hhead, htake, hdrop]

lemma eq_colonText_of_colonClass? {negated : Bool} {set : CharSet} {text rest : List Char}
    (h : colonClass? text = some (negated, set, rest)) :
    ∃ name, IsColonName negated name ∧ CharSet.bracketName? name = some set ∧
      text = colonText negated name ++ rest := by
  unfold colonClass? at h
  split at h
  next tail =>
    simp only at h
    split at h
    next after hdrop =>
      simp only [Option.map_eq_some_iff, Prod.mk.injEq] at h
      obtain ⟨set', hset, hneg, rfl, rfl⟩ := h
      rw [hneg] at hdrop hset
      set name := ((if negated then tail.drop 1 else tail).takeWhile (· != ':')) with hname
      have hbody : (if negated then tail.drop 1 else tail) = name ++ ':' :: ']' :: after := by
        rw [← hdrop, hname, List.takeWhile_append_dropWhile]
      have htail : tail = (if negated then ['^'] else []) ++ (name ++ ':' :: ']' :: after) := by
        cases negated with
        | false => simpa using hbody
        | true =>
          cases tail with
          | nil => simp at hneg
          | cons c tail =>
            obtain rfl : c = '^' := by simpa using hneg
            simpa using hbody
      refine ⟨name, ⟨fun c hc => List.all_eq_true.mp List.all_takeWhile c hc, ?_⟩, hset, by
        simp [colonText, htail]⟩
      rintro rfl
      rw [htail] at hneg
      cases hn : name with
      | nil => rfl
      | cons e _ => simpa [hn] using hneg
    next => simp at h
  next => simp at h

/-- Whether a bracket begins a named class does not depend on what stands behind the next closing
bracket. -/
lemma colonClass?_before {kept more : List Char} (other : List Char)
    (h : colonClass? (kept ++ ']' :: more) = none) : colonClass? (kept ++ ']' :: other) = none := by
  rw [Option.eq_none_iff_forall_ne_some]
  rintro ⟨negated, set, rest⟩ hsome
  obtain ⟨name, hname, hset, htext⟩ := eq_colonText_of_colonClass? hsome
  -- The name is read up to the first closing bracket, which stands in what is kept.
  have hfirst : ∃ after, kept ++ ']' :: more = colonText negated name ++ after := by
    have hopen : ']' ∉ '[' :: ':' :: ((if negated then ['^'] else []) ++ (name ++ [':'])) := by
      have hcloser : ']' ∉ name := fun hmem => by simp [bracketName?_of_closer hmem] at hset
      cases negated <;> simp [hcloser]
    have hcolon : colonText negated name =
        ('[' :: ':' :: ((if negated then ['^'] else []) ++ (name ++ [':']))) ++ [']'] := by
      simp [colonText]
    rw [hcolon, List.append_assoc] at htext
    rcases List.append_eq_append_iff.mp htext with ⟨extra, hextra, hrest⟩ | ⟨extra, rfl, hrest⟩
    · cases extra with
      | nil => exact ⟨more, by rw [hcolon, hextra]; simp⟩
      | cons c extra =>
        obtain ⟨rfl, _⟩ : ']' = c ∧ other = _ := by simpa using hrest
        exact absurd (by simp [hextra]) hopen
    · cases extra with
      | nil => exact ⟨more, by rw [hcolon]; simp⟩
      | cons c extra =>
        obtain ⟨rfl, _⟩ : ']' = c ∧ rest = _ := by simpa using hrest
        exact ⟨extra ++ ']' :: more, by rw [hcolon]; simp⟩
  obtain ⟨after, hafter⟩ := hfirst
  rw [hafter, colonClass?_colonText hname, hset] at h
  simp at h

/-! ## Looking behind a hyphen -/

lemma peekLayout_append {c : Char} (hblank : isBlank c = false) (hsign : c ≠ '#') (inComment : Bool)
    (kept more other : List Char) :
    Flags.peekLayout inComment (kept ++ c :: other) =
      Flags.peekLayout inComment (kept ++ c :: more) := by
  induction kept generalizing inComment with
  | nil => simp [Flags.peekLayout, hblank, hsign]
  | cons d kept ih => simp only [List.cons_append, Flags.peekLayout, ih]

lemma peek_append {flags : Flags} {c : Char}
    (hc : flags.extended = true → isBlank c = false ∧ c ≠ '#') (d : Char)
    (kept more other : List Char) :
    flags.peek (d :: (kept ++ c :: other)) = flags.peek (d :: (kept ++ c :: more)) := by
  have hhead : (kept ++ c :: other).head? = (kept ++ c :: more).head? := by cases kept <;> rfl
  simp only [Flags.peek, List.drop_succ_cons, List.drop_zero, hhead]
  split
  next hx => rw [peekLayout_append (hc hx).1 (hc hx).2]
  next => rfl

lemma head_dropLayout {inComment : Bool} {text rest : List Char} {c : Char}
    (h : Flags.dropLayout inComment text = c :: rest) : isBlank c = false ∧ c ≠ '#' := by
  induction text generalizing inComment with
  | nil => simp [Flags.dropLayout] at h
  | cons d tail ih =>
    simp only [Flags.dropLayout] at h
    split_ifs at h with hcomment hblank hsign
    · exact ih h
    · exact ih h
    · exact ih h
    · obtain ⟨rfl, rfl⟩ : d = c ∧ tail = rest := by simpa using h
      exact ⟨by simpa using hblank, hsign⟩

lemma head_skip {flags : Flags} {text rest : List Char} {c : Char} (h : flags.skip text = c :: rest)
    (hx : flags.extended = true) : isBlank c = false ∧ c ≠ '#' := by
  simp only [Flags.skip, hx, if_true] at h
  exact head_dropLayout h

/-! ## Members -/

/-- A member is read in the same way, if nothing behind a test names the edge of a word. -/
lemma steady_memberAtom (flags : Flags) (c : Char) (a : Atom) :
    SteadyUnder (fun text => (∃ test, a = .look test) → NamesNoEdge flags text)
      fun tail rest => memberAtom flags (c :: tail) = .ok (a, rest) := by
  intro tail rest h
  by_cases hc : c = '\\'
  · simp only [memberAtom, hc, if_true] at h ⊢
    exact steady_escape flags a _ _ h
  · simp only [memberAtom, hc, if_false, Except.ok.injEq, Prod.mk.injEq] at h ⊢
    obtain ⟨rfl, rfl⟩ := h
    exact ⟨[], rfl, fun d more other _ _ => ⟨rfl, rfl⟩⟩

/-- Members other than tests do not depend on what follows. -/
lemma steady_memberAtom_of_ne (flags : Flags) (c : Char) {a : Atom}
    (ha : ∀ test, a ≠ .look test) :
    Steady fun tail rest => memberAtom flags (c :: tail) = .ok (a, rest) := by
  intro tail rest h
  obtain ⟨taken, htail, hother⟩ := steady_memberAtom flags c a _ _ h
  refine ⟨taken, htail, fun d more other hrest => hother d more other hrest ?_⟩
  rintro ⟨test, htest⟩
  exact absurd htest (ha test)

/-- Does the text behind a member make it the start of a range? -/
def startsRange (flags : Flags) (text : List Char) : Bool :=
  text.head? == some '-' && flags.peek text != some ']' && flags.peek text != some '-'

/-- The set of a single member. -/
def singleMember (flags : Flags) : Atom → Except ExpressionFault CharSet
  | .letter c asByte => (memberLetter flags c asByte).map CharSet.singleton
  | .set s => .ok s
  | .look _ => .error .badClassMember

/-- The set of a range. -/
def rangeMember (flags : Flags) : Atom → Atom → Except ExpressionFault CharSet
  | .letter low lowByte, .letter high highByte =>
    if high < low then .error .reversedRange
    else match memberLetter flags low lowByte, memberLetter flags high highByte with
      | .ok low, .ok high => .ok (CharSet.ofRange low.toNat high.toNat)
      | .error fault, _ => .error fault
      | _, .error fault => .error fault
  | _, _ => .error .badRangeEnd

/-- A member is one or two atoms, and the set that they stand for. -/
lemma member_eq (flags : Flags) (text : List Char) :
    member flags text =
      match memberAtom flags text with
      | .error fault => .error fault
      | .ok (first, rest) =>
        if (flags.skip rest).isEmpty then .error .unclosedClass
        else if !startsRange flags (flags.skip rest) then
          (singleMember flags first).map (·, flags.skip rest)
        else if (advance flags (flags.skip rest)).isEmpty then .error .unclosedClass
        else match memberAtom flags (advance flags (flags.skip rest)) with
          | .error fault => .error fault
          | .ok (last, rest) => (rangeMember flags first last).map (·, rest) := by
  unfold member
  cases memberAtom flags text with
  | error _ => rfl
  | ok read =>
    obtain ⟨first, rest⟩ := read
    simp only [bind, Except.bind, pure, Except.pure, throw, throwThe, MonadExceptOf.throw]
    by_cases hempty : (flags.skip rest).isEmpty = true
    · simp [hempty]
    · simp only [hempty, Bool.false_eq_true, if_false]
      cases hrange : startsRange flags (flags.skip rest) with
      | false =>
        unfold startsRange at hrange
        simp only [hrange]
        cases first with
        | letter c asByte =>
          cases h : memberLetter flags c asByte <;> simp [singleMember, h, Except.map]
        | set s => simp [singleMember, Except.map]
        | look test => simp [singleMember, Except.map]
      | true =>
        unfold startsRange at hrange
        simp only [hrange]
        by_cases hlast : (advance flags (flags.skip rest)).isEmpty = true
        · simp [hlast]
        · simp only [hlast, Bool.false_eq_true, if_false, Bool.not_true]
          cases memberAtom flags (advance flags (flags.skip rest)) with
          | error _ => rfl
          | ok read =>
            obtain ⟨last, rest⟩ := read
            cases first with
            | letter low lowByte =>
              cases last with
              | letter high highByte =>
                by_cases hlow : high < low
                · simp [rangeMember, hlow, Except.map]
                · simp only [rangeMember, hlow, if_false]
                  cases memberLetter flags low lowByte with
                  | error _ => rfl
                  | ok low => cases memberLetter flags high highByte <;> rfl
              | _ => rfl
            | _ => rfl

lemma singleMember_ne_look {flags : Flags} {a : Atom} {set : CharSet}
    (h : singleMember flags a = .ok set) (test : Look) : a ≠ .look test := by
  rintro rfl
  simp [singleMember] at h

lemma rangeMember_ne_look {flags : Flags} {a b : Atom} {set : CharSet}
    (h : rangeMember flags a b = .ok set) (test : Look) : a ≠ .look test ∧ b ≠ .look test := by
  constructor
  · rintro rfl
    simp [rangeMember] at h
  · rintro rfl
    cases a <;> simp [rangeMember] at h

/-- A hyphen makes a range, or makes none, because of what is looked at behind it, and that is at
most the start of the next atom. -/
lemma startsRange_append {flags : Flags} {passed kept more : List Char} {c : Char}
    (h : flags.skip (passed ++ (kept ++ c :: more)) = kept ++ c :: more) (other : List Char) :
    startsRange flags ('-' :: (passed ++ (kept ++ c :: other))) =
      startsRange flags ('-' :: (passed ++ (kept ++ c :: more))) := by
  have hpeek : flags.peek ('-' :: (passed ++ (kept ++ c :: other))) =
      flags.peek ('-' :: (passed ++ (kept ++ c :: more))) := by
    cases kept with
    | nil => exact peek_append (head_skip h) '-' passed more other
    | cons d kept =>
      exact peek_append (head_skip h) '-' passed (kept ++ c :: more) (kept ++ c :: other)
  simp only [startsRange, hpeek, List.head?_cons]

lemma exists_of_startsRange {flags : Flags} {text : List Char} (h : startsRange flags text = true) :
    ∃ behind, text = '-' :: behind := by
  cases text with
  | nil => simp [startsRange] at h
  | cons d behind =>
    simp only [startsRange, List.head?_cons, Bool.and_eq_true, beq_iff_eq, Option.some.injEq] at h
    exact ⟨behind, by rw [h.1.1]⟩

/-- The text is read as a member, and so it is before any text that starts as the rest does, as far
as a hyphen that follows is looked behind with the same result. -/
def SteadyMember (flags : Flags) (c : Char) (tail rest : List Char) (set : CharSet) : Prop :=
  ∃ taken, tail = taken ++ rest ∧ ∀ d more other, rest = d :: more →
    (d = '-' → flags.peek (d :: other) = flags.peek (d :: more)) →
      member flags (c :: (taken ++ d :: other)) = .ok (set, d :: other)

section Member

variable {flags : Flags} {set : CharSet} {first : Atom} {c : Char} {tail after : List Char}
  (hfirst : memberAtom flags (c :: tail) = .ok (first, after))
include hfirst

lemma steadyMember_single (hsingle : (!startsRange flags (flags.skip after)) = true)
    (hset : singleMember flags first = .ok set) :
    SteadyMember flags c tail (flags.skip after) set := by
  have hread := (steady_memberAtom_of_ne flags c (singleMember_ne_look hset)).comp
    (steady_skip flags)
  obtain ⟨taken, htail, hother⟩ := hread _ _ ⟨after, hfirst, rfl⟩
  refine ⟨taken, htail, ?_⟩
  intro d more other hrest hpeek
  obtain ⟨after', hfirst', hskip'⟩ := hother d more other hrest
  have hsingle' : (!startsRange flags (d :: other)) = true := by
    rw [← hsingle, hrest]
    by_cases hd : d = '-'
    · simp only [startsRange, List.head?_cons, hpeek hd]
    · have hsign : (some d == some '-') = false := by simpa using hd
      simp only [startsRange, List.head?_cons, hsign, Bool.false_and]
  simp [member_eq, hfirst', hskip', hsingle', hset, Except.map]

lemma steadyMember_range {last : Atom} {rest : List Char}
    (hrange : startsRange flags (flags.skip after) = true)
    (hadvance : ¬ (advance flags (flags.skip after)).isEmpty = true)
    (hlast : memberAtom flags (advance flags (flags.skip after)) = .ok (last, rest))
    (hset : rangeMember flags first last = .ok set) : SteadyMember flags c tail rest set := by
  have hfirst_ne := fun test => (rangeMember_ne_look hset test).1
  have hlast_ne := fun test => (rangeMember_ne_look hset test).2
  obtain ⟨behind, hbehind⟩ := exists_of_startsRange hrange
  rw [hbehind, advance_cons] at hadvance hlast
  obtain ⟨e, atom, hatom⟩ := List.exists_cons_of_ne_nil (by simpa using hadvance)
  rw [hatom] at hlast
  obtain ⟨kept, rfl, hother₂⟩ := steady_memberAtom_of_ne flags e hlast_ne _ _ hlast
  cases rest with
  | nil => exact ⟨tail, by simp, by simp⟩
  | cons d more =>
    rw [← List.cons_append] at hatom
    obtain ⟨passed, rfl, hpassed⟩ := (steady_skip flags).before hatom
    -- The first atom with the hyphen, what is passed over behind it, and the last atom.
    have hstart : flags.skip after = ('-' :: (passed ++ e :: kept)) ++ d :: more := by
      simp [hbehind]
    have hread := (steady_memberAtom_of_ne flags c hfirst_ne).comp (steady_skip flags)
    obtain ⟨taken, htail, hother⟩ := hread.before ⟨after, hfirst, hstart⟩
    refine ⟨taken ++ '-' :: (passed ++ e :: kept), by simp [htail], ?_⟩
    rintro _ _ other ⟨rfl, rfl⟩ -
    obtain ⟨after', hfirst', hskip'⟩ := hother other
    have hlast' : memberAtom flags (e :: (kept ++ d :: other)) = .ok (last, d :: other) :=
      hother₂ d more other rfl
    have hrange' := (startsRange_append hatom other).trans (by simpa [hbehind] using hrange)
    have hpassed' := hpassed other
    simp only [List.cons_append, List.append_assoc] at hfirst' hskip' hrange' hpassed' ⊢
    rw [member_eq, hfirst']
    simp only [hskip', hrange', advance_cons, hpassed', hlast', hset]
    simp [Except.map]

end Member

/-- A member does not depend on what follows, as far as a hyphen that follows is looked behind with
the same result. -/
lemma steady_member {flags : Flags} {set : CharSet} {c : Char} {tail rest : List Char}
    (h : member flags (c :: tail) = .ok (set, rest)) : SteadyMember flags c tail rest set := by
  rw [member_eq] at h
  split at h
  next => simp at h
  next first after hfirst =>
    split at h
    next => simp at h
    next =>
      split at h
      next hsingle =>
        obtain ⟨hset, rfl⟩ := map_pair_eq_ok h
        exact steadyMember_single hfirst hsingle hset
      next hrange =>
        split at h
        next => simp at h
        next hadvance =>
          split at h
          next => simp at h
          next last left hlast =>
            obtain ⟨hset, rfl⟩ := map_pair_eq_ok h
            exact steadyMember_range hfirst (by simpa using hrange) hadvance hlast hset

/-! ## The whole class -/

/-- One round inside a bracket, by the character that it begins with. -/
lemma bracketWithin_cons {flags : Flags} {text tail : List Char} {c : Char}
    (h : flags.skip text = c :: tail) (fuel : Nat) (b : OpenBracket) (outer : List OpenBracket) :
    bracketWithin flags (fuel + 1) b outer text =
      if c = '[' then
        match colonClass? (c :: tail) with
        | some (negated, set, rest) => do
          let set ← signedSet flags negated (foldedSet flags set)
          bracketWithin flags fuel (b.add ⟨set, 0⟩) outer rest
        | none => do
          let (inner, rest) ← openBracket flags (c :: tail)
          bracketWithin flags fuel inner (b :: outer) rest
      else if c = ']' then do
        let closed ← b.close flags
        match outer with
        | [] => return (closed, tail)
        | next :: outer => bracketWithin flags fuel (next.add closed) outer tail
      else
        match setOperator? (c :: tail) with
        | some op => bracketWithin flags fuel (b.operate flags op) outer ((c :: tail).drop 2)
        | none => (do
          let (set, rest) ← member flags (c :: tail)
          bracketWithin flags fuel (b.add ⟨set, 0⟩) outer rest) := by
  rw [bracketWithin, h]
  split
  next heq => simp at heq
  next heq =>
    obtain ⟨rfl, rfl⟩ := List.cons.inj heq
    cases colonClass? ('[' :: _) <;> rfl
  next heq =>
    obtain ⟨rfl, rfl⟩ := List.cons.inj heq
    cases outer <;> rfl
  next hopen hclose =>
    have hc : c ≠ '[' := fun hc => hopen tail (by rw [hc])
    have hc' : c ≠ ']' := fun hc => hclose tail (by rw [hc])
    cases setOperator? (c :: tail) <;> simp only [hc, hc', if_false]

/-- The first two characters decide whether there is an operator. -/
lemma setOperator?_append {more : List Char} {c : Char} (kept : List Char) (d : Char)
    (other : List Char) :
    setOperator? (d :: (kept ++ c :: other)) = setOperator? (d :: (kept ++ c :: more)) := by
  have hsecond : ∃ e left left', kept ++ c :: other = e :: left ∧
      kept ++ c :: more = e :: left' := by
    cases kept with
    | nil => exact ⟨c, other, more, rfl, rfl⟩
    | cons e kept => exact ⟨e, _, _, rfl, rfl⟩
  obtain ⟨e, left, left', h, h'⟩ := hsecond
  rw [h, h']
  unfold setOperator?
  split <;> split <;> simp_all

lemma tail_of_setOperator? {c : Char} {tail : List Char} {op : SetOperator}
    (h : setOperator? (c :: tail) = some op) :
    ∃ d left, tail = d :: left ∧ ∀ other, setOperator? (c :: d :: other) = some op := by
  cases tail with
  | nil => simp [setOperator?] at h
  | cons d left =>
    refine ⟨d, left, rfl, fun other => ?_⟩
    rw [← h]
    exact setOperator?_append [] c other

lemma bind_eq_ok {ε α β : Type} {x : Except ε α} {f : α → Except ε β} {b : β}
    (h : x >>= f = .ok b) : ∃ a, x = .ok a ∧ f a = .ok b := by
  cases x with
  | error _ => simp [bind, Except.bind] at h
  | ok a => exact ⟨a, rfl, h⟩

/-- A round inside a bracket leaves the class open and goes on with `left`, whatever stands behind a
closing bracket in it. -/
def GoesOn (flags : Flags) (b : OpenBracket) (outer : List OpenBracket) (c : Char)
    (tail : List Char) (next : OpenBracket) (around : List OpenBracket) (left : List Char) : Prop :=
  ∀ kept more, left = kept ++ ']' :: more → ∃ taken, tail = taken ++ left ∧
    ∀ other fresh enough, flags.skip fresh = c :: (taken ++ (kept ++ ']' :: other)) →
      bracketWithin flags (enough + 1) b outer fresh =
        bracketWithin flags enough next around (kept ++ ']' :: other)

section GoesOn

variable {flags : Flags} {b : OpenBracket} {outer : List OpenBracket} {c : Char}
  {tail left : List Char}

lemma goesOn_named (hopen : c = '[') {negated : Bool} {set signed : CharSet}
    (hcolon : colonClass? (c :: tail) = some (negated, set, left))
    (hset : signedSet flags negated (foldedSet flags set) = .ok signed) :
    GoesOn flags b outer c tail (b.add ⟨signed, 0⟩) outer left := by
  rintro kept more rfl
  obtain ⟨name, hname, hset₀, htext⟩ := eq_colonText_of_colonClass? hcolon
  refine ⟨(colonText negated name).tail, by simpa [colonText, hopen] using htext, ?_⟩
  intro other fresh enough hfresh
  have hstart : c :: ((colonText negated name).tail ++ (kept ++ ']' :: other)) =
      colonText negated name ++ (kept ++ ']' :: other) := by
    rw [hopen]
    rfl
  rw [bracketWithin_cons hfresh, if_pos hopen, hstart, colonClass?_colonText hname, hset₀]
  simp only [Option.map_some, hset]
  rfl

lemma goesOn_nested (hopen : c = '[') (hcolon : colonClass? (c :: tail) = none)
    {inner : OpenBracket} (hinner : openBracket flags (c :: tail) = .ok (inner, left)) :
    GoesOn flags b outer c tail inner (b :: outer) left := by
  rintro kept more rfl
  obtain ⟨taken, rfl, hother⟩ := (steady_openBracket flags c inner).before hinner
  refine ⟨taken, rfl, fun other fresh enough hfresh => ?_⟩
  have hcolon' : colonClass? (c :: (taken ++ (kept ++ ']' :: other))) = none := by
    have hbefore : colonClass? ((c :: (taken ++ kept)) ++ ']' :: more) = none := by
      simpa using hcolon
    simpa using colonClass?_before other hbefore
  rw [bracketWithin_cons hfresh, if_pos hopen, hcolon', hother]
  rfl

lemma goesOn_close (hclose : c = ']') {closed : Operand} (hclosed : b.close flags = .ok closed)
    (around : OpenBracket) :
    GoesOn flags b (around :: outer) c tail (around.add closed) outer tail := by
  rintro kept more rfl
  refine ⟨[], rfl, fun other fresh enough hfresh => ?_⟩
  subst hclose
  rw [bracketWithin_cons hfresh, if_neg (by decide), if_pos rfl, hclosed]
  rfl

lemma goesOn_operator (hopen : c ≠ '[') (hclose : c ≠ ']') {op : SetOperator}
    (hop : setOperator? (c :: tail) = some op) :
    GoesOn flags b outer c tail (b.operate flags op) outer ((c :: tail).drop 2) := by
  intro kept more hleft
  obtain ⟨d, left, rfl, hop'⟩ := tail_of_setOperator? hop
  obtain rfl : left = kept ++ ']' :: more := hleft
  refine ⟨[d], rfl, fun other fresh enough hfresh => ?_⟩
  rw [bracketWithin_cons hfresh, if_neg hopen, if_neg hclose, List.singleton_append, hop']
  rfl

lemma goesOn_member (hopen : c ≠ '[') (hclose : c ≠ ']') (hop : setOperator? (c :: tail) = none)
    {set : CharSet} (hmember : member flags (c :: tail) = .ok (set, left)) :
    GoesOn flags b outer c tail (b.add ⟨set, 0⟩) outer left := by
  rintro kept more rfl
  obtain ⟨taken, rfl, hother⟩ := steady_member hmember
  refine ⟨taken, rfl, fun other fresh enough hfresh => ?_⟩
  have hop' : setOperator? (c :: (taken ++ (kept ++ ']' :: other))) = none := by
    rw [← hop, ← List.append_assoc, ← List.append_assoc]
    exact setOperator?_append _ c other
  have hmember' : member flags (c :: (taken ++ (kept ++ ']' :: other))) =
      .ok (set, kept ++ ']' :: other) := by
    cases kept with
    | nil => exact hother ']' more other rfl (absurd · (by decide))
    | cons d kept =>
      refine hother d (kept ++ ']' :: more) (kept ++ ']' :: other) rfl fun _ => ?_
      exact peek_append (fun _ => ⟨by decide, by decide⟩) d kept more other
  rw [bracketWithin_cons hfresh, if_neg hopen, if_neg hclose, hop', hmember']
  rfl

lemma bracketWithin_cases {text rest : List Char} {found : Operand} {fuel : Nat}
    (hskip : flags.skip text = c :: tail)
    (h : bracketWithin flags (fuel + 1) b outer text = .ok (found, rest)) :
    c = ']' ∧ outer = [] ∧ tail = rest ∧ b.close flags = .ok found ∨
      ∃ next around left, GoesOn flags b outer c tail next around left ∧
        bracketWithin flags fuel next around left = .ok (found, rest) := by
  rw [bracketWithin_cons hskip] at h
  split_ifs at h with hopen hclose
  · cases hcolon : colonClass? (c :: tail) with
    | some read =>
      obtain ⟨negated, set, left⟩ := read
      simp only [hcolon] at h
      obtain ⟨signed, hset, h⟩ := bind_eq_ok h
      exact .inr ⟨_, _, _, goesOn_named hopen hcolon hset, h⟩
    | none =>
      simp only [hcolon] at h
      obtain ⟨⟨inner, left⟩, hinner, h⟩ := bind_eq_ok h
      exact .inr ⟨_, _, _, goesOn_nested hopen hcolon hinner, h⟩
  · obtain ⟨closed, hclosed, h⟩ := bind_eq_ok h
    cases outer with
    | nil =>
      obtain ⟨rfl, rfl⟩ : closed = found ∧ tail = rest := by simpa [pure, Except.pure] using h
      exact .inl ⟨hclose, rfl, rfl, hclosed⟩
    | cons around outer => exact .inr ⟨_, _, _, goesOn_close hclose hclosed around, h⟩
  · cases hop : setOperator? (c :: tail) with
    | some op =>
      simp only [hop] at h
      exact .inr ⟨_, _, _, goesOn_operator hopen hclose hop, h⟩
    | none =>
      simp only [hop] at h
      obtain ⟨⟨set, left⟩, hmember, h⟩ := bind_eq_ok h
      exact .inr ⟨_, _, _, goesOn_member hopen hclose hop hmember, h⟩

end GoesOn

/-- Inside a class, what stands behind its closing bracket has no influence. -/
theorem bracketWithin_before {flags : Flags} {fuel : Nat} {b : OpenBracket}
    {outer : List OpenBracket} {text rest : List Char} {found : Operand}
    (h : bracketWithin flags fuel b outer text = .ok (found, rest)) :
    ∃ taken, text = taken ++ ']' :: rest ∧ ∀ other enough, (taken ++ ']' :: other).length ≤ enough →
      bracketWithin flags enough b outer (taken ++ ']' :: other) = .ok (found, other) := by
  induction fuel generalizing b outer text with
  | zero => simp [bracketWithin] at h
  | succ fuel ih =>
    cases hskip : flags.skip text with
    | nil => simp [bracketWithin, hskip] at h
    | cons c tail =>
      rcases bracketWithin_cases hskip h with ⟨rfl, rfl, rfl, hclosed⟩ |
        ⟨next, around, left, hround, hread⟩
      · have hstart : flags.skip text = [] ++ ']' :: tail := hskip
        obtain ⟨passed, htext, hpassed⟩ := (steady_skip flags).before hstart
        refine ⟨passed, by simp [htext], fun other enough henough => ?_⟩
        simp only [List.length_append, List.length_cons] at henough
        obtain ⟨enough, rfl⟩ : ∃ n, enough = n + 1 := ⟨enough - 1, by omega⟩
        have hpassed' : flags.skip (passed ++ ']' :: other) = ']' :: other := hpassed other
        rw [bracketWithin_cons hpassed', if_neg (by decide), if_pos rfl, hclosed]
        rfl
      · -- A round that leaves the class open is followed by others, which close it.
        obtain ⟨kept, rfl, hkept⟩ := ih hread
        obtain ⟨taken, rfl, hagain⟩ := hround kept rest rfl
        have hstart : flags.skip text = (c :: (taken ++ kept)) ++ ']' :: rest := by simp [hskip]
        obtain ⟨passed, htext, hpassed⟩ := (steady_skip flags).before hstart
        refine ⟨passed ++ (c :: (taken ++ kept)), by simp [htext], fun other enough henough => ?_⟩
        simp only [List.length_append, List.length_cons] at henough
        obtain ⟨enough, rfl⟩ : ∃ n, enough = n + 1 := ⟨enough - 1, by omega⟩
        rw [hagain other _ enough (by simpa using hpassed other)]
        refine hkept other enough ?_
        simp only [List.length_append, List.length_cons]
        omega

/-- A class is the same whatever stands behind its closing bracket. -/
theorem bracket_before {flags : Flags} {c : Char} {tail rest : List Char} {found : Operand}
    (h : bracket flags (c :: tail) = .ok (found, rest)) :
    ∃ taken, tail = taken ++ rest ∧
      ∀ other, bracket flags (c :: (taken ++ other)) = .ok (found, other) := by
  obtain ⟨⟨b, left⟩, hopen, hwithin⟩ := bind_eq_ok h
  obtain ⟨kept, rfl, hkept⟩ := bracketWithin_before hwithin
  obtain ⟨taken, rfl, htaken⟩ := (steady_openBracket flags c b).before hopen
  refine ⟨taken ++ (kept ++ [']']), by simp, fun other => ?_⟩
  have hopen' := htaken other
  have hwithin' := hkept other (c :: (taken ++ (kept ++ ']' :: other))).length (by simp; omega)
  simp only [List.append_assoc, List.singleton_append, bracket, hopen', bind, Except.bind]
  exact hwithin'

end UriRouting.Expression
