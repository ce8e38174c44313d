import Mathlib.Tactic
import UriRouting.Expression.Reading
import UriRouting.Proofs.Expression.SteadyClass

/-!
# How far one step of the reading looks

A step of `readWithin` takes what begins at one character: a group that is opened or closed, a
quantifier, an escape, a class.  It looks no further than the first character that it leaves
(`steady_step`), with one exception.  Behind a word boundary a brace may begin the name of an edge,
and so the text behind it matters.  It does not if the brace begins a count
(`namesNoEdge_of_counted`).
-/

namespace UriRouting.Expression

/-! ## Quantifiers -/

lemma steady_sign (r r' : Reader) (least : Nat) (most : Option Nat) :
    Steady fun text rest => r.sign least most text = .ok (r', rest) := by
  intro text rest h
  unfold Reader.sign at h
  split at h
  next tail =>
    obtain ⟨hquantify, rfl⟩ := map_pair_eq_ok h
    exact ⟨['?'], rfl, fun c more other _ => by simp [Reader.sign, hquantify, Except.map]⟩
  next hsign =>
    obtain ⟨hquantify, rfl⟩ := map_pair_eq_ok h
    refine ⟨[], rfl, ?_⟩
    rintro c more other rfl
    have hc : c ≠ '?' := fun hc => hsign more (by rw [hc])
    change r.sign least most (c :: other) = _
    unfold Reader.sign
    split
    next heq => exact absurd (List.cons.inj heq).1 hc
    next => simp [hquantify, Except.map]

lemma countDigits_local {flags : Flags} {fuel : Nat} {text digits rest : List Char}
    (hfuel : text.length ≤ fuel) (h : countDigits flags fuel text = (digits, rest)) :
    ∃ taken, text = taken ++ rest ∧ ∀ c more other, rest = c :: more →
      ∀ enough, (taken ++ c :: other).length ≤ enough →
        countDigits flags enough (taken ++ c :: other) = (digits, c :: other) := by
  induction fuel generalizing text digits with
  | zero =>
    obtain rfl : text = [] := List.eq_nil_of_length_eq_zero (by omega)
    obtain ⟨rfl, rfl⟩ : [] = digits ∧ [] = rest := by simpa [countDigits] using h
    exact ⟨[], rfl, by simp⟩
  | succ fuel ih =>
    cases text with
    | nil =>
      obtain ⟨rfl, rfl⟩ : [] = digits ∧ [] = rest := by simpa [countDigits] using h
      exact ⟨[], rfl, by simp⟩
    | cons d tail =>
      by_cases hd : d.isDigit = true
      · simp only [countDigits, hd, if_true, Prod.mk.injEq, advance_cons] at h
        obtain ⟨rfl, hrest⟩ := h
        have hshort : (flags.skip tail).length ≤ fuel := by
          have := Flags.skip_length flags tail
          simp only [List.length_cons] at hfuel
          omega
        obtain ⟨second, hsecond, hother⟩ := ih hshort (Prod.ext rfl hrest)
        cases rest with
        | nil => exact ⟨d :: tail, by simp, by simp⟩
        | cons c more =>
          obtain ⟨first, rfl, hagain⟩ := (steady_skip flags).before hsecond
          refine ⟨d :: (first ++ second), by simp, ?_⟩
          rintro _ _ other ⟨rfl, rfl⟩ enough henough
          simp only [List.cons_append, List.length_cons, List.length_append] at henough
          obtain ⟨enough, rfl⟩ : ∃ n, enough = n + 1 := ⟨enough - 1, by omega⟩
          have hdigits := hother c more other rfl enough (by
            simp only [List.length_append, List.length_cons]
            omega)
          have hskip : flags.skip (first ++ (second ++ c :: other)) = second ++ c :: other :=
            hagain other
          simp [countDigits, hd, hskip, hdigits]
      · obtain ⟨rfl, rfl⟩ : [] = digits ∧ d :: tail = rest := by simpa [countDigits, hd] using h
        refine ⟨[], rfl, ?_⟩
        rintro c more other ⟨rfl, rfl⟩ enough henough
        obtain ⟨enough, rfl⟩ : ∃ n, enough = n + 1 := ⟨enough - 1, by simp at henough; omega⟩
        simp [countDigits, hd]

lemma steady_countDigits (flags : Flags) (digits : List Char) :
    Steady fun text rest => countDigits flags text.length text = (digits, rest) := by
  intro text rest h
  obtain ⟨taken, htext, hother⟩ := countDigits_local (Nat.le_refl _) h
  exact ⟨taken, htext, fun c more other hrest => hother c more other hrest _ (Nat.le_refl _)⟩

lemma countDigits_fuel (flags : Flags) {fuel more : Nat} {text : List Char}
    (hfuel : text.length ≤ fuel) (hmore : text.length ≤ more) :
    countDigits flags fuel text = countDigits flags more text := by
  induction fuel generalizing more text with
  | zero =>
    obtain rfl : text = [] := List.eq_nil_of_length_eq_zero (by omega)
    cases more <;> rfl
  | succ fuel ih =>
    cases text with
    | nil => cases more <;> rfl
    | cons d tail =>
      simp only [List.length_cons] at hfuel hmore
      obtain ⟨more, rfl⟩ : ∃ n, more = n + 1 := ⟨more - 1, by omega⟩
      have hskip := Flags.skip_length flags tail
      have hsame : countDigits flags fuel (flags.skip tail) =
          countDigits flags more (flags.skip tail) := ih (by omega) (by omega)
      simp only [countDigits, advance_cons, hsame]

/-- The value of the digits of a count. -/
def countValue (digits : List Char) : Except ExpressionFault (Option Nat) :=
  if digits.isEmpty then .ok none
  else match decimalNumber? digits with
    | some n => if n ≤ maxCount then .ok (some n) else .error .countTooLarge
    | none => .error .missingCount

lemma count_eq (flags : Flags) (text : List Char) :
    count flags text =
      let start := text.dropWhile isBlank
      let read := countDigits flags start.length start
      (countValue read.1).map (·, flags.skip (read.2.dropWhile isBlank)) := by
  have hfuel : countDigits flags text.length (text.dropWhile isBlank) =
      countDigits flags (text.dropWhile isBlank).length (text.dropWhile isBlank) :=
    countDigits_fuel flags (List.dropWhile_suffix _).length_le (Nat.le_refl _)
  unfold count countValue
  simp only [hfuel]
  split
  · rfl
  · cases decimalNumber? _ with
    | none => rfl
    | some n =>
      simp only
      split <;> rfl

lemma steady_count (flags : Flags) (n : Option Nat) :
    Steady fun text rest => count flags text = .ok (n, rest) := by
  have hread (digits : List Char) := (steady_dropWhile isBlank).comp
    ((steady_countDigits flags digits).comp ((steady_dropWhile isBlank).comp (steady_skip flags)))
  intro text rest h
  simp only [count_eq] at h ⊢
  obtain ⟨hvalue, hrest⟩ := map_pair_eq_ok h
  obtain ⟨taken, htext, hother⟩ := hread _ text rest ⟨_, rfl, _, rfl, _, rfl, hrest⟩
  refine ⟨taken, htext, fun c more other hmore => ?_⟩
  obtain ⟨_, rfl, _, hdigits, _, rfl, hskip⟩ := hother c more other hmore
  simp only [hdigits, hvalue, hskip, Except.map]

/-! ## Counts between braces -/

/-- The bounds of a count, where the first number has been read. -/
def boundsBehind (flags : Flags) (least : Option Nat) (text : List Char) :
    Except ExpressionFault (Nat × Option Nat × List Char) :=
  match text with
  | [] => throw .unclosedCount
  | ',' :: _ =>
    match advance flags text with
    | [] => throw .unclosedCount
    | c :: rest =>
      match least with
      | none => throw .missingCount
      | some least =>
        if c = '\x7d' then return (least, none, c :: rest)
        else do
          match ← count flags (c :: rest) with
          | (some most, rest) => return (least, some most, rest)
          | (none, _) => throw .missingCount
  | _ =>
    match least with
    | none => throw .missingCount
    | some n => return (n, some n, text)

/-- What stands behind the bounds of a count: the closing brace, and perhaps the sign that makes the
repetition lazy. -/
def countEnd (r : Reader) (least : Nat) (most : Option Nat) (text : List Char) :
    Except ExpressionFault (Reader × List Char) := do
  if text.head? != some '\x7d' then throw .unclosedCount
  let rest := advance r.flags text
  let lazy := rest.head? == some '?'
  if (most.map fun m => decide (m < least)).getD false then throw .reversedCount
  let r ← r.quantify least most lazy
  return (r, if lazy then rest.drop 1 else rest)

/-- A count repeats what stands before it, and it is not the end of the text. -/
lemma counted_cons (r : Reader) (c : Char) (tail : List Char) :
    r.counted (c :: tail) =
      if r.body.parts.isEmpty then .error .nothingToRepeat
      else if (r.flags.skip tail).isEmpty then .error .unclosedCount
      else (do
        let first ← count r.flags (r.flags.skip tail)
        let bounds ← boundsBehind r.flags first.1 first.2
        countEnd r bounds.1 bounds.2.1 bounds.2.2) := by
  unfold Reader.counted
  split
  · rfl
  · change (if (r.flags.skip tail).isEmpty then _ else _) = _
    split <;> rfl

lemma boundsBehind_of_ne (flags : Flags) (first : Nat) {d : Char} (hd : d ≠ ',')
    (tail : List Char) :
    boundsBehind flags (some first) (d :: tail) = .ok (first, some first, d :: tail) := by
  unfold boundsBehind
  split
  next heq => simp at heq
  next heq => exact absurd (List.cons.inj heq).1 hd
  next => rfl

lemma boundsBehind_comma (flags : Flags) (first : Nat) (tail : List Char) :
    boundsBehind flags (some first) (',' :: tail) =
      match flags.skip tail with
      | [] => .error .unclosedCount
      | c :: rest =>
        if c = '\x7d' then .ok (first, none, c :: rest)
        else match count flags (c :: rest) with
          | .error fault => .error fault
          | .ok (some most, rest) => .ok (first, some most, rest)
          | .ok (none, _) => .error .missingCount := by
  simp only [boundsBehind, advance_cons]
  cases flags.skip tail with
  | nil => rfl
  | cons c rest =>
    by_cases hc : c = '\x7d'
    · simp [hc, pure, Except.pure]
    · simp only [hc, if_false]
      cases count flags (c :: rest) with
      | error _ => rfl
      | ok read => rcases read with ⟨_ | _, _⟩ <;> rfl

lemma boundsBehind_none (flags : Flags) (text : List Char) (found : Nat × Option Nat × List Char) :
    boundsBehind flags none text ≠ .ok found := by
  intro h
  unfold boundsBehind at h
  repeat' split at h
  all_goals contradiction

lemma steady_boundsBehind (flags : Flags) (first : Option Nat) (least : Nat) (most : Option Nat) :
    Steady fun text rest => boundsBehind flags first text = .ok (least, most, rest) := by
  intro text rest h
  cases first with
  | none => exact absurd h (boundsBehind_none flags text _)
  | some first =>
    cases text with
    | nil => simp [boundsBehind, throw, throwThe, MonadExceptOf.throw] at h
    | cons d tail =>
      by_cases hd : d = ','
      · subst hd
        rw [boundsBehind_comma] at h
        split at h
        next => simp at h
        next c left hskip =>
          split at h
          next hc =>
            obtain ⟨rfl, rfl, rfl⟩ : first = least ∧ none = most ∧ c :: left = rest := by
              simpa using h
            obtain ⟨taken, rfl, hother⟩ := steady_skip flags _ _ hskip
            refine ⟨',' :: taken, rfl, ?_⟩
            rintro _ _ other ⟨rfl, rfl⟩
            have hskip' : flags.skip (taken ++ c :: other) = c :: other := hother c left other rfl
            rw [List.cons_append, boundsBehind_comma, hskip']
            simp [hc]
          next hc =>
            split at h
            next => simp at h
            next second after hcount =>
              obtain ⟨rfl, rfl, rfl⟩ : first = least ∧ some second = most ∧ after = rest := by
                simpa using h
              obtain ⟨kept, hkept, hcount'⟩ := steady_count flags (some second) _ _ hcount
              cases after with
              | nil => exact ⟨',' :: tail, by simp, by simp⟩
              | cons e more =>
                rw [hkept] at hskip
                obtain ⟨taken, rfl, hother⟩ := (steady_skip flags).before hskip
                refine ⟨',' :: (taken ++ kept), by simp, ?_⟩
                rintro _ _ other ⟨rfl, rfl⟩
                have hcount'' : count flags (kept ++ e :: other) = .ok (some second, e :: other) :=
                  hcount' e more other rfl
                obtain ⟨fresh, hfresh⟩ := cons_of_append other hkept
                have hskip' : flags.skip (taken ++ (kept ++ e :: other)) = c :: fresh := by
                  rw [← hfresh]
                  exact hother other
                rw [hfresh] at hcount''
                rw [List.cons_append, List.append_assoc, boundsBehind_comma, hskip']
                simp only [hc, if_false, hcount'']
            next => simp at h
      · rw [boundsBehind_of_ne flags first hd] at h
        obtain ⟨rfl, rfl, rfl⟩ : first = least ∧ some first = most ∧ d :: tail = rest := by
          simpa using h
        refine ⟨[], rfl, ?_⟩
        rintro c more other ⟨rfl, rfl⟩
        exact boundsBehind_of_ne flags first hd other

lemma countEnd_brace (r : Reader) (least : Nat) (most : Option Nat) (tail : List Char) :
    countEnd r least most ('\x7d' :: tail) =
      if (most.map fun m => decide (m < least)).getD false then .error .reversedCount
      else (r.quantify least most ((r.flags.skip tail).head? == some '?')).map
        (·, if (r.flags.skip tail).head? == some '?' then (r.flags.skip tail).drop 1
          else r.flags.skip tail) := by
  unfold countEnd
  simp only [List.head?_cons, bne_self_eq_false, Bool.false_eq_true, if_false, advance_cons]
  split
  · rfl
  · cases r.quantify least most ((r.flags.skip tail).head? == some '?') <;> rfl

lemma steady_countEnd (r r' : Reader) (least : Nat) (most : Option Nat) :
    Steady fun text rest => countEnd r least most text = .ok (r', rest) := by
  -- The sign behind the brace is taken if it makes the repetition lazy.
  have hlazy (o : Option Char) : Steady fun text rest =>
      r.quantify least most (o == some '?') = .ok r' ∧
        (if o == some '?' then text.drop 1 else text) = rest := by
    by_cases ho : (o == some '?') = true
    · simp only [ho, if_true]
      exact ((steady_nothing _).comp (steady_advance {})).of_iff
        fun text rest => ⟨fun ⟨hr, h⟩ => ⟨text, ⟨rfl, hr⟩, h⟩, fun ⟨_, ⟨rfl, hr⟩, h⟩ => ⟨hr, h⟩⟩
    · simp only [ho, Bool.false_eq_true, if_false]
      exact (steady_nothing _).of_iff fun text rest => And.comm
  intro text rest h
  cases text with
  | nil => cases h
  | cons d tail =>
    by_cases hd : d = '\x7d'
    · subst hd
      rw [countEnd_brace] at h
      split at h
      next => simp at h
      next hordered =>
        obtain ⟨hquantify, hrest⟩ := map_pair_eq_ok h
        obtain ⟨taken, rfl, hother⟩ := ((steady_skip r.flags).comp (Steady.head hlazy)) tail rest
          ⟨_, rfl, hquantify, hrest⟩
        refine ⟨'\x7d' :: taken, rfl, fun c more other hmore => ?_⟩
        obtain ⟨_, rfl, hquantify', hrest'⟩ := hother c more other hmore
        rw [List.cons_append, countEnd_brace, if_neg hordered, hquantify', hrest']
        rfl
    · have hsign : (some d != some '\x7d') = true := by simpa using hd
      simp [countEnd, hsign, throw, throwThe, MonadExceptOf.throw, bind, Except.bind] at h

lemma steady_counted (r r' : Reader) (c : Char) :
    Steady fun tail rest => r.counted (c :: tail) = .ok (r', rest) := by
  have hall := (steady_skip r.flags).comp (Steady.exists fun first =>
    (steady_count r.flags first).comp (Steady.exists fun least => Steady.exists fun most =>
      (steady_boundsBehind r.flags first least most).comp (steady_countEnd r r' least most)))
  intro tail rest h
  simp only [counted_cons] at h ⊢
  by_cases hparts : r.body.parts.isEmpty = true
  · rw [if_pos hparts] at h
    cases h
  by_cases hempty : (r.flags.skip tail).isEmpty = true
  · rw [if_neg hparts, if_pos hempty] at h
    cases h
  rw [if_neg hparts, if_neg hempty] at h
  obtain ⟨⟨first, left⟩, hcount, h⟩ := bind_eq_ok h
  obtain ⟨⟨least, most, last⟩, hbounds, hend⟩ := bind_eq_ok h
  obtain ⟨taken, rfl, hother⟩ := hall tail rest
    ⟨_, rfl, first, left, hcount, least, most, last, hbounds, hend⟩
  refine ⟨taken, rfl, fun d more other hmore => ?_⟩
  obtain ⟨_, rfl, first', left', hcount', least', most', last', hbounds', hend'⟩ :=
    hother d more other hmore
  have hempty' : ¬ (r.flags.skip (taken ++ d :: other)).isEmpty = true := by
    intro hnil
    rw [List.isEmpty_iff.mp hnil] at hcount'
    obtain rfl : left' = [] := List.suffix_nil.mp ((steady_count r.flags first').suffix hcount')
    cases first' <;> cases hbounds'
  rw [if_neg hparts, if_neg hempty', hcount']
  simp only [bind, Except.bind, hbounds', hend']

/-- Letters and hyphens are neither white space nor digits. -/
lemma plain_of_letter {c : Char} (h : c.isAlpha = true ∨ c = '-') :
    isBlank c = false ∧ c.isDigit = false := by
  rcases h with h | rfl
  · have hrange : 65 ≤ c.toNat ∧ c.toNat ≤ 90 ∨ 97 ≤ c.toNat ∧ c.toNat ≤ 122 := by
      have hletter : (decide (c.val ≥ 'A'.val ∧ c.val ≤ 'Z'.val) ||
          (decide (c.val ≥ 'a'.val) && decide (c.val ≤ 'z'.val))) = true := h
      simpa [UInt32.le_iff_toNat_le] using hletter
    constructor
    · simp only [isBlank, blanks, CharSet.contains, CharSet.containsCode, List.any_cons,
        List.any_nil, Bool.or_false, Bool.or_eq_false_iff, Bool.and_eq_false_iff,
        decide_eq_false_iff_not]
      omega
    · have hdigit : ¬ (48 ≤ c.toNat ∧ c.toNat ≤ 57) := by omega
      simpa [Char.isDigit, UInt32.le_iff_toNat_le] using hdigit
  · decide

lemma skip_of_counts {flags : Flags} {c : Char}
    (hc : flags.extended = true → isBlank c = false ∧ c ≠ '#') (rest : List Char) :
    flags.skip (c :: rest) = c :: rest := by
  unfold Flags.skip
  split
  next hx => simp [Flags.dropLayout, hc hx]
  next => rfl

/-- A brace that begins a count does not begin the name of the edge of a word: behind it stands
neither a letter nor a hyphen. -/
lemma namesNoEdge_of_counted {r : Reader} {tail : List Char} {found : Reader × List Char}
    (h : r.counted ('\x7b' :: tail) = .ok found) : NamesNoEdge r.flags ('\x7b' :: tail) := by
  rw [counted_cons] at h
  by_cases hparts : r.body.parts.isEmpty = true
  · rw [if_pos hparts] at h
    cases h
  cases hskip : r.flags.skip tail with
  | nil =>
    rw [if_neg hparts, hskip] at h
    cases h
  | cons first left =>
    rw [if_neg hparts, hskip, if_neg (by simp)] at h
    obtain ⟨⟨n, rest⟩, hcount, h⟩ := bind_eq_ok h
    have hfirst : (!first.isAlpha && first != '-') = true := by
      by_contra hname
      -- A letter or a hyphen is no digit, so the count has no number.
      have hletter : first.isAlpha = true ∨ first = '-' := by
        by_cases ha : first.isAlpha = true
        · exact .inl ha
        · exact .inr (by simpa [ha] using hname)
      obtain ⟨hblank, hdigit⟩ := plain_of_letter hletter
      have hnone : count r.flags (first :: left) = .ok (none, first :: left) := by
        simp [count_eq, hblank, countDigits, hdigit, countValue, Except.map,
          skip_of_counts (head_skip hskip)]
      rw [hnone] at hcount
      obtain ⟨rfl, _⟩ : none = n ∧ first :: left = rest := by simpa using hcount
      obtain ⟨_, hbounds, _⟩ := bind_eq_ok h
      exact absurd hbounds (boundsBehind_none r.flags rest _)
    simp [NamesNoEdge, wordBoundary, hskip, hfirst]

/-! ## Groups -/

/-- May the name be given to a group? -/
def checkedName (names : List (List Char)) (name : List Char) :
    Except ExpressionFault (List Char) :=
  match name with
  | first :: others =>
    if !isNameLetter true first || !others.all (isNameLetter false) then .error .badGroupName
    else if names.contains name then .error .takenGroupName
    else .ok name
  | [] => .error .badGroupName

lemma groupName_eq (names : List (List Char)) (text : List Char) :
    groupName names text =
      match text.dropWhile (· != '>') with
      | [] => .error .badGroupName
      | _ :: rest => (checkedName names (text.takeWhile (· != '>'))).map (·, rest) := by
  unfold groupName checkedName
  cases text.dropWhile (· != '>') with
  | nil => cases text.takeWhile (· != '>') <;> rfl
  | cons closer rest =>
    cases text.takeWhile (· != '>') with
    | nil => rfl
    | cons first others =>
      simp only
      split
      · rfl
      · split <;> rfl

lemma checkedName_ok {names : List (List Char)} {name found : List Char}
    (h : checkedName names name = .ok found) : name = found := by
  unfold checkedName at h
  repeat' split at h
  all_goals first
    | contradiction
    | exact Except.ok.inj h

lemma steady_groupName (names : List (List Char)) (name : List Char) :
    Steady fun text rest => groupName names text = .ok (name, rest) := by
  intro text rest h
  rw [groupName_eq] at h
  split at h
  next => simp at h
  next closer left hdrop =>
    obtain ⟨hname, rfl⟩ := map_pair_eq_ok h
    obtain rfl := checkedName_ok hname
    have hcloser : closer = '>' := by
      have := List.head_dropWhile_not (p := (· != '>')) (l := text) (by simp [hdrop])
      simpa [hdrop] using this
    subst hcloser
    refine ⟨text.takeWhile (· != '>') ++ ['>'], ?_, fun c more other _ => ?_⟩
    · rw [List.append_assoc, List.singleton_append, ← hdrop, List.takeWhile_append_dropWhile]
    · have hbefore (c : Char) (hc : c ∈ text.takeWhile (· != '>')) : (c != '>') = true :=
        List.all_eq_true.mp (List.all_takeWhile (l := text)) c hc
      obtain ⟨htake, hdrop'⟩ := takeWhile_stop hbefore (c :: other)
      rw [List.append_assoc, List.singleton_append]
      simp only [groupName_eq, htake, hdrop', hname, Except.map]

lemma readFlags_letter {c : Char} (hsign : ¬ (c = ':' ∨ c = ')')) (flags : Flags) (seen : List Char)
    (negated : Bool) (tail : List Char) :
    readFlags flags seen negated (c :: tail) =
      if seen.contains c then .error .repeatedFlag
      else if c = '-' then readFlags flags ('-' :: seen) true tail
      else match flags.set? c (!negated) with
        | some flags => readFlags flags (c :: seen) negated tail
        | none => .error (.unknownFlag c) := by
  cases hset : flags.set? c (!negated) <;>
    rw [readFlags, if_neg (by simpa using hsign), hset]

/-- Flags are read up to the sign behind them. -/
lemma steady_readFlags (flags after : Flags) (seen : List Char) (negated isEmpty : Bool)
    (sign : Char) :
    Steady fun text rest =>
      readFlags flags seen negated text = .ok (after, isEmpty, sign, rest) := by
  intro text rest h
  induction text generalizing flags seen negated with
  | nil => simp [readFlags] at h
  | cons c tail ih =>
    have hgo {flags' : Flags} {seen' : List Char} {negated' : Bool}
        (hread : readFlags flags' seen' negated' tail = .ok (after, isEmpty, sign, rest))
        (hstep : ∀ tail, readFlags flags seen negated (c :: tail) =
          readFlags flags' seen' negated' tail) :
        ∃ taken, c :: tail = taken ++ rest ∧ ∀ d more other, rest = d :: more →
          readFlags flags seen negated (taken ++ d :: other) =
            .ok (after, isEmpty, sign, d :: other) := by
      obtain ⟨taken, rfl, hother⟩ := ih flags' seen' negated' hread
      refine ⟨c :: taken, rfl, fun d more other hmore => ?_⟩
      rw [List.cons_append, hstep]
      exact hother d more other hmore
    by_cases hsign : c = ':' ∨ c = ')'
    · have hend (tail : List Char) : readFlags flags seen negated (c :: tail) =
          if seen.head? == some '-' then .error .danglingNegation
          else .ok (flags, seen.isEmpty, c, tail) := by
        rw [readFlags, if_pos (by simpa using hsign)]
      simp only [hend] at h ⊢
      split at h
      next => simp at h
      next hdangling =>
        obtain ⟨rfl, rfl, rfl, rfl⟩ : flags = after ∧ seen.isEmpty = isEmpty ∧ c = sign ∧
          tail = rest := by simpa using h
        exact ⟨[c], rfl, fun d more other _ => by simp [hend, hdangling]⟩
    · have hletter := readFlags_letter hsign flags seen negated
      rw [hletter] at h
      split at h
      next => simp at h
      next hrepeated =>
        split at h
        next hminus =>
          exact hgo h fun tail => by rw [hletter, if_neg hrepeated, if_pos hminus]
        next hminus =>
          cases hset : flags.set? c (!negated) with
          | none => simp [hset] at h
          | some flags' =>
            rw [hset] at h
            exact hgo h fun tail => by rw [hletter, if_neg hrepeated, if_neg hminus, hset]

/-- A group with a name. -/
def namedGroup (r : Reader) (text : List Char) : Except ExpressionFault (Reader × List Char) :=
  (groupName r.names text).map fun read =>
    ({ r.enter (some (r.groups + 1)) r.flags with names := read.1 :: r.names }, read.2)

/-- A group that does not capture, or a setting of flags. -/
def flagGroup (r : Reader) (text : List Char) : Except ExpressionFault (Reader × List Char) :=
  match readFlags r.flags [] false text with
  | .error fault => .error fault
  | .ok (flags, isEmpty, sign, rest) =>
    if sign = ':' then .ok (r.enter none flags, rest)
    else if isEmpty then .error .nothingToRepeat
    else .ok ({ r with flags := flags, body := r.body.add ⟨empty, 0, true⟩ }, rest)

lemma opening_cases (text : List Char) :
    text.head? ≠ some '?' ∨ isLookAround text = true ∨
      (∃ rest, text = '?' :: 'P' :: '<' :: rest) ∨
      (∃ rest, text = '?' :: '<' :: rest ∧ rest.head? ≠ some '=' ∧ rest.head? ≠ some '!') ∨
      ∃ rest, text = '?' :: rest ∧ isLookAround ('?' :: rest) = false ∧ rest.head? ≠ some '<' ∧
        ∀ more, rest ≠ 'P' :: '<' :: more := by
  by_cases hlook : isLookAround text = true
  · exact .inr (.inl hlook)
  by_cases hhead : text.head? = some '?'
  · obtain ⟨rest, rfl⟩ : ∃ rest, text = '?' :: rest := by
      cases text with
      | nil => cases hhead
      | cons c rest => exact ⟨rest, by rw [Option.some.inj hhead]⟩
    by_cases hname : ∃ more, rest = 'P' :: '<' :: more
    · obtain ⟨more, rfl⟩ := hname
      exact .inr (.inr (.inl ⟨more, rfl⟩))
    by_cases hangle : rest.head? = some '<'
    · obtain ⟨left, rfl⟩ : ∃ left, rest = '<' :: left := by
        cases rest with
        | nil => cases hangle
        | cons c left => exact ⟨left, by rw [Option.some.inj hangle]⟩
      refine .inr (.inr (.inr (.inl ⟨left, rfl, ?_, ?_⟩))) <;> intro hsign <;> cases left <;>
        simp_all [isLookAround, List.isPrefixOf]
    · exact .inr (.inr (.inr (.inr ⟨rest, rfl, by simpa using hlook, hangle,
        fun more h => hname ⟨more, h⟩⟩)))
  · exact .inl hhead

lemma opening_named {r : Reader} {text rest : List Char}
    (h : r.flags.skip text = '?' :: 'P' :: '<' :: rest) : r.opening text = namedGroup r rest := by
  simp only [Reader.opening, h, isLookAround, namedGroup]
  simp only [List.any_cons, List.any_nil, List.isPrefixOf]
  cases groupName r.names rest <;> rfl

lemma opening_angle {r : Reader} {text rest : List Char}
    (h : r.flags.skip text = '?' :: '<' :: rest)
    (hbehind : rest.head? ≠ some '=' ∧ rest.head? ≠ some '!') :
    r.opening text = namedGroup r rest := by
  have hlook : isLookAround ('?' :: '<' :: rest) = false := by
    cases rest with
    | nil => rfl
    | cons c rest =>
      obtain ⟨heq, hmark⟩ : c ≠ '=' ∧ c ≠ '!' := by simpa using hbehind
      simp [isLookAround, List.isPrefixOf, heq.symm, hmark.symm]
  simp only [Reader.opening, h, hlook, namedGroup]
  cases groupName r.names rest <;> rfl

lemma opening_lookAround {r : Reader} {text : List Char}
    (h : isLookAround (r.flags.skip text) = true) : r.opening text = .error .lookAround := by
  simp only [Reader.opening, h]
  rfl

lemma opening_flags {r : Reader} {text rest : List Char} (h : r.flags.skip text = '?' :: rest)
    (hlook : isLookAround ('?' :: rest) = false) (hangle : rest.head? ≠ some '<')
    (hname : ∀ more, rest ≠ 'P' :: '<' :: more) : r.opening text = flagGroup r rest := by
  simp only [Reader.opening, h, hlook, flagGroup, Bool.false_eq_true, if_false]
  split
  next heq => exact absurd (List.cons.inj heq).2 (hname _)
  next heq => simp [(List.cons.inj heq).2] at hangle
  next heq =>
    obtain ⟨_, rfl⟩ := List.cons.inj heq
    cases readFlags r.flags [] false rest with
    | error _ => rfl
    | ok read =>
      obtain ⟨flags, isEmpty, sign, left⟩ := read
      simp only [bind, Except.bind]
      split
      · rfl
      · split <;> rfl
  next hother => exact absurd rfl (hother rest)

lemma opening_plain {r : Reader} {text : List Char} (h : (r.flags.skip text).head? ≠ some '?') :
    r.opening text = .ok (r.enter (some (r.groups + 1)) r.flags, r.flags.skip text) := by
  cases hskip : r.flags.skip text with
  | nil => simp [Reader.opening, hskip, isLookAround, List.isPrefixOf, pure, Except.pure]
  | cons c rest =>
    have hc : c ≠ '?' := by simpa [hskip] using h
    have hlook : isLookAround (c :: rest) = false := by
      simp [isLookAround, List.isPrefixOf, Ne.symm hc]
    simp only [Reader.opening, hskip, hlook, Bool.false_eq_true, if_false]
    split
    next heq => exact absurd (List.cons.inj heq).1 hc
    next heq => exact absurd (List.cons.inj heq).1 hc
    next heq => exact absurd (List.cons.inj heq).1 hc
    next => rfl

lemma steady_namedGroup (r r' : Reader) :
    Steady fun text rest => namedGroup r text = .ok (r', rest) := by
  intro text rest h
  unfold namedGroup at h
  cases hname : groupName r.names text with
  | error _ => simp [hname, Except.map] at h
  | ok read =>
    obtain ⟨name, left⟩ := read
    simp only [hname, Except.map, Except.ok.injEq, Prod.mk.injEq] at h
    obtain ⟨hr, rfl⟩ := h
    obtain ⟨taken, htext, hother⟩ := steady_groupName r.names name _ _ hname
    refine ⟨taken, htext, fun c more other hmore => ?_⟩
    have hname' : groupName r.names (taken ++ c :: other) = .ok (name, c :: other) :=
      hother c more other hmore
    simp only [namedGroup, hname', Except.map, hr]

lemma steady_flagGroup (r r' : Reader) :
    Steady fun text rest => flagGroup r text = .ok (r', rest) := by
  intro text rest h
  unfold flagGroup at h
  cases hflags : readFlags r.flags [] false text with
  | error _ => simp [hflags] at h
  | ok read =>
    obtain ⟨flags, isEmpty, sign, left⟩ := read
    simp only [hflags] at h
    obtain rfl : left = rest := by
      split_ifs at h <;> exact congrArg Prod.snd (Except.ok.inj h)
    obtain ⟨taken, htext, hother⟩ := steady_readFlags r.flags flags [] false isEmpty sign _ _ hflags
    refine ⟨taken, htext, ?_⟩
    rintro c more other rfl
    have hflags' : readFlags r.flags [] false (taken ++ c :: other) =
        .ok (flags, isEmpty, sign, c :: other) := hother c more other rfl
    simp only [flagGroup, hflags']
    split_ifs at h ⊢ <;>
      exact congrArg (fun r => Except.ok (r, c :: other)) (congrArg Prod.fst (Except.ok.inj h))

/-- Flags do not begin with what else may stand behind a question mark. -/
lemma head_of_flagGroup {r : Reader} {text : List Char} {found : Reader × List Char}
    (h : flagGroup r text = .ok found) :
    ∃ c left, text = c :: left ∧ c ≠ 'P' ∧ c ≠ '<' ∧ c ≠ '=' ∧ c ≠ '!' := by
  cases text with
  | nil => simp [flagGroup, readFlags] at h
  | cons c left =>
    refine ⟨c, left, rfl, ?_, ?_, ?_, ?_⟩ <;> rintro rfl <;>
      simp [flagGroup, readFlags, Flags.set?] at h

/-- What an opening parenthesis begins is read up to the inside of the group. -/
lemma steady_opening (r r' : Reader) :
    Steady fun text rest => r.opening text = .ok (r', rest) := by
  refine (steady_skip r.flags).behind fun text rest h => ?_
  -- A name or flags are read behind the signs that lead to them.
  have hbehind {P : List Char → List Char → Prop} (lead : List Char) {left : List Char}
      (hP : Steady P) (hskip : r.flags.skip text = lead ++ left) (hp : P left rest)
      (hopen : ∀ fresh left' c more, r.flags.skip fresh = lead ++ left' →
        left'.head? = left.head? → P left' (c :: more) → r.opening fresh = .ok (r', c :: more)) :
      ∃ taken, r.flags.skip text = taken ++ rest ∧ ∀ c more other, rest = c :: more →
        ∀ fresh, r.flags.skip fresh = taken ++ c :: other →
          r.opening fresh = .ok (r', c :: other) := by
    obtain ⟨taken, rfl, hother⟩ := hP _ _ hp
    refine ⟨lead ++ taken, by simp [hskip], ?_⟩
    rintro c more other rfl fresh hfresh
    refine hopen fresh (taken ++ c :: other) c other (by simpa using hfresh) ?_
      (hother c more other rfl)
    cases taken <;> rfl
  rcases opening_cases (r.flags.skip text) with hplain | hlook | ⟨left, hskip⟩ |
    ⟨left, hskip, hbounds⟩ | ⟨tail, hskip, hlook, hangle, hname⟩
  · rw [opening_plain hplain] at h
    obtain ⟨rfl, rfl⟩ : r.enter (some (r.groups + 1)) r.flags = r' ∧ r.flags.skip text = rest := by
      simpa using h
    refine ⟨[], rfl, ?_⟩
    rintro c more other hmore fresh hfresh
    have hhead : (r.flags.skip fresh).head? ≠ some '?' := by
      rw [hmore] at hplain
      simpa [hfresh] using hplain
    rw [opening_plain hhead, hfresh]
    rfl
  · rw [opening_lookAround hlook] at h
    cases h
  · rw [opening_named hskip] at h
    exact hbehind ['?', 'P', '<'] (steady_namedGroup r r') hskip h
      fun fresh left' c more hfresh _ hp => (opening_named hfresh).trans hp
  · rw [opening_angle hskip hbounds] at h
    refine hbehind ['?', '<'] (steady_namedGroup r r') hskip h
      fun fresh left' c more hfresh hhead hp => ?_
    rw [← hhead] at hbounds
    exact (opening_angle hfresh hbounds).trans hp
  · rw [opening_flags hskip hlook hangle hname] at h
    obtain ⟨d, left, rfl, hname', hangle', heq, hmark⟩ := head_of_flagGroup h
    refine hbehind ['?'] (steady_flagGroup r r') hskip h
      fun fresh left' c more hfresh hhead hp => ?_
    obtain ⟨left', rfl⟩ : ∃ l, left' = d :: l := by
      cases left' with
      | nil => simp at hhead
      | cons e l => exact ⟨l, by rw [Option.some.inj hhead]⟩
    have hlook' : isLookAround ('?' :: d :: left') = false := by
      simp [isLookAround, List.isPrefixOf, heq.symm, hmark.symm, hangle'.symm]
    exact (opening_flags hfresh hlook' (by simpa using hangle') (by simp [hname'])).trans hp

/-! ## One step -/

lemma step_bracket (r : Reader) (tail : List Char) :
    r.step '[' tail = (bracket r.flags ('[' :: tail)).map fun found =>
      (r.add (char found.1.set) found.1.depth, found.2) := by
  simp only [Reader.step]
  cases bracket r.flags ('[' :: tail) <;> rfl

lemma step_backslash (r : Reader) (tail : List Char) :
    r.step '\\' tail = (escape r.flags tail).bind fun found =>
      ((ofAtom r.flags found.1).map (r.add · 0)).map (·, found.2) := by
  simp only [Reader.step]
  cases escape r.flags tail with
  | error _ => rfl
  | ok found =>
    cases h : ofAtom r.flags found.1 <;>
      simp [h, bind, Except.bind, pure, Except.pure, Except.map]

lemma step_single (r : Reader) {c : Char} (hopen : c ≠ '(') (hclass : c ≠ '[') (hone : c ≠ '?')
    (hmany : c ≠ '*') (hsome : c ≠ '+') (hcount : c ≠ '\x7b') (hslash : c ≠ '\\') :
    ∃ next : Except ExpressionFault Reader, ∀ tail, r.step c tail = next.map (·, tail) := by
  unfold Reader.step
  simp only [hopen, hclass, hone, hmany, hsome, hcount, hslash, if_false]
  by_cases hclose : c = ')'
  · exact ⟨r.closing, fun tail => by simp only [hclose, if_true]⟩
  by_cases hnext : c = '|'
  · exact ⟨.ok { r with body := r.body.next }, fun tail => by simp [hnext, Except.map]⟩
  by_cases hdot : c = '.'
  · refine ⟨(dot r.flags).map fun e => r.add e 0, fun tail => ?_⟩
    simp only [hdot]
    cases dot r.flags <;> rfl
  by_cases hstart : c = '^'
  · refine ⟨.ok (r.add
      (look (if r.flags.multiLine then .lineStart r.flags.crlf else .textStart)) 0), fun tail => ?_⟩
    simp only [hstart]
    rfl
  by_cases hstop : c = '$'
  · refine ⟨.ok (r.add (look (if r.flags.multiLine then .lineStop r.flags.crlf else .textStop)) 0),
      fun tail => ?_⟩
    simp only [hstop]
    rfl
  · refine ⟨(ofLetter r.flags c false).map fun e => r.add e 0, fun tail => ?_⟩
    simp only [hclose, hnext, hdot, hstart, hstop, if_false]
    cases ofLetter r.flags c false <;> rfl

/-- One step of the reading looks no further than the first character that it leaves, where no brace
behind it names the edge of a word. -/
theorem steady_step (r r' : Reader) (c : Char) :
    SteadyUnder (NamesNoEdge r'.flags) fun tail rest => r.step c tail = .ok (r', rest) := by
  intro tail rest h
  by_cases hopen : c = '('
  · simp only [Reader.step, hopen, if_true] at h ⊢
    exact (steady_opening r r').under _ _ _ h
  by_cases hclass : c = '['
  · subst hclass
    simp only [step_bracket] at h ⊢
    cases hbracket : bracket r.flags ('[' :: tail) with
    | error _ => simp [hbracket, Except.map] at h
    | ok found =>
      obtain ⟨rfl, rfl⟩ : r.add (char found.1.set) found.1.depth = r' ∧ found.2 = rest := by
        simpa [hbracket, Except.map] using h
      obtain ⟨taken, htail, hother⟩ := bracket_before hbracket
      exact ⟨taken, htail, fun d more other _ _ => by simp [hother, Except.map]⟩
  by_cases hone : c = '?'
  · subst hone
    exact (steady_sign r r' 0 (some 1)).under _ _ _ h
  by_cases hmany : c = '*'
  · subst hmany
    exact (steady_sign r r' 0 none).under _ _ _ h
  by_cases hsome : c = '+'
  · subst hsome
    exact (steady_sign r r' 1 none).under _ _ _ h
  by_cases hcount : c = '\x7b'
  · subst hcount
    exact (steady_counted r r' '\x7b').under _ _ _ h
  by_cases hslash : c = '\\'
  · subst hslash
    simp only [step_backslash] at h ⊢
    obtain ⟨⟨a, left⟩, hescape, h⟩ := bind_eq_ok h
    obtain ⟨hatom, rfl⟩ := map_pair_eq_ok h
    have hflags : r'.flags = r.flags := by
      cases he : ofAtom r.flags a with
      | error _ => simp [he, Except.map] at hatom
      | ok e =>
        rw [he] at hatom
        obtain rfl := Except.ok.inj hatom
        rfl
    obtain ⟨taken, htail, hother⟩ := steady_escape r.flags a _ _ hescape
    refine ⟨taken, htail, fun d more other hmore hguard => ?_⟩
    have hescape' : escape r.flags (taken ++ d :: other) = .ok (a, d :: other) :=
      hother d more other hmore fun _ => hflags ▸ hguard
    simp only [hescape', Except.bind, hatom]
    rfl
  · obtain ⟨next, hnext⟩ := step_single r hopen hclass hone hmany hsome hcount hslash
    simp only [hnext] at h ⊢
    obtain ⟨rfl, rfl⟩ := map_pair_eq_ok h
    exact ⟨[], rfl, fun d more other _ _ => rfl⟩

end UriRouting.Expression
