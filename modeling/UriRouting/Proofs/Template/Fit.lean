import Mathlib.Tactic
import UriRouting.Proofs.Template.Tokens

/-!
# How tokens fit a text

`Token.fit` says what a plain template does to a text: letters take themselves, and each slot takes
as much as it can of what comes before the next slash, one character at least, as far as the tokens
after it fit what is left.  So slots give text back one character at a time, the last slot first.

Where every slot is followed by a slash or by the end there is nothing to give back, and the tokens
fit in one way at most.  `Token.parse?` goes through the text without ever turning back, and finds
the same (`fit_eq_parse?`).  So the parse of two templates written one after the other is one parse
after the other (`parse?_append`), and filling the slots with texts that have no slash can be undone
(`parse?_fill`).
-/

namespace UriRouting

/-- What tokens take of a text: the text of each slot, and what is left. -/
structure Fit where
  values : List (List Char)
  rest : List Char
deriving DecidableEq

/-- A slot in front of the others. -/
def Fit.cons (value : List Char) (f : Fit) : Fit := { f with values := value :: f.values }

/-- One fit after another. -/
def Fit.andThen (f g : Fit) : Fit := ⟨f.values ++ g.values, g.rest⟩

@[simp] lemma Fit.values_cons (value : List Char) (f : Fit) :
    (f.cons value).values = value :: f.values := rfl

@[simp] lemma Fit.rest_cons (value : List Char) (f : Fit) : (f.cons value).rest = f.rest := rfl

namespace Token

/-- The longest text of a slot after which `next` fits, where `taken` belongs to the slot already.
-/
def longest (next : List Char → Option Fit) (taken : List Char) : List Char → Option Fit
  | [] => none
  | c :: text =>
    if c = '/' then none
    else (longest next (taken ++ [c]) text).or ((next text).map (Fit.cons (taken ++ [c])))

/-- How tokens fit a text from its start, up to its end if they have to fit all of it. -/
def fit (full : Bool) : List Token → List Char → Option Fit
  | [], text => if full && !text.isEmpty then none else some ⟨[], text⟩
  | letter _ :: _, [] => none
  | letter c :: rest, d :: text => if d = c then fit full rest text else none
  | slot _ :: rest, text => longest (fit full rest) [] text

/-- How tokens fit a text if every slot ends at a slash or at the end. -/
def parse? : List Token → List Char → Option Fit
  | [], text => some ⟨[], text⟩
  | letter _ :: _, [] => none
  | letter c :: rest, d :: text => if d = c then parse? rest text else none
  | slot _ :: rest, text =>
    if (text.takeWhile (· != '/')).isEmpty then none
    else (parse? rest (text.dropWhile (· != '/'))).map (Fit.cons (text.takeWhile (· != '/')))

/-! ## Filling slots -/

/-- The text that tokens make up with texts in place of the slots. -/
def fill : List Token → List (List Char) → List Char
  | letter c :: rest, values => c :: fill rest values
  | slot _ :: rest, value :: values => value ++ fill rest values
  | _, _ => []

/-- The names of the slots, in order. -/
def names (tokens : List Token) : List (List Char) :=
  tokens.filterMap fun
    | letter _ => none
    | slot name => some name

lemma names_append (first second : List Token) :
    names (first ++ second) = names first ++ names second := List.filterMap_append

@[simp] lemma names_map_letter (text : List Char) : names (text.map letter) = [] := by
  simp [names, List.filterMap_map]

lemma fill_map_letter_append (text : List Char) (rest : List Token) (values : List (List Char)) :
    fill (text.map letter ++ rest) values = text ++ fill rest values := by
  induction text with
  | nil => rfl
  | cons c text ih => exact congrArg (c :: ·) ih

/-- The value of a slot starts with what belongs to it already, and has no slash. -/
lemma longest_spec {next : List Char → Option Fit} {taken text : List Char} {f : Fit}
    (h : longest next taken text = some f) (htaken : '/' ∉ taken) :
    ∃ more g, f = Fit.cons (taken ++ more) g ∧ more ≠ [] ∧ '/' ∉ taken ++ more ∧
      ∃ left, text = more ++ left ∧ next left = some g := by
  induction text generalizing taken with
  | nil => simp [longest] at h
  | cons c text ih =>
    rw [longest] at h
    by_cases hc : c = '/'
    · simp [hc] at h
    · have hfree : '/' ∉ taken ++ [c] := by simp [htaken, Ne.symm hc]
      rw [if_neg hc] at h
      rcases Option.or_eq_some_iff.mp h with hmore | ⟨_, hstop⟩
      · obtain ⟨more, g, rfl, _, hslash, left, rfl, hnext⟩ := ih hmore hfree
        exact ⟨c :: more, g, by simp, by simp, by simpa using hslash, left, rfl, hnext⟩
      · obtain ⟨g, hnext, rfl⟩ := Option.map_eq_some_iff.mp hstop
        exact ⟨[c], g, rfl, by simp, hfree, text, rfl, hnext⟩

/-- What fits a text makes it up: each slot has a text of its own, which is not empty and has no
slash, and nothing is left over if the tokens have to fit all. -/
theorem fit_spec {full : Bool} {tokens : List Token} {text : List Char} {f : Fit}
    (h : fit full tokens text = some f) :
    text = fill tokens f.values ++ f.rest ∧ f.values.length = (names tokens).length ∧
      (∀ value ∈ f.values, value ≠ [] ∧ '/' ∉ value) ∧ (full = true → f.rest = []) := by
  induction tokens generalizing text f with
  | nil =>
    simp only [fit] at h
    split at h
    next => cases h
    next hend =>
      obtain rfl := Option.some.inj h
      refine ⟨rfl, rfl, by simp, ?_⟩
      rintro rfl
      simpa using hend
  | cons t rest ih =>
    cases t with
    | letter c =>
      cases text with
      | nil => simp [fit] at h
      | cons d text =>
        rw [fit] at h
        split at h
        next hd =>
          obtain ⟨htext, hlength, hvalues, hend⟩ := ih h
          exact ⟨by rw [fill, List.cons_append, ← htext, hd], by simpa [names] using hlength,
            hvalues, hend⟩
        next => cases h
    | slot name =>
      obtain ⟨value, g, rfl, hne, hslash, left, rfl, hrest⟩ := longest_spec h (by simp)
      obtain ⟨htext, hlength, hvalues, hend⟩ := ih hrest
      refine ⟨?_, by simpa [names] using hlength, ?_, hend⟩
      · simp only [Fit.values_cons, Fit.rest_cons, List.nil_append, fill, List.append_assoc]
        rw [← htext]
      · intro v hv
        rcases List.mem_cons.mp hv with rfl | hv
        · exact ⟨hne, hslash⟩
        · exact hvalues v hv

/-! ## No turning back -/

/-- If nothing fits but at a slash, or everything fits, then the slot takes all up to the slash. -/
lemma longest_eq {next : List Char → Option Fit}
    (hnext : (∀ c text, c ≠ '/' → next (c :: text) = none) ∨ ∀ text, (next text).isSome)
    (taken text : List Char) :
    longest next taken text =
      if (text.takeWhile (· != '/')).isEmpty then none
      else (next (text.dropWhile (· != '/'))).map
        (Fit.cons (taken ++ text.takeWhile (· != '/'))) := by
  induction text generalizing taken with
  | nil => rfl
  | cons c text ih =>
    rw [longest]
    by_cases hc : c = '/'
    · simp [hc]
    · have hsign : (c != '/') = true := by simpa using hc
      rw [if_neg hc, ih, List.takeWhile_cons_of_pos (p := (· != '/')) hsign,
        List.dropWhile_cons_of_pos (p := (· != '/')) hsign]
      cases text with
      | nil => simp
      | cons d text =>
        by_cases hd : d = '/'
        · simp [hd]
        · have hsign' : (d != '/') = true := by simpa using hd
          have hsome : ((next ((d :: text).dropWhile (· != '/'))).isSome ∨
              next (d :: text) = none) := by
            rcases hnext with hnone | hall
            · exact .inr (hnone d text hd)
            · exact .inl (hall _)
          rw [List.takeWhile_cons_of_pos (p := (· != '/')) hsign']
          simp only [List.isEmpty_cons, Bool.false_eq_true, if_false, List.append_assoc,
            List.singleton_append]
          rcases hsome with hsome | hnone
          · obtain ⟨f, hf⟩ := Option.isSome_iff_exists.mp hsome
            simp [hf]
          · simp [hnone]

/-- Separated slots give nothing back, so `fit` is `parse?` with the end of the text looked at
afterwards. -/
theorem fit_eq_parse? {tokens : List Token} (h : areSeparated tokens = true) (full : Bool)
    (text : List Char) :
    fit full tokens text = (parse? tokens text).filter fun f => !full || f.rest.isEmpty := by
  induction tokens generalizing text with
  | nil => cases full <;> cases text <;> rfl
  | cons t rest ih =>
    cases t with
    | letter c =>
      cases text with
      | nil => rfl
      | cons d text =>
        simp only [fit, parse?]
        split
        · exact ih h text
        · rfl
    | slot name =>
      simp only [areSeparated, Bool.and_eq_true] at h
      have hnext : (∀ c text, c ≠ '/' → fit full rest (c :: text) = none) ∨
          ∀ text, (fit full rest text).isSome := by
        cases rest with
        | nil =>
          cases full with
          | true => exact .inl fun c text _ => rfl
          | false => exact .inr fun text => rfl
        | cons t rest =>
          obtain rfl : t = letter '/' := by simpa using h.1
          exact .inl fun c text hc => by simp [fit, hc]
      simp only [fit, parse?, longest_eq hnext, List.nil_append]
      split
      · rfl
      · rw [ih h.2]
        cases parse? rest (text.dropWhile (· != '/')) with
        | none => rfl
        | some f =>
          cases hend : (!full || f.rest.isEmpty) <;> simp [Option.filter, hend]

lemma fit_leading_eq_parse? {tokens : List Token} (h : areSeparated tokens = true)
    (text : List Char) : fit false tokens text = parse? tokens text := by
  rw [fit_eq_parse? h]
  cases parse? tokens text <;> rfl

/-! ## One template after another -/

theorem parse?_append (first second : List Token) (text : List Char) :
    parse? (first ++ second) text =
      (parse? first text).bind fun f => (parse? second f.rest).map (Fit.andThen f) := by
  induction first generalizing text with
  | nil =>
    simp only [List.nil_append, parse?, Option.bind_some]
    cases parse? second text <;> rfl
  | cons t first ih =>
    cases t with
    | letter c =>
      cases text with
      | nil => rfl
      | cons d text =>
        simp only [List.cons_append, parse?]
        split
        · exact ih text
        · rfl
    | slot name =>
      simp only [List.cons_append, parse?]
      split
      · rfl
      · rw [ih]
        cases parse? first (text.dropWhile (· != '/')) with
        | none => rfl
        | some f =>
          simp only [Option.bind_some, Option.map_some, Fit.rest_cons, Option.map_map]
          rfl

/-! ## Finding the values again -/

/-- `parse?` finds again what separated slots are filled with, if it has no slash and is not
empty. -/
theorem parse?_fill {tokens : List Token} (h : areSeparated tokens = true)
    {values : List (List Char)} (hlength : values.length = (names tokens).length)
    (hvalues : ∀ value ∈ values, value ≠ [] ∧ '/' ∉ value) :
    parse? tokens (fill tokens values) = some ⟨values, []⟩ := by
  induction tokens generalizing values with
  | nil =>
    obtain rfl : values = [] := List.eq_nil_of_length_eq_zero (by simpa [names] using hlength)
    rfl
  | cons t rest ih =>
    cases t with
    | letter c =>
      simp only [fill, parse?, if_true]
      exact ih h (by simpa [names] using hlength) hvalues
    | slot name =>
      cases values with
      | nil => simp [names] at hlength
      | cons value values =>
        simp only [areSeparated, Bool.and_eq_true] at h
        obtain ⟨⟨hne, hslash⟩, hvalues⟩ := List.forall_mem_cons.mp hvalues
        have hrest := ih h.2 (by simpa [names] using hlength) hvalues
        have hfree : ∀ c ∈ value, (c != '/') = true := by
          intro c hc
          have : c ≠ '/' := fun h => hslash (h ▸ hc)
          simpa using this
        -- What follows a slot is a slash or nothing.
        have hstop : (fill rest values).takeWhile (· != '/') = [] ∧
            (fill rest values).dropWhile (· != '/') = fill rest values := by
          cases rest with
          | nil => exact ⟨rfl, rfl⟩
          | cons t rest =>
            obtain rfl : t = letter '/' := by simpa using h.1
            exact ⟨rfl, rfl⟩
        simp only [fill, parse?, List.takeWhile_append_of_pos hfree,
          List.dropWhile_append_of_pos hfree, hstop, List.append_nil, hrest]
        simp [hne, Fit.cons]

end Token

end UriRouting
