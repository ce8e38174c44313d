import Mathlib.Tactic
import UriRouting.Template.Uri

/-!
# Templates as sequences of tokens

What a template asks of a path is a sequence of letters and slots, the tokens of its segments.  The
split into segments keeps the text between two placeholders together, so the segments of two
templates written one after the other are those of both, with the last literal of the first and the
first literal of the second joined (`split_append`).  Their tokens are simply one after the other.

Templates whose placeholders are names only and whose literal text means itself are called plain.  A
template is slash-separated if it is plain, begins with a slash unless it is empty, and every slot
is followed by a slash or by the end of the template.
-/

namespace UriRouting

/-- What a template asks of the next part of a path. -/
inductive Token
  /-- This character. -/
  | letter (c : Char)
  /-- Something for the placeholder of a name. -/
  | slot (name : List Char)
deriving DecidableEq

namespace Segment

/-! ## Tokens of segments -/

/-- The tokens that segments stand for. -/
def tokens : List Segment → List Token
  | [] => []
  | literal text :: rest => text.map Token.letter ++ tokens rest
  | placeholder body :: rest => Token.slot body :: tokens rest

/-- Segments one after the other, where literals that meet become one. -/
def glue : List Segment → List Segment → List Segment
  | [], second => second
  | [literal text], literal more :: rest => literal (text ++ more) :: rest
  | s :: first, second => s :: glue first second

lemma glue_cons_cons (s t : Segment) (first second : List Segment) :
    glue (s :: t :: first) second = s :: glue (t :: first) second := by
  cases s <;> rfl

lemma glue_placeholder (body : List Char) (first second : List Segment) :
    glue (placeholder body :: first) second = placeholder body :: glue first second := rfl

/-- A literal that has been begun goes on with what follows. -/
lemma splitFrom_append_current {before current template : List Char} {segments : List Segment}
    (h : splitFrom 0 current template = .ok segments) :
    splitFrom 0 (current ++ before) template = .ok (glue [literal before.reverse] segments) := by
  induction template generalizing current segments with
  | nil =>
    obtain rfl : [literal current.reverse] = segments := by simpa [splitFrom] using h
    simp [splitFrom, glue]
  | cons c rest ih =>
    simp only [splitFrom] at h ⊢
    split_ifs at h ⊢ with hopen hclose
    · cases hr : splitFrom 1 [] rest with
      | error _ => rw [hr] at h; cases h
      | ok tail =>
        rw [hr] at h
        obtain rfl : literal current.reverse :: tail = segments := Except.ok.inj h
        simp [Except.map, glue]
    · exact ih h

/-- A split cuts a segment off where the outermost braces open and close. -/
lemma splitFrom_cons (depth : Nat) (current : List Char) (c : Char) (rest : List Char) :
    splitFrom depth current (c :: rest) =
      if c = '\x7b' ∧ depth = 0 then (splitFrom 1 [] rest).map (literal current.reverse :: ·)
      else if c = '\x7d' ∧ depth = 0 then .error .unbalanced
      else if c = '\x7d' ∧ depth = 1 then
        if current.isEmpty then .error .emptyPlaceholder
        else (splitFrom 0 [] rest).map (placeholder current.reverse :: ·)
      else splitFrom (if c = '\x7b' then depth + 1 else if c = '\x7d' then depth - 1 else depth)
        (c :: current) rest := by
  rw [splitFrom.eq_def]
  by_cases hopen : c = '\x7b'
  · subst hopen
    cases depth <;> simp
  · by_cases hclose : c = '\x7d'
    · subst hclose
      rcases depth with _ | _ | depth <;> simp
    · simp [hopen, hclose]

lemma splitFrom_ne_nil {depth : Nat} {current template : List Char} {segments : List Segment}
    (h : splitFrom depth current template = .ok segments) : segments ≠ [] := by
  rintro rfl
  induction template generalizing depth current with
  | nil =>
    simp only [splitFrom] at h
    split at h <;> cases h
  | cons c rest ih =>
    rw [splitFrom_cons] at h
    split_ifs at h
    · cases hr : splitFrom 1 [] rest <;> simp [hr, Except.map] at h
    · cases hr : splitFrom 0 [] rest <;> simp [hr, Except.map] at h
    all_goals exact ih h

lemma splitFrom_append {depth : Nat} {current first second : List Char}
    {firsts seconds : List Segment} (hfirst : splitFrom depth current first = .ok firsts)
    (hsecond : split second = .ok seconds) :
    splitFrom depth current (first ++ second) = .ok (glue firsts seconds) := by
  induction first generalizing depth current firsts with
  | nil =>
    simp only [splitFrom] at hfirst
    split at hfirst
    next hdepth =>
      obtain rfl : [literal current.reverse] = firsts := Except.ok.inj hfirst
      subst hdepth
      simpa [split] using splitFrom_append_current hsecond
    next => cases hfirst
  | cons c rest ih =>
    rw [List.cons_append, splitFrom_cons]
    rw [splitFrom_cons] at hfirst
    split_ifs at hfirst ⊢
    · cases hr : splitFrom 1 [] rest with
      | error _ => simp [hr, Except.map] at hfirst
      | ok tail =>
        obtain rfl : literal current.reverse :: tail = firsts := by
          simpa [hr, Except.map] using hfirst
        obtain ⟨t, tail, rfl⟩ := List.exists_cons_of_ne_nil (splitFrom_ne_nil hr)
        simp [ih hr, Except.map, glue_cons_cons]
    · cases hr : splitFrom 0 [] rest with
      | error _ => simp [hr, Except.map] at hfirst
      | ok tail =>
        obtain rfl : placeholder current.reverse :: tail = firsts := by
          simpa [hr, Except.map] using hfirst
        simp [ih hr, Except.map, glue_placeholder]
    all_goals exact ih hfirst

/-- The segments of two templates written one after the other. -/
theorem split_append {first second : List Char} {firsts seconds : List Segment}
    (hfirst : split first = .ok firsts) (hsecond : split second = .ok seconds) :
    split (first ++ second) = .ok (glue firsts seconds) := splitFrom_append hfirst hsecond

lemma tokens_glue (first second : List Segment) :
    tokens (glue first second) = tokens first ++ tokens second := by
  induction first with
  | nil => rfl
  | cons s first ih =>
    cases first with
    | cons t first =>
      rw [glue_cons_cons]
      cases s <;> simp [tokens, ih]
    | nil =>
      cases s with
      | placeholder body => rfl
      | literal text =>
        cases second with
        | nil => simp [glue, tokens]
        | cons t second => cases t <;> simp [glue, tokens]

/-! ## What a split gives -/

/-- Literal text has no brace, and a placeholder is not empty. -/
def IsRegular : Segment → Prop
  | literal text => '\x7b' ∉ text ∧ '\x7d' ∉ text
  | placeholder body => body ≠ []

lemma isRegular_of_splitFrom {depth : Nat} {current template : List Char} {segments : List Segment}
    (h : splitFrom depth current template = .ok segments)
    (hcurrent : depth = 0 → IsRegular (literal current.reverse)) : ∀ s ∈ segments, s.IsRegular := by
  induction template generalizing depth current segments with
  | nil =>
    simp only [splitFrom] at h
    split at h
    next hdepth =>
      obtain rfl : [literal current.reverse] = segments := Except.ok.inj h
      simpa using hcurrent hdepth
    next => cases h
  | cons c rest ih =>
    have hempty : IsRegular (literal ([] : List Char).reverse) := by simp [IsRegular]
    rw [splitFrom_cons] at h
    split_ifs at h with hopen hclose hend hbody hmore hless
    · cases hr : splitFrom 1 [] rest with
      | error _ => simp [hr, Except.map] at h
      | ok tail =>
        obtain rfl : literal current.reverse :: tail = segments := by simpa [hr, Except.map] using h
        exact List.forall_mem_cons.mpr ⟨hcurrent hopen.2, ih hr (by simp)⟩
    · cases hr : splitFrom 0 [] rest with
      | error _ => simp [hr, Except.map] at h
      | ok tail =>
        obtain rfl : placeholder current.reverse :: tail = segments := by
          simpa [hr, Except.map] using h
        exact List.forall_mem_cons.mpr ⟨by simpa [IsRegular] using hbody, ih hr fun _ => hempty⟩
    · exact ih h (by omega)
    · exact ih h fun hdepth => by simp_all; omega
    · refine ih h fun hdepth => ?_
      have := hcurrent hdepth
      simp_all [IsRegular, eq_comm]

/-- The first segment is a literal, which goes on with what has been begun. -/
lemma splitFrom_starts {current template : List Char} {segments : List Segment}
    (h : splitFrom 0 current template = .ok segments) :
    ∃ more tail, segments = literal (current.reverse ++ more) :: tail := by
  induction template generalizing current with
  | nil => exact ⟨[], [], by simpa [splitFrom, eq_comm] using h⟩
  | cons c rest ih =>
    simp only [splitFrom] at h
    split_ifs at h
    · cases hr : splitFrom 1 [] rest with
      | error _ => rw [hr] at h; cases h
      | ok tail =>
        rw [hr] at h
        exact ⟨[], tail, by simpa [Except.map, eq_comm] using h⟩
    · obtain ⟨more, tail, rfl⟩ := ih h
      exact ⟨c :: more, tail, by simp⟩

lemma letter_mem_tokens {c : Char} {segments : List Segment} :
    Token.letter c ∈ tokens segments ↔ ∃ text, literal text ∈ segments ∧ c ∈ text := by
  induction segments with
  | nil => simp [tokens]
  | cons s rest ih => cases s <;> simp [tokens, ih, or_and_right, exists_or]

lemma slot_mem_tokens {body : List Char} {segments : List Segment} :
    Token.slot body ∈ tokens segments ↔ placeholder body ∈ segments := by
  induction segments with
  | nil => simp [tokens]
  | cons s rest ih => cases s <;> simp [tokens, ih]

lemma mem_bodies {body : List Char} {segments : List Segment} :
    body ∈ bodies segments ↔ placeholder body ∈ segments := by
  induction segments with
  | nil => simp [bodies]
  | cons s rest ih => cases s <;> simp [bodies, ih]

theorem isRegular_of_split {template : List Char} {segments : List Segment}
    (h : split template = .ok segments) : ∀ s ∈ segments, s.IsRegular :=
  isRegular_of_splitFrom h fun _ => by simp [IsRegular]

end Segment

/-! ## Tokens of templates -/

/-- The tokens of a template; none if its braces are not in order. -/
def tokensOf (template : String) : List Token :=
  match Segment.split template.toList with
  | .ok segments => Segment.tokens segments
  | .error _ => []

lemma tokensOf_of_split {template : String} {segments : List Segment}
    (h : Segment.split template.toList = .ok segments) :
    tokensOf template = Segment.tokens segments := by
  rw [tokensOf, h]

/-- Has the character a meaning of its own in an expression? -/
def isMeta (c : Char) : Bool :=
  ['\\', '.', '+', '*', '?', '(', ')', '|', '[', ']', '^', '$'].contains c

namespace Token

/-- A letter that means itself, or a slot without a sub-pattern. -/
def isPlain : Token → Bool
  | letter c => !isMeta c
  | slot name => !name.contains ':'

/-- Is every slot followed by a slash or by the end? -/
def areSeparated : List Token → Bool
  | [] => true
  | letter _ :: rest => areSeparated rest
  | slot _ :: rest => (rest.head?.all fun t => t == letter '/') && areSeparated rest

lemma areSeparated_append {first second : List Token} (hfirst : areSeparated first = true)
    (hsecond : areSeparated second = true)
    (hmeet : (second.head?.all fun t => t == letter '/') = true) :
    areSeparated (first ++ second) = true := by
  induction first with
  | nil => exact hsecond
  | cons t first ih =>
    cases t with
    | letter c => exact ih hfirst
    | slot name =>
      simp only [areSeparated, List.cons_append, Bool.and_eq_true] at hfirst ⊢
      refine ⟨?_, ih hfirst.2⟩
      cases first with
      | nil => exact hmeet
      | cons t first => exact hfirst.1

end Token

/-- The braces are in order, literal text means itself, and the placeholders are names only. -/
def IsPlain (template : String) : Prop :=
  (∃ segments, Segment.split template.toList = .ok segments) ∧
    (tokensOf template).all Token.isPlain = true

/-- The template is plain, begins with a slash unless it is empty, and every placeholder is followed
by a slash or by the end. -/
def SlashSeparated (template : String) : Prop :=
  IsPlain template ∧ (template.toList.head?.all fun c => c == '/') = true ∧
    Token.areSeparated (tokensOf template) = true

instance : DecidablePred IsPlain := fun template =>
  haveI : Decidable (∃ segments, Segment.split template.toList = .ok segments) :=
    decidable_of_iff ((Segment.split template.toList).toOption.isSome = true) (by
      cases Segment.split template.toList <;> simp [Except.toOption])
  inferInstanceAs (Decidable (_ ∧ _))

instance : DecidablePred SlashSeparated := fun _ => inferInstanceAs (Decidable (_ ∧ _))

/-! ## One template after another -/

lemma IsPlain.tokensOf_append {first second : String} (hfirst : IsPlain first)
    (hsecond : IsPlain second) :
    tokensOf (first ++ second) = tokensOf first ++ tokensOf second := by
  obtain ⟨⟨firsts, hfirsts⟩, _⟩ := hfirst
  obtain ⟨⟨seconds, hseconds⟩, _⟩ := hsecond
  have hboth := Segment.split_append hfirsts hseconds
  rw [← String.toList_append] at hboth
  rw [tokensOf_of_split hboth, tokensOf_of_split hfirsts, tokensOf_of_split hseconds,
    Segment.tokens_glue]

lemma IsPlain.append {first second : String} (hfirst : IsPlain first) (hsecond : IsPlain second) :
    IsPlain (first ++ second) := by
  obtain ⟨firsts, hfirsts⟩ := hfirst.1
  obtain ⟨seconds, hseconds⟩ := hsecond.1
  refine ⟨⟨Segment.glue firsts seconds, ?_⟩, ?_⟩
  · rw [String.toList_append]
    exact Segment.split_append hfirsts hseconds
  · rw [hfirst.tokensOf_append hsecond, List.all_append, hfirst.2, hsecond.2]
    rfl

lemma SlashSeparated.head?_tokensOf {template : String} (h : SlashSeparated template) :
    ((tokensOf template).head?.all fun t => t == Token.letter '/') = true := by
  obtain ⟨⟨⟨segments, hsplit⟩, _⟩, hhead, _⟩ := h
  rw [tokensOf_of_split hsplit]
  rw [Segment.split] at hsplit
  cases htext : template.toList with
  | nil =>
    rw [htext] at hsplit
    obtain rfl : [Segment.literal []] = segments := Except.ok.inj hsplit
    rfl
  | cons c rest =>
    rw [htext] at hhead hsplit
    obtain rfl : c = '/' := by simpa using hhead
    have hnext : Segment.splitFrom 0 ['/'] rest = .ok segments := by
      simpa [Segment.splitFrom] using hsplit
    obtain ⟨more, tail, rfl⟩ := Segment.splitFrom_starts hnext
    rfl

/-- Slash-separated templates one after the other are slash-separated. -/
theorem SlashSeparated.append {first second : String} (hfirst : SlashSeparated first)
    (hsecond : SlashSeparated second) : SlashSeparated (first ++ second) := by
  refine ⟨hfirst.1.append hsecond.1, ?_, ?_⟩
  · rw [String.toList_append]
    cases htext : first.toList with
    | nil => simpa using hsecond.2.1
    | cons c rest =>
      have := hfirst.2.1
      rw [htext] at this
      exact this
  · rw [hfirst.1.tokensOf_append hsecond.1]
    exact Token.areSeparated_append hfirst.2.2 hsecond.2.2 hsecond.head?_tokensOf

end UriRouting
