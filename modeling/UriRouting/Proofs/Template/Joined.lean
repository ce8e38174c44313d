import Mathlib.Tactic
import UriRouting.Proofs.Template.Plain

/-!
# Templates written one after the other

The full template of a route is a text only, and it is scanned again whenever a path is built from
it.  The scan has to find the placeholders of the templates that were written one after the other,
each where it stands in its own template, and no others.

Where the braces of two templates are in order, `Segment.split` cuts their concatenation into
`Segment.glue` of their segments.  The lemmas here say what this comes to for everything that is
read off the segments: the placeholders with their byte offsets (`locate_append`), their bodies
(`bodies_glue`), and the text with values in their places (`fill_glue`).
-/

namespace UriRouting

@[simp] lemma Utf8.byteLength_append (first second : List Char) :
    byteLength (first ++ second) = byteLength first + byteLength second := by
  induction first with
  | nil => simp [byteLength]
  | cons c first ih =>
    simp only [byteLength, List.cons_append, List.foldr_cons] at ih ⊢
    rw [ih, Nat.add_assoc]

lemma Token.fill_append {first second : List Token} {values more : List (List Char)}
    (h : values.length = (names first).length) :
    fill (first ++ second) (values ++ more) = fill first values ++ fill second more := by
  induction first generalizing values with
  | nil =>
    obtain rfl : values = [] := List.eq_nil_of_length_eq_zero (by simpa [names] using h)
    rfl
  | cons t first ih =>
    cases t with
    | letter c => exact congrArg (c :: ·) (ih (by simpa [names] using h))
    | slot name =>
      cases values with
      | nil => simp [names] at h
      | cons value values =>
        have hcount : values.length = (names first).length := by simpa [names] using h
        have hrest := ih hcount
        simp only [List.cons_append, fill, hrest, List.append_assoc]

namespace Segment

/-! ## Placeholders with their offsets -/

/-- The same placeholder where so many bytes more stand in front of it. -/
def Located.shift (offset : Nat) (l : Located) : Located :=
  { l with opening := offset + l.opening, closing := offset + l.closing }

@[simp] lemma Located.shift_zero (l : Located) : l.shift 0 = l := by
  simp [shift]

@[simp] lemma Located.shift_shift (offset more : Nat) (l : Located) :
    (l.shift more).shift offset = l.shift (offset + more) := by
  simp [shift, Nat.add_assoc]

lemma locateFrom_add (offset start : Nat) (segments : List Segment) :
    locateFrom (offset + start) segments = (locateFrom start segments).map (.shift offset) := by
  induction segments generalizing start with
  | nil => rfl
  | cons s rest ih =>
    cases s with
    | literal text =>
      rw [locateFrom, locateFrom, ← ih]
      congr 1
      omega
    | placeholder body =>
      rw [locateFrom, locateFrom, List.map_cons, ← ih]
      simp only [Located.shift, List.cons.injEq, Located.mk.injEq, true_and, and_true]
      refine ⟨by omega, ?_⟩
      congr 1
      omega

lemma byteLength_placeholder (body : List Char) :
    Utf8.byteLength (text (placeholder body)) = 1 + Utf8.byteLength body + 1 := by
  have htext : text (placeholder body) = ['\x7b'] ++ body ++ ['\x7d'] := rfl
  rw [htext, Utf8.byteLength_append, Utf8.byteLength_append]
  rfl

/-- Behind the placeholders of the first segments come those of the second ones. -/
lemma locateFrom_glue (start : Nat) (first second : List Segment) :
    locateFrom start (glue first second) =
      locateFrom start first ++ locateFrom (start + Utf8.byteLength (join first)) second := by
  induction first generalizing start with
  | nil => rfl
  | cons s first ih =>
    have hjoin : join (s :: first) = s.text ++ join first := rfl
    cases s with
    | placeholder body =>
      rw [glue_placeholder, locateFrom, locateFrom, ih, hjoin, Utf8.byteLength_append,
        byteLength_placeholder, List.cons_append]
      congr 3
      omega
    | literal text =>
      cases first with
      | cons t first =>
        rw [glue_cons_cons, locateFrom, locateFrom, ih, hjoin, Utf8.byteLength_append]
        congr 2
        exact Nat.add_assoc _ _ _
      | nil =>
        have hone : Utf8.byteLength (join [literal text]) = Utf8.byteLength text := by
          rw [hjoin, Utf8.byteLength_append]
          rfl
        rw [hone]
        -- A literal that begins the second segments is joined with this one.
        cases second with
        | nil => rfl
        | cons t second =>
          cases t with
          | placeholder body => rfl
          | literal more =>
            simp only [glue, locateFrom, Utf8.byteLength_append, List.nil_append, Nat.add_assoc]

/-- The placeholders of two templates, found where the templates are one. -/
theorem locate_append {first second : List Char} {firsts seconds : List Located}
    (hfirst : locate first = .ok firsts) (hsecond : locate second = .ok seconds) :
    locate (first ++ second) =
      .ok (firsts ++ seconds.map (.shift (Utf8.byteLength first))) := by
  unfold locate at hfirst hsecond ⊢
  cases hf : split first with
  | error _ => simp [hf, Except.map] at hfirst
  | ok first' =>
    cases hs : split second with
    | error _ => simp [hs, Except.map] at hsecond
    | ok second' =>
      obtain rfl : locateFrom 0 first' = firsts := by simpa [hf, Except.map] using hfirst
      obtain rfl : locateFrom 0 second' = seconds := by simpa [hs, Except.map] using hsecond
      have hboth := split_append hf hs
      have hlength : join first' = first := join_split hf
      rw [hboth, Except.map, locateFrom_glue, hlength, Nat.zero_add, ← locateFrom_add, Nat.add_zero]

/-! ## Bodies and values -/

lemma bodies_glue (first second : List Segment) :
    bodies (glue first second) = bodies first ++ bodies second := by
  simp only [← names_tokens, tokens_glue, Token.names_append]

lemma fill_glue {first second : List Segment} {values more : List String}
    (hfirst : values.length = (bodies first).length)
    (hsecond : more.length = (bodies second).length) :
    fill (glue first second) (values ++ more) = fill first values ++ fill second more := by
  have hboth : (values ++ more).length = (bodies (glue first second)).length := by
    rw [bodies_glue, List.length_append, List.length_append, hfirst, hsecond]
  have hnames : (values.map String.toList).length = (Token.names (tokens first)).length := by
    rw [List.length_map, names_tokens, hfirst]
  rw [fill_eq_fill_tokens _ _ hboth, fill_eq_fill_tokens _ _ hfirst,
    fill_eq_fill_tokens _ _ hsecond, tokens_glue, List.map_append, Token.fill_append hnames]

end Segment

end UriRouting
