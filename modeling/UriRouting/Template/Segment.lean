import UriRouting.Text.Utf8

/-!
# Segments of a template

A template is literal text with placeholders between braces.  Braces nest inside a placeholder; the
outermost pair delimits it.  `Segment.split` cuts a template into a literal, a placeholder, a
literal, … and ends with a literal, which may be empty like any other.

`join_split` says that nothing is lost: the segments written out again are the template.
-/

namespace UriRouting

/-- A piece of a template. -/
inductive Segment
  /-- Text between two placeholders. -/
  | literal (text : List Char)
  /-- A placeholder, given by the text between its braces. -/
  | placeholder (body : List Char)
deriving DecidableEq

/-- Why a template has no segments. -/
inductive BraceFault
  /-- A brace has no partner. -/
  | unbalanced
  /-- Nothing stands between the braces of a placeholder. -/
  | emptyPlaceholder
deriving DecidableEq

namespace Segment

/-- Cuts the text that follows `current`, which is the beginning of a segment, last character
first.  The depth is the number of braces that are open: the segment is a literal at depth zero and
a placeholder otherwise. -/
def splitFrom (depth : Nat) (current : List Char) : List Char → Except BraceFault (List Segment)
  | [] => if depth = 0 then .ok [literal current.reverse] else .error .unbalanced
  | c :: rest =>
    if c = '\x7b' then
      match depth with
      | 0 => (splitFrom 1 [] rest).map (literal current.reverse :: ·)
      | depth + 1 => splitFrom (depth + 2) (c :: current) rest
    else if c = '\x7d' then
      match depth with
      | 0 => .error .unbalanced
      | 1 =>
        if current.isEmpty then .error .emptyPlaceholder
        else (splitFrom 0 [] rest).map (placeholder current.reverse :: ·)
      | depth + 2 => splitFrom (depth + 1) (c :: current) rest
    else splitFrom depth (c :: current) rest

/-- The segments of a template. -/
def split (template : List Char) : Except BraceFault (List Segment) := splitFrom 0 [] template

/-- The text that a segment stands for in its template. -/
def text : Segment → List Char
  | literal text => text
  | placeholder body => '\x7b' :: body ++ ['\x7d']

/-- The segments written out. -/
def join (segments : List Segment) : List Char := segments.flatMap text

/-- The bodies of the placeholders, in order. -/
def bodies : List Segment → List (List Char)
  | [] => []
  | literal _ :: rest => bodies rest
  | placeholder body :: rest => body :: bodies rest

/-! ## Offsets -/

/-- A placeholder with the byte offsets of its braces. -/
structure Located where
  opening : Nat
  closing : Nat
  body : List Char
deriving DecidableEq

/-- The placeholders of segments of which the first starts at a byte offset. -/
def locateFrom (offset : Nat) : List Segment → List Located
  | [] => []
  | literal text :: rest => locateFrom (offset + Utf8.byteLength text) rest
  | placeholder body :: rest =>
    let closing := offset + 1 + Utf8.byteLength body
    ⟨offset, closing, body⟩ :: locateFrom (closing + 1) rest

/-- The placeholders of a template with the byte offsets of their braces. -/
def locate (template : List Char) : Except BraceFault (List Located) :=
  (split template).map (locateFrom 0)

/-! ## Nothing is lost -/

/-- What a segment that has been begun stands for in its template. -/
def begun (depth : Nat) (current : List Char) : List Char :=
  (if depth = 0 then [] else ['\x7b']) ++ current.reverse

theorem join_splitFrom {depth : Nat} {current template : List Char} {segments : List Segment}
    (h : splitFrom depth current template = .ok segments) :
    join segments = begun depth current ++ template := by
  induction template generalizing depth current segments with
  | nil =>
    simp only [splitFrom] at h
    split at h
    · next hd =>
      cases h
      simp [join, begun, text, hd]
    · cases h
  | cons c rest ih =>
    simp only [splitFrom] at h
    split at h
    · next hc =>
      subst hc
      split at h
      · cases hr : splitFrom 1 [] rest with
        | error _ => rw [hr] at h; cases h
        | ok tail =>
          rw [hr] at h
          cases h
          have := ih hr
          simp only [join, begun] at this
          simp [join, begun, text, this]
      · have := ih h
        simp only [begun] at this
        simp [begun, this]
    · split at h
      · next hc =>
        subst hc
        split at h
        · cases h
        · split at h
          · cases h
          · cases hr : splitFrom 0 [] rest with
            | error _ => rw [hr] at h; cases h
            | ok tail =>
              rw [hr] at h
              cases h
              have := ih hr
              simp only [join, begun] at this
              simp [join, begun, text, this]
        · have := ih h
          simp only [begun] at this
          simp [begun, this]
      · have := ih h
        simp only [begun] at this
        simp [begun, this]

/-- The segments of a template written out are the template. -/
theorem join_split {template : List Char} {segments : List Segment}
    (h : split template = .ok segments) : join segments = template := by
  simpa [begun] using join_splitFrom h

end Segment

end UriRouting
