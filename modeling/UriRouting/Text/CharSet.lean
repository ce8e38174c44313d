/-!
# Sets of characters

A set of characters is a list of inclusive ranges of code points.  The operations return the
ranges in increasing order with a gap between any two of them, so sets that the operations built
and that hold the same characters are equal as values.
-/

namespace UriRouting

/-- A set of characters, as inclusive ranges of code points. -/
structure CharSet where
  ranges : List (Nat × Nat)
deriving DecidableEq, Inhabited

namespace CharSet

/-- The largest code point. -/
def maxCode : Nat := 0x10FFFF

/-! ## Membership -/

/-- Is the code point in one of the ranges? -/
def containsCode (s : CharSet) (n : Nat) : Bool :=
  s.ranges.any fun r => decide (r.1 ≤ n) && decide (n ≤ r.2)

/-- Is the character in the set? -/
def contains (s : CharSet) (c : Char) : Bool := s.containsCode c.toNat

instance : Membership Char CharSet := ⟨fun s c => s.contains c = true⟩

instance (c : Char) (s : CharSet) : Decidable (c ∈ s) :=
  inferInstanceAs (Decidable (s.contains c = true))

/-! ## Ranges in increasing order -/

/-- Joins a range with the ones after it, which start no earlier, where they touch. -/
def joinInto (current : Nat × Nat) : List (Nat × Nat) → List (Nat × Nat)
  | [] => [current]
  | next :: rest =>
    if next.1 ≤ current.2 + 1 then joinInto (current.1, max current.2 next.2) rest
    else current :: joinInto next rest

/-- Sorted and joined ranges with the same code points; empty ranges are dropped. -/
def normal (ranges : List (Nat × Nat)) : List (Nat × Nat) :=
  match (ranges.filter fun r => decide (r.1 ≤ r.2)).mergeSort fun a b => decide (a.1 ≤ b.1) with
  | [] => []
  | first :: rest => joinInto first rest

/-- The set of the code points in some ranges, given in any order. -/
def ofRanges (ranges : List (Nat × Nat)) : CharSet := ⟨normal ranges⟩

/-- The set of the code points from the first to the second. -/
def ofRange (low high : Nat) : CharSet := ofRanges [(low, high)]

/-- The set of one character. -/
def singleton (c : Char) : CharSet := ⟨[(c.toNat, c.toNat)]⟩

/-- The empty set. -/
def empty : CharSet := ⟨[]⟩

/-- The set of all characters. -/
def all : CharSet := ⟨[(0, maxCode)]⟩

/-- Has the set no character? -/
def isEmpty (s : CharSet) : Bool := s.ranges.isEmpty

/-! ## Operations -/

/-- Characters of either set. -/
def union (s t : CharSet) : CharSet := ofRanges (s.ranges ++ t.ranges)

/-- What increasing ranges leave over, from a code point on. -/
def gaps (start : Nat) : List (Nat × Nat) → List (Nat × Nat)
  | [] => if start ≤ maxCode then [(start, maxCode)] else []
  | r :: rest =>
    if start < r.1 then (start, r.1 - 1) :: gaps (r.2 + 1) rest else gaps (r.2 + 1) rest

/-- Characters outside the set. -/
def compl (s : CharSet) : CharSet := ⟨gaps 0 (normal s.ranges)⟩

/-- Characters of both sets. -/
def inter (s t : CharSet) : CharSet := (s.compl.union t.compl).compl

/-- Characters of the first set outside the second. -/
def diff (s t : CharSet) : CharSet := s.inter t.compl

/-- Characters of exactly one of the two sets. -/
def symmDiff (s t : CharSet) : CharSet := (s.diff t).union (t.diff s)

/-! ## Written tables

A table is written as ranges `41-5A` of hexadecimal code points with blanks between them.  A
single code point stands alone, and `100-136/2` is every second code point from the first to the
last.
-/

/-- The ranges that one entry of a written table stands for; its numbers come last first. -/
def entryRanges : List Nat → List (Nat × Nat)
  | [] => []
  | [code] => [(code, code)]
  | [last, first] => [(first, last)]
  | step :: last :: first :: _ =>
    (List.range ((last - first) / step + 1)).map fun i => (first + i * step, first + i * step)

/-- The value of an upper-case hexadecimal digit. -/
def tableDigit (c : Char) : Nat :=
  if c.toNat < 0x41 then c.toNat - 0x30 else c.toNat - 0x37

/-- Reads a written table one character at a time, with the numbers of the entry so far, last
first. -/
def readTable : List Char → List Nat → List (Nat × Nat)
  | [], entry => entryRanges entry
  | c :: rest, entry =>
    if c == ' ' then entryRanges entry ++ readTable rest []
    else if c == '-' || c == '/' then readTable rest (0 :: entry)
    else match entry with
      | [] => readTable rest [tableDigit c]
      | n :: others => readTable rest ((n * 16 + tableDigit c) :: others)

/-- The set that a written table describes; the table is cut into lines between two entries. -/
def ofTable (lines : List String) : CharSet :=
  ofRanges (lines.flatMap fun line => readTable line.toList [])

/-- The table that goes by a name, among tables with all their names. -/
def tableNamed? (tables : List (List String × List String)) (name : String) :
    Option (List String) :=
  (tables.find? fun t => t.1.contains name).map Prod.snd

end CharSet

end UriRouting
