import UriRouting.Text.CharSet

/-!
# Ranges of characters as ranges of bytes

The UTF-8 forms of the characters of a range are those of some rows of byte ranges: a row stands for
every string that takes its first byte from the first range, its second byte from the second one,
and so on.  `byteRows` gives the rows of a set in increasing order.
-/

namespace UriRouting.Utf8

/-- A range of bytes for each byte of a form. -/
abbrev ByteRow := List (Nat × Nat)

/-- Any continuation bytes. -/
def anyContinuation (count : Nat) : ByteRow := List.replicate count (0x80, 0xBF)

/-- The rows of the numbers of a range, each written with so many base-64 digits behind its first
digit.  `lead` is added to the first digit. -/
def rowsOfDigits (lead : Nat) : Nat → Nat → Nat → List ByteRow
  | 0, low, high => [[(lead + low, lead + high)]]
  | more + 1, low, high =>
    let unit := 64 ^ (more + 1)
    let first := low / unit
    let last := high / unit
    let under := fun digit low high =>
      (rowsOfDigits 0x80 more low high).map ((lead + digit, lead + digit) :: ·)
    if first = last then under first (low % unit) (high % unit)
    else
      let startsFull := low % unit = 0
      let endsFull := high % unit = unit - 1
      let from_ := if startsFull then first else first + 1
      let past := if endsFull then last + 1 else last
      (if startsFull then [] else under first (low % unit) (unit - 1)) ++
        (if from_ < past then
          [(lead + from_, lead + past - 1) :: anyContinuation (more + 1)] else []) ++
        (if endsFull then [] else under last 0 (high % unit))

/-- The rows of the part of a range between two bounds. -/
def rowsBetween (least most lead more : Nat) (r : Nat × Nat) : List ByteRow :=
  let low := max least r.1
  let high := min most r.2
  if low ≤ high then rowsOfDigits lead more low high else []

/-- The rows of a range of code points; surrogates have no form. -/
def rowsOfRange (r : Nat × Nat) : List ByteRow :=
  rowsBetween 0 0x7F 0 0 r ++ rowsBetween 0x80 0x7FF 0xC0 1 r ++
    rowsBetween 0x800 0xD7FF 0xE0 2 r ++ rowsBetween 0xE000 0xFFFF 0xE0 2 r ++
    rowsBetween 0x10000 0x10FFFF 0xF0 3 r

/-- The rows of a set. -/
def byteRows (s : CharSet) : List ByteRow := s.ranges.flatMap rowsOfRange

/-- How many ranges two rows have in common from their start. -/
def sharedRanges : ByteRow → ByteRow → Nat
  | a :: as, b :: bs => if a = b then sharedRanges as bs + 1 else 0
  | _, _ => 0

/-- How many different starts rows have that stand in increasing order. -/
def countStarts (previous : ByteRow) : List ByteRow → Nat
  | [] => 0
  | row :: rest => row.length - sharedRanges previous row + countStarts row rest

end UriRouting.Utf8
