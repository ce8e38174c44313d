/-!
# Scanning

A scan reads something from the front of a text and leaves the rest, or fails.  Scans are composed
by `do`, and `a <|> b` tries `b` on the whole text where `a` fails.
-/

namespace UriRouting

/-- Reads from the front of a text, or fails. -/
abbrev Scan (α : Type) := StateT (List Char) Option α

namespace Scan

/-- What is left of the text. -/
def rest : Scan (List Char) := get

/-- The next character, which is not taken; there is none at the end. -/
def peek : Scan (Option Char) := return (← rest).head?

/-- Goes on only if a condition holds. -/
def check (condition : Bool) : Scan Unit := if condition then pure () else failure

/-- Takes a character of some kind. -/
def one (kind : Char → Bool) : Scan Char := fun text =>
  match text with
  | c :: rest => if kind c then some (c, rest) else none
  | [] => none

/-- Takes one given character. -/
def sign (c : Char) : Scan Unit := discard (one (· == c))

/-- Takes given characters. -/
def signs (lead : List Char) : Scan Unit := fun text =>
  if lead.isPrefixOf text then some ((), text.drop lead.length) else none

/-- Takes as many characters of some kind as there are. -/
def span (kind : Char → Bool) : Scan (List Char) := fun text =>
  some (text.takeWhile kind, text.dropWhile kind)

/-- Takes as many characters of some kind as there are, and at least one. -/
def spanSome (kind : Char → Bool) : Scan (List Char) := do
  let taken ← span kind
  check (!taken.isEmpty)
  return taken

/-- Takes a number of characters, all of some kind. -/
def exactly (count : Nat) (kind : Char → Bool) : Scan (List Char) := fun text =>
  let taken := text.take count
  if taken.length = count ∧ taken.all kind then some (taken, text.drop count) else none

/-- Tries a scan, and leaves the text as it is where it fails. -/
def optional {α : Type} (scan : Scan α) : Scan (Option α) := fun text =>
  match scan text with
  | some (a, rest) => some (some a, rest)
  | none => some (none, text)

/-- The characters that a scan takes. -/
def taken {α : Type} (scan : Scan α) : Scan (List Char) := fun text =>
  (scan text).map fun r => (text.take (text.length - r.2.length), r.2)

/-- What a scan makes of a whole text. -/
def whole? {α : Type} (scan : Scan α) (text : List Char) : Option α :=
  match scan text with
  | some (a, []) => some a
  | _ => none

end Scan

end UriRouting
