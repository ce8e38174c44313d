import UriRouting.Text.Blank

/-!
# Flags of an expression

Flags change how the text of an expression is read.  They are switched on and off inside the
expression and hold up to the end of the group.
-/

namespace UriRouting

/-- The flags in force at a place of an expression's text. -/
structure Flags where
  /-- Letters match in either case. -/
  caseless : Bool := false
  /-- The anchors match at every line. -/
  multiLine : Bool := false
  /-- The dot matches line ends too. -/
  dotAll : Bool := false
  /-- Iterations are lazy, and those marked lazy are greedy. -/
  swapGreed : Bool := false
  /-- Classes range over all characters, not only over ASCII. -/
  unicode : Bool := true
  /-- A carriage return ends a line as well. -/
  crlf : Bool := false
  /-- White space and comments in the text do not count. -/
  extended : Bool := false
deriving DecidableEq

namespace Flags

/-- Switches the flag of a letter on or off. -/
def set? (flags : Flags) (letter : Char) (on : Bool) : Option Flags :=
  if letter = 'i' then some { flags with caseless := on }
  else if letter = 'm' then some { flags with multiLine := on }
  else if letter = 's' then some { flags with dotAll := on }
  else if letter = 'U' then some { flags with swapGreed := on }
  else if letter = 'u' then some { flags with unicode := on }
  else if letter = 'R' then some { flags with crlf := on }
  else if letter = 'x' then some { flags with extended := on }
  else none

/-- Drops white space and comments; a comment goes from `#` to the end of the line. -/
def dropLayout (inComment : Bool) : List Char → List Char
  | [] => []
  | c :: rest =>
    if inComment then dropLayout (c != '\n') rest
    else if isBlank c then dropLayout false rest
    else if c = '#' then dropLayout true rest
    else c :: rest

/-- The text from the next character that counts. -/
def skip (flags : Flags) (text : List Char) : List Char :=
  if flags.extended then dropLayout false text else text

/-- The character after the present one, with one comment sign passed over, as the end of a range
inside a class is looked for. -/
def peekLayout (inComment : Bool) : List Char → Option Char
  | [] => none
  | c :: rest =>
    if isBlank c then peekLayout inComment rest
    else if !inComment && c = '#' then peekLayout true rest
    else some c

/-- The character that follows the first one, past what does not count. -/
def peek (flags : Flags) (text : List Char) : Option Char :=
  let following := text.drop 1
  if flags.extended then (peekLayout false following).or following.head? else following.head?

theorem dropLayout_length (inComment : Bool) (text : List Char) :
    (dropLayout inComment text).length ≤ text.length := by
  induction text generalizing inComment with
  | nil => simp [dropLayout]
  | cons c rest ih =>
    simp only [dropLayout]
    split
    · exact Nat.le_succ_of_le (ih _)
    · split
      · exact Nat.le_succ_of_le (ih _)
      · split
        · exact Nat.le_succ_of_le (ih _)
        · exact Nat.le_refl _

theorem skip_length (flags : Flags) (text : List Char) :
    (flags.skip text).length ≤ text.length := by
  unfold skip
  split
  · exact dropLayout_length _ _
  · exact Nat.le_refl _

end Flags

end UriRouting
