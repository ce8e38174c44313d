import UriRouting.Text.Scan

/-!
# Lines of TOML

A line ends with a line feed, which a carriage return may stand before; a carriage return alone is
nowhere allowed.  Comments go to the end of their line and hold no control character but the tab.
-/

namespace UriRouting.Toml

/-- Is the character a blank inside a line? -/
def isGap (c : Char) : Bool := c == ' ' || c == '\t'

/-- May the character stand in a comment or in a quoted text? -/
def isShown (c : Char) : Bool := c == '\t' || (decide (0x20 ≤ c.toNat) && c != '\x7f')

/-- Takes the blanks of a line. -/
def gap : Scan Unit := discard (Scan.span isGap)

/-- Takes the end of a line. -/
def lineBreak : Scan Unit := Scan.sign '\n' <|> Scan.signs ['\r', '\n']

/-- Takes a comment. -/
def comment : Scan Unit := do
  Scan.sign '#'
  discard (Scan.span isShown)

/-- Takes the end of a line, or nothing at the end of the text. -/
def lineEnd : Scan Unit := lineBreak <|> do Scan.check (← Scan.rest).isEmpty

/-- Takes what may stand behind a statement. -/
def trailing : Scan Unit := do
  gap
  let _ ← Scan.optional comment
  lineEnd

/-- Takes blanks, comments and ends of lines.  Each round takes a character, so `fuel` bounds the
rounds. -/
def spaceWithin : Nat → Scan Unit
  | 0 => pure ()
  | fuel + 1 => do
    gap
    match ← Scan.peek with
    | some '#' => do
      comment
      lineBreak
      spaceWithin fuel
    | some '\n' | some '\r' => do
      lineBreak
      spaceWithin fuel
    | _ => pure ()

/-- Takes blanks, comments and ends of lines. -/
def space : Scan Unit := do spaceWithin ((← Scan.rest).length + 1)

end UriRouting.Toml
