import UriRouting.Text.Digit
import UriRouting.Toml.Line

/-!
# Quoted text in TOML

Text stands between double quotes, where a backslash escapes, or between single quotes, where
nothing does.  Three quotes in place of one allow several lines.  There a line break right behind
the opening quotes does not count, every other is a line feed, and a backslash before a line break
leaves out the break and all blanks and breaks after it.  One or two quotes may stand anywhere in
such a text, even right before the closing ones.
-/

namespace UriRouting.Toml

/-! ## Escapes -/

/-- Takes a number of hexadecimal digits and gives the character of that code point. -/
def codePoint (count : Nat) : Scan Char := do
  let ds ← Scan.exactly count fun c => (hexDigit? c).isSome
  match (hexNumber? ds).bind charOfCode? with
  | some c => return c
  | none => failure

/-- Takes what follows a backslash. -/
def escape : Scan Char := do
  match ← Scan.one fun _ => true with
  | 'b' => return '\x08'
  | 't' => return '\t'
  | 'n' => return '\n'
  | 'f' => return '\x0c'
  | 'r' => return '\r'
  | '"' => return '"'
  | '\\' => return '\\'
  | 'u' => codePoint 4
  | 'U' => codePoint 8
  | _ => failure

/-! ## One line -/

/-- Takes text up to the closing quote, with escapes where the quote is a double one.  Each round
takes a character, so `fuel` bounds the rounds. -/
def lineOfText (quote : Char) : Nat → Scan (List Char)
  | 0 => failure
  | fuel + 1 => do
    let c ← Scan.one isShown
    if c == quote then return []
    else if c == '\\' && quote == '"' then return (← escape) :: (← lineOfText quote fuel)
    else return c :: (← lineOfText quote fuel)

/-! ## Several lines -/

/-- Takes the rest of a line that ends with a backslash, and the blanks and breaks after it.  The
backslash has been taken. -/
def continuation : Scan Unit := do
  gap
  lineBreak
  repeatBreaks (← Scan.rest).length
where
  /-- Takes blanks and breaks; each round takes a break, so the number bounds the rounds. -/
  repeatBreaks : Nat → Scan Unit
    | 0 => gap
    | fuel + 1 => do
      gap
      if (← Scan.optional lineBreak).isSome then repeatBreaks fuel

/-- Takes text up to the three closing quotes, with escapes where the quotes are double ones.  Each
round takes a character, so `fuel` bounds the rounds. -/
def linesOfText (quote : Char) : Nat → Scan (List Char)
  | 0 => failure
  | fuel + 1 => do
    match ← Scan.peek with
    | none => failure
    | some c =>
      if c == quote then
        let quotes := (← Scan.span (· == quote)).length
        if quotes < 3 then return List.replicate quotes quote ++ (← linesOfText quote fuel)
        else
          Scan.check (decide (quotes ≤ 5))
          return List.replicate (quotes - 3) quote
      else if c == '\\' && quote == '"' then
        Scan.sign '\\'
        if (← Scan.optional continuation).isSome then linesOfText quote fuel
        else return (← escape) :: (← linesOfText quote fuel)
      else if isShown c then
        Scan.sign c
        return c :: (← linesOfText quote fuel)
      else
        lineBreak
        return '\n' :: (← linesOfText quote fuel)

/-! ## Quoted text -/

/-- Takes a text of one line between quotes. -/
def quotedLine (quote : Char) : Scan String := do
  Scan.sign quote
  return String.ofList (← lineOfText quote (← Scan.rest).length)

/-- Takes a text of several lines between three quotes. -/
def quotedLines (quote : Char) : Scan String := do
  Scan.signs [quote, quote, quote]
  let _ ← Scan.optional lineBreak
  return String.ofList (← linesOfText quote (← Scan.rest).length)

/-- Takes a quoted text of any form. -/
def quotedText : Scan String :=
  quotedLines '"' <|> quotedLine '"' <|> quotedLines '\'' <|> quotedLine '\''

end UriRouting.Toml
