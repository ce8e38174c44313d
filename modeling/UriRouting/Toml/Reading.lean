import UriRouting.Toml.Assembly
import UriRouting.Toml.Moment
import UriRouting.Toml.Quoted

/-!
# Reading TOML

`Toml.ofText?` reads a document.  A document is read statement by statement; each takes at least one
character, so the length of the text bounds the rounds.
-/

namespace UriRouting.Toml

/-- How many parts a key may have, and how deeply values may be nested; both stay below. -/
def nestingLimit : Nat := 80

/-! ## Keys -/

/-- May the character stand in a key without quotes? -/
def isBare (c : Char) : Bool := c.isAlphanum || c == '-' || c == '_'

/-- Takes one part of a key. -/
def keyPart : Scan String := do
  gap
  let part ← quotedLine '"' <|> quotedLine '\'' <|>
    (do return String.ofList (← Scan.spanSome isBare))
  gap
  return part

/-- Takes the parts of a key behind its first.  Each round takes a dot, so `fuel` bounds the
rounds. -/
def keyParts : Nat → Scan (List String)
  | 0 => return []
  | fuel + 1 => do
    if (← Scan.peek) == some '.' then
      Scan.sign '.'
      return (← keyPart) :: (← keyParts fuel)
    else return []

/-- Takes a key. -/
def key : Scan (List String) := do
  let parts := (← keyPart) :: (← keyParts (← Scan.rest).length)
  Scan.check (decide (parts.length < nestingLimit))
  return parts

/-! ## Values -/

/-- Takes a value that holds no other values. -/
def scalar : Scan Value :=
  (return .text (← quotedText)) <|>
  (return .moment (← moment)) <|>
  (return .float (← float)) <|>
  (return .integer (← integer)) <|>
  (do Scan.signs "true".toList; return .boolean true) <|>
  (do Scan.signs "false".toList; return .boolean false)

mutual

/-- Takes a value inside `depth` others.  A value or an item takes a character before the next one
begins, so `fuel` bounds the rounds. -/
def valueWithin : Nat → Nat → Scan Value
  | 0, _ => failure
  | fuel + 1, depth => do
    match ← Scan.peek with
    | some '[' =>
      Scan.check (decide (depth + 1 < nestingLimit))
      Scan.sign '['
      return .array .inline (← itemsWithin fuel (depth + 1))
    | some '\x7b' =>
      Scan.check (decide (depth + 1 < nestingLimit))
      Scan.sign '\x7b'
      gap
      if (← Scan.peek) == some '\x7d' then
        Scan.sign '\x7d'
        return .table .inline []
      else
        match assignAll (← pairsWithin fuel (depth + 1)) [] with
        | some entries => return .table .inline entries
        | none => failure
    | _ => scalar

/-- Takes items up to the closing bracket; a comma may stand behind the last one. -/
def itemsWithin : Nat → Nat → Scan (List Value)
  | 0, _ => failure
  | fuel + 1, depth => do
    space
    if (← Scan.peek) == some ']' then
      Scan.sign ']'
      return []
    else
      let item ← valueWithin fuel depth
      space
      if (← Scan.peek) == some ',' then
        Scan.sign ','
        return item :: (← itemsWithin fuel depth)
      else
        Scan.sign ']'
        return [item]

/-- Takes assignments up to the closing brace. -/
def pairsWithin : Nat → Nat → Scan (List Assignment)
  | 0, _ => failure
  | fuel + 1, depth => do
    let path ← key
    Scan.sign '='
    gap
    let value ← valueWithin fuel depth
    gap
    if (← Scan.peek) == some ',' then
      Scan.sign ','
      return ⟨path, value⟩ :: (← pairsWithin fuel depth)
    else
      Scan.sign '\x7d'
      return [⟨path, value⟩]

end

/-- Takes a value. -/
def value : Scan Value := do valueWithin (2 * (← Scan.rest).length + 2) 0

/-! ## Statements -/

/-- Takes an assignment with its line. -/
def assignment : Scan Assignment := do
  let path ← key
  Scan.sign '='
  gap
  let value ← value
  trailing
  return ⟨path, value⟩

/-- Takes a heading with its line. -/
def heading : Scan Heading := do
  Scan.sign '['
  let isArray ← (do Scan.sign '['; return true) <|> return false
  let path ← key
  Scan.signs (if isArray then [']', ']'] else [']'])
  trailing
  return ⟨isArray, path⟩

/-- Takes statements to the end of the text.  `current` is the section so far with its assignments
last first, and `done` the sections before it, last first. -/
def sectionsWithin : Nat → Section → List Section → Scan (List Section)
  | 0, _, _ => failure
  | fuel + 1, current, done => do
    let finished := { current with assignments := current.assignments.reverse }
    gap
    match ← Scan.peek with
    | none => return (finished :: done).reverse
    | some '#' =>
      trailing
      sectionsWithin fuel current done
    | some '\n' | some '\r' =>
      lineBreak
      sectionsWithin fuel current done
    | some '[' =>
      sectionsWithin fuel ⟨some (← heading), []⟩ (finished :: done)
    | some _ =>
      let a ← assignment
      sectionsWithin fuel { current with assignments := a :: current.assignments } done

/-- Takes all sections of a document; a byte-order mark may stand before them. -/
def sections : Scan (List Section) := do
  let _ ← Scan.optional (Scan.sign '\uFEFF')
  sectionsWithin ((← Scan.rest).length + 1) ⟨none, []⟩ []

/-- The root table of the document that a text writes. -/
def ofText? (text : List Char) : Option Entries := (Scan.whole? sections text).bind ofSections

end UriRouting.Toml
