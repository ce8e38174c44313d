import UriRouting.Expression.Bracket
import UriRouting.Expression.Footprint

/-!
# Reading an expression

`Expression.ofText` reads the text of an expression, or says why it is none.

Reading keeps the groups that are open.  Each round takes at least one character, so the length of
the text bounds the rounds.  Every part that has been read carries the depth of its nesting, and an
expression that is nested too deeply is refused.
-/

namespace UriRouting.Expression

/-! ## Parts -/

/-- A part of a sequence that has been read. -/
structure Part where
  expression : Expression
  depth : Nat
  /-- The part only sets flags, so nothing can repeat it. -/
  isDirective : Bool := false

/-- What has been read of a group. -/
structure Body where
  /-- The branches before the present one, last first. -/
  branches : List Part
  /-- The parts of the present branch, last first. -/
  parts : List Part

/-- The body of a group that has just been opened. -/
def Body.start : Body := ⟨[], []⟩

/-- Adds a part to the present branch. -/
def Body.add (b : Body) (p : Part) : Body := { b with parts := p :: b.parts }

/-- The deepest of some parts. -/
def deepest (parts : List Part) : Nat := (parts.map Part.depth).foldl max 0

/-- The present branch as one part; a sequence of several parts is one level deep. -/
def Body.branch (b : Body) : Part :=
  match b.parts with
  | [] => ⟨empty, 0, false⟩
  | [p] => ⟨p.expression, p.depth, false⟩
  | ps => ⟨sequence (ps.reverse.map Part.expression), deepest ps + 1, false⟩

/-- Turns to the next branch. -/
def Body.next (b : Body) : Body := ⟨b.branch :: b.branches, []⟩

/-- The whole body as one part; a choice between several branches is one level deep. -/
def Body.whole (b : Body) : Part :=
  match b.branches with
  | [] => b.branch
  | bs => ⟨choice ((b.branch :: bs).reverse.map Part.expression), deepest (b.branch :: bs) + 1,
      false⟩

/-- A group that is open: its number if it captures, the flags outside it and the body around
it. -/
structure OpenGroup where
  index : Option Nat
  flags : Flags
  around : Body

/-- What has been read so far. -/
structure Reader where
  flags : Flags
  body : Body
  opened : List OpenGroup
  /-- How many capturing groups have been opened. -/
  groups : Nat
  /-- The names given to groups. -/
  names : List (List Char)

/-- Nothing has been read. -/
def Reader.start : Reader := ⟨{}, Body.start, [], 0, []⟩

/-- Adds a part to the present branch. -/
def Reader.add (r : Reader) (e : Expression) (depth : Nat) : Reader :=
  { r with body := r.body.add ⟨e, depth, false⟩ }

/-! ## Single characters -/

/-- A character as an expression. -/
def ofLetter (flags : Flags) (c : Char) (asByte : Bool) : Except ExpressionFault Expression :=
  if flags.unicode || c.toNat < 0x80 then .ok (char (foldedSet flags (CharSet.singleton c)))
  else if asByte then .error .beyondAscii
  else .ok (char (CharSet.singleton c))

/-- The dot: any character, or any but the ends of a line. -/
def dot (flags : Flags) : Except ExpressionFault Expression :=
  if !flags.unicode then .error .beyondAscii
  else if flags.dotAll then .ok (char CharSet.all)
  else if flags.crlf then .ok (char (CharSet.ofRanges [(0xA, 0xA), (0xD, 0xD)]).compl)
  else .ok (char (CharSet.singleton '\n').compl)

/-- What an escape stands for, as an expression. -/
def ofAtom (flags : Flags) : Atom → Except ExpressionFault Expression
  | .letter c asByte => ofLetter flags c asByte
  | .set s => .ok (char s)
  | .look test => .ok (look test)

/-! ## Quantifiers -/

/-- Repeats the last part of the present branch. -/
def Reader.quantify (r : Reader) (least : Nat) (most : Option Nat) (lazy : Bool) :
    Except ExpressionFault Reader :=
  match r.body.parts with
  | [] => .error .nothingToRepeat
  | p :: rest =>
    if p.isDirective then .error .nothingToRepeat
    else .ok { r with body := { r.body with
      parts := ⟨repeated p.expression least most (lazy == r.flags.swapGreed), p.depth + 1, false⟩
        :: rest } }

/-- Reads a quantifier of one sign, which a question mark makes lazy. -/
def Reader.sign (r : Reader) (least : Nat) (most : Option Nat) (rest : List Char) :
    Except ExpressionFault (Reader × List Char) :=
  match rest with
  | '?' :: rest => (r.quantify least most true).map (·, rest)
  | _ => (r.quantify least most false).map (·, rest)

/-- Reads the digits of a count.  Each round takes a digit, so `fuel` bounds the rounds. -/
def countDigits (flags : Flags) : Nat → List Char → List Char × List Char
  | 0, text => ([], text)
  | fuel + 1, text =>
    match text with
    | c :: _ =>
      if c.isDigit then
        let r := countDigits flags fuel (advance flags text)
        (c :: r.1, r.2)
      else ([], text)
    | [] => ([], text)

/-- The largest count. -/
def maxCount : Nat := 0xFFFFFFFF

/-- Reads a count with white space around it; no digits give `none`. -/
def count (flags : Flags) (text : List Char) :
    Except ExpressionFault (Option Nat × List Char) :=
  let (digits, rest) := countDigits flags text.length (text.dropWhile isBlank)
  let rest := flags.skip (rest.dropWhile isBlank)
  if digits.isEmpty then .ok (none, rest)
  else match decimalNumber? digits with
    | some n => if n ≤ maxCount then .ok (some n, rest) else .error .countTooLarge
    | none => .error .missingCount

/-- Reads a quantifier between braces from its opening brace on. -/
def Reader.counted (r : Reader) (text : List Char) :
    Except ExpressionFault (Reader × List Char) := do
  if r.body.parts.isEmpty then throw .nothingToRepeat
  let text := advance r.flags text
  if text.isEmpty then throw .unclosedCount
  let (least, rest) ← count r.flags text
  let (least, most, rest) ← (match rest with
    | [] => throw .unclosedCount
    | ',' :: _ =>
      match advance r.flags rest with
      | [] => throw .unclosedCount
      | c :: rest =>
        match least with
        | none => throw .missingCount
        | some least =>
          if c = '\x7d' then return (least, none, c :: rest)
          else do
            match ← count r.flags (c :: rest) with
            | (some most, rest) => return (least, some most, rest)
            | (none, _) => throw .missingCount
    | _ =>
      match least with
      | none => throw .missingCount
      | some n => return (n, some n, rest) :
    Except ExpressionFault (Nat × Option Nat × List Char))
  if rest.head? != some '\x7d' then throw .unclosedCount
  let rest := advance r.flags rest
  let lazy := rest.head? == some '?'
  if (most.map fun m => decide (m < least)).getD false then throw .reversedCount
  let r ← r.quantify least most lazy
  return (r, if lazy then rest.drop 1 else rest)

/-! ## Groups -/

/-- Letters that may begin the name of a group. -/
def alphabetic : CharSet := CharSet.propertySet "alpha"

/-- May the character stand in the name of a group? -/
def isNameLetter (first : Bool) (c : Char) : Bool :=
  c = '_' || alphabetic.contains c ||
    (!first && (c = '.' || c = '[' || c = ']' || CharSet.numbers.contains c))

/-- Reads the name of a group up to the closing angle bracket. -/
def groupName (names : List (List Char)) (text : List Char) :
    Except ExpressionFault (List Char × List Char) :=
  let name := text.takeWhile (· != '>')
  match name, text.dropWhile (· != '>') with
  | first :: others, _ :: rest =>
    if !isNameLetter true first || !others.all (isNameLetter false) then .error .badGroupName
    else if names.contains name then .error .takenGroupName
    else .ok (name, rest)
  | _, _ => .error .badGroupName

/-- Reads flags up to the colon or the parenthesis behind them.  `seen` holds the signs so far. -/
def readFlags (flags : Flags) (seen : List Char) (negated : Bool) :
    List Char → Except ExpressionFault (Flags × Bool × Char × List Char)
  | [] => .error .unfinishedFlags
  | c :: rest =>
    if c = ':' || c = ')' then
      if seen.head? == some '-' then .error .danglingNegation
      else .ok (flags, seen.isEmpty, c, rest)
    else if seen.contains c then .error .repeatedFlag
    else if c = '-' then readFlags flags ('-' :: seen) true rest
    else match flags.set? c (!negated) with
      | some flags => readFlags flags (c :: seen) negated rest
      | none => .error (.unknownFlag c)

/-- Opens a group. -/
def Reader.enter (r : Reader) (index : Option Nat) (inside : Flags) : Reader :=
  { r with
    flags := inside
    body := Body.start
    opened := ⟨index, r.flags, r.body⟩ :: r.opened
    groups := r.groups + (if index.isSome then 1 else 0) }

/-- Is what follows the parenthesis a look-around? -/
def isLookAround (text : List Char) : Bool :=
  [['?', '='], ['?', '!'], ['?', '<', '='], ['?', '<', '!']].any fun lead => lead.isPrefixOf text

/-- Reads what an opening parenthesis begins: a group, or a setting of flags. -/
def Reader.opening (r : Reader) (text : List Char) :
    Except ExpressionFault (Reader × List Char) := do
  let text := r.flags.skip text
  if isLookAround text then throw .lookAround
  let named := fun (text : List Char) => do
    let (name, rest) ← groupName r.names text
    return ({ r.enter (some (r.groups + 1)) r.flags with names := name :: r.names }, rest)
  match text with
  | '?' :: 'P' :: '<' :: rest => named rest
  | '?' :: '<' :: rest => named rest
  | '?' :: rest =>
    let (flags, isEmpty, sign, rest) ← readFlags r.flags [] false rest
    if sign = ':' then return (r.enter none flags, rest)
    else if isEmpty then throw .nothingToRepeat
    else return ({ r with flags := flags, body := r.body.add ⟨empty, 0, true⟩ }, rest)
  | _ => return (r.enter (some (r.groups + 1)) r.flags, text)

/-- Closes the innermost group. -/
def Reader.closing (r : Reader) : Except ExpressionFault Reader :=
  match r.opened with
  | [] => .error .unopenedGroup
  | g :: opened =>
    let inside := r.body.whole
    let e := match g.index with
      | some index => group index inside.expression
      | none => inside.expression
    .ok { r with flags := g.flags, body := g.around.add ⟨e, inside.depth + 1, false⟩, opened }

/-! ## The whole text -/

/-- Reads what begins at a character that counts. -/
def Reader.step (r : Reader) (c : Char) (rest : List Char) :
    Except ExpressionFault (Reader × List Char) :=
  if c = '(' then r.opening rest
  else if c = ')' then r.closing.map (·, rest)
  else if c = '|' then .ok ({ r with body := r.body.next }, rest)
  else if c = '[' then do
    let (listed, rest) ← bracket r.flags (c :: rest)
    return (r.add (char listed.set) (listed.depth), rest)
  else if c = '?' then r.sign 0 (some 1) rest
  else if c = '*' then r.sign 0 none rest
  else if c = '+' then r.sign 1 none rest
  else if c = '\x7b' then r.counted (c :: rest)
  else if c = '\\' then do
    let (atom, rest) ← escape r.flags rest
    return (r.add (← ofAtom r.flags atom) 0, rest)
  else if c = '.' then do return (r.add (← dot r.flags) 0, rest)
  else if c = '^' then
    .ok (r.add (look (if r.flags.multiLine then .lineStart r.flags.crlf else .textStart)) 0, rest)
  else if c = '$' then
    .ok (r.add (look (if r.flags.multiLine then .lineStop r.flags.crlf else .textStop)) 0, rest)
  else do return (r.add (← ofLetter r.flags c false) 0, rest)

/-- Reads the text to its end. -/
def readWithin : Nat → Reader → List Char → Except ExpressionFault Reader
  | 0, r, _ => .ok r
  | fuel + 1, r, text =>
    match r.flags.skip text with
    | [] => .ok r
    | c :: rest =>
      match r.step c rest with
      | .error fault => .error fault
      | .ok (r, rest) => readWithin fuel r rest

/-- How deeply an expression may be nested. -/
def depthLimit : Nat := 250

/-- The expression that a text writes, of whatever size. -/
def ofTextOfAnySize (text : List Char) : Except ExpressionFault Expression := do
  let r ← readWithin text.length Reader.start text
  if !r.opened.isEmpty then throw .unclosedGroup
  let whole := r.body.whole
  if depthLimit < whole.depth then throw .tooDeep
  return whole.expression

/-- The expression that a text writes. -/
def ofText (text : List Char) : Except ExpressionFault Expression := do
  let e ← ofTextOfAnySize text
  if !e.fits then throw .tooLarge
  return e

end UriRouting.Expression
