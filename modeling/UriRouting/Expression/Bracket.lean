import UriRouting.Expression.Escape

/-!
# Classes between brackets

A class lists characters, ranges, named classes and classes of its own between brackets, and
combines such lists by intersection, difference and symmetric difference, from left to right.

Reading keeps a stack of the brackets that are open.  Each round takes at least one character of
the text, so the length of the text bounds the rounds.  The result carries how deeply the class is
nested, for the bound on the depth of an expression.
-/

namespace UriRouting.Expression

/-- How two lists of a class are combined. -/
inductive SetOperator
  | intersection
  | difference
  | symmetricDifference

/-- The combination of two sets. -/
def SetOperator.apply : SetOperator → CharSet → CharSet → CharSet
  | .intersection, s, t => s.inter t
  | .difference, s, t => s.diff t
  | .symmetricDifference, s, t => s.symmDiff t

/-- A set with the depth of the text that it was read from. -/
structure Operand where
  set : CharSet
  depth : Nat

/-- A bracket that is open. -/
structure OpenBracket where
  negated : Bool
  /-- What stands before the present list, and the operator between them. -/
  left : Option (Operand × SetOperator)
  /-- The members of the present list, last first. -/
  members : List Operand

/-- Adds a member to the present list. -/
def OpenBracket.add (b : OpenBracket) (m : Operand) : OpenBracket :=
  { b with members := m :: b.members }

/-- The present list as one operand; a list of several members is one level deep. -/
def OpenBracket.listed (b : OpenBracket) : Operand :=
  match b.members with
  | [] => ⟨CharSet.empty, 0⟩
  | [m] => m
  | ms => ⟨CharSet.ofRanges (ms.flatMap fun m => m.set.ranges),
      (ms.map Operand.depth).foldl max 0 + 1⟩

/-- Everything in the bracket so far. -/
def OpenBracket.combined (flags : Flags) (b : OpenBracket) : Operand :=
  match b.left with
  | none => b.listed
  | some (l, op) =>
    ⟨op.apply (foldedSet flags l.set) (foldedSet flags b.listed.set),
      max l.depth b.listed.depth + 1⟩

/-- Turns to the list after an operator. -/
def OpenBracket.operate (flags : Flags) (op : SetOperator) (b : OpenBracket) : OpenBracket :=
  ⟨b.negated, some (b.combined flags, op), []⟩

/-- The class of a bracket that closes. -/
def OpenBracket.close (flags : Flags) (b : OpenBracket) : Except ExpressionFault Operand :=
  let all := b.combined flags
  (signedSet flags b.negated (foldedSet flags all.set)).map (⟨·, all.depth + 1⟩)

/-- Takes the hyphens at the start of a bracket, each of which is a member. -/
def leadingHyphens (flags : Flags) : Nat → OpenBracket → List Char → OpenBracket × List Char
  | 0, b, text => (b, text)
  | fuel + 1, b, text =>
    match text with
    | c :: _ =>
      if c = '-' then
        leadingHyphens flags fuel (b.add ⟨CharSet.singleton '-', 0⟩) (advance flags text)
      else (b, text)
    | [] => (b, text)

/-- Opens a bracket; the text starts with it.  A closing bracket that comes first is a member. -/
def openBracket (flags : Flags) (text : List Char) :
    Except ExpressionFault (OpenBracket × List Char) :=
  let text := advance flags text
  let negated := text.head? == some '^'
  let text := if negated then advance flags text else text
  let (b, text) := leadingHyphens flags text.length ⟨negated, none, []⟩ text
  let (b, text) :=
    if b.members.isEmpty && text.head? == some ']' then
      (b.add ⟨CharSet.singleton ']', 0⟩, advance flags text)
    else (b, text)
  if text.isEmpty then .error .unclosedClass else .ok (b, text)

/-- Reads a class `[:name:]` from its opening bracket on, if it is one. -/
def colonClass? (text : List Char) : Option (Bool × CharSet × List Char) :=
  match text with
  | '[' :: ':' :: rest =>
    let negated := rest.head? == some '^'
    let rest := if negated then rest.drop 1 else rest
    let name := rest.takeWhile (· != ':')
    match rest.dropWhile (· != ':') with
    | ':' :: ']' :: rest => (CharSet.bracketName? name).map fun set => (negated, set, rest)
    | _ => none
  | _ => none

/-- The set of a character that is a member of a class. -/
def memberLetter (flags : Flags) (c : Char) (asByte : Bool) : Except ExpressionFault Char :=
  if flags.unicode || c.toNat < 0x80 then .ok c
  else if asByte then .error .beyondAscii
  else .error .needsUnicode

/-- Reads a single member: an escape, or a character as it stands. -/
def memberAtom (flags : Flags) : List Char → Except ExpressionFault (Atom × List Char)
  | [] => .error .unclosedClass
  | c :: rest => if c = '\\' then escape flags rest else .ok (.letter c false, rest)

/-- Reads a member that may be the start of a range. -/
def member (flags : Flags) (text : List Char) :
    Except ExpressionFault (CharSet × List Char) := do
  let (first, rest) ← memberAtom flags text
  let rest := flags.skip rest
  if rest.isEmpty then throw .unclosedClass
  let isRange := rest.head? == some '-' && flags.peek rest != some ']' &&
    flags.peek rest != some '-'
  if !isRange then
    match first with
    | .letter c asByte =>
      let c ← memberLetter flags c asByte
      return (CharSet.singleton c, rest)
    | .set s => return (s, rest)
    | .look _ => throw .badClassMember
  else
    let rest := advance flags rest
    if rest.isEmpty then throw .unclosedClass
    let (last, rest) ← memberAtom flags rest
    match first, last with
    | .letter low lowByte, .letter high highByte =>
      if high < low then throw .reversedRange
      let low ← memberLetter flags low lowByte
      let high ← memberLetter flags high highByte
      return (CharSet.ofRange low.toNat high.toNat, rest)
    | _, _ => throw .badRangeEnd

/-- The operator that the text starts with, which is a doubled sign. -/
def setOperator? : List Char → Option SetOperator
  | '&' :: '&' :: _ => some .intersection
  | '-' :: '-' :: _ => some .difference
  | '~' :: '~' :: _ => some .symmetricDifference
  | _ => none

/-- Reads on inside the innermost bracket, with the ones around it. -/
def bracketWithin (flags : Flags) : Nat → OpenBracket → List OpenBracket → List Char →
    Except ExpressionFault (Operand × List Char)
  | 0, _, _, _ => .error .unclosedClass
  | fuel + 1, b, outer, text => do
    let text := flags.skip text
    match text with
    | [] => throw .unclosedClass
    | '[' :: _ =>
      match colonClass? text with
      | some (negated, set, rest) =>
        let set ← signedSet flags negated (foldedSet flags set)
        bracketWithin flags fuel (b.add ⟨set, 0⟩) outer rest
      | none =>
        let (inner, rest) ← openBracket flags text
        bracketWithin flags fuel inner (b :: outer) rest
    | ']' :: rest =>
      let closed ← b.close flags
      match outer with
      | [] => return (closed, rest)
      | next :: outer => bracketWithin flags fuel (next.add closed) outer rest
    | _ =>
      match setOperator? text with
      | some op => bracketWithin flags fuel (b.operate flags op) outer (text.drop 2)
      | none =>
        let (set, rest) ← member flags text
        bracketWithin flags fuel (b.add ⟨set, 0⟩) outer rest

/-- Reads a class from its opening bracket on. -/
def bracket (flags : Flags) (text : List Char) :
    Except ExpressionFault (Operand × List Char) := do
  let (b, rest) ← openBracket flags text
  bracketWithin flags text.length b [] rest

end UriRouting.Expression
