import UriRouting.Text.CharSet

/-!
# Expressions

The tree of an expression: characters from a set, tests of the place between two characters,
capturing groups, iteration, sequence and choice.  Choice is ordered: an earlier branch is
preferred, and an iteration prefers one more turn (or one less, if it is lazy).

The functions that build expressions bring them into a common shape.  Sequences are flat, an
iteration of something that is always empty takes at most one turn, and a choice whose branches
all begin with the same pieces has them in front (`Expression.choice`).
-/

namespace UriRouting

/-! ## Tests of a place -/

/-- How the place relates to a word. -/
inductive WordEdge
  /-- Between a word character and another one. -/
  | boundary
  /-- Between two word characters or two others. -/
  | inside
  | start
  | stop
  /-- No word character before the place. -/
  | startHalf
  /-- No word character after the place. -/
  | stopHalf
deriving DecidableEq

/-- A test of the place between two characters. -/
inductive Look
  | textStart
  | textStop
  /-- The start of a line; `crlf` counts a carriage return as a line end too. -/
  | lineStart (crlf : Bool)
  | lineStop (crlf : Bool)
  /-- An edge of a word, whose characters are those of the set. -/
  | word (edge : WordEdge) (unicode : Bool)
deriving DecidableEq

/-! ## Expressions -/

/-- An expression over characters. -/
inductive Expression
  | empty
  /-- One character of the set. -/
  | char (set : CharSet)
  | look (test : Look)
  /-- A capturing group with its number, which starts at one. -/
  | group (index : Nat) (body : Expression)
  /-- At least `least` turns of the body, at most `most` if there is a limit. -/
  | iterate (body : Expression) (least : Nat) (most : Option Nat) (greedy : Bool)
  | seq (first second : Expression)
  | alt (first second : Expression)
deriving DecidableEq

namespace Expression

/-- Can the expression match nothing but the empty text? -/
def alwaysEmpty : Expression → Bool
  | empty => true
  | char _ => false
  | look _ => true
  | group _ body => body.alwaysEmpty
  | iterate body _ most _ => body.alwaysEmpty && most.isSome
  | seq a b => a.alwaysEmpty && b.alwaysEmpty
  | alt a b => a.alwaysEmpty && b.alwaysEmpty

/-- Can the expression match the empty text, as far as its shape says? -/
def canBeEmpty : Expression → Bool
  | empty => true
  | char _ => false
  | look _ => true
  | group _ body => body.canBeEmpty
  | iterate body least _ _ => least == 0 || body.canBeEmpty
  | seq a b => a.canBeEmpty && b.canBeEmpty
  | alt a b => a.canBeEmpty || b.canBeEmpty

/-- The highest number of a group; zero if there is no group. -/
def highestGroup : Expression → Nat
  | empty => 0
  | char _ => 0
  | look _ => 0
  | group index body => max index body.highestGroup
  | iterate body _ _ _ => body.highestGroup
  | seq a b => max a.highestGroup b.highestGroup
  | alt a b => max a.highestGroup b.highestGroup

/-! ## Building -/

/-- The expressions that a sequence is made of. -/
def pieces : Expression → List Expression
  | empty => []
  | seq a b => a.pieces ++ b.pieces
  | e => [e]

/-- The branches that a choice is made of. -/
def branches : Expression → List Expression
  | alt a b => a.branches ++ b.branches
  | e => [e]

/-- The pieces one after the other. -/
def ofPieces : List Expression → Expression
  | [] => empty
  | [e] => e
  | e :: rest => seq e (ofPieces rest)

/-- The branches in order of preference. -/
def ofBranches : List Expression → Expression
  | [] => char CharSet.empty
  | [e] => e
  | e :: rest => alt e (ofBranches rest)

/-- A flat sequence of expressions. -/
def sequence (parts : List Expression) : Expression := ofPieces (parts.flatMap pieces)

/-- An iteration.  Of something that is always empty, one turn is as good as many. -/
def repeated (body : Expression) (least : Nat) (most : Option Nat) (greedy : Bool) : Expression :=
  let least := if body.alwaysEmpty then min least 1 else least
  let most := if body.alwaysEmpty then some (min (most.getD 1) 1) else most
  if least = 0 ∧ most = some 0 then empty
  else if least = 1 ∧ most = some 1 then body
  else iterate body least most greedy

/-- Is the expression one fixed character? -/
def isLetter : Expression → Bool
  | char set => match set.ranges with
    | [r] => r.1 == r.2
    | _ => false
  | _ => false

/-- The set of an expression that matches one character. -/
def charSet? : Expression → Option CharSet
  | char set => some set
  | _ => none

/-- Branches that are all fixed characters, or all sets of several, make up one set. -/
def mergedSet? (parts : List Expression) : Option CharSet :=
  if parts.all isLetter || parts.all (fun e => e.charSet?.isSome && !e.isLetter) then
    some (CharSet.ofRanges ((parts.filterMap charSet?).flatMap CharSet.ranges))
  else none

/-- The pieces that two sequences have in common from their start. -/
def commonStart : List Expression → List Expression → List Expression
  | a :: as, b :: bs => if a = b then a :: commonStart as bs else []
  | _, _ => []

/-- The pieces that all branches begin with.  A branch that is a single piece or plain text
shares nothing. -/
def sharedStart (parts : List Expression) : List Expression :=
  if parts.all fun e => decide (2 ≤ e.pieces.length) && !e.pieces.all isLetter then
    match parts with
    | [] => []
    | first :: rest => rest.foldl (fun shared e => commonStart shared e.pieces) first.pieces
  else []

/-- A choice between alternatives, earlier ones preferred.  Choices inside are flattened,
branches of one character each become a set, and what all branches begin with stands in front.
Each round takes pieces away from the branches, so `fuel` bounds the rounds. -/
def choiceWithin : Nat → List Expression → Expression
  | 0, parts => ofBranches parts
  | fuel + 1, parts =>
    match parts.flatMap branches with
    | [] => char CharSet.empty
    | [e] => e
    | parts =>
      match mergedSet? parts with
      | some set => char set
      | none =>
        let shared := sharedStart parts
        if shared.isEmpty then ofBranches parts
        else sequence (shared ++
          [choiceWithin fuel (parts.map fun e => ofPieces (e.pieces.drop shared.length))])

/-- A choice between alternatives, in the common shape. -/
def choice (parts : List Expression) : Expression :=
  choiceWithin (parts.foldr (fun e n => e.pieces.length + n) 1) parts

end Expression

end UriRouting
