import UriRouting.Expression.Basic
import UriRouting.Text.Utf8Range

/-!
# The size of an automaton

An expression is refused if an automaton for it would take more than ten megabytes of memory.  The
automaton reads bytes, and what it takes depends on how an engine lays it out.
`Expression.footprint` approximates that from the tree of the expression alone; an iteration counts
its body as often as it may have to be laid out.  Near the limit the estimate can fall on the other
side of it.
-/

namespace UriRouting.Expression

/-- What a state takes. -/
def stateSize : Nat := 32

/-- What a way out of a state that has several takes. -/
def branchSize : Nat := 4

/-- What a range of bytes takes in a state that has several. -/
def rangeSize : Nat := 8

/-- A state with two ways out. -/
def forkSize : Nat := stateSize + 2 * branchSize

/-- Has the set nothing but ASCII characters? -/
def isAscii (set : CharSet) : Bool := set.ranges.all fun r => decide (r.2 ≤ 0x7F)

/-- About what an automaton for one character of a set takes.  A fixed character has a state for
each of its bytes and ASCII ranges share a state; other sets have a state for each start of a byte
row. -/
def setFootprint (set : CharSet) : Nat :=
  match set.ranges with
  | [] => stateSize
  | [(low, high)] =>
    if low = high then stateSize * (Char.ofNat low).utf8Size
    else general
  | _ => general
where
  general : Nat :=
    if isAscii set then 2 * stateSize + rangeSize * set.ranges.length
    else
      let rows := Utf8.byteRows set
      2 * stateSize + branchSize * rows.length + stateSize * Utf8.countStarts [] rows

/-- Is the expression a choice? -/
def isChoice : Expression → Bool
  | alt _ _ => true
  | _ => false

/-- About how many bytes of memory an automaton for the expression takes.  This is an estimate and
no exact count: states and ways out have fixed sizes, and no automaton is laid out. -/
def footprint : Expression → Nat
  | empty => stateSize
  | char set => setFootprint set
  | look _ => stateSize
  | group _ body => 2 * stateSize + body.footprint
  | seq a b => a.footprint + b.footprint
  | alt a b =>
    a.footprint + b.footprint +
      (if b.isChoice then branchSize else 2 * stateSize + 2 * branchSize)
  | iterate body least most _ =>
    let turns := if least = 0 then stateSize else least * body.footprint
    match most with
    | some most =>
      if least = most then turns
      else if least = 0 ∧ most = 1 then body.footprint + forkSize + stateSize
      else turns + stateSize + (most - least) * (body.footprint + forkSize)
    | none =>
      if least = 0 then
        body.footprint + (if body.canBeEmpty then 2 * forkSize + stateSize else forkSize)
      else turns + forkSize

/-- How many bytes of memory an automaton may take. -/
def footprintLimit : Nat := 10 * 1024 * 1024

/-- What an automaton takes for the match as a whole. -/
def frameSize : Nat := 4 * stateSize

/-- Is an automaton for the expression small enough, by the estimate? -/
def fits (e : Expression) : Bool := decide (e.footprint + frameSize ≤ footprintLimit)

end UriRouting.Expression
