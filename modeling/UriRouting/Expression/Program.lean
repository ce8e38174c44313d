import UriRouting.Expression.Basic
import UriRouting.Expression.NamedClass

/-!
# Programs

An expression is laid out as a program: a list of instructions, each at the address of its place in
the list.  A run moves from instruction to instruction; only `Instruction.char` takes a character.
A fork has a preferred branch, so that the runs of a program from an address are ordered.

`code e p` is the layout of `e` from address `p` on; a run that comes to its end goes on at the
address after it.
-/

namespace UriRouting

/-- A step of a program. -/
inductive Instruction
  /-- Takes one character of the set. -/
  | char (set : CharSet)
  /-- Goes on if the place passes the test. -/
  | look (test : Look)
  /-- Notes the place in a slot: slots `2 * i` and `2 * i + 1` are the ends of group `i`. -/
  | mark (slot : Nat)
  | jump (target : Nat)
  /-- Goes on at the first address, or else at the second. -/
  | fork (preferred other : Nat)
  | accept
deriving DecidableEq

/-! ## Tests -/

/-- Is the neighbour of a place a word character? -/
def isWordAt (unicode : Bool) : Option Char → Bool
  | none => false
  | some c => if unicode then CharSet.wordLetters.contains c else CharSet.asciiWord.contains c

/-- Does a place with these neighbours stand so to the words around it? -/
def WordEdge.holds (edge : WordEdge) (before after : Bool) : Bool :=
  match edge with
  | .boundary => before != after
  | .inside => before == after
  | .start => !before && after
  | .stop => before && !after
  | .startHalf => !before
  | .stopHalf => !after

/-- Does the place between two characters pass the test? -/
def Look.holds (test : Look) (before after : Option Char) : Bool :=
  match test with
  | .textStart => before.isNone
  | .textStop => after.isNone
  | .lineStart false => before.isNone || before == some '\n'
  | .lineStart true => before.isNone || before == some '\n' ||
      (before == some '\r' && after != some '\n')
  | .lineStop false => after.isNone || after == some '\n'
  | .lineStop true => after.isNone || after == some '\r' ||
      (after == some '\n' && before != some '\r')
  | .word edge unicode => edge.holds (isWordAt unicode before) (isWordAt unicode after)

/-! ## Layout -/

/-- A fork that prefers the first address if it is greedy. -/
def Instruction.choose (greedy : Bool) (more done : Nat) : Instruction :=
  if greedy then .fork more done else .fork done more

namespace Expression

/-- The layout of an expression from an address on. -/
def code : Expression → Nat → List Instruction
  | empty, _ => []
  | char set, _ => [.char set]
  | look test, _ => [.look test]
  | group index body, p => .mark (2 * index) :: code body (p + 1) ++ [.mark (2 * index + 1)]
  | seq a b, p =>
    let first := code a p
    first ++ code b (p + first.length)
  | alt a b, p =>
    let first := code a (p + 1)
    let q := p + 1 + first.length + 1
    let second := code b q
    .fork (p + 1) q :: first ++ .jump (q + second.length) :: second
  | iterate body least most greedy, p =>
    let size := (code body 0).length
    let copies := fun n => (List.range n).flatMap fun i => code body (p + i * size)
    match most with
    | some most =>
      -- The turns that must be, then optional ones, each of which can go to the end.
      let q := p + least * size
      let done := q + (most - least) * (size + 1)
      copies least ++ (List.range (most - least)).flatMap fun i =>
        .choose greedy (q + i * (size + 1) + 1) done :: code body (q + i * (size + 1) + 1)
    | none =>
      match least with
      | 0 =>
        if body.canBeEmpty then
          -- The first turn stands apart from the later ones.
          let done := p + 1 + size + 1
          .choose greedy (p + 1) done :: code body (p + 1) ++ [.choose greedy (p + 1) done]
        else
          .choose greedy (p + 1) (p + 1 + size + 1) :: code body (p + 1) ++ [.jump p]
      | least + 1 =>
        let q := p + least * size
        copies least ++ code body q ++ [.choose greedy q (q + size + 1)]

end Expression

/-- The instructions of an expression, to be run from address zero. -/
structure Program where
  code : Array Instruction
deriving DecidableEq

/-- The program of an expression. -/
def Expression.program (e : Expression) : Program := ⟨(e.code 0 ++ [Instruction.accept]).toArray⟩

end UriRouting
