import UriRouting.Expression.Program

/-!
# Searching a text

A run of a program leaves a trail: the slots it marked, each with the place, in order.  From an
address, the runs are tried in order of preference, and no address is visited twice at one place of
the text; the first run that accepts wins.  The search takes the first place of the text from which
a run accepts.

`Program.enter` says this by recursion on the text.  `Program.search` finds the same in one pass
over the text: it follows all runs at once, in order of preference, and drops a run that waits at an
address where a preferred one waits.  So the time is linear in the text.
-/

namespace UriRouting

/-- The slots that a run marked, each with the place, in order. -/
abbrev Trail := List (Nat × Nat)

/-- Addresses that have been visited, as the bits of a number. -/
structure Visited where
  bits : Nat

namespace Visited

/-- No address. -/
def none : Visited := ⟨0⟩

/-- Has the address been visited? -/
def has (v : Visited) (address : Nat) : Bool := v.bits.testBit address

/-- Notes that an address is visited. -/
def visit (v : Visited) (address : Nat) : Visited := ⟨v.bits ||| Nat.pow 2 address⟩

end Visited

/-- A place of a text: its distance from the start and the characters on both sides. -/
structure Place where
  position : Nat
  before : Option Char
  after : Option Char

namespace Program

/-- The first run from an address that accepts, and the addresses visited at this place.
`resume` tells how a run goes on at the next place after the instruction at an address has taken the
character.  Every step visits a new address, so `fuel` bounds the steps. -/
def explore (p : Program) (here : Place) (resume : Nat → Option Trail) :
    Nat → Nat → Visited → Option Trail × Visited
  | 0, _, seen => (none, seen)
  | fuel + 1, address, seen =>
    if seen.has address then (none, seen)
    else
      let seen := seen.visit address
      match p.code[address]? with
      | none => (none, seen)
      | some .accept => (some [(1, here.position)], seen)
      | some (.char set) =>
        match here.after with
        | none => (none, seen)
        | some c => (if set.contains c then resume address else none, seen)
      | some (.look test) =>
        if test.holds here.before here.after then
          explore p here resume fuel (address + 1) seen
        else (none, seen)
      | some (.mark slot) =>
        let r := explore p here resume fuel (address + 1) seen
        (r.1.map fun trail => (slot, here.position) :: trail, r.2)
      | some (.jump target) => explore p here resume fuel target seen
      | some (.fork preferred other) =>
        match explore p here resume fuel preferred seen with
        | (some trail, seen) => (some trail, seen)
        | (none, seen) => explore p here resume fuel other seen

/-- The first run that accepts from an address at a place. -/
def runAt (p : Program) (here : Place) (resume : Nat → Option Trail) (address : Nat) :
    Option Trail :=
  (p.explore here resume (p.code.size + 1) address Visited.none).1

/-! ## By recursion on the text -/

/-- The first run that accepts, from an address at the start of `text`, which follows `position`
characters of which the last is `before`. -/
def enter (p : Program) (position : Nat) (before : Option Char) :
    List Char → Nat → Option Trail
  | [], address => p.runAt ⟨position, before, none⟩ (fun _ => none) address
  | c :: rest, address =>
    p.runAt ⟨position, before, some c⟩
      (fun taken => p.enter (position + 1) (some c) rest (taken + 1)) address

/-- The trail of the first run that accepts, from the first place from which one does.  The place is
marked in slot 0. -/
def firstMatch? (p : Program) (position : Nat) (before : Option Char) :
    List Char → Option Trail
  | [] => (p.enter position before [] 0).map ((0, position) :: ·)
  | c :: rest =>
    match p.enter position before (c :: rest) 0 with
    | some trail => some ((0, position) :: trail)
    | none => p.firstMatch? (position + 1) (some c) rest

/-! ## In one pass -/

/-- Where a run comes to a halt at a place, with its marks so far, last first. -/
inductive Halt
  /-- The instruction at the address takes the next character. -/
  | taking (address : Nat) (marks : Trail)
  | accepting (marks : Trail)

/-- Where the runs from an address halt, in order of preference.  Every step visits a new address,
so `fuel` bounds the steps. -/
def follow (p : Program) (here : Place) : Nat → Nat → Trail → Visited → List Halt × Visited
  | 0, _, _, seen => ([], seen)
  | fuel + 1, address, marks, seen =>
    if seen.has address then ([], seen)
    else
      let seen := seen.visit address
      match p.code[address]? with
      | none => ([], seen)
      | some .accept => ([.accepting ((1, here.position) :: marks)], seen)
      | some (.char set) =>
        match here.after with
        | none => ([], seen)
        | some c => (if set.contains c then [.taking address marks] else [], seen)
      | some (.look test) =>
        if test.holds here.before here.after then
          follow p here fuel (address + 1) marks seen
        else ([], seen)
      | some (.mark slot) =>
        follow p here fuel (address + 1) ((slot, here.position) :: marks) seen
      | some (.jump target) => follow p here fuel target marks seen
      | some (.fork preferred other) =>
        let first := follow p here fuel preferred marks seen
        let second := follow p here fuel other marks first.2
        (first.1 ++ second.1, second.2)

/-- Where the runs from an address halt that has not been visited. -/
def haltsFrom (p : Program) (here : Place) (address : Nat) (marks : Trail) : List Halt :=
  (p.follow here (p.code.size + 1) address marks Visited.none).1

/-- A run that has taken the last character by the instruction at an address. -/
structure Thread where
  address : Nat
  marks : Trail

/-- The runs that go on, each from an address of its own, and the marks of the first that accepts;
the runs after that one do not count. -/
def settle (seen : Visited) : List Halt → List Thread × Option Trail
  | [] => ([], none)
  | .accepting marks :: _ => ([], some marks)
  | .taking address marks :: rest =>
    if seen.has address then settle seen rest
    else
      let r := settle (seen.visit address) rest
      (⟨address, marks⟩ :: r.1, r.2)

/-- The runs that have come to a place, in order of preference, and the marks of the run that has
accepted, which all of them are preferred to. -/
structure Front where
  threads : List Thread
  found : Option Trail

/-- All places of a text from one on. -/
def places (position : Nat) (before : Option Char) : List Char → List Place
  | [] => [⟨position, before, none⟩]
  | c :: rest => ⟨position, before, some c⟩ :: places (position + 1) (some c) rest

/-- Lets the runs go on at a place.  As long as none has accepted, a new one begins there. -/
def arrive (p : Program) (front : Front) (here : Place) : Front :=
  let later := front.threads.flatMap fun t => p.haltsFrom here (t.address + 1) t.marks
  let fresh := if front.found.isSome then [] else p.haltsFrom here 0 [(0, here.position)]
  let settled := settle Visited.none (later ++ fresh)
  ⟨settled.1, settled.2.or front.found⟩

/-- The trail of the first run that accepts, from the first place from which one does. -/
def search (p : Program) (text : List Char) : Option Trail :=
  ((places 0 none text).foldl p.arrive ⟨[], none⟩).found.map List.reverse

end Program

/-- The last place that a trail marks in a slot. -/
def Trail.last? (trail : Trail) (slot : Nat) : Option Nat :=
  (trail.reverse.find? fun m => m.1 == slot).map Prod.snd

/-- The text of a group after a run; empty if the group took no part. -/
def Trail.groupText (trail : Trail) (text : List Char) (index : Nat) : List Char :=
  match trail.last? (2 * index), trail.last? (2 * index + 1) with
  | some start, some stop => (text.drop start).take (stop - start)
  | _, _ => []

/-- Where the whole match ends. -/
def Trail.stop (trail : Trail) : Nat := (trail.last? 1).getD 0

end UriRouting
