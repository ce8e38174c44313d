import UriRouting.Template.Uri

/-!
# Templates by their bytes

Where a template is a sequence of bytes, its placeholders are found by counting the braces along the
bytes, and its parts are cut out by byte offsets.  Two things can go wrong.  A counter has a size
and may leave its range, and a part can only be cut out if its offsets are in order, not beyond the
end, and not inside a character.

The operations of this module do what `Segment.locate`, `Matchable.assemble` and `buildUri` do, but
in this way, step by step, with counters of 32 bits.  They stop where something goes wrong.
-/

namespace UriRouting

/-- What stops a guarded operation. -/
inductive Breach
  /-- A counter would leave its range. -/
  | outOfRange
  /-- Offsets are not those of a part of the text. -/
  | noPart
deriving DecidableEq

/-- A value, unless a step on the way to it has gone wrong. -/
abbrev Guarded (α : Type) := Except Breach α

namespace Guarded

/-! ## Steps that can go wrong -/

/-- Moves a counter, which stays within 32 bits. -/
def move (counter : Int32) (distance : Int) : Guarded Int32 :=
  let moved := counter.toInt + distance
  if Int32.minValue.toInt ≤ moved ∧ moved ≤ Int32.maxValue.toInt then return Int32.ofInt moved
  else throw .outOfRange

/-- The offsets are in order, not beyond the end of the text, and between characters. -/
def IsPart (text : String) (start stop : Nat) : Prop :=
  start ≤ stop ∧ stop ≤ text.utf8ByteSize ∧
    String.Pos.Raw.IsValid text ⟨start⟩ ∧ String.Pos.Raw.IsValid text ⟨stop⟩

instance (text : String) (start stop : Nat) : Decidable (IsPart text start stop) :=
  inferInstanceAs (Decidable (_ ∧ _ ∧ _ ∧ _))

/-- Cuts a part out of a text. -/
def part (text : String) (start stop : Nat) : Guarded String :=
  if IsPart text start stop then return String.Pos.Raw.extract text ⟨start⟩ ⟨stop⟩
  else throw .noPart

/-! ## Braces -/

/-- The offsets of the braces around a placeholder. -/
structure Pair where
  opening : Nat
  closing : Nat
deriving DecidableEq

/-- Finds the outermost pairs of braces in bytes of which the first stands at `index`.  So many
braces are open as `depth` says, the outermost one at `opening`. -/
def scanFrom (index : Nat) (depth : Int32) (opening : Nat) :
    List UInt8 → Guarded (Except BraceFault (List Pair))
  | [] => return if depth = 0 then .ok [] else .error .unbalanced
  | b :: rest =>
    if b = 0x7B then do
      let depth ← move depth 1
      scanFrom (index + 1) depth (if depth = 1 then index else opening) rest
    else if b = 0x7D then do
      let depth ← move depth (-1)
      if depth < 0 then return .error .unbalanced
      else if depth = 0 then
        if index = opening + 1 then return .error .emptyPlaceholder
        else
          let others ← scanFrom (index + 1) depth opening rest
          return others.map (⟨opening, index⟩ :: ·)
      else scanFrom (index + 1) depth opening rest
    else scanFrom (index + 1) depth opening rest

/-- The outermost pairs of braces in a template. -/
def scan (template : String) : Guarded (Except BraceFault (List Pair)) :=
  scanFrom 0 0 0 template.toByteArray.data.toList

/-! ## Placeholders -/

/-- The text without its first character, if that is the given one. -/
def past (c : Char) : List Char → List Char
  | [] => []
  | d :: rest => if d = c then rest else d :: rest

theorem length_past_le (c : Char) (text : List Char) : (past c text).length ≤ text.length := by
  cases text with
  | nil => exact Nat.le_refl _
  | cons d rest =>
    rw [past]
    split
    · exact Nat.le_succ _
    · exact Nat.le_refl _

/-- Are the parentheses balanced, where `depth` of them and `classes` brackets are open?  Behind an
opening bracket, the sign of negation and a closing bracket are passed over. -/
def balancedFrom (depth classes : Int32) : List Char → Guarded Bool
  | [] => return depth == 0
  | c :: rest =>
    if c = '\\' then balancedFrom depth classes rest.tail
    else if c = '[' then do
      let classes ← move classes 1
      balancedFrom depth classes (past ']' (past '^' rest))
    else if c = ']' ∧ 0 < classes then do
      let classes ← move classes (-1)
      balancedFrom depth classes rest
    else if c = '(' ∧ classes = 0 then do
      let depth ← move depth 1
      balancedFrom depth classes rest
    else if c = ')' ∧ classes = 0 then do
      let depth ← move depth (-1)
      if depth < 0 then return false else balancedFrom depth classes rest
    else balancedFrom depth classes rest
  termination_by text => text.length
  decreasing_by
    all_goals
      have hsign := length_past_le '^' rest
      have hclose := length_past_le ']' (past '^' rest)
      simp only [List.length_cons, List.length_tail]
      omega

/-- Reads the body of a placeholder. -/
def placeholder (body : String) : Guarded (Except TemplateFault Placeholder) := do
  let (name, sub) := Placeholder.cut body.toList
  if name.isEmpty then return .error (.missingName body)
  if sub = some [] then return .error (.missingPattern body)
  let pattern := sub.getD Placeholder.anySegment
  if ← balancedFrom 0 0 pattern then return .ok ⟨name, pattern⟩
  else return .error (.unbalancedSubpattern body)

/-! ## Templates -/

/-- The text of the expression that the rest of a template, from a byte offset on, stands for, and
the placeholders in it.  A name that is among those `seen` before is noted. -/
def assembleFrom (template : String) (start : Nat) (seen : List (List Char)) :
    List Pair → Guarded (Attempt TemplateFault (String × List Placeholder))
  | [] => do
    let last ← part template start template.utf8ByteSize
    return pure (last, [])
  | pair :: pairs => do
    let body ← part template (pair.opening + 1) pair.closing
    match ← placeholder body with
    | .error fault => return throw fault
    | .ok p =>
      let text ← part template start pair.opening
      let others ← assembleFrom template (pair.closing + 1) (seen ++ [p.name]) pairs
      return do
        if seen.contains p.name then
          Attempt.note (.repeatedParameter template (String.ofList p.name))
        let (pattern, placeholders) ← others
        return (text ++ "(" ++ String.ofList p.pattern ++ ")" ++ pattern, p :: placeholders)

/-- Compiles a template. -/
def assemble (template : String) (anchoring : Anchoring) :
    Guarded (Attempt TemplateFault Matchable) := do
  match ← scan template with
  | .error fault => return throw (Matchable.braceFault template fault)
  | .ok pairs =>
    let assembled ← assembleFrom template 0 [] pairs
    return do
      let (text, placeholders) ← assembled
      let pattern := Matchable.anchored anchoring text.toList
      let expression ← Attempt.ofExcept
        ((Expression.ofText pattern).mapError (.invalidPattern template))
      if expression.highestGroup ≠ placeholders.length then
        throw (.capturingGroup template)
      return ⟨template, String.ofList pattern,
        placeholders.map fun p => String.ofList p.name, anchoring, expression⟩

/-- The rest of a template, from a byte offset on, with values in place of the placeholders. -/
def fillFrom (template : String) (start : Nat) : List Pair → List String → Guarded String
  | pair :: pairs, value :: values => do
    let text ← part template start pair.opening
    let others ← fillFrom template (pair.closing + 1) pairs values
    return text ++ value ++ others
  | _, _ => part template start template.utf8ByteSize

/-- The path that a template and values for its placeholders make up. -/
def buildUri (template : String) (values : List String) :
    Guarded (Except RouteFault String) := do
  match ← scan template with
  | .error fault => return .error (.badTemplate (Matchable.braceFault template fault))
  | .ok pairs =>
    if pairs.length ≠ values.length then
      return .error (.parameterCount template pairs.length values.length)
    let uri ← fillFrom template 0 pairs values
    return .ok uri

end Guarded

end UriRouting
