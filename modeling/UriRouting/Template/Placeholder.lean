import UriRouting.Template.Fault

/-!
# Placeholders

The body of a placeholder is a name, or a name and a sub-pattern with a colon between them.  Without
a sub-pattern a placeholder stands for one segment of a path, which is what `anySegment` matches.

The parentheses of a sub-pattern have to be balanced on their own, since it is going to stand
between two of them.  Parentheses behind a backslash and in classes do not count.
-/

namespace UriRouting

/-- A placeholder: its name and the expression it stands for, as text. -/
structure Placeholder where
  name : List Char
  pattern : List Char
deriving DecidableEq

namespace Placeholder

/-- The expression of a placeholder without a sub-pattern. -/
def anySegment : List Char := ['[', '^', '/', ']', '+']

/-- The text up to the first colon, and the text after it if there is one. -/
def cut : List Char → List Char × Option (List Char)
  | [] => ([], none)
  | c :: rest => if c = ':' then ([], some rest) else (c :: (cut rest).1, (cut rest).2)

/-! ## Balanced parentheses -/

/-- What stands just before the next character. -/
inductive Spot
  | plain
  /-- A backslash. -/
  | escaped
  /-- The opening bracket of a class. -/
  | classStart
  /-- The opening bracket of a class and the sign that negates it. -/
  | classNegated
deriving DecidableEq

/-- Are the parentheses balanced, where `depth` of them and `classes` brackets are open?  A closing
bracket that comes first in a class is a member of it. -/
def balancedFrom (depth classes : Nat) (spot : Spot) : List Char → Bool
  | [] => depth == 0
  | c :: rest =>
    if spot = .escaped then balancedFrom depth classes .plain rest
    else if spot = .classStart ∧ c = '^' then balancedFrom depth classes .classNegated rest
    else if (spot = .classStart ∨ spot = .classNegated) ∧ c = ']' then
      balancedFrom depth classes .plain rest
    else if c = '\\' then balancedFrom depth classes .escaped rest
    else if c = '[' then balancedFrom depth (classes + 1) .classStart rest
    else match classes with
      | classes + 1 =>
        if c = ']' then balancedFrom depth classes .plain rest
        else balancedFrom depth (classes + 1) .plain rest
      | 0 =>
        if c = '(' then balancedFrom (depth + 1) 0 .plain rest
        else if c = ')' then
          match depth with
          | 0 => false
          | depth + 1 => balancedFrom depth 0 .plain rest
        else balancedFrom depth 0 .plain rest

/-- Does the text close every parenthesis that it opens, and no other? -/
def balanced (pattern : List Char) : Bool := balancedFrom 0 0 .plain pattern

/-! ## Reading -/

/-- The placeholder with a body.  The name is looked at first, then the sub-pattern. -/
def ofBody (body : List Char) : Except TemplateFault Placeholder :=
  let (name, sub) := cut body
  if name.isEmpty then .error (.missingName (String.ofList body))
  else if sub = some [] then .error (.missingPattern (String.ofList body))
  else
    let pattern := sub.getD anySegment
    if !balanced pattern then .error (.unbalancedSubpattern (String.ofList body))
    else .ok ⟨name, pattern⟩

end Placeholder

end UriRouting
