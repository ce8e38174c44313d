import UriRouting.Expression.Reading
import UriRouting.Expression.Search
import UriRouting.Journal
import UriRouting.Parameters
import UriRouting.Template.Placeholder
import UriRouting.Template.Segment

/-!
# Compiled templates

`Matchable.compile` turns a template into an expression.  Literal text is taken as it is, each
placeholder becomes a capturing group around its sub-pattern, and anchors are put around the whole.
The expression must have as many groups as the template has placeholders.

A compiled template is searched for in a path by `Matchable.captures`, which binds the text of each
group to the name of its placeholder and tells what is left of the path.
-/

namespace UriRouting

/-- A compiled template. -/
structure Matchable where
  template : String
  /-- The text of the expression. -/
  pattern : String
  /-- The names of the placeholders, in order. -/
  parameters : List String
  anchoring : Anchoring
  expression : Expression

/-- A path that a compiled template was found in. -/
structure PathMatch where
  params : Parameters
  /-- The path after the match. -/
  remainder : String

namespace Matchable

/-! ## Compiling -/

/-- What is wrong with the braces of a template. -/
def braceFault (template : String) : BraceFault → TemplateFault
  | .unbalanced => .unbalancedBraces template
  | .emptyPlaceholder => .emptyPlaceholder template

/-- Reads the bodies of placeholders one after the other.  A name that is among those `seen` before
is noted, but it is no fault. -/
def readPlaceholders (template : String) :
    List (List Char) → List (List Char) → Attempt TemplateFault (List Placeholder)
  | _, [] => pure []
  | seen, body :: rest => do
    let placeholder ← Attempt.ofExcept (Placeholder.ofBody body)
    if seen.contains placeholder.name then
      Attempt.note (.repeatedParameter template (String.ofList placeholder.name))
    let others ← readPlaceholders template (seen ++ [placeholder.name]) rest
    return placeholder :: others

/-- The text of the expression that segments stand for, with the placeholders among them. -/
def patternText : List Segment → List Placeholder → List Char
  | .literal text :: rest, placeholders => text ++ patternText rest placeholders
  | .placeholder _ :: rest, placeholder :: placeholders =>
    '(' :: placeholder.pattern ++ ')' :: patternText rest placeholders
  | _, _ => []

/-- The text between its anchors. -/
def anchored (anchoring : Anchoring) (text : List Char) : List Char :=
  '^' :: text ++ (match anchoring with
    | .full => ['$']
    | .leading => [])

/-- Compiles a template; see `compile` for what is noted in the end. -/
def assemble (template : String) (anchoring : Anchoring) : Attempt TemplateFault Matchable := do
  let segments ← Attempt.ofExcept
    ((Segment.split template.toList).mapError (braceFault template))
  let placeholders ← readPlaceholders template [] (Segment.bodies segments)
  let pattern := anchored anchoring (patternText segments placeholders)
  let expression ← Attempt.ofExcept
    ((Expression.ofText pattern).mapError (.invalidPattern template))
  if expression.highestGroup ≠ placeholders.length then
    throw (.capturingGroup template)
  return ⟨template, String.ofList pattern,
    placeholders.map fun p => String.ofList p.name, anchoring, expression⟩

/-- What is noted once it is clear whether a template compiles. -/
def outcome : Except TemplateFault Matchable → Observation
  | .ok m => .patternCompiled m.template m.pattern m.parameters m.anchoring
  | .error fault => .patternRefused fault

/-- Compiles a template and notes whether it could be done. -/
def compile (template : String) (anchoring : Anchoring) : Attempt TemplateFault Matchable :=
  ExceptT.mk do
    let result ← (assemble template anchoring).run
    Recorded.note (outcome result)
    return result

/-! ## Matching -/

/-- The first match in a path. -/
def search (m : Matchable) (path : List Char) : Option Trail :=
  m.expression.program.search path

/-- Is the template found in the path? -/
def isMatch (m : Matchable) (path : String) : Bool := (m.search path.toList).isSome

/-- Finds the template in the path and binds its parameters.  A placeholder that took no part is
bound to the empty text. -/
def captures (m : Matchable) (path : String) : Option PathMatch :=
  let text := path.toList
  (m.search text).map fun trail =>
    let values := (List.range m.parameters.length).map fun i =>
      String.ofList (trail.groupText text (i + 1))
    ⟨Parameters.bind m.parameters values, String.ofList (text.drop trail.stop)⟩

end Matchable

end UriRouting
