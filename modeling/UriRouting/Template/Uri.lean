import UriRouting.Template.Matchable

/-!
# Building a path from a template

The placeholders of a template are filled with values from left to right.  Values are put in as
they are, whether the placeholder's sub-pattern matches them or not, and the template need not
compile; only its braces have to be in order.
-/

namespace UriRouting

/-- The segments with values in place of the placeholders. -/
def Segment.fill : List Segment → List String → List Char
  | .literal text :: rest, values => text ++ fill rest values
  | .placeholder _ :: rest, value :: values => value.toList ++ fill rest values
  | _, _ => []

/-- The path that a template and values for its placeholders make up. -/
def buildUri (template : String) (values : List String) : Except RouteFault String :=
  match Segment.split template.toList with
  | .error fault => .error (.badTemplate (Matchable.braceFault template fault))
  | .ok segments =>
    let expected := (Segment.bodies segments).length
    if expected ≠ values.length then
      .error (.parameterCount template expected values.length)
    else .ok (String.ofList (Segment.fill segments values))

/-- The path that a compiled template and values for its placeholders make up. -/
def Matchable.buildUri (m : Matchable) (values : List String) : Except RouteFault String :=
  UriRouting.buildUri m.template values

end UriRouting
