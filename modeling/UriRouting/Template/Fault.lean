import UriRouting.Expression.Fault
import UriRouting.Text.Quoted

/-!
# Faults of templates and routes

What can be wrong with a template, and what else can go wrong while a tree of routes is built or
asked for a path.  `kind` is the short stable name of a fault, `message` its wording.
-/

namespace UriRouting

/-- How much of a path a compiled template takes. -/
inductive Anchoring
  /-- The whole path. -/
  | full
  /-- The beginning of the path; the rest is left to others. -/
  | leading
deriving DecidableEq

/-- Why a template does not compile. -/
inductive TemplateFault
  | unbalancedBraces (template : String)
  | emptyPlaceholder (template : String)
  /-- The body of the placeholder starts with a colon. -/
  | missingName (body : String)
  /-- The body of the placeholder ends with its first colon. -/
  | missingPattern (body : String)
  /-- The parentheses of the sub-pattern are not balanced on their own. -/
  | unbalancedSubpattern (body : String)
  /-- The expression has other capturing groups than those of the placeholders. -/
  | capturingGroup (template : String)
  /-- The assembled text is no expression. -/
  | invalidPattern (template : String) (cause : ExpressionFault)
deriving DecidableEq

namespace TemplateFault

/-- The short name of a fault, under which it is counted. -/
def kind : TemplateFault → String
  | unbalancedBraces _ => "unbalanced_braces"
  | emptyPlaceholder _ => "empty_placeholder"
  | missingName _ => "missing_parameter_name"
  | missingPattern _ => "missing_parameter_pattern"
  | unbalancedSubpattern _ => "unbalanced_subpattern"
  | capturingGroup _ => "unexpected_capturing_group"
  | invalidPattern _ _ => "invalid_pattern"

/-- The wording of a fault.  What is wrong with the text of an expression is not spelled out. -/
def message : TemplateFault → String
  | unbalancedBraces template => "unbalanced braces in " ++ quoted template
  | emptyPlaceholder template => "empty route parameter in " ++ quoted template
  | missingName body => "invalid route parameter, missing name in " ++ quoted body
  | missingPattern body => "invalid route parameter, missing pattern in " ++ quoted body
  | unbalancedSubpattern body =>
    "invalid route parameter, unbalanced parentheses in " ++ quoted body
  | capturingGroup template => "route " ++ template ++ " contains capture groups in its " ++
    "pattern; only non-capturing groups are accepted, e.g. (?:pattern) instead of (pattern)"
  | invalidPattern template _ => "invalid pattern for route " ++ template ++ ": "

end TemplateFault

/-- Why a tree of routes cannot be built, or a path cannot be. -/
inductive RouteFault
  | badTemplate (fault : TemplateFault)
  /-- Two routes of a table go by one name. -/
  | duplicateName (name : String)
  | unknownRoute (name : String)
  /-- There are not as many values as placeholders. -/
  | parameterCount (template : String) (expected actual : Nat)
deriving DecidableEq

namespace RouteFault

/-- The short name of a fault. -/
def kind : RouteFault → String
  | badTemplate fault => fault.kind
  | duplicateName _ => "duplicate_name"
  | unknownRoute _ => "unknown_route"
  | parameterCount _ _ _ => "parameter_count"

/-- The wording of a fault. -/
def message : RouteFault → String
  | badTemplate fault => fault.message
  | duplicateName name => "duplicate route name " ++ quoted name
  | unknownRoute name => "no route named " ++ quoted name
  | parameterCount template expected actual => "route " ++ template ++ " expects " ++
    toString expected ++ " parameter(s), got " ++ toString actual

end RouteFault

end UriRouting
