import UriRouting.Table.Basic
import UriRouting.Text.Blank
import UriRouting.Text.LetterCase
import UriRouting.Text.Quoted

/-!
# Checking a table

A table that reads well may still be no good: its level of logging may be unknown, a route may lead
nowhere, an empty template may stand at the root, and a name may be empty or taken.  `Table.check`
finds all such problems, in the order of the table: the routes of a router come before the routers
in it.
-/

namespace UriRouting

/-- The place of a route in a table: the routers around it, outermost first, and the route itself,
by position. -/
structure Location where
  routers : List Nat
  route : Nat
deriving DecidableEq

/-- A place as it is shown in messages. -/
def Location.show (location : Location) : String :=
  location.routers.foldr (fun i rest => "routers[" ++ toString i ++ "]." ++ rest)
    ("routes[" ++ toString location.route ++ "]")

/-- A problem of a table. -/
inductive TableProblem
  | unknownLogLevel (level : String)
  | emptyTemplate (location : Location)
  | emptyTarget (location : Location)
  | emptyName (location : Location)
  | takenName (location : Location) (name : String)
deriving DecidableEq

namespace TableProblem

/-- The short name of a problem. -/
def kind : TableProblem → String
  | unknownLogLevel _ => "invalid_log_level"
  | emptyTemplate _ => "empty_template"
  | emptyTarget _ => "empty_target"
  | emptyName _ => "empty_name"
  | takenName _ _ => "duplicate_name"

/-- The wording of a problem. -/
def message : TableProblem → String
  | unknownLogLevel level => "unknown log level " ++ quoted level
  | emptyTemplate location => location.show ++ ": root route template is empty"
  | emptyTarget location => location.show ++ ": route target is empty"
  | emptyName location => location.show ++ ": route name is empty"
  | takenName location name =>
    location.show ++ ": route name " ++ quoted name ++ " is already used"

end TableProblem

/-! ## Levels of logging -/

/-- The levels of logging. -/
def logLevels : List String := ["trace", "debug", "info", "warn", "error"]

/-- Is the text a level of logging, in letters of either case? -/
def isLogLevel (text : String) : Bool := logLevels.contains (lowerText text)

/-- The directive that sets the level of the log when nothing else does. -/
def Observability.defaultDirective (o : Observability) : String :=
  directiveFor (lowerText o.logLevel)

/-! ## Routes -/

/-- The problem that an entry has with its name. -/
def nameProblems (location : Location) (name : Option String) (names : List String) :
    List TableProblem :=
  match name with
  | none => []
  | some name =>
    if name.isEmpty then [.emptyName location]
    else if names.contains name then [.takenName location name]
    else []

/-- The names taken after an entry. -/
def namesWith (name : Option String) (names : List String) : List String :=
  match name with
  | none => names
  | some name => if name.isEmpty || names.contains name then names else names ++ [name]

/-- The problems of one route. -/
def routeProblems (location : Location) (entry : RouteEntry) (names : List String) :
    List TableProblem :=
  (if location.routers.isEmpty && entry.template.isEmpty then [.emptyTemplate location] else []) ++
    (if isBlankText entry.target then [.emptyTarget location] else []) ++
    nameProblems location entry.name names

/-- The problems of routes that stand at a position in the routers around them, and the names taken
after them. -/
def checkRoutes (around : List Nat) : Nat → List RouteEntry → List String →
    List TableProblem × List String
  | _, [], names => ([], names)
  | i, entry :: rest, names =>
    let others := checkRoutes around (i + 1) rest (namesWith entry.name names)
    (routeProblems ⟨around, i⟩ entry names ++ others.1, others.2)

/-! ## Routers -/

mutual

/-- The problems inside a router, whose position ends `around`. -/
def checkRouter (around : List Nat) : RouterEntry → List String → List TableProblem × List String
  | ⟨_, routes, routers⟩, names =>
    let own := checkRoutes around 0 routes names
    let inner := checkRouters around 0 routers own.2
    (own.1 ++ inner.1, inner.2)

/-- The problems inside several routers. -/
def checkRouters (around : List Nat) : Nat → List RouterEntry → List String →
    List TableProblem × List String
  | _, [], names => ([], names)
  | i, entry :: rest, names =>
    let first := checkRouter (around ++ [i]) entry names
    let others := checkRouters around (i + 1) rest first.2
    (first.1 ++ others.1, others.2)

end

/-- All problems of a table, in order. -/
def Table.check (table : Table) : List TableProblem :=
  let level := table.observability.logLevel
  let own := checkRoutes [] 0 table.routes []
  (if isLogLevel level then [] else [.unknownLogLevel level]) ++ own.1 ++
    (checkRouters [] 0 table.routers own.2).1

end UriRouting
