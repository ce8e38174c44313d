import UriRouting.Template.Fault

/-!
# The journal

Compiling, looking up and reloading leave observations in a journal.  An observation may be a line
of the log, a step of a counter, or both; `Observation.record?` and `Observation.counter?` say
which.

`Recorded` pairs a value with what was observed on the way to it.  It is a lawful monad, so steps
compose and their journals are joined in order.
-/

namespace UriRouting

/-! ## Observations -/

/-- Something worth noting. -/
inductive Observation
  /-- A template has a placeholder whose name occurred before. -/
  | repeatedParameter (template parameter : String)
  | patternCompiled (template pattern : String) (parameters : List String) (anchoring : Anchoring)
  | patternRefused (fault : TemplateFault)
  /-- A tree was built from a table, with so many routes and so many names. -/
  | tableCompiled (routes named : Nat)
  | routeMatched (path target : String)
  | noRouteMatched (path : String)
  /-- Another tree took effect, with so many routes. -/
  | tableSwapped (routes : Nat)
  /-- The file of the table was read anew; it was fit to be used or not. -/
  | reloaded (applied : Bool)
deriving DecidableEq

/-- How much a line of the log matters. -/
inductive Level
  | warn
  | info
  | debug
deriving DecidableEq

/-- The value of a field of a log line. -/
inductive FieldValue
  | text (value : String)
  | number (value : Nat)
deriving DecidableEq

/-- A line of the log. -/
structure LogRecord where
  level : Level
  message : String
  fields : List (String × FieldValue)
deriving DecidableEq

/-- The name of a way to anchor, in a log line. -/
def Anchoring.logName : Anchoring → String
  | .full => "Full"
  | .leading => "Prefix"

namespace Observation

/-- The line that an observation leaves in the log. -/
def record? : Observation → Option LogRecord
  | repeatedParameter template parameter => some ⟨.warn,
      "Duplicate route parameter name, last value wins",
      [("template", .text template), ("parameter", .text parameter)]⟩
  | patternCompiled template pattern parameters anchoring => some ⟨.debug,
      "Compiled route pattern",
      [("template", .text template), ("pattern", .text pattern),
        ("parameters", .text (quotedList parameters)), ("anchoring", .text anchoring.logName)]⟩
  | patternRefused _ => none
  | tableCompiled routes named => some ⟨.info, "Route table compiled",
      [("routes", .number routes), ("named", .number named)]⟩
  | routeMatched path target => some ⟨.debug, "Route matched",
      [("path", .text path), ("target", .text target)]⟩
  | noRouteMatched path => some ⟨.debug, "No route matched", [("path", .text path)]⟩
  | tableSwapped routes => some ⟨.info, "Route table swapped", [("routes", .number routes)]⟩
  | reloaded _ => none

/-- The counter that an observation moves by one. -/
def counter? : Observation → Option String
  | repeatedParameter _ _ => none
  | patternCompiled _ _ _ _ => some "routebind_patterns_compiled_total"
  | patternRefused fault => some ("routebind_pattern_errors_total\x7bkind=" ++ fault.kind ++ "\x7d")
  | tableCompiled _ _ => none
  | routeMatched _ _ => some "routebind_matches_total\x7boutcome=hit\x7d"
  | noRouteMatched _ => some "routebind_matches_total\x7boutcome=miss\x7d"
  | tableSwapped _ => none
  | reloaded true => some "routebind_reloads_total\x7boutcome=applied\x7d"
  | reloaded false => some "routebind_reloads_total\x7boutcome=rejected\x7d"

end Observation

/-! ## Journals -/

/-- Observations in the order in which they were made. -/
abbrev Journal := List Observation

namespace Journal

/-- The lines of the log. -/
def records (journal : Journal) : List LogRecord := journal.filterMap Observation.record?

/-- How far a counter has moved. -/
def growth (journal : Journal) (counter : String) : Nat :=
  (journal.filterMap Observation.counter?).count counter

/-- The counters that have moved, each with its growth. -/
def counters (journal : Journal) : List (String × Nat) :=
  (journal.filterMap Observation.counter?).eraseDups.map fun name => (name, journal.growth name)

theorem growth_nil (counter : String) : growth [] counter = 0 := rfl

theorem growth_append (a b : Journal) (counter : String) :
    growth (a ++ b) counter = growth a counter + growth b counter := by
  simp [growth, List.filterMap_append, List.count_append]

end Journal

/-! ## Values with a journal -/

/-- A value together with what was observed on the way to it. -/
structure Recorded (α : Type) where
  value : α
  journal : Journal

namespace Recorded

/-- Notes an observation. -/
def note (o : Observation) : Recorded Unit := ⟨(), [o]⟩

instance : Monad Recorded where
  pure a := ⟨a, []⟩
  bind x f := ⟨(f x.value).value, x.journal ++ (f x.value).journal⟩

@[simp] theorem value_pure {α : Type} (a : α) : (pure a : Recorded α).value = a := rfl

@[simp] theorem journal_pure {α : Type} (a : α) : (pure a : Recorded α).journal = [] := rfl

@[simp] theorem value_bind {α β : Type} (x : Recorded α) (f : α → Recorded β) :
    (x >>= f).value = (f x.value).value := rfl

@[simp] theorem journal_bind {α β : Type} (x : Recorded α) (f : α → Recorded β) :
    (x >>= f).journal = x.journal ++ (f x.value).journal := rfl

theorem ext {α : Type} {x y : Recorded α} (hv : x.value = y.value)
    (hj : x.journal = y.journal) : x = y := by
  cases x
  cases y
  cases hv
  cases hj
  rfl

instance : LawfulMonad Recorded := LawfulMonad.mk' Recorded
  (fun _ => ext rfl (List.append_nil _))
  (fun _ _ => ext rfl (List.nil_append _))
  (fun _ _ _ => ext rfl (List.append_assoc _ _ _))
  (fun _ _ => rfl) (fun _ _ => rfl) (fun _ _ => rfl) (fun _ _ => rfl) (fun _ _ => rfl)

end Recorded

/-- A step that may fail, together with what was observed. -/
abbrev Attempt (fault α : Type) := ExceptT fault Recorded α

namespace Attempt

/-- Notes an observation. -/
def note {fault : Type} (o : Observation) : Attempt fault Unit := ExceptT.lift (Recorded.note o)

/-- Takes over a result that was found without observing anything. -/
def ofExcept {fault α : Type} (result : Except fault α) : Attempt fault α :=
  ExceptT.mk (pure result)

end Attempt

end UriRouting
