import UriRouting.Router.Lookup
import UriRouting.Router.OfTable

/-!
# The router in effect

Many readers share one router, which can be replaced while they work.  A reader that keeps a
snapshot goes on with the router that was in effect when the snapshot was taken.
-/

namespace UriRouting

/-- The router in effect, and the snapshots that readers keep. -/
structure SharedRouter where
  current : Router
  /-- Snapshots by the names that their readers gave them, the latest first. -/
  snapshots : List (String × Router)

namespace SharedRouter

/-- A router in effect of which nobody has a snapshot. -/
def start (router : Router) : SharedRouter := ⟨router, []⟩

/-- Puts another router into effect. -/
def replace (s : SharedRouter) (router : Router) : Recorded SharedRouter := do
  Recorded.note (.tableSwapped router.routeCount)
  return { s with current := router }

/-- Puts the router of a table into effect, if there is one. -/
def replaceTable (s : SharedRouter) (table : Table) : Attempt RouteFault SharedRouter := do
  let router ← Router.ofTable table
  ExceptT.lift (s.replace router)

/-- Keeps the router in effect under a name, in place of what the name stood for before. -/
def takeSnapshot (s : SharedRouter) (name : String) : SharedRouter :=
  { s with snapshots := (name, s.current) :: s.snapshots }

/-- The snapshot of a name. -/
def snapshot? (s : SharedRouter) (name : String) : Option Router :=
  (s.snapshots.find? fun e => e.1 == name).map Prod.snd

end SharedRouter

end UriRouting
