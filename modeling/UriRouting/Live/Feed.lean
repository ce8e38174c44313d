import UriRouting.Live.Shared
import UriRouting.Table.Load

/-!
# Following a file

A feed follows the file of a table.  Each time the file is written, the table is loaded from it, and
a router that could be built takes effect as long as the feed is open.  A file that does not load
leaves the router in effect.
-/

namespace UriRouting

/-- A router in effect that follows a file. -/
structure RouterFeed where
  shared : SharedRouter
  /-- Are routers still taken from the feed? -/
  isOpen : Bool

/-- What became of a file that was written. -/
inductive Delivery
  /-- Its router has taken effect. -/
  | applied
  /-- It does not load. -/
  | rejected
  /-- It loads, but the feed is closed. -/
  | dropped
deriving DecidableEq

namespace RouterFeed

/-- An open feed with a router in effect. -/
def start (router : Router) : RouterFeed := ⟨SharedRouter.start router, true⟩

/-- An open feed with the router of a file in effect. -/
def ofFile (content : FileContent) : Attempt LoadFault RouterFeed :=
  start <$> Router.ofFile content

/-- The router in effect. -/
def current (feed : RouterFeed) : Router := feed.shared.current

/-- Takes no more routers from the feed. -/
def close (feed : RouterFeed) : RouterFeed := { feed with isOpen := false }

/-- Hands a new router over. -/
def deliver (feed : RouterFeed) (router : Router) : Recorded (RouterFeed × Delivery) := do
  if feed.isOpen then
    let shared ← feed.shared.replace router
    return ({ feed with shared }, .applied)
  else return (feed, .dropped)

/-- Loads the table anew after the file was written. -/
def reload (feed : RouterFeed) (content : FileContent) : Recorded (RouterFeed × Delivery) := do
  match ← (Router.ofFile content).run with
  | .ok router =>
    Recorded.note (.reloaded true)
    feed.deliver router
  | .error _ =>
    Recorded.note (.reloaded false)
    return (feed, .rejected)

end RouterFeed

end UriRouting
