import Mathlib.Data.List.TakeWhile
import Mathlib.Tactic
import UriRouting.Live.Feed
import UriRouting.Proofs.Table.Registrations

/-!
# Which router is in effect

While a feed follows a file, the file may be written any number of times, and at any moment the feed
may be closed.  An `Event` is one or the other, and `follow` is a run from the first content of the
file on.

One of three things comes of a write.  Its content is not accepted, and the feed stays as it is; or
it is accepted and takes effect; or it is accepted, but the feed has been closed (`value_reload`).
So the router in effect and the counters follow different rules.  In effect is the router of the
last accepted write before the first closing (`lastAccepted?`, `current_handleAll`), while writes
after that are still counted (`growth_handleAll`).  Both rules are shown along a run from its last
event, and put together in `follow_inEffect`.
-/

namespace UriRouting

/-- The counter of the files that were read anew, by whether they were accepted. -/
def Journal.reloads : Bool → String
  | true => "routebind_reloads_total\x7boutcome=applied\x7d"
  | false => "routebind_reloads_total\x7boutcome=rejected\x7d"

lemma Observation.counter?_reloaded (applied : Bool) :
    (reloaded applied).counter? = some (Journal.reloads applied) := by
  cases applied <;> rfl

lemma Journal.reloads_inj {a b : Bool} : reloads a = reloads b ↔ a = b := by
  cases a <;> cases b <;> simp [reloads]

/-! ## Contents of a file -/

/-- The router of a file, if its content is accepted. -/
def FileContent.accepted? (content : FileContent) : Option Router :=
  (Router.ofFile content).run.value.toOption

/-- A content can be refused at three places: there is no table in the file or it has problems, or
the tree of the table cannot be built. -/
theorem FileContent.accepted?_eq_none_iff {content : FileContent} :
    content.accepted? = none ↔
      (∃ fault, Table.ofFile content = .error fault) ∨
      ∃ table fault, Table.ofFile content = .ok table ∧
        (Router.ofTable table).run.value = .error fault := by
  rw [FileContent.accepted?, Router.ofFile, Attempt.value_bind, Attempt.value_ofExcept]
  cases Table.ofFile content with
  | error fault => simp [Except.toOption]
  | ok table =>
    simp only [Attempt.value_adapt]
    cases hvalue : (Router.ofTable table).run.value <;>
      simp [hvalue, Except.mapError, Except.toOption]

/-- Loading a table is not a reload yet. -/
lemma Router.growth_ofFile (content : FileContent) (applied : Bool) :
    (ofFile content).run.journal.growth (Journal.reloads applied) = 0 := by
  have hsteps (table : Table) :
      (ofTable table).run.journal.growth (Journal.reloads applied) = 0 := by
    rw [growth_ofTable]
    apply Registration.growth_performAll_eq_zero
    · cases applied <;> decide +kernel
    · exact Journal.patternErrors_ne (by cases applied <;> decide +kernel)
  rw [ofFile, Attempt.journal_bind, Attempt.value_ofExcept]
  cases Table.ofFile content with
  | error fault => rfl
  | ok table =>
    simp only [Attempt.journal_adapt]
    exact hsteps table

namespace RouterFeed

/-! ## Events -/

/-- Something that happens to a feed. -/
inductive Event
  /-- The file is written. -/
  | written (content : FileContent)
  /-- The feed is closed. -/
  | closed

namespace Event

def isWrite : Event → Bool
  | written _ => true
  | closed => false

/-- The router that a write brings, if its content is accepted. -/
def accepted? : Event → Option Router
  | written content => content.accepted?
  | closed => none

/-- A write is counted by whether its content is accepted. -/
def counted? : Event → Option Bool
  | written content => some content.accepted?.isSome
  | closed => none

end Event

/-- What a feed does when something happens. -/
def handle (feed : RouterFeed) : Event → Recorded RouterFeed
  | .written content => do
    let (feed, _) ← feed.reload content
    return feed
  | .closed => return feed.close

/-- What a feed does when several things happen, one after the other. -/
def handleAll (feed : RouterFeed) (events : List Event) : Recorded RouterFeed :=
  events.foldlM handle feed

/-- Follows a file from its first content on. -/
def follow (initial : FileContent) (events : List Event) : Attempt LoadFault RouterFeed := do
  let feed ← ofFile initial
  ExceptT.lift (feed.handleAll events)

/-- The router of the last accepted write before the first closing, if there is one. -/
def lastAccepted? (events : List Event) : Option Router :=
  ((events.takeWhile Event.isWrite).filterMap Event.accepted?).getLast?

lemma handleAll_concat (feed : RouterFeed) (events : List Event) (e : Event) :
    feed.handleAll (events ++ [e]) = feed.handleAll events >>= (handle · e) := by
  simp [handleAll]

/-! ## One event -/

theorem value_reload (feed : RouterFeed) (content : FileContent) :
    (feed.reload content).value = match content.accepted? with
      | none => (feed, .rejected)
      | some router =>
        if feed.isOpen then ({ feed with shared.current := router }, .applied)
        else (feed, .dropped) := by
  rw [reload, FileContent.accepted?, Recorded.value_bind]
  cases (Router.ofFile content).run.value with
  | error fault => rfl
  | ok router =>
    simp only [Except.toOption, Recorded.value_bind, deliver]
    cases feed.isOpen <;> rfl

lemma growth_deliver (feed : RouterFeed) (router : Router) (applied : Bool) :
    (feed.deliver router).journal.growth (Journal.reloads applied) = 0 := by
  rw [deliver]
  cases feed.isOpen <;> rfl

/-- A reload is counted once, by whether the content is accepted. -/
lemma growth_reload (feed : RouterFeed) (content : FileContent) (applied : Bool) :
    (feed.reload content).journal.growth (Journal.reloads applied) =
      if content.accepted?.isSome = applied then 1 else 0 := by
  have hnoted (b : Bool) : Journal.growth [.reloaded b] (Journal.reloads applied) =
      if b = applied then 1 else 0 := by
    simp [Journal.growth_cons, Journal.growth_nil, Observation.counter?_reloaded,
      Journal.reloads_inj]
  rw [reload, FileContent.accepted?, Recorded.journal_bind, Journal.growth_append,
    Router.growth_ofFile, Nat.zero_add]
  cases (Router.ofFile content).run.value with
  | error fault => exact hnoted false
  | ok router =>
    simp only [Recorded.journal_bind, Journal.growth_append, growth_deliver]
    exact hnoted true

lemma isOpen_handle (feed : RouterFeed) (e : Event) :
    (feed.handle e).value.isOpen = (feed.isOpen && e.isWrite) := by
  cases e with
  | closed => simp [handle, close, Event.isWrite]
  | written content =>
    simp only [handle, Recorded.value_bind, Recorded.value_pure, value_reload, Event.isWrite,
      Bool.and_true]
    cases content.accepted? with
    | none => rfl
    | some router => cases h : feed.isOpen <;> simp [h]

lemma current_handle (feed : RouterFeed) (e : Event) :
    (feed.handle e).value.current =
      if feed.isOpen then e.accepted?.getD feed.current else feed.current := by
  cases e with
  | closed => simp [handle, close, current, Event.accepted?]
  | written content =>
    simp only [handle, Recorded.value_bind, Recorded.value_pure, value_reload, Event.accepted?]
    cases content.accepted? with
    | none => simp
    | some router => cases h : feed.isOpen <;> simp [current]

lemma growth_handle (feed : RouterFeed) (e : Event) (applied : Bool) :
    (feed.handle e).journal.growth (Journal.reloads applied) =
      if e.counted? = some applied then 1 else 0 := by
  cases e with
  | closed => simp [handle, Event.counted?, Journal.growth_nil]
  | written content =>
    have hjournal : (feed.handle (.written content)).journal = (feed.reload content).journal :=
      List.append_nil _
    rw [hjournal, growth_reload]
    simp [Event.counted?]

/-! ## Runs -/

/-- A feed is open until it is closed first. -/
lemma isOpen_handleAll (router : Router) (events : List Event) :
    ((start router).handleAll events).value.isOpen = events.all Event.isWrite := by
  induction events using List.reverseRecOn with
  | nil => rfl
  | append_singleton events e ih =>
    rw [handleAll_concat, Recorded.value_bind, isOpen_handle, ih, List.all_append]
    simp

lemma all_isWrite_iff {events : List Event} : events.all Event.isWrite ↔ .closed ∉ events := by
  rw [List.all_eq_true]
  constructor
  · intro h hclosed
    cases h _ hclosed
  · intro h e he
    cases e with
    | written content => rfl
    | closed => exact absurd he h

lemma lastAccepted?_concat (events : List Event) (e : Event) :
    lastAccepted? (events ++ [e]) =
      if events.all Event.isWrite then e.accepted?.or (lastAccepted? events)
      else lastAccepted? events := by
  have hone : lastAccepted? [e] = e.accepted? := by
    cases e with
    | closed => rfl
    | written content =>
      change (List.filterMap Event.accepted? [.written content]).getLast? = _
      rw [List.filterMap_cons]
      cases (Event.written content).accepted? <;> rfl
  rw [← hone, lastAccepted?, lastAccepted?, lastAccepted?]
  by_cases hopen : events.all Event.isWrite
  · have hwrites := List.all_eq_true.mp hopen
    rw [if_pos hopen, List.takeWhile_append_of_pos hwrites, List.filterMap_append,
      List.getLast?_append, List.takeWhile_eq_self_iff.mpr hwrites]
  · -- a closing among the events ends the writes that matter before the last event
    have hshort : (events.takeWhile Event.isWrite).length ≠ events.length := by
      intro hlength
      have hall := (List.takeWhile_prefix Event.isWrite).eq_of_length hlength
      exact hopen (List.all_eq_true.mpr (List.takeWhile_eq_self_iff.mp hall))
    rw [if_neg hopen, List.takeWhile_append, if_neg hshort]

/-- The router in effect is that of `lastAccepted?`, or the one that was there at first. -/
theorem current_handleAll (router : Router) (events : List Event) :
    ((start router).handleAll events).value.current = (lastAccepted? events).getD router := by
  induction events using List.reverseRecOn with
  | nil => rfl
  | append_singleton events e ih =>
    rw [handleAll_concat, Recorded.value_bind, current_handle, isOpen_handleAll, ih,
      lastAccepted?_concat]
    -- both sides ask whether the feed was still open
    split
    · cases e.accepted? <;> rfl
    · rfl

/-- Every write is counted, also after the feed was closed. -/
theorem growth_handleAll (feed : RouterFeed) (events : List Event) (applied : Bool) :
    (feed.handleAll events).journal.growth (Journal.reloads applied) =
      events.countP fun e => e.counted? = some applied := by
  induction events using List.reverseRecOn with
  | nil => rfl
  | append_singleton events e ih =>
    rw [handleAll_concat, Recorded.journal_bind, Journal.growth_append, ih, growth_handle,
      List.countP_append, List.countP_singleton]
    simp

/-! ## Following a file -/

lemma value_follow {initial : FileContent} {router : Router}
    (h : (Router.ofFile initial).run.value = .ok router) (events : List Event) :
    (follow initial events).run.value = .ok ((start router).handleAll events).value := by
  rw [follow, Attempt.value_bind, ofFile, Attempt.value_map, h]
  simp only [Except.map, Attempt.value_lift]

lemma growth_follow {initial : FileContent} {router : Router}
    (h : (Router.ofFile initial).run.value = .ok router) (events : List Event) (accepted : Bool) :
    (follow initial events).run.journal.growth (Journal.reloads accepted) =
      events.countP fun e => e.counted? = some accepted := by
  rw [follow, Attempt.journal_bind, Journal.growth_append, ofFile, Attempt.journal_map,
    Router.growth_ofFile, Attempt.value_map, h, Nat.zero_add]
  simp only [Except.map, Attempt.journal_lift]
  exact growth_handleAll (start router) events accepted

/-- A feed that follows a file which could be loaded at first has in effect, after any events, the
router of the last accepted write before the first closing, or else the one from the beginning.  One
more write that is not accepted, or that comes after a closing, changes no answer.  The two counters
of reloads say how many writes were accepted, in effect or not, and how many were not. -/
theorem follow_inEffect {initial : FileContent} {router : Router}
    (h : (Router.ofFile initial).run.value = .ok router) (events : List Event) :
    ∃ feed, (follow initial events).run.value = .ok feed ∧
      feed.current = (lastAccepted? events).getD router ∧
      (∀ content : FileContent, content.accepted? = none ∨ .closed ∈ events →
        ∃ next, (follow initial (events ++ [.written content])).run.value = .ok next ∧
          next.current = feed.current ∧
          (∀ path, next.current.find path = feed.current.find path) ∧
          (∀ name values, next.current.url name values = feed.current.url name values) ∧
          (∀ name, next.current.routeByName? name = feed.current.routeByName? name) ∧
          next.current.routeCount = feed.current.routeCount) ∧
      ∀ accepted, (follow initial events).run.journal.growth (Journal.reloads accepted) =
        events.countP fun e => e.counted? = some accepted := by
  refine ⟨_, value_follow h events, current_handleAll router events, ?_, growth_follow h events⟩
  intro content hignored
  refine ⟨_, value_follow h _, ?_⟩
  have hcurrent : ((start router).handleAll (events ++ [.written content])).value.current =
      ((start router).handleAll events).value.current := by
    rw [current_handleAll, current_handleAll, lastAccepted?_concat]
    rcases hignored with hrefused | hclosed
    · simp [Event.accepted?, hrefused]
    · rw [if_neg (fun hopen => all_isWrite_iff.mp hopen hclosed)]
  rw [hcurrent]
  simp

/-- The bytes of a text of ASCII characters. -/
def asciiContent (text : String) : FileContent :=
  .ok (text.toList.map fun c => UInt8.ofNat c.toNat)

def oneRoute : FileContent :=
  asciiContent "[[routes]]\ntemplate = \"/v1/\x7bid\x7d\"\ntarget = \"one\"\n"

def twoRoutes : FileContent :=
  asciiContent ("[[routes]]\ntemplate = \"/v1/\x7bid\x7d\"\ntarget = \"one\"\n" ++
    "[[routes]]\ntemplate = \"/v2/\x7bid:[0-9]+\x7d\"\ntarget = \"two\"\n")

/-- The only template has a sub-pattern with a group of its own. -/
def capturingRoute : FileContent :=
  asciiContent "[[routes]]\ntemplate = \"/v3/\x7bid:(x)\x7d\"\ntarget = \"three\"\n"

/-- Five writes, two of them after the feed was closed. -/
def fiveWrites : List Event :=
  [.written capturingRoute, .written twoRoutes, .written (.error .missing), .closed,
    .written oneRoute, .written capturingRoute]

/-- Of five writes after a table with one route, two are accepted.  The table with two routes takes
effect, and stays when a write after the closing brings another one. -/
theorem follow_inEffect_fiveWrites :
    ∃ feed, (follow oneRoute fiveWrites).run.value = .ok feed ∧
      feed.current.routeCount = 2 ∧
      (follow oneRoute fiveWrites).run.journal.growth (Journal.reloads true) = 2 ∧
      (follow oneRoute fiveWrites).run.journal.growth (Journal.reloads false) = 3 ∧
      ∃ next, (follow oneRoute (fiveWrites ++ [.written oneRoute])).run.value = .ok next ∧
        next.current = feed.current := by
  have hone : oneRoute.accepted?.isSome := by decide +kernel
  have htwo : twoRoutes.accepted?.map Router.routeCount = some 2 := by decide +kernel
  have hcapturing : capturingRoute.accepted?.isNone := by decide +kernel
  have hmissing : FileContent.accepted? (.error .missing) = none := rfl
  obtain ⟨first, hfirst⟩ := Option.isSome_iff_exists.mp hone
  obtain ⟨second, hsecond, hcount⟩ := Option.map_eq_some_iff.mp htwo
  rw [Option.isNone_iff_eq_none] at hcapturing
  have hlast : lastAccepted? fiveWrites = some second := by
    have hopen : fiveWrites.takeWhile Event.isWrite =
        [.written capturingRoute, .written twoRoutes, .written (.error .missing)] := rfl
    simp [lastAccepted?, hopen, Event.accepted?, hsecond, hcapturing, hmissing]
  obtain ⟨feed, hfeed, hcurrent, hunchanged, hcounted⟩ :=
    follow_inEffect (Attempt.toOption_eq_some.mp hfirst) fiveWrites
  obtain ⟨next, hnext, hsame, _⟩ := hunchanged oneRoute (.inr (by simp [fiveWrites]))
  refine ⟨feed, hfeed, ?_, ?_, ?_, next, hnext, hsame⟩
  · rw [hcurrent, hlast]
    exact hcount
  · rw [hcounted]
    simp [fiveWrites, Event.counted?, hfirst, hsecond, hcapturing, hmissing]
  · rw [hcounted]
    simp [fiveWrites, Event.counted?, hfirst, hsecond, hcapturing, hmissing]

end RouterFeed

end UriRouting
