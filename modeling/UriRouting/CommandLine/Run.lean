import UriRouting.CommandLine.Arguments
import UriRouting.CommandLine.Watch

/-!
# A run of the program

`run` says what the program prints and with what it fails, given what is in the files and in the
standard input.  The table is loaded and all its templates are compiled before anything else is
done.
-/

namespace UriRouting.CommandLine

/-- Why a run fails. -/
inductive RunFault
  | load (fault : LoadFault)
  | route (fault : RouteFault)
  /-- A line of the standard input is not UTF-8. -/
  | input (fault : Utf8.Fault)
deriving DecidableEq

/-- The wording of a fault. -/
def RunFault.message : RunFault → String
  | load fault => fault.message
  | route fault => fault.message
  | input fault => fault.message

/-- What a run leaves behind: lines of output, and a fault if it fails in the end. -/
structure Output where
  lines : List String
  fault : Option RunFault

/-- The output as one text. -/
def Output.text (output : Output) : String :=
  String.join (output.lines.map fun line => line ++ "\n")

/-- The exit status. -/
def Output.status (output : Output) : Nat := if output.fault.isSome then 1 else 0

/-- The exit status where the arguments make no command. -/
def usageStatus : Nat := 2

/-- A run that fails before it prints anything. -/
def Output.failed (fault : RunFault) : Output := ⟨[], some fault⟩

/-- The router that a file describes. -/
def openRouter (content : FileContent) : Attempt RunFault Router := do
  let table ← Attempt.ofExcept ((Table.ofFile content).mapError .load)
  (Router.ofTable table).adapt .route

/-! ## Watching -/

/-- Something that happens while the program watches. -/
inductive Event
  /-- The file of the table was written. -/
  | written (content : FileContent)
  /-- Bytes came in. -/
  | received (bytes : List UInt8)
  /-- The standard input has ended. -/
  | ended
  /-- The program was asked to stop. -/
  | stopped

/-- What the program prints for a sequence of events. -/
def watchEvents (w : Watch) : List Event → Recorded Output
  | [] => return ⟨[], none⟩
  | .written content :: rest => do
    let w ← w.reload content
    watchEvents w rest
  | .received bytes :: rest => do
    let (w, lines, fault) ← w.receive bytes
    match fault with
    | some fault => return ⟨lines, some (.input fault)⟩
    | none =>
      let output ← watchEvents w rest
      return { output with lines := lines ++ output.lines }
  | .ended :: _ => do
    let (lines, fault) ← w.finish
    return ⟨lines, fault.map .input⟩
  | .stopped :: _ => return ⟨[], none⟩

/-! ## Commands -/

/-- Carries out a command with the router of its table. -/
def carryOut (router : Router) (events : List Event) : Command → Recorded Output
  | .check table =>
    return ⟨[table ++ ": " ++ toString router.routeCount ++ " route(s) OK"], none⟩
  | .lookUp _ paths => do
    let lines ← paths.mapM (answerPath router)
    return ⟨lines, none⟩
  | .url _ name values =>
    return match router.url name values with
      | .ok uri => ⟨[uri], none⟩
      | .error fault => .failed (.route fault)
  | .watch _ => watchEvents (Watch.start router) events

/-- Carries out a command.  `content` is what is in the file of the table, and `events` is what
happens while the program watches. -/
def run (command : Command) (content : FileContent) (events : List Event) : Recorded Output := do
  match ← (openRouter content).run with
  | .error fault => return .failed fault
  | .ok router => carryOut router events command

end UriRouting.CommandLine
