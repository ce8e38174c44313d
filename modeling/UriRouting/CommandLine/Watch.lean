import UriRouting.CommandLine.Answer
import UriRouting.Live.Feed
import UriRouting.Text.Blank

/-!
# Watching

The program reads paths from its standard input, one a line, and answers each by the router in
effect at that time.  White space around a path does not count, and a line of nothing else is passed
over.  A line that is not UTF-8 ends the work.
-/

namespace UriRouting.CommandLine

/-- The bytes of a text line by line, each line with its line feed; the last line may have none. -/
def linesOf : List UInt8 → List (List UInt8)
  | [] => []
  | b :: rest =>
    if b = 0x0A then [b] :: linesOf rest
    else match linesOf rest with
      | [] => [[b]]
      | line :: others => (b :: line) :: others

/-- Does the line end with a line feed? -/
def isComplete (line : List UInt8) : Bool := line.getLast? == some 0x0A

/-- The path of a line; a line of white space has none. -/
def pathOf (line : List UInt8) : Except Utf8.Fault (Option String) :=
  (Utf8.decode line).map fun text =>
    let path := trimBlank text.toList
    if path.isEmpty then none else some (String.ofList path)

/-- Answers lines by one router up to the first that is not UTF-8. -/
def answerLines (router : Router) :
    List (List UInt8) → Recorded (List String × Option Utf8.Fault)
  | [] => return ([], none)
  | line :: rest =>
    match pathOf line with
    | .error fault => return ([], some fault)
    | .ok none => answerLines router rest
    | .ok (some path) => do
      let first ← answerPath router path
      let (others, fault) ← answerLines router rest
      return (first :: others, fault)

/-- The router in effect, and the beginning of a line that is not complete. -/
structure Watch where
  feed : RouterFeed
  pending : List UInt8

namespace Watch

/-- Watching begins. -/
def start (router : Router) : Watch := ⟨RouterFeed.start router, []⟩

/-- The file of the table has been written. -/
def reload (w : Watch) (content : FileContent) : Recorded Watch := do
  let (feed, _) ← w.feed.reload content
  return { w with feed }

/-- Bytes have come in; the lines that they complete are answered. -/
def receive (w : Watch) (bytes : List UInt8) :
    Recorded (Watch × List String × Option Utf8.Fault) := do
  let lines := linesOf (w.pending ++ bytes)
  let pending := (lines.filter fun line => !isComplete line).flatten
  let result ← answerLines w.feed.current (lines.filter isComplete)
  return ({ w with pending }, result)

/-- No more bytes will come; what is left is a line. -/
def finish (w : Watch) : Recorded (List String × Option Utf8.Fault) :=
  answerLines w.feed.current (linesOf w.pending)

end Watch

end UriRouting.CommandLine
