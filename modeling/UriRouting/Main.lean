import UriRouting.CommandLine.Run

/-!
# The program

The outer layer of the program: it reads files and the standard input, prints what `run` says, and
gives the exit status.  While it watches, the file of the table is read anew before each line is
answered.
-/

namespace UriRouting.CommandLine

/-- What the operating system says about a file that cannot be read. -/
def ReadFault.ofError : IO.Error → ReadFault
  | .noFileOrDirectory _ _ _ => .missing
  | .inappropriateType _ 21 _ => .isFolder
  | .inappropriateType _ _ "not a directory" => .notFolder
  | e => .other (toString e)

/-- Reads a file. -/
def readContent (path : String) : IO FileContent := do
  match ← (IO.FS.readBinFile path).toBaseIO with
  | .ok bytes => return .ok bytes.toList
  | .error e => return .error (ReadFault.ofError e)

/-- Prints lines. -/
def printLines (lines : List String) : IO Unit := do
  let out ← IO.getStdout
  for line in lines do
    out.putStr (line ++ "\n")
  out.flush

/-- Prints a fault and gives the exit status. -/
def report (fault : Option RunFault) : IO UInt32 := do
  match fault with
  | none => return 0
  | some fault =>
    IO.eprintln ("error: " ++ fault.message)
    return 1

/-- Reads bytes up to a line feed, or to the end of the input. -/
partial def readLine (input : IO.FS.Stream) (line : ByteArray) : IO ByteArray := do
  let bytes ← input.read 1
  if bytes.isEmpty then return line
  else if bytes.toList == [0x0A] then return line ++ bytes
  else readLine input (line ++ bytes)

/-- Answers the lines of the standard input; `content` is what was last read from the file. -/
partial def watchInput (table : String) (w : Watch) (content : FileContent) : IO UInt32 := do
  let line ← readLine (← IO.getStdin) ByteArray.empty
  let latest ← readContent table
  let unchanged := match content, latest with
    | .ok a, .ok b => a == b
    | .error a, .error b => a == b
    | _, _ => false
  let w := if unchanged then w else (w.reload latest).value
  let (w, lines, fault) := (w.receive line.toList).value
  printLines lines
  if fault.isSome then report (fault.map .input)
  else if isComplete line.toList then watchInput table w latest
  else
    let (lines, fault) := w.finish.value
    printLines lines
    report (fault.map .input)

/-- Carries a command out. -/
def perform (command : Command) : IO UInt32 := do
  let content ← readContent command.table
  match command with
  | .watch table =>
    match (openRouter content).run.value with
    | .error fault => report (some fault)
    | .ok router => watchInput table (Watch.start router) content
  | command =>
    let output := (run command content []).value
    printLines output.lines
    report output.fault

end UriRouting.CommandLine

open UriRouting.CommandLine in
/-- Carries out the command that the arguments ask for. -/
def main (arguments : List String) : IO UInt32 := do
  match Command.ofArguments? arguments with
  | some command => perform command
  | none =>
    IO.eprintln "usage: check TABLE | match TABLE PATH.. | url TABLE NAME VALUE.. | watch TABLE"
    return usageStatus.toUInt32
