/-!
# Arguments

The arguments of the program name a command and what it works on.  There are no options, so an
argument that looks like one is an error, unless it stands behind `--`.
-/

namespace UriRouting.CommandLine

/-- What the program is asked to do. -/
inductive Command
  /-- Report whether the table is sound. -/
  | check (table : String)
  /-- Look paths up. -/
  | lookUp (table : String) (paths : List String)
  /-- Build the path of a named route. -/
  | url (table name : String) (values : List String)
  /-- Look up the paths of the standard input, and follow the file of the table. -/
  | watch (table : String)
deriving DecidableEq

/-- The file of the table. -/
def Command.table : Command → String
  | check table => table
  | lookUp table _ => table
  | url table _ _ => table
  | watch table => table

/-- Does the argument look like an option?  A dash alone does not. -/
def isOption (argument : String) : Bool :=
  match argument.toList with
  | '-' :: _ :: _ => true
  | _ => false

/-- The arguments that are no options; there is none if one looks like an option. -/
def operands? : List String → Option (List String)
  | [] => some []
  | argument :: rest =>
    if argument == "--" then some rest
    else if isOption argument then none
    else (operands? rest).map (argument :: ·)

/-- The command of a name with its operands; the name of a file is not empty. -/
def Command.ofOperands? (name : String) : List String → Option Command
  | [] => none
  | table :: rest =>
    if table.isEmpty then none
    else match name, rest with
      | "check", [] => some (.check table)
      | "match", path :: paths => some (.lookUp table (path :: paths))
      | "url", route :: values => some (.url table route values)
      | "watch", [] => some (.watch table)
      | _, _ => none

/-- The command that arguments ask for. -/
def Command.ofArguments? : List String → Option Command
  | [] => none
  | name :: rest => (operands? rest).bind (Command.ofOperands? name)

end UriRouting.CommandLine
