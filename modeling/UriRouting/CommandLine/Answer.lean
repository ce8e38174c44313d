import UriRouting.Router.Lookup

/-!
# Answers

The program answers a path by one line: a JSON object without blanks, its keys in the order of their
code points.
-/

namespace UriRouting.CommandLine

/-- A character as it is written in a JSON string. -/
def escapeJson (c : Char) : List Char :=
  if c = '"' then ['\\', '"']
  else if c = '\\' then ['\\', '\\']
  else if c = '\x08' then ['\\', 'b']
  else if c = '\x0c' then ['\\', 'f']
  else if c = '\n' then ['\\', 'n']
  else if c = '\r' then ['\\', 'r']
  else if c = '\t' then ['\\', 't']
  else if c.toNat < 0x20 then
    ['\\', 'u', '0', '0'] ++ (if c.toNat < 0x10 then ['0'] else []) ++ Nat.toDigits 16 c.toNat
  else [c]

/-- A text as a JSON string. -/
def jsonString (text : String) : String :=
  String.ofList ('"' :: text.toList.flatMap escapeJson ++ ['"'])

/-- A JSON object of values that are written already. -/
def jsonObject (fields : List (String × String)) : String :=
  "\x7b" ++ String.intercalate "," (fields.map fun e => jsonString e.1 ++ ":" ++ e.2) ++ "\x7d"

/-- Parameters as a JSON object. -/
def jsonParameters (params : Parameters) : String :=
  jsonObject ((params.entries.mergeSort fun a b => decide (a.1 ≤ b.1)).map
    fun e => (e.1, jsonString e.2))

/-- The line that answers a path. -/
def answer (path : String) : Option Found → String
  | none => jsonObject [("matched", "false"), ("path", jsonString path)]
  | some found => jsonObject
      [("matched", "true"),
        ("name", match found.route.name with
          | none => "null"
          | some name => jsonString name),
        ("params", jsonParameters found.params),
        ("path", jsonString path),
        ("target", jsonString found.route.target)]

/-- Looks a path up and gives the line that answers it. -/
def answerPath (router : Router) (path : String) : Recorded String :=
  answer path <$> router.find path

end UriRouting.CommandLine
