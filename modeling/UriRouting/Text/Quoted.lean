import UriRouting.Text.Category
import UriRouting.Text.Property

/-!
# Quoted text

Messages show a piece of text between double quotes.  Inside, a quote and a backslash follow a
backslash, the usual controls have a letter of their own, and any other character that does not
print on its own is written by its code point.
-/

namespace UriRouting

/-- Characters without a printed form: controls, format and private-use characters, unassigned
code points, every separator but the space, and what is not shown unless it is supported. -/
def unprinted : CharSet :=
  (((CharSet.ofMembers ["cc", "cf", "cs", "co", "zl", "zp", "zs"]).union CharSet.unassigned).union
    (CharSet.propertySet "di")).diff (CharSet.singleton ' ')

/-- Characters that attach to the one before them. -/
def attaching : CharSet := CharSet.propertySet "grext"

/-- Is the character written as it is when no rule names it? -/
def isPlain (c : Char) : Bool :=
  if c.toNat < 0x7F then decide (0x20 ≤ c.toNat)
  else !unprinted.contains c && !attaching.contains c

/-- A character written by its code point. -/
def codePointEscape (c : Char) : List Char :=
  ['\\', 'u', '\x7b'] ++ Nat.toDigits 16 c.toNat ++ ['\x7d']

/-- A character as it is written between quotes. -/
def escapeQuoted (c : Char) : List Char :=
  if c = '"' then ['\\', '"']
  else if c = '\\' then ['\\', '\\']
  else if c = '\n' then ['\\', 'n']
  else if c = '\r' then ['\\', 'r']
  else if c = '\t' then ['\\', 't']
  else if c = '\x00' then ['\\', '0']
  else if isPlain c then [c]
  else codePointEscape c

/-- The text between quotes, with what needs it escaped. -/
def quoted (text : String) : String :=
  String.ofList ('"' :: text.toList.flatMap escapeQuoted ++ ['"'])

/-- A list of texts, each quoted, between brackets. -/
def quotedList (texts : List String) : String :=
  "[" ++ String.intercalate ", " (texts.map quoted) ++ "]"

end UriRouting
