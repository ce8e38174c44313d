import UriRouting.Expression.Fault
import UriRouting.Text.Age
import UriRouting.Text.Category
import UriRouting.Text.Script
import UriRouting.Text.Segmentation
import UriRouting.Text.Property
import UriRouting.Text.Blank

/-!
# Classes that go by a name

The classes behind a letter (digits, words, white space), those written `[:name:]`, and those
asked for by a property of the character database.  Properties that a character has or has not,
general categories and scripts are asked for by one name.  A name and a value ask for a category or
a script as well, for the version that a character came with, and for how it counts where text is
broken.
-/

namespace UriRouting.CharSet

/-! ## Classes of a letter -/

/-- Decimal digits. -/
def digits : CharSet := ofMembers ["nd"]

/-- Characters that are part of a word. -/
def wordLetters : CharSet :=
  (propertySet "alpha").union ((ofMembers ["mn", "mc", "me", "nd", "pc"]).union
    (propertySet "joinc"))

/-- ASCII decimal digits. -/
def asciiDigits : CharSet := ⟨[(0x30, 0x39)]⟩

/-- ASCII white space. -/
def asciiBlanks : CharSet := ⟨[(0x9, 0xD), (0x20, 0x20)]⟩

/-- ASCII letters, digits and the underscore. -/
def asciiWord : CharSet := ⟨[(0x30, 0x39), (0x41, 0x5A), (0x5F, 0x5F), (0x61, 0x7A)]⟩

/-- Characters that have a numeric value of some kind. -/
def numbers : CharSet := ofMembers ["nd", "nl", "no"]

/-! ## Classes between brackets and colons -/

/-- The class written `[:name:]`. -/
def bracketName? (name : List Char) : Option CharSet :=
  if name = "alnum".toList then some ⟨[(0x30, 0x39), (0x41, 0x5A), (0x61, 0x7A)]⟩
  else if name = "alpha".toList then some ⟨[(0x41, 0x5A), (0x61, 0x7A)]⟩
  else if name = "ascii".toList then some ⟨[(0, 0x7F)]⟩
  else if name = "blank".toList then some ⟨[(0x9, 0x9), (0x20, 0x20)]⟩
  else if name = "cntrl".toList then some ⟨[(0, 0x1F), (0x7F, 0x7F)]⟩
  else if name = "digit".toList then some asciiDigits
  else if name = "graph".toList then some ⟨[(0x21, 0x7E)]⟩
  else if name = "lower".toList then some ⟨[(0x61, 0x7A)]⟩
  else if name = "print".toList then some ⟨[(0x20, 0x7E)]⟩
  else if name = "punct".toList then
    some ⟨[(0x21, 0x2F), (0x3A, 0x40), (0x5B, 0x60), (0x7B, 0x7E)]⟩
  else if name = "space".toList then some asciiBlanks
  else if name = "upper".toList then some ⟨[(0x41, 0x5A)]⟩
  else if name = "word".toList then some asciiWord
  else if name = "xdigit".toList then some ⟨[(0x30, 0x39), (0x41, 0x46), (0x61, 0x66)]⟩
  else none

/-! ## Properties -/

/-- The form in which names of properties are compared: small letters, no blank, underscore or
hyphen, nothing beyond ASCII, and no leading "is". -/
def comparisonForm (name : List Char) : String :=
  let hasIs := match name with
    | a :: b :: _ => (a = 'i' || a = 'I') && (b = 's' || b = 'S')
    | _ => false
  let kept := ((if hasIs then name.drop 2 else name).filter fun c =>
    c.toNat < 0x80 && c != ' ' && c != '_' && c != '-').map Char.toLower
  -- "isc" abbreviates the name of a property of its own, not "is" and the category "c".
  if hasIs && kept = ['c'] then "isc" else String.ofList kept

/-- The class of one name: a property, a category or a script. -/
def ofPropertyName (name : List Char) : Except ExpressionFault CharSet :=
  let name := comparisonForm name
  match ((property? name).orElse fun _ => category? name).orElse fun _ => script? name with
  | some set => .ok set
  | none => .error .unknownProperty

/-- The class of the characters for which a property has a value. -/
def ofPropertyValue (name value : List Char) : Except ExpressionFault CharSet :=
  let name := comparisonForm name
  let value := comparisonForm value
  let set :=
    if name == "gc" || name == "generalcategory" then category? value
    else if name == "sc" || name == "script" then script? value
    else if name == "scx" || name == "scriptextensions" then sharedScript? value
    else if name == "age" then upToAge? value
    else if name == "gcb" || name == "graphemeclusterbreak" then
      (tableNamed? graphemeBreakTables value).map ofTable
    else if name == "wb" || name == "wordbreak" then
      (tableNamed? wordBreakTables value).map ofTable
    else if name == "sb" || name == "sentencebreak" then
      (tableNamed? sentenceBreakTables value).map ofTable
    else none
  match set with
  | some set => .ok set
  | none => .error .unknownProperty

end UriRouting.CharSet
