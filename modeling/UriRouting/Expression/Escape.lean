import UriRouting.Expression.Basic
import UriRouting.Expression.Flags
import UriRouting.Expression.NamedClass
import UriRouting.Text.Digit
import UriRouting.Text.LetterCase

/-!
# Escapes

What a backslash introduces: a character by itself, by a letter or by its code point, a class, or
a test of a place.  The readers take the text from where they start and return the text that they
leave; the white space that does not count is dropped in the places where a reader looks further.
-/

namespace UriRouting

/-- What an escape or a plain character stands for. -/
inductive Atom
  /-- A character; `asByte` if it was written as two hexadecimal digits. -/
  | letter (c : Char) (asByte : Bool)
  | set (members : CharSet)
  | look (test : Look)

namespace Expression

/-! ## Pieces of text -/

/-- The text after the first character and what does not count. -/
def advance (flags : Flags) (text : List Char) : List Char := flags.skip (text.drop 1)

/-- Reads up to the closing brace: what counts up to there, and the text after it.  The text starts
with the opening brace; each round takes a character, so `fuel` bounds the rounds. -/
def bracedWithin (flags : Flags) : Nat → List Char → Option (List Char × List Char)
  | 0, _ => none
  | fuel + 1, text =>
    match advance flags text with
    | [] => none
    | c :: rest =>
      if c = '\x7d' then some ([], rest)
      else (bracedWithin flags fuel (c :: rest)).map fun r => (c :: r.1, r.2)

/-- What stands between braces, and the text after them. -/
def braced (flags : Flags) (text : List Char) : Option (List Char × List Char) :=
  bracedWithin flags text.length text

/-! ## Characters by code point -/

/-- Reads a fixed number of hexadecimal digits. -/
def hexDigits (flags : Flags) : Nat → Nat → List Char → Except ExpressionFault (Nat × List Char)
  | 0, value, text => .ok (value, text)
  | _ + 1, _, [] => .error .unfinishedEscape
  | count + 1, value, c :: rest =>
    match hexDigit? c with
    | some d => hexDigits flags count (value * 16 + d) (flags.skip rest)
    | none => .error .badHexDigit

/-- Reads a code point after the letter that announces `count` digits; any number of digits may
stand between braces instead. -/
def codePoint (flags : Flags) (count : Nat) (text : List Char) :
    Except ExpressionFault (Atom × List Char) :=
  match flags.skip text with
  | [] => .error .unfinishedEscape
  | c :: rest =>
    if c = '\x7b' then
      match braced flags (c :: rest) with
      | none => .error .unfinishedEscape
      | some (digits, rest) =>
        if digits.isEmpty then .error .emptyHexDigits
        else match hexNumber? digits with
          | none => .error .badHexDigit
          | some n => match charOfCode? n with
            | some c => .ok (.letter c false, flags.skip rest)
            | none => .error .noSuchCharacter
    else match hexDigits flags count 0 (c :: rest) with
      | .error fault => .error fault
      | .ok (n, rest) => match charOfCode? n with
        | some c => .ok (.letter c (count == 2), rest)
        | none => .error .noSuchCharacter

/-! ## Classes -/

/-- A class closed under case where case does not matter. -/
def foldedSet (flags : Flags) (set : CharSet) : CharSet :=
  if !flags.caseless then set
  else if flags.unicode then set.caseless
  else set.caselessAscii

/-- The class as it is or its complement.  Where only ASCII is meant no complement is allowed,
since it holds more than ASCII. -/
def signedSet (flags : Flags) (negated : Bool) (set : CharSet) :
    Except ExpressionFault CharSet :=
  if !negated then .ok set
  else if flags.unicode then .ok set.compl
  else .error .beyondAscii

/-- The class of a letter: digits, white space or word characters; a capital negates. -/
def letterClass? (flags : Flags) (letter : Char) : Option (Except ExpressionFault CharSet) :=
  let class? := fun (all ascii : CharSet) (negated : Bool) =>
    some (signedSet flags negated (if flags.unicode then all else ascii))
  if letter = 'd' then class? CharSet.digits CharSet.asciiDigits false
  else if letter = 'D' then class? CharSet.digits CharSet.asciiDigits true
  else if letter = 's' then class? blanks CharSet.asciiBlanks false
  else if letter = 'S' then class? blanks CharSet.asciiBlanks true
  else if letter = 'w' then class? CharSet.wordLetters CharSet.asciiWord false
  else if letter = 'W' then class? CharSet.wordLetters CharSet.asciiWord true
  else none

/-- The text before and after the first place where a part occurs. -/
def splitAt? (part : List Char) : List Char → Option (List Char × List Char)
  | [] => if part.isEmpty then some ([], []) else none
  | c :: rest =>
    if part.isPrefixOf (c :: rest) then some ([], (c :: rest).drop part.length)
    else (splitAt? part rest).map fun r => (c :: r.1, r.2)

/-- The class of a query between braces: a name, or a property with a value. -/
def queriedSet (query : List Char) : Except ExpressionFault (Bool × CharSet) :=
  match splitAt? ['!', '='] query with
  | some (name, value) => (CharSet.ofPropertyValue name value).map (true, ·)
  | none => match (splitAt? [':'] query).or (splitAt? ['='] query) with
    | some (name, value) => (CharSet.ofPropertyValue name value).map (false, ·)
    | none => (CharSet.ofPropertyName query).map (false, ·)

/-- Reads a class of a property after its letter `p` or `P`. -/
def propertyClass (flags : Flags) (negated : Bool) (text : List Char) :
    Except ExpressionFault (Atom × List Char) :=
  match flags.skip text with
  | [] => .error .unfinishedEscape
  | c :: rest =>
    let read : Except ExpressionFault (List Char × List Char) :=
      if c = '\x7b' then
        match braced flags (c :: rest) with
        | some r => .ok r
        | none => .error .unfinishedEscape
      else if c = '\\' then .error .unknownProperty
      else .ok ([c], flags.skip rest)
    match read with
    | .error fault => .error fault
    | .ok (query, rest) =>
      if !flags.unicode then .error .needsUnicode
      else match queriedSet query with
        | .error fault => .error fault
        | .ok (unequal, set) =>
          (signedSet flags (negated != unequal) (foldedSet flags set)).map (.set ·, rest)

/-! ## Tests -/

/-- The edge of a word that a name between braces asks for. -/
def wordEdge? (name : List Char) : Option WordEdge :=
  if name = "start".toList then some .start
  else if name = "end".toList then some .stop
  else if name = "start-half".toList then some .startHalf
  else if name = "end-half".toList then some .stopHalf
  else none

/-- Reads what may follow the letter of a word boundary: a name between braces.  Braces that do not
begin with a letter or a hyphen are left to stand for a count. -/
def wordBoundary (flags : Flags) (text : List Char) :
    Except ExpressionFault (Atom × List Char) :=
  let plain := Except.ok (Atom.look (.word .boundary flags.unicode), text)
  match text with
  | [] => plain
  | c :: _ =>
    if c ≠ '\x7b' then plain
    else match advance flags text with
      | [] => .error .unknownWordEdge
      | first :: _ =>
        if !first.isAlpha && first != '-' then plain
        else match braced flags text with
          | none => .error .unknownWordEdge
          | some (name, rest) => match wordEdge? name with
            | some edge => .ok (.look (.word edge flags.unicode), rest)
            | none => .error .unknownWordEdge

/-! ## All escapes -/

/-- Characters that a backslash leaves as they are: all of ASCII but letters, digits and the two
angle brackets. -/
def standsForItself (c : Char) : Bool :=
  decide (c.toNat < 0x80) && !c.isAlphanum && c != '<' && c != '>'

/-- The control that a letter stands for. -/
def controlOf? (letter : Char) : Option Char :=
  if letter = 'a' then some '\x07'
  else if letter = 'f' then some '\x0c'
  else if letter = 't' then some '\t'
  else if letter = 'n' then some '\n'
  else if letter = 'r' then some '\r'
  else if letter = 'v' then some '\x0b'
  else none

/-- The test that a letter or an angle bracket stands for. -/
def lookOf? (flags : Flags) (letter : Char) : Option Look :=
  if letter = 'A' then some .textStart
  else if letter = 'z' then some .textStop
  else if letter = 'B' then some (.word .inside flags.unicode)
  else if letter = '<' then some (.word .start flags.unicode)
  else if letter = '>' then some (.word .stop flags.unicode)
  else none

/-- Reads an escape after its backslash. -/
def escape (flags : Flags) : List Char → Except ExpressionFault (Atom × List Char)
  | [] => .error .unfinishedEscape
  | c :: rest =>
    if c.isDigit then .error .backReference
    else if c = 'x' then codePoint flags 2 rest
    else if c = 'u' then codePoint flags 4 rest
    else if c = 'U' then codePoint flags 8 rest
    else if c = 'p' then propertyClass flags false rest
    else if c = 'P' then propertyClass flags true rest
    else if c = 'b' then wordBoundary flags rest
    else if standsForItself c then .ok (.letter c false, rest)
    else match letterClass? flags c with
      | some set => set.map (.set ·, rest)
      | none => match controlOf? c with
        | some control => .ok (.letter control false, rest)
        | none => match lookOf? flags c with
          | some test => .ok (.look test, rest)
          | none => .error (.unknownEscape c)

end Expression

end UriRouting
