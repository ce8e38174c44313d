/-!
# Faults of an expression's text

The reasons for which a text is not an expression, and the two bounds on its size.
-/

namespace UriRouting

/-- Why a text is not an expression. -/
inductive ExpressionFault
  /-- A backslash ends the text, or what it introduces is cut off. -/
  | unfinishedEscape
  /-- The backslash stands before a letter without a meaning. -/
  | unknownEscape (letter : Char)
  /-- A digit after a backslash would refer back to a group. -/
  | backReference
  | badHexDigit
  | emptyHexDigits
  /-- The digits name no character. -/
  | noSuchCharacter
  | unknownProperty
  /-- Something that needs all characters stands where only ASCII is meant. -/
  | needsUnicode
  /-- Something that stands where only ASCII is meant matches more than ASCII. -/
  | beyondAscii
  | unclosedClass
  /-- What stands in the class is no character and no class. -/
  | badClassMember
  /-- An end of the range is not a single character. -/
  | badRangeEnd
  | reversedRange
  | unclosedGroup
  | unopenedGroup
  | badGroupName
  | takenGroupName
  | lookAround
  | unknownFlag (letter : Char)
  | repeatedFlag
  /-- The flags end with a minus sign. -/
  | danglingNegation
  | unfinishedFlags
  /-- A quantifier has nothing to repeat. -/
  | nothingToRepeat
  | unclosedCount
  | missingCount
  | countTooLarge
  | reversedCount
  | unknownWordEdge
  | tooDeep
  | tooLarge
deriving DecidableEq

end UriRouting
