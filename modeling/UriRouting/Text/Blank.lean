import UriRouting.Text.CharSet

/-!
# White space

White space is the property of that name in the character database: the ASCII controls from tab
to carriage return, the space, and the wider spaces and separators up to U+3000.  Zero-width
characters are not white space.
-/

namespace UriRouting

/-- The white-space characters. -/
def blanks : CharSet :=
  ⟨[(0x9, 0xD), (0x20, 0x20), (0x85, 0x85), (0xA0, 0xA0), (0x1680, 0x1680), (0x2000, 0x200A),
    (0x2028, 0x2029), (0x202F, 0x202F), (0x205F, 0x205F), (0x3000, 0x3000)]⟩

/-- Is the character white space? -/
def isBlank (c : Char) : Bool := blanks.contains c

/-- The text without the white space at its end. -/
def trimRight (text : List Char) : List Char := (text.reverse.dropWhile isBlank).reverse

/-- The text without the white space at either end. -/
def trimBlank (text : List Char) : List Char := trimRight (text.dropWhile isBlank)

/-- Does the text hold nothing but white space? -/
def isBlankText (text : String) : Bool := text.toList.all isBlank

end UriRouting
