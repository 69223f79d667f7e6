import QueryFilter.Text.Ranges

/-!
Blank characters: the white space of the Unicode character database. Date text and
date patterns skip it.
-/

namespace QueryFilter
namespace Text

/-- Code points with the property White_Space. -/
def blankRanges : Ranges := [
  (0x09, 0x0D), (0x20, 0x20), (0x85, 0x85), (0xA0, 0xA0), (0x1680, 0x1680), (0x2000, 0x200A),
  (0x2028, 0x2029), (0x202F, 0x202F), (0x205F, 0x205F), (0x3000, 0x3000)]

/-- Spaces, line ends and tabulators of every script. -/
def isBlank (c : Char) : Bool := blankRanges.contains c.toNat

/-- What is left after the leading blanks. -/
def skipBlanks (text : List Char) : List Char := text.dropWhile isBlank

end Text
end QueryFilter
