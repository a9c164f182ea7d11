import BoundedWait.Text.Ranges

/-!
# Blank characters

The characters with the property White_Space, and texts without those at
their ends.
-/

namespace BoundedWait
namespace Text

/-- The code points with the property White_Space. -/
def blankRanges : Ranges :=
  #[
    (0x9, 0xd), (0x20, 0x20), (0x85, 0x85), (0xa0, 0xa0), (0x1680, 0x1680), (0x2000, 0x200a),
    (0x2028, 0x2029), (0x202f, 0x202f), (0x205f, 0x205f), (0x3000, 0x3000)
  ]

/-- Whether a character is white space. -/
def isBlank (c : Char) : Bool :=
  blankRanges.member c

/-- A text without the blanks at either end. -/
def trimBlank (text : List Char) : List Char :=
  ((text.dropWhile isBlank).reverse.dropWhile isBlank).reverse

/-- A text with the letters A to Z made small. -/
def lowerAscii (text : List Char) : List Char :=
  text.map Char.toLower

end Text
end BoundedWait
