import Peg.Text.CodeRange

/-! # White space

Two sets of blanks: the White_Space property, and the wider set that adds the four information
separators U+001C to U+001F. -/

namespace Peg.Text

/-- The code points with the White_Space property. -/
def blankRanges : CodeRanges :=
  [(0x9, 0xD), (0x20, 0x20), (0x85, 0x85), (0xA0, 0xA0), (0x1680, 0x1680),
   (0x2000, 0x200A), (0x2028, 0x2029), (0x202F, 0x202F), (0x205F, 0x205F), (0x3000, 0x3000)]

/-- A character is blank when it has the White_Space property. -/
def isBlank (c : Char) : Bool := blankRanges.covers c

/-- Blanks and the four information separators. -/
def isBlankOrSeparator (c : Char) : Bool :=
  isBlank c || (0x1C ≤ c.toNat && c.toNat ≤ 0x1F)

/-- The six blanks of ASCII: space, tab, line feed, vertical tab, form feed, carriage return. -/
def isAsciiBlank (c : Char) : Bool :=
  c.toNat == 0x20 || (0x9 ≤ c.toNat && c.toNat ≤ 0xD)

end Peg.Text
