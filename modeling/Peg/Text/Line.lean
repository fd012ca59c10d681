/-! # Lines

A text is cut into lines at line feeds, carriage returns and the other characters that end a
line. -/

namespace Peg.Text

/-- The characters that end a line. A carriage return and a line feed in a row end one line. -/
def isLineEnd (c : Char) : Bool :=
  [0xA, 0xB, 0xC, 0xD, 0x1C, 0x1D, 0x1E, 0x85, 0x2028, 0x2029].contains c.toNat

/-- The lines of a text without their ends; `current` holds the line so far, latest first. An empty
line at the end of the text does not count. -/
def linesFrom (current : List Char) : List Char → List (List Char)
  | [] => if current.isEmpty then [] else [current.reverse]
  | '\r' :: '\n' :: rest => current.reverse :: linesFrom [] rest
  | c :: rest =>
    if isLineEnd c then current.reverse :: linesFrom [] rest else linesFrom (c :: current) rest

/-- The lines of a text. -/
def lines (text : List Char) : List (List Char) := linesFrom [] text

end Peg.Text
