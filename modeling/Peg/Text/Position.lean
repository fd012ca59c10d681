/-! # Lines and columns

An offset into a text seen as a line and a column, both counted from one, and the line itself with
a caret under the offset. Offsets are integers: a negative one counts from the end of the text when
the line is looked up, and still enters the column as it is. -/

namespace Peg.Text

/-- The place in a text of length `size` that an offset means: negative offsets count from the
end, and everything is brought between the two ends. -/
def clampOffset (size : Nat) (offset : Int) : Nat :=
  if offset < 0 then ((size : Int) + offset).toNat else min offset.toNat size

/-- What a line may hold: every character but the line feed. -/
def isInLine (c : Char) : Bool := c != '\n'

/-- The part of the line at a place that lies before the place. -/
def lineBefore (source : List Char) (place : Nat) : List Char :=
  ((source.take place).reverse.takeWhile isInLine).reverse

/-- The part of the line at a place that lies after the place. -/
def lineAfter (source : List Char) (place : Nat) : List Char :=
  (source.drop place).takeWhile isInLine

/-- Where the line that holds a place starts. -/
def lineStart (source : List Char) (place : Nat) : Nat :=
  place - (lineBefore source place).length

/-- The line and the column of an offset, both counted from one. -/
def lineColumn (source : List Char) (offset : Int) : Nat × Int :=
  let place := clampOffset source.length offset
  ((source.take place).count '\n' + 1, offset - lineStart source place + 1)

/-- The line that holds an offset. -/
def lineAt (source : List Char) (offset : Int) : List Char :=
  let place := clampOffset source.length offset
  lineBefore source place ++ lineAfter source place

/-- The line that holds an offset, and below it a caret under the offset. -/
def caretSnippet (source : List Char) (offset : Int) : List Char :=
  let place := clampOffset source.length offset
  lineAt source offset ++ '\n'
    :: List.replicate (offset - lineStart source place).toNat ' ' ++ ['^']

/-- The line and column reached after reading a lexeme from a given line and column. -/
def advance (lexeme : List Char) (line column : Int) : Int × Int :=
  let feeds := lexeme.count '\n'
  if feeds = 0 then (line, column + lexeme.length)
  else (line + feeds, ((lexeme.reverse.takeWhile isInLine).length : Int) + 1)

end Peg.Text
