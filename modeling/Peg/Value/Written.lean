import Peg.Number.Shortest
import Peg.Number.Numeral
import Peg.Value

/-! # The written form of values

Every value has a written form. Integers of more than 4300 digits are not written: a value that
holds one is not writable. -/

namespace Peg

/-- The written form of a token. -/
def Token.written (token : Token) : String :=
  "LexTok(type=" ++ Text.quoted token.kind ++ ", text=" ++ Text.quoted token.text
    ++ s!", line={token.line}, col={token.column}, pos={token.offset})"

namespace Value

mutual

/-- The written form of a value. -/
def written : Value → String
  | .null => "None"
  | .bool truth => if truth then "True" else "False"
  | .int number => toString number
  | .float number => Number.writeFloat number
  | .nan _ => Number.writeFloat (0.0 / 0.0)
  | .str text => Text.quoted text
  | .bytes content => Text.quotedBytes content
  | .list items => "[" ++ ", ".intercalate (writtenItems items) ++ "]"
  | .tuple [item] => "(" ++ written item ++ ",)"
  | .tuple items => "(" ++ ", ".intercalate (writtenItems items) ++ ")"
  | .token lexeme => lexeme.written
  | .pattern expression => expression.written

/-- The written forms of the items of a row. -/
def writtenItems : List Value → List String
  | [] => []
  | item :: items => written item :: writtenItems items

end

/-- An integer has no more digits than may be written. -/
def fitsDigitLimit (number : Int) : Bool := number.natAbs < Nat.pow 10 Number.digitLimit

mutual

/-- The value holds no integer with too many digits. -/
def isWritable : Value → Bool
  | .int number => fitsDigitLimit number
  | .list items => areWritable items
  | .tuple items => areWritable items
  | _ => true

/-- All values of a row are writable. -/
def areWritable : List Value → Bool
  | [] => true
  | item :: items => isWritable item && areWritable items

end

/-- A value as it stands in messages: a pattern between slashes, anything else as written. -/
def described : Value → String
  | .pattern expression => expression.described
  | value => value.written

/-- A value as it stands in running text: a text as it is, anything else as written. -/
def printed : Value → String
  | .str text => String.ofList text
  | value => value.written

end Value

end Peg
