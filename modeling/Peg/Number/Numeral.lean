import Peg.Number.Binary
import Peg.Text.Blank
import Peg.Text.Digit

/-! # Reading numerals

Integers and doubles read from text. Blanks around a numeral are dropped, digits of every script
count, and a single underscore may stand between two digits. An integer numeral has at most 4300
digits. -/

namespace Peg.Number

open Peg.Text (isBlank digitValue?)

/-- The greatest number of digits an integer may have in text. -/
def digitLimit : Nat := 4300

/-- What stops a text from being read as an integer. -/
inductive IntegerError where
  /-- The text is no integer numeral. -/
  | malformed
  /-- The numeral has more digits than allowed. -/
  | tooLong (digits : Nat)

/-- A text without the blanks at its two ends. -/
def trimBlanks (text : List Char) : List Char :=
  ((text.dropWhile isBlank).reverse.dropWhile isBlank).reverse

/-- Splits off a sign; true means minus. -/
def splitSign : List Char → Bool × List Char
  | '+' :: rest => (false, rest)
  | '-' :: rest => (true, rest)
  | text => (false, text)

/-- A character of a row of digits. -/
def isDigitOrUnderscore (c : Char) : Bool := c == '_' || (digitValue? c).isSome

/-- Underscores stand singly and between digits; `afterDigit` says what stood before. -/
def underscoresFit : Bool → List Char → Bool
  | afterDigit, [] => afterDigit
  | afterDigit, c :: rest =>
    if c == '_' then afterDigit && underscoresFit false rest else underscoresFit true rest

/-- The values of the digits of a row, underscores left out. -/
def digitValues (row : List Char) : List Nat := row.filterMap digitValue?

/-- The number that a row of digit values stands for. -/
def ofDigits (digits : List Nat) : Nat := digits.foldl (fun total digit => 10 * total + digit) 0

/-- Reads an integer. The length of the leading row of digits is checked before what follows
it. -/
def readInteger (text : List Char) : Except IntegerError Int :=
  let (negative, body) := splitSign (trimBlanks text)
  let row := body.takeWhile isDigitOrUnderscore
  if !underscoresFit false row then .error .malformed
  else
    let digits := digitValues row
    if digitLimit < digits.length then .error (.tooLong digits.length)
    else if row.length < body.length then .error .malformed
    else
      let magnitude : Int := ofDigits digits
      .ok (if negative then -magnitude else magnitude)

/-- Reads a row of digits that may be empty; `none` if underscores are misplaced. -/
def readRow? (text : List Char) : Option (List Nat × List Char) :=
  let row := text.takeWhile isDigitOrUnderscore
  if row.isEmpty || underscoresFit false row then
    some (digitValues row, text.dropWhile isDigitOrUnderscore)
  else none

/-- Reads the exponent of a numeral, up to the end of the text. -/
def readExponent? : List Char → Option Int
  | [] => some 0
  | mark :: rest =>
    if mark == 'e' || mark == 'E' then
      let (negative, body) := splitSign rest
      match readRow? body with
      | some (digits, []) =>
        if digits.isEmpty then none
        else
          let magnitude : Int := ofDigits digits
          some (if negative then -magnitude else magnitude)
      | _ => none
    else none

/-- The double nearest to `digits · 10 ^ exponent`, infinity if that is too large. Far outside
the range of doubles the power is not computed. -/
def nearestDecimal (digits : List Nat) (exponent : Int) : Float :=
  let significand := ofDigits digits
  let infinity : Float := 1.0 / 0.0
  if significand = 0 then 0.0
  else
    let size := (Nat.toDigits 10 significand).length + exponent
    if 310 < size then infinity
    else if size < -330 then 0.0
    else
      let quotient :=
        if 0 ≤ exponent then nearestQuotient? (significand * Nat.pow 10 exponent.toNat) 1
        else nearestQuotient? significand (Nat.pow 10 (-exponent).toNat)
      quotient.getD infinity

/-- Reads digits with an optional point and exponent. -/
def readDecimal? (text : List Char) : Option Float := do
  let (whole, afterWhole) ← readRow? text
  let (fraction, afterFraction) ←
    match afterWhole with
    | '.' :: rest => readRow? rest
    | rest => some ([], rest)
  let exponent ← readExponent? afterFraction
  if whole.isEmpty && fraction.isEmpty then none
  else some (nearestDecimal (whole ++ fraction) (exponent - fraction.length))

/-- Reads a double: a decimal numeral, or infinity or NaN by name. -/
def readFloat? (text : List Char) : Option Float :=
  let (negative, body) := splitSign (trimBlanks text)
  let magnitude? :=
    match String.ofList (body.map Char.toLower) with
    | "inf" => some (1.0 / 0.0)
    | "infinity" => some (1.0 / 0.0)
    | "nan" => some (0.0 / 0.0)
    | _ => readDecimal? body
  magnitude?.map fun magnitude => if negative then -magnitude else magnitude

end Peg.Number
