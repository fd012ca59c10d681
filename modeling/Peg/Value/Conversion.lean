import Peg.Text.LetterCase
import Peg.Value.Arithmetic

/-! # Conversions of values

Reading numbers from texts, taking sequences apart, and a few functions on texts. -/

namespace Peg.Value

/-- The written form of a numeral in a message, cut to 200 characters. -/
def numeralInMessage (written : String) : String := String.ofList (written.toList.take 200)

/-- Reads an integer from characters; `written` is how the numeral stands in a message. -/
def readInteger (text : List Char) (written : String) : Except Fault Value :=
  match Number.readInteger text with
  | .ok number => .ok (.int number)
  | .error .malformed => .error (.notAnInteger (numeralInMessage written))
  | .error (.tooLong digits) => .error (.integerTooLong digits)

/-- The characters of a numeral in bytes. Bytes outside ASCII spell nothing. -/
def asciiNumeral (content : List UInt8) : List Char :=
  content.map fun byte => if byte < 128 then Char.ofNat byte.toNat else '?'

/-- The integer that a value is, holds as its integer part, or spells. Bytes spell with ASCII
characters only. -/
def toInteger (value : Value) : Except Fault Value :=
  match value with
  | .bool truth => .ok (.int (if truth then 1 else 0))
  | .int number => .ok (.int number)
  | .float number =>
    match Number.shape number with
    | .nan => .error .nanToInteger
    | .infinite _ => .error .infinityToInteger
    | .finite negative significand exponent =>
      .ok (.int (Number.truncate negative significand exponent))
  | .nan _ => .error .nanToInteger
  | .str text => readInteger text value.written
  | .bytes content => readInteger (asciiNumeral content) value.written
  | _ => .error .wrongKind

/-- Reads a double from characters; `written` is how the numeral stands in a message. -/
def readFloat (text : List Char) (written : String) : Except Fault Value :=
  match Number.readFloat? text with
  | some number => .ok (.float number)
  | none => .error (.notAFloat written)

/-- The double that a value is or spells. -/
def toFloat (value : Value) : Except Fault Value :=
  match value with
  | .nan mark => .ok (.nan mark)
  | .str text => readFloat text value.written
  | .bytes content => readFloat (asciiNumeral content) value.written
  | _ =>
    match value.num? with
    | some number => do return .float (← number.toFloat)
    | none => .error .wrongKind

/-- The elements of a sequence. -/
def elements (value : Value) : Except Fault (List Value) :=
  match value.elements? with
  | some items => .ok items
  | none => .error .wrongKind

/-- The element at an index from the start. -/
def elementAt (index : Nat) (value : Value) : Except Fault Value := do
  match (← value.elements)[index]? with
  | some element => return element
  | none => throw (.outOfRange value.indexedKind)

/-- The last element. -/
def lastElement (value : Value) : Except Fault Value := do
  match (← value.elements).getLast? with
  | some element => return element
  | none => throw (.outOfRange value.indexedKind)

/-- Takes a sequence of exactly two elements apart. -/
def pair (value : Value) : Except Fault (Value × Value) := do
  match ← value.elements with
  | [first, second] => return (first, second)
  | [] => throw (.tooFewItems 0)
  | [_] => throw (.tooFewItems 1)
  | _ => throw .tooManyItems

/-- The number of elements. -/
def size (value : Value) : Except Fault Value :=
  if value.isSequence then .ok (.int value.length) else .error .wrongKind

/-- The sum of the elements, starting from a value. -/
def sumFrom (start value : Value) : Except Fault Value := do
  (← value.elements).foldlM add start

/-- The elements, all of them texts, joined to one text. -/
def join (value : Value) : Except Fault Value := do
  let parts ← (← value.elements).mapM fun
    | .str text => .ok text
    | _ => .error Fault.wrongKind
  return .str parts.flatten

/-- A sequence back to front. -/
def reversed : Value → Except Fault Value
  | .str text => .ok (.str text.reverse)
  | .bytes content => .ok (.bytes content.reverse)
  | .list items => .ok (.list items.reverse)
  | .tuple items => .ok (.tuple items.reverse)
  | _ => .error .wrongKind

/-- A text in upper case; of bytes only the ASCII letters change. -/
def upper : Value → Except Fault Value
  | .str text => .ok (.str (text.flatMap Text.upperCase))
  | .bytes content =>
    .ok (.bytes (content.map fun byte => if 97 ≤ byte && byte ≤ 122 then byte - 32 else byte))
  | _ => .error .missingAttribute

/-- The lexeme of a token. -/
def lexeme : Value → Except Fault Value
  | .token found => .ok (.str found.text)
  | _ => .error .missingAttribute

mutual

/-- The value can be looked up in a table: lists cannot, and tuples only if all their items can. -/
def isKey : Value → Bool
  | .list _ => false
  | .tuple items => areKeys items
  | _ => true

/-- All values of a row can be looked up. -/
def areKeys : List Value → Bool
  | [] => true
  | item :: items => isKey item && areKeys items

end

/-- The elements of a sequence as a tuple. -/
def toTuple (value : Value) : Except Fault Value := do return .tuple (← value.elements)

end Peg.Value
