import Peg.Number.Binary
import Peg.Pattern

/-! # Values

What parsers read, produce and report: numbers, texts, bytes, lists, tuples, lexical tokens and
patterns. Numbers of all kinds are compared by their value, so the truth values count as zero and
one; otherwise values of different kinds differ. The double that is not a number differs from
everything but the same occurrence of itself. -/

namespace Peg

/-- A lexical token: a lexeme with its kind and where it starts. -/
structure Token where
  /-- The name of the token's kind; for a keyword, the keyword itself. -/
  kind : List Char
  /-- The lexeme. -/
  text : List Char
  /-- The line it starts in, counted from one. -/
  line : Int
  /-- The column it starts in, counted from one. -/
  column : Int
  /-- The offset it starts at. -/
  offset : Int
deriving DecidableEq, Repr

/-- A value. -/
inductive Value where
  /-- The absence of a value. -/
  | null
  /-- A truth value. -/
  | bool (truth : Bool)
  /-- An integer. -/
  | int (number : Int)
  /-- A double. -/
  | float (number : Float)
  /-- An occurrence of the double that is not a number. Its mark tells it from other occurrences:
  it is the same as itself only, although no comparison of numbers finds it equal to anything. -/
  | nan (mark : Nat)
  /-- A text. -/
  | str (text : List Char)
  /-- A row of bytes. -/
  | bytes (content : List UInt8)
  /-- A list. -/
  | list (items : List Value)
  /-- A tuple. -/
  | tuple (items : List Value)
  /-- A lexical token. -/
  | token (lexeme : Token)
  /-- A pattern. -/
  | pattern (expression : Pattern)
deriving Inhabited

/-- A number: an integer or a double. -/
inductive Num where
  /-- An integer. -/
  | int (number : Int)
  /-- A double. -/
  | float (number : Float)

/-- Two numbers are the same when their values are. -/
def Num.same : Num → Num → Bool
  | .int a, .int b => a == b
  | .float a, .float b => a == b
  | .int a, .float b => Number.compareInt a b == some .eq
  | .float a, .int b => Number.compareInt b a == some .eq

namespace Value

/-- A text value from a string. -/
def ofString (text : String) : Value := .str text.toList

/-- The number that a value is; truth values are zero and one. -/
def num? : Value → Option Num
  | .bool truth => some (.int (if truth then 1 else 0))
  | .int number => some (.int number)
  | .float number => some (.float number)
  | .nan _ => some (.float (0.0 / 0.0))
  | _ => none

/-- The integer that a value is; truth values are zero and one. -/
def int? : Value → Option Int
  | .bool truth => some (if truth then 1 else 0)
  | .int number => some number
  | _ => none

mutual

/-- Equality of values. -/
def same : Value → Value → Bool
  | .null, .null => true
  | .str a, .str b => a == b
  | .bytes a, .bytes b => a == b
  | .list a, .list b => sameItems a b
  | .tuple a, .tuple b => sameItems a b
  | .token a, .token b => a == b
  | .pattern a, .pattern b => a == b
  | .nan a, .nan b => a == b
  | a, b =>
    match a.num?, b.num? with
    | some x, some y => x.same y
    | _, _ => false

/-- Equality of two rows of values, item by item. -/
def sameItems : List Value → List Value → Bool
  | [], [] => true
  | a :: as, b :: bs => same a b && sameItems as bs
  | _, _ => false

end

/-- The truth of a value: nothing, zero and empty sequences are false. -/
def truthy : Value → Bool
  | .null => false
  | .bool truth => truth
  | .int number => number != 0
  | .float number => number != 0.0
  | .nan _ => true
  | .str text => !text.isEmpty
  | .bytes content => !content.isEmpty
  | .list items => !items.isEmpty
  | .tuple items => !items.isEmpty
  | .token _ => true
  | .pattern _ => true

/-! ## Sequences -/

/-- Texts, bytes, lists and tuples are sequences. -/
def isSequence : Value → Bool
  | .str _ | .bytes _ | .list _ | .tuple _ => true
  | _ => false

/-- The number of elements of a sequence; zero for any other value. -/
def length : Value → Nat
  | .str text => text.length
  | .bytes content => content.length
  | .list items => items.length
  | .tuple items => items.length
  | _ => 0

/-- The first elements of a sequence, as a sequence of the same kind. -/
def take (count : Nat) : Value → Value
  | .str text => .str (text.take count)
  | .bytes content => .bytes (content.take count)
  | .list items => .list (items.take count)
  | .tuple items => .tuple (items.take count)
  | value => value

/-- A sequence without its first elements. -/
def drop (count : Nat) : Value → Value
  | .str text => .str (text.drop count)
  | .bytes content => .bytes (content.drop count)
  | .list items => .list (items.drop count)
  | .tuple items => .tuple (items.drop count)
  | value => value

/-- The elements of a sequence: characters are texts of length one and bytes are integers. -/
def elements? : Value → Option (List Value)
  | .str text => some (text.map fun c => .str [c])
  | .bytes content => some (content.map fun byte => .int byte.toNat)
  | .list items => some items
  | .tuple items => some items
  | _ => none

/-- The first element of a sequence. -/
def head? : Value → Option Value
  | .str (c :: _) => some (.str [c])
  | .bytes (byte :: _) => some (.int byte.toNat)
  | .list (item :: _) => some item
  | .tuple (item :: _) => some item
  | _ => none

/-- What is left of a value is a sequence exactly if the value is one. -/
@[simp] theorem isSequence_drop (count : Nat) (value : Value) :
    (value.drop count).isSequence = value.isSequence := by
  cases value <;> rfl

/-- Dropping elements makes a sequence shorter by their number, or empty. -/
@[simp] theorem length_drop (count : Nat) (value : Value) :
    (value.drop count).length = value.length - count := by
  cases value <;> simp [drop, length]

/-- Elements may be dropped in two portions. -/
@[simp] theorem drop_drop (first second : Nat) (value : Value) :
    (value.drop first).drop second = value.drop (first + second) := by
  cases value <;> simp [drop, List.drop_drop]

/-- Nothing is lost if nothing is dropped. -/
@[simp] theorem drop_zero (value : Value) : value.drop 0 = value := by
  cases value <;> rfl

end Value

end Peg
