import Peg.Fault

/-! # Arithmetic on values

Integers are unbounded and their quotient is the nearest double. An integer that meets a double is
converted first. Sums also join sequences of one kind, and products also repeat a sequence. -/

namespace Peg

namespace Num

/-- The double that a number is. -/
def toFloat : Num → Except Fault Float
  | .int number =>
    match Number.ofInt? number with
    | some x => .ok x
    | none => .error .integerTooLargeForFloat
  | .float number => .ok number

/-- The number as a value. -/
def toValue : Num → Value
  | .int number => .int number
  | .float number => .float number

/-- Applies one operation to two integers, and another one if a double is involved. -/
def combine (onInts : Int → Int → Int) (onFloats : Float → Float → Float) (a b : Num) :
    Except Fault Num :=
  match a, b with
  | .int x, .int y => .ok (.int (onInts x y))
  | _, _ => do return .float (onFloats (← a.toFloat) (← b.toFloat))

/-- The quotient, always a double. -/
def divide (a b : Num) : Except Fault Num :=
  match a, b with
  | .int x, .int y =>
    if y = 0 then .error .divisionByZero
    else
      match Number.signedQuotient? ((x < 0) != (y < 0)) x.natAbs y.natAbs with
      | some quotient => .ok (.float quotient)
      | none => .error .quotientTooLarge
  | _, _ => do
    let x ← a.toFloat
    let y ← b.toFloat
    if y == 0.0 then throw .floatDivisionByZero else return .float (x / y)

end Num

namespace Value

/-- Both values as numbers. -/
def nums? (a b : Value) : Option (Num × Num) :=
  match a.num?, b.num? with
  | some x, some y => some (x, y)
  | _, _ => none

/-- The sum of two numbers, or two sequences of one kind joined. -/
def add (a b : Value) : Except Fault Value :=
  match a, b with
  | .str x, .str y => .ok (.str (x ++ y))
  | .bytes x, .bytes y => .ok (.bytes (x ++ y))
  | .list x, .list y => .ok (.list (x ++ y))
  | .tuple x, .tuple y => .ok (.tuple (x ++ y))
  | _, _ =>
    match nums? a b with
    | some (x, y) => Num.toValue <$> Num.combine (· + ·) (· + ·) x y
    | none => .error .wrongKind

/-- The difference of two numbers. -/
def subtract (a b : Value) : Except Fault Value :=
  match nums? a b with
  | some (x, y) => Num.toValue <$> Num.combine (· - ·) (· - ·) x y
  | none => .error .wrongKind

/-- Which kind of sequence a value is. -/
def indexedKind : Value → IndexedKind
  | .str _ => .text
  | .bytes _ => .bytes
  | .tuple _ => .tuple
  | _ => .list

/-- The greatest number that a machine word with a sign can hold. -/
def maxWord : Nat := Nat.pow 2 63 - 1

/-- More elements than this do not fit into memory. -/
def memoryLimit : Nat := Nat.pow 2 32

/-- The fault of a sequence with so many elements. -/
def lengthFault? (kind : IndexedKind) (length : Nat) : Option Fault :=
  if length ≤ memoryLimit then none
  else if length ≤ maxWord then some .outOfMemory
  else
    match kind with
    | .text | .bytes => some (.repeatedTooLong kind)
    | .list | .tuple => some .outOfMemory

/-- A row repeated. -/
def repeatRow (count : Nat) (row : List α) : List α :=
  if row.isEmpty then [] else (List.replicate count row).flatten

/-- A sequence repeated; a negative count counts as zero. -/
def repeated (count : Int) (value : Value) : Except Fault Value := do
  if count < -(maxWord + 1 : Int) || (maxWord : Int) < count then throw .countOutOfRange
  let times := count.toNat
  if let some fault := lengthFault? value.indexedKind (times * value.length) then throw fault
  match value with
  | .str text => return .str (repeatRow times text)
  | .bytes content => return .bytes (repeatRow times content)
  | .list items => return .list (repeatRow times items)
  | .tuple items => return .tuple (repeatRow times items)
  | _ => throw .wrongKind

/-- The product of two numbers, or a sequence repeated. -/
def multiply (a b : Value) : Except Fault Value :=
  match nums? a b with
  | some (x, y) => Num.toValue <$> Num.combine (· * ·) (· * ·) x y
  | none =>
    match a.int?, b.int? with
    | some count, none => if b.isSequence then repeated count b else .error .wrongKind
    | none, some count => if a.isSequence then repeated count a else .error .wrongKind
    | _, _ => .error .wrongKind

/-- The quotient of two numbers. -/
def divide (a b : Value) : Except Fault Value :=
  match nums? a b with
  | some (x, y) => Num.toValue <$> Num.divide x y
  | none => .error .wrongKind

/-- A number with its sign changed. -/
def negate (value : Value) : Except Fault Value :=
  match value.num? with
  | some (.int number) => .ok (.int (-number))
  | some (.float number) => .ok (.float (-number))
  | none => .error .wrongKind

end Value

end Peg
