import Peg.Value.Conversion

/-! # The order of values

Numbers are ordered by value, texts and bytes by their codes, lists and tuples element by element.
Values of different kinds have no order. -/

namespace Peg.Value

/-- The order of two numbers; `none` if one is not a number. -/
def compareNums : Num → Num → Option Ordering
  | .int a, .int b => some (compare a b)
  | .int a, .float b => Number.compareInt a b
  | .float a, .int b => (Number.compareInt b a).map Ordering.swap
  | .float a, .float b =>
    if a < b then some .lt else if b < a then some .gt else if a == b then some .eq else none

/-- The order of two rows of codes. -/
def codesLess : List Nat → List Nat → Bool
  | _, [] => false
  | [], _ :: _ => true
  | a :: as, b :: bs => a < b || (a == b && codesLess as bs)

mutual

/-- The first value comes before the second. -/
def less : Value → Value → Except Fault Bool
  | .str a, .str b => .ok (codesLess (a.map Char.toNat) (b.map Char.toNat))
  | .bytes a, .bytes b => .ok (codesLess (a.map UInt8.toNat) (b.map UInt8.toNat))
  | .list a, .list b => itemsLess a b
  | .tuple a, .tuple b => itemsLess a b
  | a, b =>
    match nums? a b with
    | some (x, y) => .ok (compareNums x y == some .lt)
    | none => .error .wrongKind

/-- The first row comes before the second: the first place where they differ decides. -/
def itemsLess : List Value → List Value → Except Fault Bool
  | _, [] => .ok false
  | [], _ :: _ => .ok true
  | a :: as, b :: bs => if a.same b then itemsLess as bs else less a b

end

/-- The first of the greatest values of a row. -/
def greatest (first : Value) (others : List Value) : Except Fault Value :=
  others.foldlM (fun best value => do return if ← less best value then value else best) first

/-- The first of the least values of a row. -/
def least (first : Value) (others : List Value) : Except Fault Value :=
  others.foldlM (fun best value => do return if ← less value best then value else best) first

/-! ## Sorting

A row is sorted by taking its first run, turned round if it falls, and putting the other values in
one by one. The place of each is found by halving, so a value that has no order stays where the
halving ends. -/

/-- Splits off the longest start of a row in which each value comes before the one in front of it,
or, if not `falling`, in which none does. `run` holds what was split off, latest first. -/
def takeRun (falling : Bool) (run : List Value) (last : Value) :
    List Value → Except Fault (List Value × List Value)
  | [] => .ok (run, [])
  | value :: values => do
    if (← less value last) == falling then takeRun falling (value :: run) value values
    else return (run, value :: values)

/-- The first run of a row, in rising order, and the rest of the row. -/
def firstRun : List Value → Except Fault (List Value × List Value)
  | [] => .ok ([], [])
  | [value] => .ok ([value], [])
  | first :: second :: values => do
    let falling ← less second first
    let (run, rest) ← takeRun falling [second, first] second values
    return (if falling then run else run.reverse, rest)

/-- Where a value belongs between two indices of a sorted row: behind its equals. -/
def place (row : Array Value) (value : Value) (low high : Nat) : Except Fault Nat :=
  if low < high then
    let middle := low + (high - low) / 2
    match row[middle]? with
    | none => .ok low
    | some other =>
      match less value other with
      | .error fault => .error fault
      | .ok true => place row value low middle
      | .ok false => place row value (middle + 1) high
  else .ok low
termination_by high - low

/-- Puts a value into a sorted row. -/
def insertSorted (row : List Value) (value : Value) : Except Fault (List Value) := do
  let index ← place row.toArray value 0 row.length
  return row.take index ++ value :: row.drop index

/-- A row in order; equal values keep their order. -/
def sorted (values : List Value) : Except Fault (List Value) := do
  let (run, rest) ← firstRun values
  rest.foldlM insertSorted run

end Peg.Value
