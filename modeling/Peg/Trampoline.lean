import Peg.Value.Order
import Peg.Workspace

/-! # Deferred calls

A computation in steps is either done or has a next step that is still to be taken. Taking steps
one after the other needs no stack. -/

namespace Peg

/-- A computation in steps. -/
inductive Step (α : Type) where
  /-- The answer. -/
  | done (answer : α)
  /-- A deferred step. -/
  | bounce (next : Unit → Step α)

namespace Step

/-- Takes steps until there is an answer. -/
def run : Step α → α
  | .done answer => answer
  | .bounce next => run (next ())

/-- An answer is there at once. -/
@[simp] theorem run_done (answer : α) : (Step.done answer).run = answer := rfl

/-- A deferred step is taken, and then those that it leads to. -/
@[simp] theorem run_bounce (next : Unit → Step α) : (Step.bounce next).run = (next ()).run := rfl

mutual

/-- Whether a number is even, by asking whether its predecessor is odd. -/
def isEven : Nat → Step Bool
  | 0 => .done true
  | n + 1 => .bounce fun _ => isOdd n

/-- Whether a number is odd, by asking whether its predecessor is even. -/
def isOdd : Nat → Step Bool
  | 0 => .done false
  | n + 1 => .bounce fun _ => isEven n

end

/-- The sum of the numbers up to `n` and a starting value. -/
def sumTo : Nat → Nat → Step Nat
  | 0, total => .done total
  | n + 1, total => .bounce fun _ => sumTo n (total + (n + 1))

/-- An answer behind `n` deferred steps. -/
def behind : Nat → α → Step α
  | 0, answer => .done answer
  | n + 1, answer => .bounce fun _ => behind n answer

end Step

/-- What a deferred call calls. -/
inductive Callee where
  /-- The greatest of its arguments, or of the elements of its only one. -/
  | max
  /-- The least of its arguments, or of the elements of its only one. -/
  | min
  /-- The number of elements. -/
  | len
  /-- The sum of the elements. -/
  | sum
  /-- The elements in order. -/
  | sorted
  /-- A rule that is not defined. -/
  | rule (name : String)

namespace Callee

/-- The callee of a name: a function, or else a rule. -/
def ofName : String → Callee
  | "max" => .max
  | "min" => .min
  | "len" => .len
  | "sum" => .sum
  | "sorted" => .sorted
  | name => .rule name

/-- The name of a callee. -/
def written : Callee → String
  | .max => "max"
  | .min => "min"
  | .len => "len"
  | .sum => "sum"
  | .sorted => "sorted"
  | .rule name => RuleCell.written ⟨name, .undefined, 0⟩

/-- The written form of a deferred call. -/
def writtenCall (callee : Callee) : String := "Bounce(" ++ callee.written ++ ")"

/-- The values among which an extreme is looked for. -/
def candidates (function : String) : List Value → Except Fault (Value × List Value)
  | [] => .error .wrongKind
  | [sequence] => do
    match ← sequence.elements with
    | [] => throw (.emptyExtreme function)
    | first :: others => return (first, others)
  | first :: others => .ok (first, others)

/-- Calls a callee. -/
def call : Callee → List Value → Except Fault Value
  | .max, arguments => do
    let (first, others) ← candidates "max" arguments
    Value.greatest first others
  | .min, arguments => do
    let (first, others) ← candidates "min" arguments
    Value.least first others
  | .len, [value] => value.size
  | .sum, [value] => Value.sumFrom (.int 0) value
  | .sum, [value, start] =>
    match start with
    | .str _ | .bytes _ => .error .wrongKind
    | _ => Value.sumFrom start value
  | .sorted, [value] => do return .list (← Value.sorted (← value.elements))
  | .rule name, [_, _, _] => .error (.grammar (.undefinedRule name))
  | _, _ => .error .wrongKind

end Callee

end Peg
