import Peg.Value.Conversion
import Peg.Description

/-! # Actions and tests

Named functions for transforms and tests for single elements. -/

namespace Peg

/-- A function on values with the name it has in labels. -/
structure Action where
  /-- The name. -/
  name : String
  /-- The function. -/
  apply : Value → Except Fault Value

namespace Action

/-- Combines two values with the operator that a text names. -/
def applyOperator (operator left right : Value) : Except Fault Value :=
  match operator with
  | .str ['+'] => left.add right
  | .str ['-'] => left.subtract right
  | .str ['*'] => left.multiply right
  | .str ['/'] => left.divide right
  | _ => if operator.isKey then .error (.unknownKey operator.written) else .error .wrongKind

/-- Takes a first value and a row of operators with operands, and applies them from left to
right. -/
def foldOperators (value : Value) : Except Fault Value := do
  let (first, steps) ← value.pair
  (← steps.elements).foldlM (fun total step => do
    let (operator, operand) ← step.pair
    applyOperator operator total operand) first

/-- The named actions. -/
def named? : String → Option Action
  | "int" => some ⟨"int", Value.toInteger⟩
  | "float" => some ⟨"float", Value.toFloat⟩
  | "len" => some ⟨"len", Value.size⟩
  | "sum" => some ⟨"sum", Value.sumFrom (.int 0)⟩
  | "join" => some ⟨"join", Value.join⟩
  | "first" => some ⟨"first", Value.elementAt 0⟩
  | "second" => some ⟨"second", Value.elementAt 1⟩
  | "last" => some ⟨"last", Value.lastElement⟩
  | "inc_second" => some ⟨"inc_second", fun value => do (← value.elementAt 1).add (.int 1)⟩
  | "reverse" => some ⟨"reverse", Value.reversed⟩
  | "upper" => some ⟨"upper", Value.upper⟩
  | "pair" => some ⟨"pair", fun value => .ok (.tuple [.ofString "pair", value])⟩
  | "none" => some ⟨"none", fun _ => .ok .null⟩
  | "text" => some ⟨"text", Value.lexeme⟩
  | "neg" => some ⟨"neg", Value.negate⟩
  | "boom" => some ⟨"boom", fun _ => .error .boom⟩
  | "astuple" => some ⟨"astuple", Value.toTuple⟩
  | "fold" => some ⟨"_fold", foldOperators⟩
  | "lambda" => some ⟨"<lambda>", .ok⟩
  | "partial" => some ⟨"f", fun value => .ok (.tuple [.ofString "pair", value])⟩
  | _ => none

/-- Replaces every value by a fixed one, which may turn out to be a fault. -/
def constant (value : Except Fault Value) : Action := ⟨"const", fun _ => value⟩

/-- Puts a mark before a value. -/
def tag (mark : Value) : Action := ⟨"tag", fun value => .ok (.list [mark, value])⟩

end Action

/-- The description of a transform by an action. -/
def Description.mapped (body : Description) (action : Action) : Description :=
  .transform body action.name action.apply

/-- The named tests for single elements. -/
def elementTest? : String → Option (Value → Except Fault Bool)
  | "even" => some fun value => .ok (value.int?.any (· % 2 == 0))
  | "positive" => some fun value => .ok (value.int?.any (0 < ·))
  | "is_str" => some fun
    | .str _ => .ok true
    | _ => .ok false
  | "vowel" => some fun
    | .str [c] => .ok (['a', 'e', 'i', 'o', 'u'].contains c)
    | _ => .ok false
  | "truthy" => some fun value => .ok value.truthy
  | "never" => some fun _ => .ok false
  | "raise" => some fun _ => .error .predicate
  | _ => none

end Peg
