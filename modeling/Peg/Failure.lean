import Peg.Text.Position
import Peg.Value.Written

/-! # Parse failures

What a caller learns when a parse fails as a whole: the payload of the failure, the deepest place
that was reached, and everything that was expected there. -/

namespace Peg

/-- A failed parse. -/
structure Failure where
  /-- The payload that reached the end of the parse. -/
  result : Value
  /-- The input left at the deepest failure. -/
  unconsumed : Value
  /-- What was expected there first. -/
  expected : Value
  /-- Everything that was expected there. -/
  alternatives : List Value
  /-- The input that the failing parser started on. -/
  rewound : Value
  /-- The whole input, if known. -/
  source : Value
  /-- The offset of the deepest failure, if the whole input is known. -/
  position : Option Int
  /-- Its line and column, if the input is text. -/
  lineColumn : Option (Nat × Int)

namespace Failure

/-- The message of a failure: where it happened and what was expected. -/
def message (failure : Failure) : String :=
  let expected := " or ".intercalate (failure.alternatives.map Value.described)
  match failure.source, failure.lineColumn, failure.position with
  | .str source, some (line, column), some position =>
    s!"Parse failed at {line}:{column}: expected " ++ expected ++ "\n"
      ++ String.ofList (Text.caretSnippet source position)
  | _, _, some position => s!"Parse failed at index {position}: expected " ++ expected
  | _, _, none => "Parse failed with result: " ++ failure.result.described

end Failure

end Peg
