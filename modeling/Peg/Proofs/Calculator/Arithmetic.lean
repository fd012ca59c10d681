import Peg.Calculator

/-! # Faults of computations

Conversions and operations on values have faults of their own, and the failure of a parse is none of
them: who sees such a failure knows that the parser gave it.

* **`RaisesOnly`**: which faults a computation may end with, and how that goes through computations
  one after the other.
* **`NoFailure.readNumber`**, **`NoFailure.negate`**, **`NoFailure.foldOperators`**: the
  computations of the calculator. -/

namespace Peg.Calculator

/-! ## Kinds of faults -/

/-- Every fault that the computation may end with is of this kind. -/
def RaisesOnly {α : Type} (kind : Fault → Prop) (result : Except Fault α) : Prop :=
  ∀ fault, result = .error fault → kind fault

namespace RaisesOnly

variable {α β : Type} {kind : Fault → Prop} {result : Except Fault α}

/-- A value raises nothing. -/
theorem ok (value : α) : RaisesOnly kind (.ok value) := by
  intro fault same
  cases same

/-- A fault that may be raised. -/
theorem error {fault : Fault} (allowed : kind fault) :
    RaisesOnly kind (.error fault : Except Fault α) := by
  intro other same
  cases same
  exact allowed

/-- What is done in two steps raises only what the steps raise. -/
theorem bind {next : α → Except Fault β} (first : RaisesOnly kind result)
    (later : ∀ value, RaisesOnly kind (next value)) : RaisesOnly kind (result >>= next) := by
  cases result with
  | error fault => exact error (first fault rfl)
  | ok value => exact later value

/-- A function applied to the value raises nothing more. -/
theorem map (function : α → β) (first : RaisesOnly kind result) :
    RaisesOnly kind (function <$> result) := by
  cases result with
  | error fault => exact error (first fault rfl)
  | ok value => exact ok _

/-- So it is for computations one after the other, if it is for each of them. -/
theorem foldlM {step : β → α → Except Fault β}
    (steps : ∀ total item, RaisesOnly kind (step total item)) (items : List α) (start : β) :
    RaisesOnly kind (items.foldlM step start) := by
  induction items generalizing start with
  | nil => exact ok start
  | cons item items inductionHypothesis =>
    rw [List.foldlM_cons]
    exact (steps start item).bind inductionHypothesis

end RaisesOnly

/-! ## Numbers -/

/-- The faults of operations on numbers. -/
inductive IsArithmetic : Fault → Prop
  /-- An operand does not fit into a double. -/
  | integerTooLargeForFloat : IsArithmetic .integerTooLargeForFloat
  /-- A quotient does not. -/
  | quotientTooLarge : IsArithmetic .quotientTooLarge
  /-- The divisor is zero. -/
  | divisionByZero : IsArithmetic .divisionByZero
  /-- So it is where one operand is a double. -/
  | floatDivisionByZero : IsArithmetic .floatDivisionByZero

/-- Turning a number into a double raises only faults of arithmetic. -/
theorem toFloat_raisesOnly (number : Num) : RaisesOnly IsArithmetic number.toFloat := by
  unfold Num.toFloat
  split
  · split
    · exact .ok _
    · exact .error .integerTooLargeForFloat
  · exact .ok _

/-- Adding, subtracting and multiplying numbers raise only faults of arithmetic. -/
theorem combine_raisesOnly (onInts : Int → Int → Int) (onFloats : Float → Float → Float)
    (a b : Num) : RaisesOnly IsArithmetic (Num.combine onInts onFloats a b) := by
  unfold Num.combine
  split
  · exact .ok _
  · exact (toFloat_raisesOnly a).bind fun x => (toFloat_raisesOnly b).bind fun y => .ok _

/-- So does dividing them. -/
theorem divide_raisesOnly (a b : Num) : RaisesOnly IsArithmetic (Num.divide a b) := by
  unfold Num.divide
  split
  · split
    · exact .error .divisionByZero
    · split
      · exact .ok _
      · exact .error .quotientTooLarge
  · refine (toFloat_raisesOnly a).bind fun x => (toFloat_raisesOnly b).bind fun y => ?_
    split
    · exact .error .floatDivisionByZero
    · exact .ok _

/-! ## No failure of a parse -/

/-- The computation does not end with the failure of a parse. -/
def NoFailure {α : Type} (result : Except Fault α) : Prop :=
  ∀ failure, result ≠ .error (.parse failure)

namespace NoFailure

variable {α β : Type} {result : Except Fault α}

/-- No failure of a parse is raised if all faults that may be raised are others. -/
theorem iff_raisesOnly :
    NoFailure result ↔ RaisesOnly (fun fault => ∀ failure, fault ≠ .parse failure) result := by
  constructor
  · rintro none fault same failure rfl
    exact none failure same
  · intro raises failure same
    exact raises _ same failure rfl

/-- A value is no failure. -/
theorem ok (value : α) : NoFailure (.ok value) := iff_raisesOnly.2 (.ok value)

/-- What is done in two steps raises no failure if neither step does. -/
theorem bind {next : α → Except Fault β} (first : NoFailure result)
    (later : ∀ value, NoFailure (next value)) : NoFailure (result >>= next) := by
  rw [iff_raisesOnly] at first ⊢
  exact first.bind fun value => iff_raisesOnly.1 (later value)

/-- A function applied to the value raises no failure. -/
theorem map (function : α → β) (first : NoFailure result) : NoFailure (function <$> result) :=
  iff_raisesOnly.2 ((iff_raisesOnly.1 first).map function)

/-- A fold raises no failure if its steps do not. -/
theorem foldlM {step : β → α → Except Fault β}
    (steps : ∀ total item, NoFailure (step total item)) (items : List α) (start : β) :
    NoFailure (items.foldlM step start) :=
  iff_raisesOnly.2 (.foldlM (fun total item => iff_raisesOnly.1 (steps total item)) items start)

/-- Operations on numbers are no parses. -/
theorem toValue {result : Except Fault Num} (raises : RaisesOnly IsArithmetic result) :
    NoFailure (Num.toValue <$> result) := by
  intro failure same
  cases raises.map Num.toValue _ same

/-! ## Values -/

/-- An operation on two numbers, of which other values are not capable. -/
theorem onNums {operation : Num → Num → Except Fault Num} {otherwise : Except Fault Value}
    (a b : Value) (first : ∀ x y, RaisesOnly IsArithmetic (operation x y))
    (second : NoFailure otherwise) :
    NoFailure (match Value.nums? a b with
      | some (x, y) => Num.toValue <$> operation x y
      | none => otherwise) := by
  split
  · exact toValue (first _ _)
  · exact second

/-- That a value is of the wrong kind is no failure of a parse. -/
theorem wrongKind : NoFailure (.error .wrongKind : Except Fault α) := by
  intro failure same
  cases same

/-- Adding two values raises no failure. -/
theorem add (a b : Value) : NoFailure (a.add b) := by
  unfold Value.add
  split
  case h_5 => exact onNums a b (combine_raisesOnly _ _) wrongKind
  all_goals exact ok _

/-- Subtracting them raises none. -/
theorem subtract (a b : Value) : NoFailure (a.subtract b) :=
  onNums a b (combine_raisesOnly _ _) wrongKind

/-- Dividing them raises none. -/
theorem divide (a b : Value) : NoFailure (a.divide b) := onNums a b divide_raisesOnly wrongKind

/-- A length that is out of bounds is no failure of a parse. -/
theorem lengthFault?_ne_parse (kind : IndexedKind) (length : Nat) (failure : Failure) :
    Value.lengthFault? kind length ≠ some (.parse failure) := by
  unfold Value.lengthFault?
  repeat' split
  all_goals exact fun same => by cases same

/-- Repeating a value raises no failure. -/
theorem repeated (count : Int) (value : Value) : NoFailure (Value.repeated count value) := by
  intro failure
  simp only [Value.repeated]
  split
  · exact fun same => by cases same
  · split
    · rename_i fault found
      intro same
      cases same
      exact lengthFault?_ne_parse _ _ failure found
    · split <;> exact fun same => by cases same

/-- Multiplying two values raises no failure. -/
theorem multiply (a b : Value) : NoFailure (a.multiply b) := by
  refine onNums a b (combine_raisesOnly _ _) ?_
  split
  · split
    · exact repeated _ _
    · exact wrongKind
  · split
    · exact repeated _ _
    · exact wrongKind
  · exact wrongKind

/-- Negating a value raises no failure. -/
theorem negate (value : Value) : NoFailure value.negate := by
  unfold Value.negate
  split
  · exact ok _
  · exact ok _
  · exact wrongKind

/-- Reading a number raises no failure. -/
theorem readNumber (value : Value) : NoFailure (readNumber value) := by
  intro failure
  unfold Calculator.readNumber
  split
  · simp only [Value.toFloat, Value.readFloat, Value.toInteger, Value.readInteger]
    repeat' split
    all_goals exact fun same => by cases same
  · exact wrongKind failure

/-- Taking a value apart raises no failure. -/
theorem elements (value : Value) : NoFailure value.elements := by
  unfold Value.elements
  split
  · exact ok _
  · exact wrongKind

/-- Taking it as a pair raises none. -/
theorem pair (value : Value) : NoFailure value.pair := by
  refine (elements value).bind fun items failure => ?_
  split <;> exact fun same => by cases same

/-- Applying an operator to two values raises no failure. -/
theorem applyOperator (operator left right : Value) :
    NoFailure (Action.applyOperator operator left right) := by
  unfold Action.applyOperator
  split
  · exact add _ _
  · exact subtract _ _
  · exact multiply _ _
  · exact divide _ _
  · intro failure
    split <;> exact fun same => by cases same

/-- Applying a row of operators one after the other raises no failure. -/
theorem foldOperators (value : Value) : NoFailure (Action.foldOperators value) := by
  refine (pair value).bind fun parts => (elements parts.2).bind fun steps => ?_
  refine foldlM (fun total step => ?_) _ _
  exact (pair step).bind fun parts => applyOperator _ _ _

end NoFailure

end Peg.Calculator
