import Mathlib.Data.List.Induction
import Peg.Proofs.Calculator.Sentence

/-! # Starts of expressions

Whether symbols are the start of some expression can be told from left to right, with no more in
mind than whether an operand is due and how many parentheses are open: `Standing`.

* **`exists_derives_iff`**: symbols are an expression exactly if reading them ends with no operand
  due and no parenthesis open.
* **`isStart_iff`**: they are the start of one exactly if they can be read at all.
* **`isStart_append_iff`**, **`finish_mem_expectedAfter_iff`**: what is expected after the start of
  an expression is exactly what can stand there. -/

namespace Peg.Calculator

/-! ## Where a row of symbols stands -/

/-- Where a row of symbols stands as the start of an expression. -/
structure Standing where
  /-- An operand is due. -/
  due : Bool
  /-- The number of open parentheses. -/
  depth : Nat
deriving DecidableEq

namespace Standing

/-- The standing before the first symbol. -/
def start : Standing := ⟨true, 0⟩

/-- The standing after one more symbol; `none` if it cannot stand there. -/
def after? : Standing → Symbol → Option Standing
  | ⟨true, depth⟩, .operator .minus => some ⟨true, depth⟩
  | ⟨true, depth⟩, .number _ => some ⟨false, depth⟩
  | ⟨true, depth⟩, .left => some ⟨true, depth + 1⟩
  | ⟨false, depth⟩, .operator _ => some ⟨true, depth⟩
  | ⟨false, depth + 1⟩, .right => some ⟨false, depth⟩
  | _, _ => none

/-- The standing after several symbols. -/
def afterAll? (standing : Standing) (symbols : List Symbol) : Option Standing :=
  symbols.foldlM after? standing

/-- Without symbols the standing does not change. -/
@[simp] theorem afterAll?_nil (standing : Standing) : standing.afterAll? [] = some standing := rfl

/-- The first symbol changes the standing for the others. -/
@[simp] theorem afterAll?_cons (standing : Standing) (symbol : Symbol) (symbols : List Symbol) :
    standing.afterAll? (symbol :: symbols)
      = (standing.after? symbol).bind (·.afterAll? symbols) := by
  rw [afterAll?, List.foldlM_cons]
  rfl

/-- Symbols in two rows change the standing one row after the other. -/
@[simp] theorem afterAll?_append (standing : Standing) (symbols more : List Symbol) :
    standing.afterAll? (symbols ++ more)
      = (standing.afterAll? symbols).bind (·.afterAll? more) := by
  rw [afterAll?, List.foldlM_append]
  rfl

end Standing

/-! ## Expressions can be read -/

/-- Where no operand is due, an operator with an operand can be read, and then another one. -/
theorem Standing.afterAll?_steps {steps : List Step} {depth : Nat}
    (operands : ∀ step ∈ steps, afterAll? ⟨true, depth⟩ step.operand = some ⟨false, depth⟩) :
    afterAll? ⟨false, depth⟩ (steps.flatMap Step.symbols) = some ⟨false, depth⟩ := by
  induction steps with
  | nil => rfl
  | cons step steps inductionHypothesis =>
    obtain ⟨operand, operands⟩ := List.forall_mem_cons.1 operands
    rw [List.flatMap_cons, Step.symbols, List.cons_append, afterAll?_cons, after?,
      Option.bind_some, afterAll?_append, operand]
    exact inductionHypothesis operands

/-- Where an operand is due, a part of an expression can be read, and after it no operand is due. -/
theorem Derives.afterAll? {part : Part} {symbols : List Symbol} {tree : Tree}
    (derives : Derives part symbols tree) (depth : Nat) :
    Standing.afterAll? ⟨true, depth⟩ symbols = some ⟨false, depth⟩ := by
  induction derives generalizing depth with
  | number numeral => rfl
  | negated _ inductionHypothesis =>
    rw [Standing.afterAll?_cons]
    exact inductionHypothesis depth
  | group _ inductionHypothesis =>
    rw [Standing.afterAll?_cons, Standing.after?, Option.bind_some, Standing.afterAll?_append,
      inductionHypothesis]
    rfl
  | chain _ _ _ head operands =>
    rw [Standing.afterAll?_append, head, Option.bind_some]
    exact Standing.afterAll?_steps fun step member => operands step member depth

/-! ## What can be read can be completed -/

/-- Symbols that complete an expression in which no operand is due: operators with operands, and a
closing parenthesis for each open one. -/
inductive Completes : Nat → List Symbol → Prop
  | finish : Completes 0 []
  | step {depth : Nat} {operand rest : List Symbol} {tree : Tree} (operator : Operator)
      (derives : Derives .unary operand tree) (later : Completes depth rest) :
      Completes depth (.operator operator :: (operand ++ rest))
  | close {depth : Nat} {rest : List Symbol} (later : Completes depth rest) :
      Completes (depth + 1) (.right :: rest)

/-- What closes a parenthesis goes on up to it and then completes the rest. -/
theorem Completes.exists_close {depth : Nat} {symbols : List Symbol}
    (completes : Completes (depth + 1) symbols) :
    ∃ inner rest, symbols = inner ++ .right :: rest ∧ Completes 0 inner ∧ Completes depth rest := by
  generalize more : depth + 1 = open_ at completes
  induction completes generalizing depth with
  | finish => cases more
  | step operator derives _ inductionHypothesis =>
    obtain ⟨inner, rest, rfl, first, second⟩ := inductionHypothesis more
    refine ⟨_, rest, ?_, .step operator derives first, second⟩
    simp
  | close later =>
    cases more
    exact ⟨[], _, rfl, .finish, later⟩

/-- An operand and an operator can be put before an expression. -/
theorem Derives.exists_cons {operand symbols : List Symbol} {first tree : Tree}
    (head : Derives .unary operand first) (operator : Operator)
    (derives : Derives (.chain .sum) symbols tree) :
    ∃ whole, Derives (.chain .sum) (operand ++ .operator operator :: symbols) whole := by
  cases derives with
  | @chain _ product _ sums productDerives sumLevels sumDerives =>
    cases level : operator.level with
    | sum =>
      -- the operand is a product of its own
      have alone : Derives (.chain .product) (operand ++ [].flatMap Step.symbols) _ :=
        .chain head (by simp) (by simp)
      rw [List.flatMap_nil, List.append_nil] at alone
      exact ⟨_, @Derives.chain .sum _ _ (⟨operator, product, _⟩ :: sums) alone
        (List.forall_mem_cons.2 ⟨level, sumLevels⟩)
        (List.forall_mem_cons.2 ⟨productDerives, sumDerives⟩)⟩
    | product =>
      -- the operand belongs to the first product
      cases productDerives with
      | @chain _ next _ factors nextDerives factorLevels factorDerives =>
        have longer : Derives (.chain .product)
            (operand ++ (⟨operator, next, _⟩ :: factors : List Step).flatMap Step.symbols) _ :=
          .chain head (List.forall_mem_cons.2 ⟨level, factorLevels⟩)
            (List.forall_mem_cons.2 ⟨nextDerives, factorDerives⟩)
        have whole := @Derives.chain .sum _ _ _ longer sumLevels sumDerives
        simp only [List.flatMap_cons, Step.symbols, List.cons_append, List.append_assoc] at whole ⊢
        exact ⟨_, whole⟩

/-- Operands with operators between them are an expression. -/
theorem Derives.exists_flat {operand symbols : List Symbol} {tree : Tree}
    (head : Derives .unary operand tree) (completes : Completes 0 symbols) :
    ∃ whole, Derives (.chain .sum) (operand ++ symbols) whole := by
  generalize flat : 0 = depth at completes
  induction completes generalizing operand tree with
  | finish =>
    have product : Derives (.chain .product) (operand ++ [].flatMap Step.symbols) _ :=
      .chain head (by simp) (by simp)
    rw [List.flatMap_nil] at product
    have sum : Derives (.chain .sum) (operand ++ [] ++ [].flatMap Step.symbols) _ :=
      .chain product (by simp) (by simp)
    rw [List.flatMap_nil, List.append_nil] at sum
    exact ⟨_, sum⟩
  | step operator derives _ inductionHypothesis =>
    obtain ⟨whole, later⟩ := inductionHypothesis derives flat
    exact head.exists_cons operator later
  | close => cases flat

/-- Everything that may complete symbols with this standing makes them an expression. -/
def Completable (symbols : List Symbol) : Standing → Prop
  | ⟨true, depth⟩ => ∀ operand rest tree, Derives .unary operand tree → Completes depth rest →
    ∃ whole, Derives (.chain .sum) (symbols ++ (operand ++ rest)) whole
  | ⟨false, depth⟩ => ∀ rest, Completes depth rest →
    ∃ whole, Derives (.chain .sum) (symbols ++ rest) whole

/-- One more symbol leaves symbols completable. -/
theorem Completable.step {symbols : List Symbol} {standing next : Standing} {symbol : Symbol}
    (completable : Completable symbols standing) (read : standing.after? symbol = some next) :
    Completable (symbols ++ [symbol]) next := by
  unfold Standing.after? at read
  split at read <;> cases read
  · -- a sign before an operand makes an operand
    intro operand rest tree derives completes
    simpa using completable _ rest _ (.negated derives) completes
  · intro rest completes
    exact List.append_assoc symbols _ rest ▸ completable _ rest _ (.number _) completes
  · -- what completes the inner expression is split at its closing parenthesis
    intro operand rest tree derives completes
    obtain ⟨inner, later, rfl, flat, completes⟩ := completes.exists_close
    obtain ⟨whole, group⟩ := derives.exists_flat flat
    simpa using completable _ later _ (.group group) completes
  · intro operand rest tree derives completes
    simpa using completable _ (.step _ derives completes)
  · intro rest completes
    simpa using completable _ (.close completes)

/-- What can be read can be completed. -/
theorem completable_of_afterAll? {symbols : List Symbol} {standing : Standing}
    (read : Standing.start.afterAll? symbols = some standing) : Completable symbols standing := by
  induction symbols using List.reverseRecOn generalizing standing with
  | nil =>
    cases read
    intro operand rest tree derives completes
    exact derives.exists_flat completes
  | append_singleton symbols symbol inductionHypothesis =>
    rw [Standing.afterAll?_append] at read
    obtain ⟨between, early, late⟩ := Option.bind_eq_some_iff.1 read
    rw [Standing.afterAll?_cons] at late
    obtain ⟨last, late, same⟩ := Option.bind_eq_some_iff.1 late
    cases same
    exact (inductionHypothesis early).step late

/-- Open parentheses can be closed. -/
theorem completes_replicate (depth : Nat) : Completes depth (List.replicate depth .right) := by
  induction depth with
  | zero => exact .finish
  | succ depth inductionHypothesis => exact .close inductionHypothesis

/-! ## Starts -/

/-- The symbols are the start of some expression. -/
def IsStart (symbols : List Symbol) : Prop :=
  ∃ more tree, Derives (.chain .sum) (symbols ++ more) tree

/-- **Starts of expressions** are what can be read. -/
theorem isStart_iff {symbols : List Symbol} :
    IsStart symbols ↔ ∃ standing, Standing.start.afterAll? symbols = some standing := by
  constructor
  · rintro ⟨more, tree, derives⟩
    have read := derives.afterAll? 0
    rw [Standing.afterAll?_append] at read
    obtain ⟨standing, early, -⟩ := Option.bind_eq_some_iff.1 read
    exact ⟨standing, early⟩
  · rintro ⟨⟨due, depth⟩, read⟩
    have completable := completable_of_afterAll? read
    cases due with
    | true =>
      obtain ⟨whole, derives⟩ :=
        completable _ _ _ (.number []) (completes_replicate depth)
      exact ⟨_, whole, derives⟩
    | false =>
      obtain ⟨whole, derives⟩ := completable _ (completes_replicate depth)
      exact ⟨_, whole, derives⟩

/-- **Expressions** are what can be read so that no operand is due and no parenthesis is open. -/
theorem exists_derives_iff {symbols : List Symbol} :
    (∃ tree, Derives (.chain .sum) symbols tree)
      ↔ Standing.start.afterAll? symbols = some ⟨false, 0⟩ := by
  constructor
  · rintro ⟨tree, derives⟩
    exact derives.afterAll? 0
  · intro read
    obtain ⟨whole, derives⟩ := completable_of_afterAll? read [] .finish
    exact ⟨whole, List.append_nil symbols ▸ derives⟩

/-! ## What can stand after a start -/

/-- The terminals of the grammar. -/
inductive Expectation where
  /-- A numeral. -/
  | number
  /-- An operator of a level. -/
  | operators (level : Level)
  /-- A sign. -/
  | minus
  /-- An opening parenthesis. -/
  | left
  /-- A closing parenthesis. -/
  | right
  /-- The end. -/
  | finish
deriving DecidableEq

/-- The symbol is one that the terminal stands for. -/
def Expectation.accepts : Expectation → Symbol → Bool
  | .number, .number _ => true
  | .operators level, .operator operator => operator.level = level
  | .minus, .operator .minus => true
  | .left, .left => true
  | .right, .right => true
  | _, _ => false

/-- The symbols begin with one that the terminal stands for; the end stands for no symbols. -/
def Expectation.meets : Expectation → List Symbol → Bool
  | .finish, symbols => symbols.isEmpty
  | expectation, symbols => symbols.head?.any expectation.accepts

/-- The terminals that can stand next, in the order in which the grammar has them. -/
def Standing.expected : Standing → List Expectation
  | ⟨true, _⟩ => [.minus, .number, .left]
  | ⟨false, 0⟩ => [.operators .product, .operators .sum, .finish]
  | ⟨false, _ + 1⟩ => [.operators .product, .operators .sum, .right]

/-- A symbol can come next exactly if one of the expected terminals accepts it. -/
theorem Standing.after?_isSome_iff {standing : Standing} {symbol : Symbol} :
    (standing.after? symbol).isSome ↔ ∃ expected ∈ standing.expected, expected.accepts symbol := by
  have levels (operator : Operator) : operator.level = .product ∨ operator.level = .sum := by
    cases operator <;> simp [Operator.level]
  obtain ⟨due, depth⟩ := standing
  cases due with
  | true =>
    cases symbol with
    | operator operator => cases operator <;> simp [after?, expected, Expectation.accepts]
    | _ => simp [after?, expected, Expectation.accepts]
  | false =>
    cases depth <;> cases symbol <;> simp [after?, expected, Expectation.accepts, levels]

/-- An operand is due at the beginning, after an operator and after an opening parenthesis. -/
def operandIsDue (symbols : List Symbol) : Bool :=
  match symbols.getLast? with
  | none => true
  | some (.operator _) => true
  | some .left => true
  | some _ => false

/-- More parentheses are opened than closed. -/
def parenthesisIsOpen (symbols : List Symbol) : Bool :=
  symbols.count .right < symbols.count .left

/-- The terminals that are expected after symbols, in the order in which the grammar has them. -/
def expectedAfter (symbols : List Symbol) : List Expectation :=
  if operandIsDue symbols then [.minus, .number, .left]
  else [.operators .product, .operators .sum,
    if parenthesisIsOpen symbols then .right else .finish]

/-- Something is always expected. -/
theorem expectedAfter_ne_nil (symbols : List Symbol) : expectedAfter symbols ≠ [] := by
  rw [expectedAfter]
  split <;> exact List.cons_ne_nil _ _

/-- The last symbol tells whether an operand is due, and the parentheses tell how many are open. -/
theorem Standing.eq_of_afterAll? {symbols : List Symbol} {standing : Standing}
    (read : start.afterAll? symbols = some standing) :
    standing.due = operandIsDue symbols
      ∧ symbols.count .left = symbols.count .right + standing.depth := by
  induction symbols using List.reverseRecOn generalizing standing with
  | nil =>
    cases read
    exact ⟨rfl, rfl⟩
  | append_singleton symbols symbol inductionHypothesis =>
    rw [afterAll?_append] at read
    obtain ⟨between, early, late⟩ := Option.bind_eq_some_iff.1 read
    obtain ⟨-, balance⟩ := inductionHypothesis early
    rw [afterAll?_cons] at late
    obtain ⟨last, late, same⟩ := Option.bind_eq_some_iff.1 late
    cases same
    unfold after? at late
    split at late <;> cases late <;> simp [operandIsDue] at balance ⊢ <;> omega

/-- What is expected can be told from the symbols alone. -/
theorem Standing.expected_eq {symbols : List Symbol} {standing : Standing}
    (read : start.afterAll? symbols = some standing) :
    standing.expected = expectedAfter symbols := by
  obtain ⟨due, balance⟩ := eq_of_afterAll? read
  obtain ⟨isDue, depth⟩ := standing
  simp only at due balance
  rw [expectedAfter, ← due, parenthesisIsOpen]
  cases isDue with
  | true => rfl
  | false => cases depth <;> simp [expected, balance]

/-- **What is expected can stand next**, and nothing else can. -/
theorem isStart_append_iff {symbols : List Symbol} (isStart : IsStart symbols) {symbol : Symbol} :
    IsStart (symbols ++ [symbol])
      ↔ ∃ expected ∈ expectedAfter symbols, expected.accepts symbol := by
  obtain ⟨standing, read⟩ := isStart_iff.1 isStart
  rw [isStart_iff, ← Standing.expected_eq read, ← Standing.after?_isSome_iff,
    Option.isSome_iff_exists, Standing.afterAll?_append, read]
  simp

/-- **The end is expected** exactly after expressions. -/
theorem finish_mem_expectedAfter_iff {symbols : List Symbol} (isStart : IsStart symbols) :
    .finish ∈ expectedAfter symbols ↔ ∃ tree, Derives (.chain .sum) symbols tree := by
  obtain ⟨standing, read⟩ := isStart_iff.1 isStart
  rw [exists_derives_iff, ← Standing.expected_eq read, read]
  obtain ⟨due, depth⟩ := standing
  cases due <;> cases depth <;> simp [Standing.expected]

end Peg.Calculator
