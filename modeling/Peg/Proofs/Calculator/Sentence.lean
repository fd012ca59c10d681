import Mathlib.Data.List.Basic
import Peg.Calculator

/-! # The language of the calculator

The expressions that the calculator is meant for, and what they are worth, without any parser:

    expr   = term (("+" | "-") term)*
    term   = unary (("*" | "/") unary)*
    unary  = "-" unary | NUMBER | "(" expr ")"

Sums and products are chains of two levels, so that the first two rules are one. `Derives` is the
grammar over symbols, `Spells` says how a text spells symbols, with blanks wherever it likes, and
`Tree.value` evaluates a tree: numerals are read, the operands of a chain are evaluated from left to
right, and then its operators are applied from left to right.

* **`Derives.unique`**: no row of symbols has two trees. -/

namespace Peg.Calculator

/-! ## Symbols -/

/-- The two levels of chains. -/
inductive Level where
  /-- Sums and differences. -/
  | sum
  /-- Products and quotients. -/
  | product
deriving DecidableEq

/-- The operators. -/
inductive Operator where
  /-- The sum. -/
  | plus
  /-- The difference, or the sign of a number. -/
  | minus
  /-- The product. -/
  | times
  /-- The quotient. -/
  | divide
deriving DecidableEq

namespace Operator

/-- The character of an operator. -/
def char : Operator → Char
  | plus => '+'
  | minus => '-'
  | times => '*'
  | divide => '/'

/-- The level of the chains that an operator makes. -/
def level : Operator → Level
  | plus => .sum
  | minus => .sum
  | times => .product
  | divide => .product

/-- Combines two values. -/
def apply : Operator → Value → Value → Except Fault Value
  | plus => Value.add
  | minus => Value.subtract
  | times => Value.multiply
  | divide => Value.divide

end Operator

/-- What a text of the calculator consists of, apart from blanks. -/
inductive Symbol where
  /-- A numeral. -/
  | number (numeral : List Char)
  /-- An operator. -/
  | operator (operator : Operator)
  /-- An opening parenthesis. -/
  | left
  /-- A closing parenthesis. -/
  | right
  /-- A character that starts nothing of the above. -/
  | other (char : Char)
deriving DecidableEq

/-! ## The grammar -/

/-- The parts of an expression. -/
inductive Part where
  /-- A number, something in parentheses, or one of these with signs before it. -/
  | unary
  /-- A chain of operands. -/
  | chain (level : Level)

/-- The operands of a chain: those of a sum are products. -/
def Level.operand : Level → Part
  | .sum => .chain .product
  | .product => .unary

/-- The tree of an expression. -/
inductive Tree where
  /-- A numeral. -/
  | number (numeral : List Char)
  /-- A part with a sign before it. -/
  | negated (operand : Tree)
  /-- An expression in parentheses. -/
  | group (inner : Tree)
  /-- A first operand, and operators with further ones. -/
  | chain (first : Tree) (steps : List (Operator × Tree))

/-- An operator with the operand after it. -/
structure Step where
  /-- The operator. -/
  operator : Operator
  /-- The symbols of the operand. -/
  operand : List Symbol
  /-- The tree of the operand. -/
  tree : Tree

/-- The symbols of a step. -/
def Step.symbols (step : Step) : List Symbol := .operator step.operator :: step.operand

/-- A step as it stands in a tree. -/
def Step.entry (step : Step) : Operator × Tree := (step.operator, step.tree)

/-- The grammar: the symbols are a part of an expression with the given tree. -/
inductive Derives : Part → List Symbol → Tree → Prop
  | number (numeral : List Char) : Derives .unary [.number numeral] (.number numeral)
  | negated {symbols : List Symbol} {tree : Tree} (operand : Derives .unary symbols tree) :
      Derives .unary (.operator .minus :: symbols) (.negated tree)
  | group {symbols : List Symbol} {tree : Tree} (inner : Derives (.chain .sum) symbols tree) :
      Derives .unary (.left :: (symbols ++ [.right])) (.group tree)
  | chain {level : Level} {first : List Symbol} {tree : Tree} {steps : List Step}
      (head : Derives level.operand first tree)
      (operators : ∀ step ∈ steps, step.operator.level = level)
      (operands : ∀ step ∈ steps, Derives level.operand step.operand step.tree) :
      Derives (.chain level) (first ++ steps.flatMap Step.symbols)
        (.chain tree (steps.map Step.entry))

/-! ## Values -/

mutual

/-- The value of an expression. -/
def Tree.value : Tree → Except Fault Value
  | .number numeral =>
    if numeral.contains '.' then Value.toFloat (.str numeral) else Value.toInteger (.str numeral)
  | .negated operand => do (← operand.value).negate
  | .group inner => inner.value
  | .chain first steps => do
    let start ← first.value
    let operands ← valuesOf steps
    operands.foldlM (fun total step => step.1.apply total step.2) start

/-- The values of the operands of a chain, from left to right. -/
def valuesOf : List (Operator × Tree) → Except Fault (List (Operator × Value))
  | [] => .ok []
  | (operator, operand) :: steps => do
    let value ← operand.value
    return (operator, value) :: (← valuesOf steps)

end

/-! ## Spelling -/

/-- Digits, and more digits after a point. -/
inductive IsNumeral : List Char → Prop
  | whole {digits : List Char} (some : digits ≠ []) (all : ∀ c ∈ digits, Text.isDigit c) :
      IsNumeral digits
  | fraction {digits more : List Char} (some : digits ≠ []) (all : ∀ c ∈ digits, Text.isDigit c)
      (someMore : more ≠ []) (allMore : ∀ c ∈ more, Text.isDigit c) :
      IsNumeral (digits ++ '.' :: more)

/-- How a symbol is spelt. -/
inductive Symbol.IsSpelt : Symbol → List Char → Prop
  | number {numeral : List Char} (isNumeral : IsNumeral numeral) : IsSpelt (.number numeral) numeral
  | operator (operator : Operator) : IsSpelt (.operator operator) [operator.char]
  | left : IsSpelt .left ['(']
  | right : IsSpelt .right [')']

/-- A text spells symbols, with blanks before, between and after them. -/
inductive Spells : List Char → List Symbol → Prop
  | finish : Spells [] []
  | blank {c : Char} {text : List Char} {symbols : List Symbol} (blank : Text.isBlank c)
      (later : Spells text symbols) : Spells (c :: text) symbols
  | symbol {symbol : Symbol} {lexeme text : List Char} {symbols : List Symbol}
      (spelt : symbol.IsSpelt lexeme) (later : Spells text symbols) :
      Spells (lexeme ++ text) (symbol :: symbols)

/-- The text is an expression with the given tree. -/
def IsSentence (text : List Char) (tree : Tree) : Prop :=
  ∃ symbols, Spells text symbols ∧ Derives (.chain .sum) symbols tree

/-! ## Each row of symbols has one tree -/

/-- The part goes on with the operator if it can: a sum with all of them, a product with those of
its own level, and what is no chain with none. -/
def Part.takes : Part → Operator → Prop
  | .unary, _ => False
  | .chain .product, operator => operator.level = .product
  | .chain .sum, _ => True

/-- The part ends before these symbols. -/
def Part.EndsAt (part : Part) (rest : List Symbol) : Prop :=
  ∀ operator, rest.head? = some (.operator operator) → ¬ part.takes operator

theorem Part.EndsAt.operand {level : Level} {rest : List Symbol}
    (ends : (Part.chain level).EndsAt rest) : level.operand.EndsAt rest := by
  intro operator next
  cases level with
  | sum => exact fun _ => ends operator next trivial
  | product => exact fun taken => taken

/-- An operand of a chain ends where the chain goes on or ends. -/
theorem Part.EndsAt.before_steps {level : Level} {rest : List Symbol} {steps : List Step}
    (operators : ∀ step ∈ steps, step.operator.level = level)
    (ends : (Part.chain level).EndsAt rest) :
    level.operand.EndsAt (steps.flatMap Step.symbols ++ rest) := by
  cases steps with
  | nil => exact ends.operand
  | cons step steps =>
    intro operator next
    cases next
    have same := operators step List.mem_cons_self
    cases level with
    | sum =>
      intro taken
      have product : step.operator.level = .product := taken
      rw [same] at product
      cases product
    | product => exact fun taken => taken

/-- A chain takes every operator of its level. -/
theorem Part.takes_of_level {operator : Operator} {level : Level} (same : operator.level = level) :
    (Part.chain level).takes operator := by
  cases level with
  | sum => trivial
  | product => exact same

/-- Where these symbols stand and the part ends behind them, no other symbols and no other tree are
such a part. -/
def Part.HasOnly (part : Part) (first : List Symbol) (tree : Tree) : Prop :=
  ∀ (second rest later : List Symbol) (other : Tree), Derives part second other →
    first ++ rest = second ++ later → part.EndsAt rest → part.EndsAt later →
    first = second ∧ tree = other

/-- Steps with unique operands are unique, one after the other. -/
theorem steps_unique {level : Level} {steps further : List Step} {rest later : List Symbol}
    (operators : ∀ step ∈ steps, step.operator.level = level)
    (operatorsToo : ∀ step ∈ further, step.operator.level = level)
    (only : ∀ step ∈ steps, level.operand.HasOnly step.operand step.tree)
    (operands : ∀ step ∈ further, Derives level.operand step.operand step.tree)
    (same : steps.flatMap Step.symbols ++ rest = further.flatMap Step.symbols ++ later)
    (ends : (Part.chain level).EndsAt rest) (endsToo : (Part.chain level).EndsAt later) :
    steps.flatMap Step.symbols = further.flatMap Step.symbols
      ∧ steps.map Step.entry = further.map Step.entry := by
  induction steps generalizing further with
  | nil =>
    cases further with
    | nil => exact ⟨rfl, rfl⟩
    | cons step further =>
      -- the other row goes on with an operator where the part has ended
      rw [List.flatMap_nil, List.nil_append] at same
      refine absurd (Part.takes_of_level (operatorsToo step List.mem_cons_self)) (ends _ ?_)
      rw [same]
      rfl
  | cons step steps inductionHypothesis =>
    cases further with
    | nil =>
      rw [List.flatMap_nil, List.nil_append] at same
      refine absurd (Part.takes_of_level (operators step List.mem_cons_self)) (endsToo _ ?_)
      rw [← same]
      rfl
    | cons another further =>
      simp only [List.flatMap_cons, Step.symbols, List.cons_append, List.append_assoc,
        List.cons.injEq, Symbol.operator.injEq] at same
      obtain ⟨sameOperator, same⟩ := same
      obtain ⟨-, operators⟩ := List.forall_mem_cons.1 operators
      obtain ⟨-, operatorsToo⟩ := List.forall_mem_cons.1 operatorsToo
      obtain ⟨onlyThis, only⟩ := List.forall_mem_cons.1 only
      obtain ⟨operand, operands⟩ := List.forall_mem_cons.1 operands
      -- an operand ends where the next operator of the chain stands, which fixes its symbols
      obtain ⟨sameOperand, sameTree⟩ := onlyThis _ _ _ _ operand same
        (ends.before_steps operators) (endsToo.before_steps operatorsToo)
      rw [sameOperand] at same
      obtain ⟨symbols, entries⟩ := inductionHypothesis operators operatorsToo only operands
        (List.append_cancel_left same)
      simp only [List.flatMap_cons, List.map_cons, Step.symbols, Step.entry, sameOperator,
        sameOperand, sameTree]
      exact ⟨by rw [symbols], by rw [entries]⟩

/-- **The grammar is unambiguous**: the same symbols, followed by symbols at which the part ends,
have one part at their start, and that has one tree. -/
theorem Derives.unique {part : Part} {symbols : List Symbol} {tree : Tree}
    (derives : Derives part symbols tree) : part.HasOnly symbols tree := by
  induction derives with
  | number numeral =>
    intro second rest later other derivesToo same _ _
    cases derivesToo with
    | number other => simp_all
    | negated => simp at same
    | group => simp at same
  | negated _ inductionHypothesis =>
    intro second rest later other derivesToo same _ _
    cases derivesToo with
    | number other => simp at same
    | negated operand =>
      simp only [List.cons_append, List.cons.injEq, true_and] at same
      obtain ⟨rfl, rfl⟩ :=
        inductionHypothesis _ _ _ _ operand same (fun _ _ => id) (fun _ _ => id)
      exact ⟨rfl, rfl⟩
    | group => simp at same
  | group _ inductionHypothesis =>
    intro second rest later other derivesToo same _ _
    -- a closing parenthesis is no operator, so the expression ends at it
    have closes (rest : List Symbol) : (Part.chain .sum).EndsAt (.right :: rest) := by
      intro operator next
      cases next
    cases derivesToo with
    | number other => simp at same
    | negated => simp at same
    | group inner =>
      simp only [List.cons_append, List.cons.injEq, true_and, List.append_assoc,
        List.nil_append] at same
      obtain ⟨rfl, rfl⟩ := inductionHypothesis _ _ _ _ inner same (closes _) (closes _)
      exact ⟨rfl, rfl⟩
  | chain _ operators _ headOnly operandsOnly =>
    intro second rest later other derivesToo same ends endsToo
    cases derivesToo with
    | chain head operatorsToo operands =>
      rw [List.append_assoc, List.append_assoc] at same
      obtain ⟨rfl, rfl⟩ := headOnly _ _ _ _ head same (ends.before_steps operators)
        (endsToo.before_steps operatorsToo)
      obtain ⟨symbols, entries⟩ := steps_unique operators operatorsToo operandsOnly operands
        (List.append_cancel_left same) ends endsToo
      rw [symbols, entries]
      exact ⟨rfl, rfl⟩

end Peg.Calculator
