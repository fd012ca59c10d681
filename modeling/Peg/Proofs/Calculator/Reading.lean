import Peg.Proofs.Calculator.Arithmetic
import Peg.Proofs.Calculator.Prefix

/-! # Reading expressions

How a parser reads symbols by the rules of the grammar: alternatives in their order, repetitions as
long as they go, values computed on the way, and nothing taken back that has matched. `Reads` says
what comes of it and what was looked for in vain, whatever presents the symbols to the parser.

* **`exists_reads`**: reading comes to an end on all symbols.
* **`Reads.sound`**: what is read is a part of an expression, and its value is that of its tree.
* **`Derives.reads`**: a part of an expression that ends where it can is read, and a fault in its
  value is raised. -/

namespace Peg.Calculator

/-! ## The rules of reading -/

/-- What is to be read. -/
inductive Goal where
  /-- A part of an expression. -/
  | part (part : Part)
  /-- The operators and operands of a chain after its first operand. -/
  | steps (level : Level)

/-- What comes of reading: a fault, nothing, or a value and the symbols after it. -/
abbrev Reading := Except Fault (Option (Value × List Symbol))

/-- A computed value and the symbols after it. -/
def Reading.ofValue (value : Except Fault Value) (rest : List Symbol) : Reading :=
  value.map fun value => some (value, rest)

/-- A computation that may raise a fault is never a miss. -/
theorem Reading.ofValue_ne_none (value : Except Fault Value) (rest : List Symbol) :
    ofValue value rest ≠ .ok none := by
  cases value <;> exact fun same => by cases same

/-- A match made from a computation has its value, and the symbols given with it. -/
theorem Reading.of_ofValue_eq {value : Except Fault Value} {rest later : List Symbol}
    {found : Value} (same : ofValue value rest = .ok (some (found, later))) :
    value = .ok found ∧ rest = later := by
  cases value with
  | error fault => cases same
  | ok value =>
    cases same
    exact ⟨rfl, rfl⟩

/-- Something that was looked for in vain, with the number of symbols that were left there. -/
inductive Remark where
  /-- A terminal that does not stand there. -/
  | missed (expectation : Expectation) (left : Nat)
  /-- The operators of the level that are tried before the one that stands there. -/
  | passed (operator : Operator) (left : Nat)

/-- The number of symbols that were left. -/
def Remark.left : Remark → Nat
  | .missed _ left => left
  | .passed _ left => left

/-- The value of an operator with its operand. -/
def stepValue (step : Operator × Value) : Value := .list [.str [step.1.char], step.2]

/-- What reading a goal leads to first, on which symbols and with which remarks before it. -/
def Goal.first? : Goal → List Symbol → Option (Goal × List Symbol × List Remark)
  | .part .unary, .operator .minus :: rest => some (.part .unary, rest, [])
  | .part .unary, .left :: rest =>
    some (.part (.chain .sum), rest,
      [.missed .minus (rest.length + 1), .missed .number (rest.length + 1)])
  | .part .unary, _ => none
  | .part (.chain level), symbols => some (.part level.operand, symbols, [])
  | .steps level, .operator operator :: rest =>
    if operator.level = level then
      some (.part level.operand, rest, [.passed operator (rest.length + 1)])
    else none
  | .steps _, _ => none

/-- Reading a goal from symbols comes to a certain end, with certain remarks on the way. -/
inductive Reads : Goal → List Symbol → Reading → List Remark → Prop
  /-- A sign changes the value of the operand after it. -/
  | negated {rest after : List Symbol} {value : Value} {remarks : List Remark}
      (operand : Reads (.part .unary) rest (.ok (some (value, after))) remarks) :
      Reads (.part .unary) (.operator .minus :: rest) (.ofValue value.negate after) remarks
  /-- A sign without an operand is no number and no parenthesis either. -/
  | negatedMiss {rest : List Symbol} {remarks : List Remark}
      (operand : Reads (.part .unary) rest (.ok none) remarks) :
      Reads (.part .unary) (.operator .minus :: rest) (.ok none)
        (remarks ++ [.missed .number (rest.length + 1), .missed .left (rest.length + 1)])
  /-- A numeral is converted. -/
  | number (numeral : List Char) (rest : List Symbol) :
      Reads (.part .unary) (.number numeral :: rest) (.ofValue (readNumber (.str numeral)) rest)
        [.missed .minus (rest.length + 1)]
  /-- An expression in parentheses has its own value. -/
  | group {rest after : List Symbol} {value : Value} {remarks : List Remark}
      (inner : Reads (.part (.chain .sum)) rest (.ok (some (value, .right :: after))) remarks) :
      Reads (.part .unary) (.left :: rest) (.ok (some (value, after)))
        (.missed .minus (rest.length + 1) :: .missed .number (rest.length + 1) :: remarks)
  /-- An opening parenthesis that is not closed after an expression opens nothing. -/
  | groupOpen {rest after : List Symbol} {value : Value} {remarks : List Remark}
      (inner : Reads (.part (.chain .sum)) rest (.ok (some (value, after))) remarks)
      (unclosed : Expectation.right.meets after = false) :
      Reads (.part .unary) (.left :: rest) (.ok none)
        (.missed .minus (rest.length + 1) :: .missed .number (rest.length + 1) :: remarks
          ++ [.missed .right after.length])
  /-- Nor does one without an expression after it. -/
  | groupMiss {rest : List Symbol} {remarks : List Remark}
      (inner : Reads (.part (.chain .sum)) rest (.ok none) remarks) :
      Reads (.part .unary) (.left :: rest) (.ok none)
        (.missed .minus (rest.length + 1) :: .missed .number (rest.length + 1) :: remarks)
  /-- Nothing else begins an operand. -/
  | noOperand {symbols : List Symbol} (noMinus : Expectation.minus.meets symbols = false)
      (noNumber : Expectation.number.meets symbols = false)
      (noLeft : Expectation.left.meets symbols = false) :
      Reads (.part .unary) symbols (.ok none)
        [.missed .minus symbols.length, .missed .number symbols.length,
          .missed .left symbols.length]
  /-- The operators of a chain are applied when all its operands are read. -/
  | chain {level : Level} {symbols middle rest : List Symbol} {first steps : Value}
      {remarks more : List Remark}
      (head : Reads (.part level.operand) symbols (.ok (some (first, middle))) remarks)
      (tail : Reads (.steps level) middle (.ok (some (steps, rest))) more) :
      Reads (.part (.chain level)) symbols
        (.ofValue (Action.foldOperators (.list [first, steps])) rest) (remarks ++ more)
  /-- A chain has a first operand. -/
  | chainMiss {level : Level} {symbols : List Symbol} {remarks : List Remark}
      (head : Reads (.part level.operand) symbols (.ok none) remarks) :
      Reads (.part (.chain level)) symbols (.ok none) remarks
  /-- A fault in a later operand stops the chain. -/
  | chainRaise {level : Level} {symbols middle : List Symbol} {first : Value} {fault : Fault}
      {remarks more : List Remark}
      (head : Reads (.part level.operand) symbols (.ok (some (first, middle))) remarks)
      (tail : Reads (.steps level) middle (.error fault) more) :
      Reads (.part (.chain level)) symbols (.error fault) (remarks ++ more)
  /-- A chain ends where no operator of its level stands. -/
  | stepsEnd {level : Level} {symbols : List Symbol}
      (noOperator : (Expectation.operators level).meets symbols = false) :
      Reads (.steps level) symbols (.ok (some (.list [], symbols)))
        [.missed (.operators level) symbols.length]
  /-- It ends before an operator that has no operand. -/
  | stepsMiss {level : Level} {operator : Operator} {rest : List Symbol} {remarks : List Remark}
      (same : operator.level = level)
      (operand : Reads (.part level.operand) rest (.ok none) remarks) :
      Reads (.steps level) (.operator operator :: rest)
        (.ok (some (.list [], .operator operator :: rest)))
        (.passed operator (rest.length + 1) :: remarks)
  /-- After an operator with an operand there may be more of them. -/
  | stepsMore {level : Level} {operator : Operator} {rest middle after : List Symbol}
      {value : Value} {later : List Value} {remarks more : List Remark}
      (same : operator.level = level)
      (operand : Reads (.part level.operand) rest (.ok (some (value, middle))) remarks)
      (steps : Reads (.steps level) middle (.ok (some (.list later, after))) more) :
      Reads (.steps level) (.operator operator :: rest)
        (.ok (some (.list (stepValue (operator, value) :: later), after)))
        (.passed operator (rest.length + 1) :: remarks ++ more)
  /-- A fault further on stops the chain. -/
  | stepsRaise {level : Level} {operator : Operator} {rest middle : List Symbol} {value : Value}
      {fault : Fault} {remarks more : List Remark} (same : operator.level = level)
      (operand : Reads (.part level.operand) rest (.ok (some (value, middle))) remarks)
      (steps : Reads (.steps level) middle (.error fault) more) :
      Reads (.steps level) (.operator operator :: rest) (.error fault)
        (.passed operator (rest.length + 1) :: remarks ++ more)
  /-- A fault in what a goal leads to first stops the goal. -/
  | raise {goal first : Goal} {symbols rest : List Symbol} {fault : Fault}
      {before remarks : List Remark} (start : goal.first? symbols = some (first, rest, before))
      (inside : Reads first rest (.error fault) remarks) :
      Reads goal symbols (.error fault) (before ++ remarks)

/-! ## What is read is part of an expression -/

/-- Folding over operators with their operands is applying the operators in turn. -/
theorem foldOperators_eq (start : Value) (operands : List (Operator × Value)) :
    Action.foldOperators (.list [start, .list (operands.map stepValue)])
      = operands.foldlM (fun total step => step.1.apply total step.2) start := by
  have apply (operator : Operator) (left right : Value) :
      Action.applyOperator (.str [operator.char]) left right = operator.apply left right := by
    cases operator <;> rfl
  have unfolded : Action.foldOperators (.list [start, .list (operands.map stepValue)])
      = (operands.map stepValue).foldlM (fun total step => step.pair >>= fun pair =>
          Action.applyOperator pair.1 total pair.2) start := rfl
  rw [unfolded, List.foldlM_map]
  congr 1
  funext total step
  exact apply step.1 total step.2

/-- A goal is met: the symbols before the rest are what was to be read, with this value. -/
def Goal.Means : Goal → List Symbol → Value → List Symbol → Prop
  | .part whole, symbols, value, rest =>
    ∃ read tree, symbols = read ++ rest ∧ Derives whole read tree ∧ tree.value = .ok value
  | .steps level, symbols, value, rest =>
    ∃ steps : List Step, ∃ operands, symbols = steps.flatMap Step.symbols ++ rest
      ∧ (∀ step ∈ steps, step.operator.level = level)
      ∧ (∀ step ∈ steps, Derives level.operand step.operand step.tree)
      ∧ valuesOf (steps.map Step.entry) = .ok operands ∧ value = .list (operands.map stepValue)

/-- **What is read is a part of an expression**, with the value of its tree. -/
theorem Reads.sound {goal : Goal} {symbols : List Symbol} {reading : Reading}
    {remarks : List Remark} (reads : Reads goal symbols reading remarks) {value : Value}
    {rest : List Symbol} (matched : reading = .ok (some (value, rest))) :
    goal.Means symbols value rest := by
  induction reads generalizing value rest with
  | negated _ operand =>
    obtain ⟨negated, rfl⟩ := Reading.of_ofValue_eq matched
    -- the tree of the operand gets a sign, and the value follows it
    obtain ⟨read, tree, rfl, derives, found⟩ := operand rfl
    refine ⟨_, _, (List.cons_append ..).symm, .negated derives, ?_⟩
    rw [Tree.value, found]
    exact negated
  | negatedMiss => cases matched
  | number numeral =>
    obtain ⟨converted, rfl⟩ := Reading.of_ofValue_eq matched
    exact ⟨_, _, rfl, .number numeral, by rw [Tree.value]; exact converted⟩
  | group _ inner =>
    cases matched
    obtain ⟨read, tree, rfl, derives, found⟩ := inner rfl
    refine ⟨_, _, ?_, .group derives, by rw [Tree.value, found]⟩
    rw [List.cons_append, List.append_assoc]
    rfl
  | groupOpen => cases matched
  | groupMiss => cases matched
  | noOperand => cases matched
  | chain _ _ head tail =>
    obtain ⟨folded, rfl⟩ := Reading.of_ofValue_eq matched
    obtain ⟨read, tree, rfl, derives, found⟩ := head rfl
    obtain ⟨steps, operands, rfl, levels, derivesAll, values, rfl⟩ := tail rfl
    refine ⟨_, _, (List.append_assoc ..).symm, .chain derives levels derivesAll, ?_⟩
    -- the parser folds pairs where the tree folds its steps
    rw [Tree.value, found, values, ← folded, foldOperators_eq]
    rfl
  | chainMiss => cases matched
  | chainRaise => cases matched
  | stepsEnd =>
    -- without an operator the chain ends here, with no steps
    cases matched
    exact ⟨[], [], rfl, by simp, by simp, by simp [valuesOf], rfl⟩
  | stepsMiss =>
    -- an operator without an operand is given back
    cases matched
    exact ⟨[], [], rfl, by simp, by simp, by simp [valuesOf], rfl⟩
  | @stepsMore level operator _ _ _ _ _ _ _ same _ _ operand more =>
    cases matched
    obtain ⟨read, tree, rfl, derives, found⟩ := operand rfl
    obtain ⟨steps, operands, rfl, levels, derivesAll, values, listed⟩ := more rfl
    cases listed
    refine ⟨⟨operator, read, tree⟩ :: steps, (operator, _) :: operands, ?_,
      List.forall_mem_cons.2 ⟨same, levels⟩, List.forall_mem_cons.2 ⟨derives, derivesAll⟩, ?_, rfl⟩
    · rw [List.flatMap_cons, Step.symbols, List.cons_append, List.cons_append, List.append_assoc]
    · rw [List.map_cons, Step.entry, valuesOf, found, values]
      rfl
  | stepsRaise => cases matched
  | raise => cases matched

/-- A part of an expression takes up symbols. -/
theorem Derives.ne_nil {part : Part} {symbols : List Symbol} {tree : Tree}
    (derives : Derives part symbols tree) : symbols ≠ [] := by
  rintro rfl
  cases derives.afterAll? 0

/-- Reading a part leaves fewer symbols. -/
theorem Reads.length_lt {part : Part} {symbols rest : List Symbol} {value : Value}
    {remarks : List Remark}
    (reads : Reads (.part part) symbols (.ok (some (value, rest))) remarks) :
    rest.length < symbols.length := by
  obtain ⟨read, tree, rfl, derives, -⟩ := reads.sound rfl
  have some := List.length_pos_iff.2 derives.ne_nil
  rw [List.length_append]
  omega

/-! ## Reading comes to an end -/

/-- There may be no further operands, so that reading them always finds something. -/
theorem Reads.steps_ne_none {level : Level} {symbols : List Symbol} {reading : Reading}
    {remarks : List Remark} (reads : Reads (.steps level) symbols reading remarks) :
    reading ≠ .ok none := by
  cases reads <;> exact fun same => by cases same

/-- Where an operator of a level is found, one stands there. -/
theorem exists_operator_of_meets {level : Level} {symbols : List Symbol}
    (next : (Expectation.operators level).meets symbols = true) :
    ∃ operator rest, symbols = .operator operator :: rest ∧ operator.level = level := by
  cases symbols with
  | nil => cases next
  | cons symbol rest =>
    cases symbol with
    | operator operator => exact ⟨operator, rest, rfl, of_decide_eq_true next⟩
    | _ => cases next

/-- Reading the goal from these symbols comes to an end. -/
def Goal.Ends (goal : Goal) (symbols : List Symbol) : Prop :=
  ∃ reading remarks, Reads goal symbols reading remarks

/-- Reading an operand ends, if reading fewer symbols does. A sign or a parenthesis uses up one
symbol before anything else is read. -/
theorem ends_unary {symbols : List Symbol}
    (shorter : ∀ less : List Symbol, less.length < symbols.length → ∀ goal : Goal, goal.Ends less) :
    (Goal.part .unary).Ends symbols := by
  match symbols with
  | .operator .minus :: rest =>
    obtain ⟨reading, remarks, operand⟩ := shorter rest (Nat.lt_succ_self _) (.part .unary)
    match reading with
    | .error fault => exact ⟨_, _, .raise rfl operand⟩
    | .ok none => exact ⟨_, _, .negatedMiss operand⟩
    | .ok (some (value, after)) => exact ⟨_, _, .negated operand⟩
  | .number numeral :: rest => exact ⟨_, _, .number numeral rest⟩
  | .left :: rest =>
    obtain ⟨reading, remarks, inner⟩ := shorter rest (Nat.lt_succ_self _) (.part (.chain .sum))
    match reading with
    | .error fault => exact ⟨_, _, .raise rfl inner⟩
    | .ok none => exact ⟨_, _, .groupMiss inner⟩
    | .ok (some (value, .right :: after)) => exact ⟨_, _, .group inner⟩
    | .ok (some (value, [])) => exact ⟨_, _, .groupOpen inner rfl⟩
    | .ok (some (value, .number _ :: _)) => exact ⟨_, _, .groupOpen inner rfl⟩
    | .ok (some (value, .operator _ :: _)) => exact ⟨_, _, .groupOpen inner rfl⟩
    | .ok (some (value, .left :: _)) => exact ⟨_, _, .groupOpen inner rfl⟩
    | .ok (some (value, .other _ :: _)) => exact ⟨_, _, .groupOpen inner rfl⟩
  | [] => exact ⟨_, _, .noOperand rfl rfl rfl⟩
  | .operator .plus :: rest => exact ⟨_, _, .noOperand rfl rfl rfl⟩
  | .operator .times :: rest => exact ⟨_, _, .noOperand rfl rfl rfl⟩
  | .operator .divide :: rest => exact ⟨_, _, .noOperand rfl rfl rfl⟩
  | .right :: rest => exact ⟨_, _, .noOperand rfl rfl rfl⟩
  | .other c :: rest => exact ⟨_, _, .noOperand rfl rfl rfl⟩

/-- Reading a chain ends, if its first operand can be read to an end and reading fewer symbols
ends. -/
theorem ends_chain (level : Level) {symbols : List Symbol}
    (shorter : ∀ less : List Symbol, less.length < symbols.length → ∀ goal : Goal, goal.Ends less)
    (operand : (Goal.part level.operand).Ends symbols) :
    (Goal.part (.chain level)).Ends symbols := by
  obtain ⟨reading, remarks, head⟩ := operand
  match reading with
  | .error fault => exact ⟨_, _, .raise rfl head⟩
  | .ok none => exact ⟨_, _, .chainMiss head⟩
  | .ok (some (first, middle)) =>
    obtain ⟨reading, more, tail⟩ := shorter middle head.length_lt (.steps level)
    match reading with
    | .error fault => exact ⟨_, _, .chainRaise head tail⟩
    | .ok none => exact absurd rfl tail.steps_ne_none
    | .ok (some (steps, rest)) => exact ⟨_, _, .chain head tail⟩

/-- Reading the steps of a chain ends, if reading fewer symbols does: each step starts with an
operator. -/
theorem ends_steps {level : Level} {symbols : List Symbol}
    (shorter : ∀ less : List Symbol, less.length < symbols.length → ∀ goal : Goal, goal.Ends less) :
    (Goal.steps level).Ends symbols := by
  by_cases next : (Expectation.operators level).meets symbols = true
  · obtain ⟨operator, rest, rfl, same⟩ := exists_operator_of_meets next
    obtain ⟨reading, remarks, operand⟩ :=
      shorter rest (Nat.lt_succ_self _) (.part level.operand)
    match reading with
    | .error fault => exact ⟨_, _, .raise (by rw [Goal.first?, if_pos same]) operand⟩
    | .ok none => exact ⟨_, _, .stepsMiss same operand⟩
    | .ok (some (value, middle)) =>
      have less := operand.length_lt
      obtain ⟨reading, more, tail⟩ := shorter middle (Nat.lt_succ_of_lt less) (.steps level)
      match reading with
      | .error fault => exact ⟨_, _, .stepsRaise same operand tail⟩
      | .ok none => exact absurd rfl tail.steps_ne_none
      | .ok (some (steps, rest)) =>
        obtain ⟨_, operands, -, -, -, -, rfl⟩ := tail.sound rfl
        exact ⟨_, _, .stepsMore same operand tail⟩
  · exact ⟨_, _, .stepsEnd (Bool.not_eq_true _ ▸ next)⟩

/-- **Reading comes to an end**, by induction on the number of symbols: a chain begins with an
operand on the same symbols, an operand with a symbol. -/
theorem exists_reads (goal : Goal) (symbols : List Symbol) : goal.Ends symbols := by
  induction length : symbols.length using Nat.strongRecOn generalizing goal symbols with
  | _ count inductionHypothesis =>
    have shorter (less : List Symbol) (fewer : less.length < symbols.length) (goal : Goal) :
        goal.Ends less := inductionHypothesis less.length (length ▸ fewer) goal less rfl
    have product := ends_chain .product shorter (ends_unary shorter)
    match goal with
    | .part .unary => exact ends_unary shorter
    | .part (.chain .product) => exact product
    | .part (.chain .sum) => exact ends_chain .sum shorter product
    | .steps level => exact ends_steps shorter

/-! ## Parts of expressions are read -/

/-- Operators with operands are read one after the other, if each operand is read where it ends. -/
theorem exists_reads_steps {level : Level} {steps : List Step} {rest : List Symbol}
    (operators : ∀ step ∈ steps, step.operator.level = level)
    (operands : ∀ step ∈ steps, ∀ rest, level.operand.EndsAt rest → ∃ remarks,
      Reads (.part level.operand) (step.operand ++ rest) (.ofValue step.tree.value rest) remarks)
    (ends : (Part.chain level).EndsAt rest) :
    ∃ remarks, Reads (.steps level) (steps.flatMap Step.symbols ++ rest)
      (.ofValue ((valuesOf (steps.map Step.entry)).map fun values => .list (values.map stepValue))
        rest) remarks := by
  induction steps with
  | nil =>
    -- the chain ends here, so that no operator of its level comes next
    have none : (Expectation.operators level).meets rest = false := by
      rw [← Bool.not_eq_true]
      intro next
      obtain ⟨operator, later, rfl, same⟩ := exists_operator_of_meets next
      exact ends operator rfl (Part.takes_of_level same)
    exact ⟨_, .stepsEnd none⟩
  | cons step steps inductionHypothesis =>
    obtain ⟨same, operators⟩ := List.forall_mem_cons.1 operators
    obtain ⟨operand, operands⟩ := List.forall_mem_cons.1 operands
    -- the operand ends where the next step begins, or where the chain does
    obtain ⟨remarks, operand⟩ := operand _ (ends.before_steps operators)
    obtain ⟨more, later⟩ := inductionHypothesis operators operands
    rw [List.flatMap_cons, Step.symbols, List.cons_append, List.cons_append, List.append_assoc,
      List.map_cons, Step.entry, valuesOf]
    cases value : step.tree.value with
    | error fault =>
      rw [value] at operand
      exact ⟨_, .raise (by rw [Goal.first?, if_pos same]) operand⟩
    | ok value' =>
      rw [value] at operand
      cases values : valuesOf (steps.map Step.entry) with
      | error fault =>
        rw [values] at later
        exact ⟨_, .stepsRaise same operand later⟩
      | ok values' =>
        rw [values] at later
        exact ⟨_, .stepsMore same operand later⟩

/-- **A part of an expression that ends where it can is read**, with the value of its tree, or with
the fault in its place. -/
theorem Derives.reads {part : Part} {symbols : List Symbol} {tree : Tree}
    (derives : Derives part symbols tree) {rest : List Symbol} (ends : part.EndsAt rest) :
    ∃ remarks, Reads (.part part) (symbols ++ rest) (.ofValue tree.value rest) remarks := by
  induction derives generalizing rest with
  | number numeral =>
    rw [Tree.value]
    exact ⟨_, .number numeral rest⟩
  | @negated symbols tree _ inductionHypothesis =>
    obtain ⟨remarks, operand⟩ := inductionHypothesis ends
    rw [Tree.value, List.cons_append]
    cases value : tree.value with
    | error fault =>
      rw [value] at operand
      exact ⟨_, .raise rfl operand⟩
    | ok value' =>
      rw [value] at operand
      exact ⟨_, .negated operand⟩
  | @group symbols tree _ inductionHypothesis =>
    -- no operator stands at a closing parenthesis, so the sum within ends there
    have closes : (Part.chain .sum).EndsAt (.right :: rest) := by
      intro operator next
      cases next
    obtain ⟨remarks, inner⟩ := inductionHypothesis closes
    rw [Tree.value, List.cons_append, List.append_assoc, List.singleton_append]
    cases value : tree.value with
    | error fault =>
      rw [value] at inner
      exact ⟨_, .raise rfl inner⟩
    | ok value' =>
      rw [value] at inner
      exact ⟨_, .group inner⟩
  | @chain level first tree steps _ operators _ headReads operandsRead =>
    obtain ⟨remarks, head⟩ := headReads (ends.before_steps operators)
    obtain ⟨more, tail⟩ := exists_reads_steps operators
      (fun step member rest ends => operandsRead step member ends) ends
    rw [Tree.value, List.append_assoc]
    -- reading stops at the first fault, which is the one that the tree has
    cases value : tree.value with
    | error fault =>
      rw [value] at head
      exact ⟨_, .raise rfl head⟩
    | ok start =>
      rw [value] at head
      cases values : valuesOf (steps.map Step.entry) with
      | error fault =>
        rw [values] at tail
        exact ⟨_, .chainRaise head tail⟩
      | ok operands =>
        rw [values] at tail
        have reads := Reads.chain head tail
        rw [foldOperators_eq] at reads
        exact ⟨_, reads⟩

/-! ## Whole texts -/

/-- Reading an expression and then the end comes to a certain end. -/
inductive ReadsAll (symbols : List Symbol) : Except Fault (Option Value) → List Remark → Prop
  /-- Nothing is left after an expression. -/
  | finish {value : Value} {remarks : List Remark}
      (reads : Reads (.part (.chain .sum)) symbols (.ok (some (value, []))) remarks) :
      ReadsAll symbols (.ok (some value)) remarks
  /-- Something is left after an expression. -/
  | unfinished {value : Value} {rest : List Symbol} {remarks : List Remark}
      (reads : Reads (.part (.chain .sum)) symbols (.ok (some (value, rest))) remarks)
      (more : Expectation.finish.meets rest = false) :
      ReadsAll symbols (.ok none) (remarks ++ [.missed .finish rest.length])
  /-- There is no expression. -/
  | miss {remarks : List Remark}
      (reads : Reads (.part (.chain .sum)) symbols (.ok none) remarks) :
      ReadsAll symbols (.ok none) remarks
  /-- A fault is raised on the way. -/
  | raise {fault : Fault} {remarks : List Remark}
      (reads : Reads (.part (.chain .sum)) symbols (.error fault) remarks) :
      ReadsAll symbols (.error fault) remarks

/-- Reading a whole text always comes to an end. -/
theorem exists_readsAll (symbols : List Symbol) :
    ∃ answer remarks, ReadsAll symbols answer remarks := by
  obtain ⟨reading, remarks, reads⟩ := exists_reads (.part (.chain .sum)) symbols
  match reading with
  | .error fault => exact ⟨_, _, .raise reads⟩
  | .ok none => exact ⟨_, _, .miss reads⟩
  | .ok (some (value, [])) => exact ⟨_, _, .finish reads⟩
  | .ok (some (value, symbol :: rest)) => exact ⟨_, _, .unfinished reads rfl⟩

/-- What is read as a whole is an expression, with the value of its tree. -/
theorem ReadsAll.sound {symbols : List Symbol} {value : Value} {remarks : List Remark}
    (reads : ReadsAll symbols (.ok (some value)) remarks) :
    ∃ tree, Derives (.chain .sum) symbols tree ∧ tree.value = .ok value := by
  cases reads with
  | finish reads =>
    obtain ⟨read, tree, rfl, derives, found⟩ := reads.sound rfl
    exact ⟨tree, by rwa [List.append_nil], found⟩

/-- An expression is read as a whole, with the value of its tree or the fault in its place. -/
theorem Derives.readsAll {symbols : List Symbol} {tree : Tree}
    (derives : Derives (.chain .sum) symbols tree) :
    ∃ remarks, ReadsAll symbols (tree.value.map some) remarks := by
  have ends : (Part.chain .sum).EndsAt [] := by
    intro operator next
    cases next
  obtain ⟨remarks, reads⟩ := derives.reads ends
  rw [List.append_nil] at reads
  cases value : tree.value with
  | error fault =>
    rw [value] at reads
    exact ⟨remarks, .raise reads⟩
  | ok found =>
    rw [value] at reads
    exact ⟨remarks, .finish reads⟩

/-! ## Places of remarks -/

/-- All remarks were made where at most so many symbols are left. -/
def AllWithin (bound : Nat) (remarks : List Remark) : Prop :=
  ∀ remark ∈ remarks, remark.left ≤ bound

/-- What was remarked within a bound was remarked within any higher one. -/
theorem AllWithin.mono {bound higher : Nat} {remarks : List Remark}
    (within : AllWithin bound remarks) (le : bound ≤ higher) : AllWithin higher remarks :=
  fun remark member => Nat.le_trans (within remark member) le

/-- Remarks within a bound stay so when more of them follow. -/
theorem AllWithin.append {bound : Nat} {remarks more : List Remark}
    (first : AllWithin bound remarks) (second : AllWithin bound more) :
    AllWithin bound (remarks ++ more) :=
  List.forall_mem_append.2 ⟨first, second⟩

/-- A remark within the bound may stand before others. -/
theorem AllWithin.cons {bound : Nat} {remark : Remark} {remarks : List Remark}
    (first : remark.left ≤ bound) (others : AllWithin bound remarks) :
    AllWithin bound (remark :: remarks) :=
  List.forall_mem_cons.2 ⟨first, others⟩

/-- Without remarks there is nothing to bound. -/
theorem allWithin_nil (bound : Nat) : AllWithin bound [] := by
  intro remark member
  cases member

/-- What is read first starts no further back than the goal itself, and so do the remarks before
it. -/
theorem Goal.first?_within {goal first : Goal} {symbols rest : List Symbol} {before : List Remark}
    (start : goal.first? symbols = some (first, rest, before)) :
    rest.length ≤ symbols.length ∧ AllWithin symbols.length before := by
  unfold Goal.first? at start
  split at start
  · cases start
    exact ⟨Nat.le_succ _, allWithin_nil _⟩
  · cases start
    exact ⟨Nat.le_succ _, .cons (Nat.le_refl _) (.cons (Nat.le_refl _) (allWithin_nil _))⟩
  · cases start
  · cases start
    exact ⟨Nat.le_refl _, allWithin_nil _⟩
  · split at start
    · cases start
      exact ⟨Nat.le_succ _, .cons (Nat.le_refl _) (allWithin_nil _)⟩
    · cases start
  · cases start

/-- Remarks are made at places of the symbols. -/
theorem Reads.allWithin {goal : Goal} {symbols : List Symbol} {reading : Reading}
    {remarks : List Remark} (reads : Reads goal symbols reading remarks) :
    AllWithin symbols.length remarks := by
  induction reads with
  | negated _ operand => exact operand.mono (Nat.le_succ _)
  | negatedMiss _ operand =>
    exact (operand.mono (Nat.le_succ _)).append
      (.cons (Nat.le_refl _) (.cons (Nat.le_refl _) (allWithin_nil _)))
  | number => exact .cons (Nat.le_refl _) (allWithin_nil _)
  | group _ inner =>
    exact .cons (Nat.le_refl _) (.cons (Nat.le_refl _) (inner.mono (Nat.le_succ _)))
  | groupOpen reads _ inner =>
    have less : _ ≤ _ := Nat.le_succ_of_le (Nat.le_of_lt reads.length_lt)
    exact .append (.cons (Nat.le_refl _) (.cons (Nat.le_refl _) (inner.mono (Nat.le_succ _))))
      (.cons less (allWithin_nil _))
  | groupMiss _ inner =>
    exact .cons (Nat.le_refl _) (.cons (Nat.le_refl _) (inner.mono (Nat.le_succ _)))
  | noOperand =>
    exact .cons (Nat.le_refl _) (.cons (Nat.le_refl _) (.cons (Nat.le_refl _) (allWithin_nil _)))
  | chain reads _ head tail => exact head.append (tail.mono (Nat.le_of_lt reads.length_lt))
  | chainMiss _ head => exact head
  | chainRaise reads _ head tail => exact head.append (tail.mono (Nat.le_of_lt reads.length_lt))
  | stepsEnd => exact .cons (Nat.le_refl _) (allWithin_nil _)
  | stepsMiss _ _ operand => exact .cons (Nat.le_refl _) (operand.mono (Nat.le_succ _))
  | stepsMore _ reads _ operand steps =>
    have less := Nat.le_succ_of_le (Nat.le_of_lt reads.length_lt)
    exact .append (.cons (Nat.le_refl _) (operand.mono (Nat.le_succ _))) (steps.mono less)
  | stepsRaise _ reads _ operand steps =>
    have less := Nat.le_succ_of_le (Nat.le_of_lt reads.length_lt)
    exact .append (.cons (Nat.le_refl _) (operand.mono (Nat.le_succ _))) (steps.mono less)
  | raise start _ inside =>
    obtain ⟨less, before⟩ := Goal.first?_within start
    exact before.append (inside.mono less)

/-- The remarks on a whole text are made at places of it, its end included. -/
theorem ReadsAll.allWithin {symbols : List Symbol} {answer : Except Fault (Option Value)}
    {remarks : List Remark} (reads : ReadsAll symbols answer remarks) :
    AllWithin symbols.length remarks := by
  cases reads with
  | finish reads => exact reads.allWithin
  | unfinished reads =>
    exact reads.allWithin.append (.cons (Nat.le_of_lt reads.length_lt) (allWithin_nil _))
  | miss reads => exact reads.allWithin
  | raise reads => exact reads.allWithin

/-! ## Faults of reading -/

/-- A reading made from a computation fails only where the computation does. -/
theorem NoFailure.ofValue {value : Except Fault Value} (computed : NoFailure value)
    (rest : List Symbol) : NoFailure (Reading.ofValue value rest) :=
  computed.map _

/-- The faults of reading are those of computations. -/
theorem Reads.noFailure {goal : Goal} {symbols : List Symbol} {reading : Reading}
    {remarks : List Remark} (reads : Reads goal symbols reading remarks) : NoFailure reading := by
  induction reads with
  | negated => exact (NoFailure.negate _).ofValue _
  | number numeral rest => exact (NoFailure.readNumber _).ofValue _
  | chain => exact (NoFailure.foldOperators _).ofValue _
  | chainRaise _ _ _ tail => exact tail
  | stepsRaise _ _ _ _ steps => exact steps
  | raise _ _ inside => exact inside
  | _ => exact NoFailure.ok _

/-- The faults of reading a whole text are those of computations; none of them is a failed parse. -/
theorem ReadsAll.noFailure {symbols : List Symbol} {answer : Except Fault (Option Value)}
    {remarks : List Remark} (reads : ReadsAll symbols answer remarks) : NoFailure answer := by
  cases reads with
  | raise reads =>
    intro failure same
    cases same
    exact reads.noFailure failure rfl
  | _ => exact NoFailure.ok _

end Peg.Calculator
