import Peg.Proofs.Calculator.Impasse
import Peg.Proofs.QuietParse

/-! # Parsing symbols

The calculator has one grammar and several ways to present symbols to it: a text with blanks in it,
or a row of tokens. A `FrontEnd` is such a way: parsers for the terminals, what an input shows of
the symbols, and where in the input they stand. A parse through any front end does what reading the
symbols does.

* **`FrontEnd.gives`**: evaluating the rules of the grammar is reading.
* **`FrontEnd.exists_report`**: what a parse reports, in terms of the symbols: the value of the
  expression, the fault that stopped its computation, or the place where reading got stuck.
* **`FrontEnd.Reports.value_iff`**: values are reported of expressions only, and of all of them. -/

namespace Peg.Calculator

/-! ## The rules as parsers -/

/-- The cell of the rule for a part. -/
def Part.cell : Part → Nat
  | .chain .sum => 0
  | .chain .product => 2
  | .unary => 3

section Parsers

variable (parser : Expectation → Parser)

/-- An operator with the operand after it. -/
def stepParser (level : Level) : Parser :=
  .sequence (parser (.operators level)) [.rule level.operand.cell]

/-- A sign with the operand after it. -/
def signedParser : Parser :=
  .transform (.sequence (parser .minus) [.rule Part.unary.cell]) "<lambda>"
    fun value => do (← value.elementAt 1).negate

/-- An expression in parentheses. -/
def groupParser : Parser :=
  .transform (.sequence (parser .left) [.rule (Part.chain .sum).cell, parser .right]) "_second"
    (Value.elementAt 1)

/-- A number or an expression in parentheses. -/
def factorParser : Parser := .choice (parser .number) [groupParser parser]

/-- The parser of a part; the cell after that of the sign has the operands without one. -/
def partParser : Part → Parser
  | .unary => .choice (signedParser parser) [.rule (Part.unary.cell + 1)]
  | .chain level =>
    .transform (.sequence (.rule level.operand.cell) [.star (stepParser parser level)]) "_fold"
      Action.foldOperators

/-- An expression and the end after it. -/
def wholeParser : Parser :=
  .transform (.sequence (.rule (Part.chain .sum).cell) [parser .finish]) "<lambda>"
    (Value.elementAt 0)

/-- The workspace with the rules of the calculator. -/
def workspaceWith : Workspace where
  cells := #[⟨"expr", .resolved (partParser parser (.chain .sum)), 0⟩,
    ⟨"calc", .resolved (wholeParser parser), 0⟩,
    ⟨"term", .resolved (partParser parser (.chain .product)), 0⟩,
    ⟨"unary", .resolved (partParser parser .unary), 0⟩,
    ⟨"factor", .resolved (factorParser parser), 0⟩]
  grammar :=
    { rules := [("expr", 0), ("calc", 1), ("term", 2), ("unary", 3), ("factor", 4)]
      start := some "calc" }

variable {parser} in
/-- The rules are bound to these parsers if the terminals are. -/
theorem workspaceOf_rules {describe : Expectation → Description}
    (built : ∀ expectation workspace,
      Edit.outcome (describe expectation).build workspace = (.ok (parser expectation), workspace)) :
    workspaceOf (rules (describe .number) (describe (.operators .sum))
      (describe (.operators .product)) (describe .minus) (describe .left) (describe .right)
      (describe .finish)) = .ok (workspaceWith parser) := by
  have run : (Description.buildRules (rules (describe .number) (describe (.operators .sum))
      (describe (.operators .product)) (describe .minus) (describe .left) (describe .right)
      (describe .finish))).run.run {} = (.ok (), workspaceWith parser) := by
    change Edit.outcome _ {} = _
    simp only [rules, Description.buildRules, Description.build, Description.buildAll,
      Edit.outcome_bind, built, Workspace.ruleCell, Workspace.define, Workspace.bind,
      Workspace.addCell, Edit.outcome_get, Edit.outcome_modify, Edit.outcome_lift,
      Edit.outcome_pure]
    rfl
  rw [workspaceOf, run]

/-- The rule of each part is resolved to its parser, and nothing is built for it. -/
theorem resolve_part (part : Part) :
    (Workspace.resolve part.cell).run.run (workspaceWith parser)
      = (.ok (partParser parser part), workspaceWith parser) := by
  match part with
  | .unary => rfl
  | .chain .sum => rfl
  | .chain .product => rfl

/-- The grammar passes its check and starts with the whole expression. -/
theorem startRule_workspaceWith :
    (startRule none).run.run (workspaceWith parser) = (.ok (.rule 1), workspaceWith parser) := by
  have undefined : (workspaceWith parser).undefinedNames = [] := by
    have none : (workspaceWith parser).grammar.rules.filter
        (fun rule => !((workspaceWith parser).bindingOf rule.2).isDefined) = [] := rfl
    rw [Workspace.undefinedNames, none]
    exact List.mergeSort_nil
  have checked : (workspaceWith parser).check = .ok () := by
    rw [Workspace.check, undefined]
    rfl
  change Edit.outcome (startRule none) _ = _
  simp only [startRule, Edit.outcome_bind, Edit.outcome_get, Edit.outcome_lift, checked]
  rfl

/-- A parse from the start rule begins with an expression and the end after it. -/
theorem parseWith_eq {rules : List (String × Description)}
    (bound : workspaceOf rules = .ok (workspaceWith parser)) (fuel : Nat) (input : Value)
    (tracer : Option Tracer) :
    parseWith fuel rules none input tracer
      = parse fuel (workspaceWith parser) (.rule 1) input tracer := by
  simp only [parseWith, bound, startRule_workspaceWith]

end Parsers

/-! ## Front ends -/

/-- A way to present symbols to the grammar. -/
structure FrontEnd where
  /-- The whole input. -/
  source : Value
  /-- The symbols of the whole input. -/
  symbols : List Symbol
  /-- The parsers of the terminals. -/
  parser : Expectation → Parser
  /-- What an input shows of the symbols. -/
  Shows : Value → List Symbol → Prop
  /-- Where in the input a number of symbols is left. -/
  place : Nat → Nat
  /-- What is noted where a terminal does not stand. -/
  payloads : Expectation → List Value
  /-- What is noted where an operator stands after others were tried. -/
  passed : Operator → List Value
  /-- Something is noted for each terminal. -/
  payloads_ne_nil : ∀ expectation, payloads expectation ≠ []
  /-- What is noted can be written. -/
  writable : ∀ expectation, ∀ payload ∈ payloads expectation, payload.isWritable
  /-- The input has a length. -/
  isSequence : source.isSequence
  /-- The input shows all symbols. -/
  shows_source : Shows source symbols
  /-- Places are places of the input. -/
  place_le : ∀ left, place left ≤ source.length
  /-- The fewer symbols are left the farther is the place. -/
  place_lt : ∀ {less left : Nat}, less < left → left ≤ symbols.length → place left < place less
  /-- A numeral is found and converted. -/
  finds_number : ∀ {input : Value} {numeral : List Char} {rest : List Symbol},
    Shows input (.number numeral :: rest) → ∃ later, Shows later rest
      ∧ Leads (workspaceWith parser) source (.call (parser .number) input)
        ((readNumber (.str numeral)).map (.ok · later)) []
  /-- An operator of a chain is found. -/
  finds_operator : ∀ {input : Value} {operator : Operator} {rest : List Symbol},
    Shows input (.operator operator :: rest) → ∃ later, Shows later rest
      ∧ Leads (workspaceWith parser) source (.call (parser (.operators operator.level)) input)
        (.ok (.ok (.str [operator.char]) later))
        ((passed operator).map (⟨·, place (rest.length + 1)⟩))
  /-- Signs and parentheses are found. -/
  finds_mark : ∀ (expectation : Expectation) {input : Value} {symbol : Symbol}
    {rest : List Symbol}, expectation ∈ [.minus, .left, .right] → Shows input (symbol :: rest) →
    expectation.accepts symbol → ∃ value later, Shows later rest
      ∧ Leads (workspaceWith parser) source (.call (parser expectation) input)
        (.ok (.ok value later)) []
  /-- The end is found. -/
  finds_finish : ∀ {input : Value}, Shows input [] → ∃ value later, later.isSequence
    ∧ Leads (workspaceWith parser) source (.call (parser .finish) input) (.ok (.ok value later)) []
  /-- What does not stand there is missed. -/
  misses : ∀ {expectation : Expectation} {input : Value} {rest : List Symbol}, Shows input rest →
    expectation.meets rest = false → ∃ payload given,
      Leads (workspaceWith parser) source (.call (parser expectation) input)
        (.ok (.fail payload given)) ((payloads expectation).map (⟨·, place rest.length⟩))

/-- What comes of reading if a function is applied to the value. -/
def Reading.apply (function : Value → Except Fault Value) : Reading → Reading
  | .ok (some (value, rest)) => .ofValue (function value) rest
  | .ok none => .ok none
  | .error fault => .error fault

/-- Two functions that are applied one after the other are one that raises what either raises. -/
theorem Reading.apply_apply (first second : Value → Except Fault Value) (reading : Reading) :
    (reading.apply first).apply second = reading.apply fun value => first value >>= second := by
  match reading with
  | .error fault => rfl
  | .ok none => rfl
  | .ok (some (value, rest)) =>
    simp only [Reading.apply]
    cases first value <;> rfl

namespace FrontEnd

variable (front : FrontEnd)

/-- What a job leads to when it parses through the front end. -/
def Leads (job : Job) (answer : Except Fault Outcome) (notes : List Note) : Prop :=
  Peg.Leads (workspaceWith front.parser) front.source job answer notes

/-- The job ends like a reading: with a value in front of what shows the symbols that are left, with
a failure, or with a fault. -/
inductive Gives (job : Job) (notes : List Note) : Reading → Prop
  /-- A value is found. -/
  | found {value later : Value} {rest : List Symbol} (shown : front.Shows later rest)
      (leads : front.Leads job (.ok (.ok value later)) notes) :
      Gives job notes (.ok (some (value, rest)))
  /-- Nothing is found. -/
  | nothing {payload given : Value} (leads : front.Leads job (.ok (.fail payload given)) notes) :
      Gives job notes (.ok none)
  /-- A fault is raised. -/
  | fault {fault : Fault} (leads : front.Leads job (.error fault) notes) :
      Gives job notes (.error fault)

variable {front}

namespace Gives

variable {body first second third : Parser} {others : List Parser} {input : Value}
  {reading : Reading} {notes more : List Note}

/-- A transformed parser reads what its body reads, with the function applied. -/
theorem transform {name : String} {function : Value → Except Fault Value}
    (gives : front.Gives (.call body input) notes reading) :
    front.Gives (.call (.transform body name function) input) notes (reading.apply function) := by
  cases gives with
  | @found value later rest shown leads =>
    have applied : front.Leads (.call (.transform body name function) input) _ notes :=
      Leads.transform leads
    simp only [Reading.apply]
    cases result : function value with
    | error fault =>
      rw [result] at applied
      exact .fault applied
    | ok found =>
      rw [result] at applied
      exact .found shown applied
  | nothing leads => exact .nothing (Leads.transformFail leads)
  | fault leads => exact .fault (Leads.call (Leads.raise rfl leads))

/-- A rule reads what its body reads. -/
theorem rule {cell : Nat}
    (resolved : (Workspace.resolve cell).run.run (workspaceWith front.parser)
      = (.ok body, workspaceWith front.parser))
    (gives : front.Gives (.call body input) notes reading) :
    front.Gives (.call (.rule cell) input) notes reading := by
  cases gives with
  | found shown leads => exact .found shown (Leads.rule resolved leads)
  | nothing leads => exact .nothing (Leads.rule resolved leads)
  | fault leads => exact .fault (Leads.rule resolved leads)

/-- An alternative that does not fail decides a choice. -/
theorem anyFirst (gives : front.Gives (.call first input) notes reading)
    (decided : reading ≠ .ok none) : front.Gives (.any first others input) notes reading := by
  cases gives with
  | found shown leads => exact .found shown (leads.of_first .anyOk)
  | nothing => exact absurd rfl decided
  | fault leads => exact .fault (Leads.raise rfl leads)

/-- After an alternative that fails the others decide. -/
theorem anyNext (head : front.Gives (.call first input) notes (.ok none))
    (tail : front.Gives (.any second others input) more reading) :
    front.Gives (.any first (second :: others) input) (notes ++ more) reading := by
  cases head with
  | nothing leads =>
    cases tail with
    | found shown goesOn => exact .found shown (Leads.append leads goesOn .anyNext)
    | nothing goesOn => exact .nothing (Leads.append leads goesOn .anyNext)
    | fault goesOn => exact .fault (Leads.append leads goesOn .anyNext)

/-- The last alternative decides. -/
theorem anyLast (gives : front.Gives (.call first input) notes reading) :
    front.Gives (.any first [] input) notes reading := by
  cases gives with
  | found shown leads => exact .found shown (leads.of_first .anyOk)
  | nothing leads => exact .nothing (leads.of_first .anyLast)
  | fault leads => exact .fault (Leads.raise rfl leads)

/-- A choice reads what its alternatives read. -/
theorem choice (gives : front.Gives (.any first others input) notes reading) :
    front.Gives (.call (.choice first others) input) notes reading := by
  cases gives with
  | found shown leads => exact .found shown (Leads.choice leads)
  | nothing leads => exact .nothing (Leads.choice leads)
  | fault leads => exact .fault (Leads.choice leads)

/-- A sequence of two goes on with the second part after the first one. -/
theorem pair {value middle : Value}
    (head : front.Leads (.call first input) (.ok (.ok value middle)) notes)
    (tail : front.Gives (.call second middle) more reading) :
    front.Gives (.call (.sequence first [second]) input) (notes ++ more)
      (reading.apply fun result => .ok (.list [value, result])) := by
  cases tail with
  | @found result later _ shown leads =>
    have rest : front.Leads (.all input [second] middle) (.ok (.ok (.list [result]) later))
        (more ++ []) := Leads.append leads Leads.allNil .allCons
    rw [List.append_nil] at rest
    exact .found shown (Leads.sequence (Leads.append head rest .allCons))
  | nothing leads =>
    exact .nothing (Leads.sequence (Leads.append head (leads.of_first .allFail) .allFailLater))
  | fault leads =>
    exact .fault (Leads.sequence (Leads.append head (Leads.raise rfl leads) .allRaiseLater))

/-- A sequence fails with its first part. -/
theorem sequenceMiss (head : front.Gives (.call first input) notes (.ok none)) :
    front.Gives (.call (.sequence first others) input) notes (.ok none) := by
  cases head with
  | nothing leads => exact .nothing (Leads.sequence (leads.of_first .allFail))

/-- A fault in the first part of a sequence is one of the sequence. -/
theorem sequenceRaise {fault : Fault}
    (head : front.Gives (.call first input) notes (.error fault)) :
    front.Gives (.call (.sequence first others) input) notes (.error fault) := by
  cases head with
  | fault leads => exact .fault (Leads.sequence (Leads.raise rfl leads))

/-- A repetition reads what its rounds read. -/
theorem star (gives : front.Gives (.loop body input) notes reading) :
    front.Gives (.call (.star body) input) notes reading := by
  cases gives with
  | found shown leads => exact .found shown (Leads.star leads)
  | nothing leads => exact .nothing (Leads.star leads)
  | fault leads => exact .fault (Leads.star leads)

/-- A loop ends where a round fails. -/
theorem loopStop {rest : List Symbol} (shown : front.Shows input rest)
    (round : front.Gives (.call body input) notes (.ok none)) :
    front.Gives (.loop body input) notes (.ok (some (.list [], rest))) := by
  cases round with
  | nothing leads => exact .found shown (leads.of_first .loopStop)

/-- What is known to leave an input that shows the rest, if it ends well, is a reading. -/
theorem ofLeads {job : Job} {value : Except Fault Value} {later : Value} {rest : List Symbol}
    (shown : front.Shows later rest) (leads : front.Leads job (value.map (.ok · later)) notes) :
    front.Gives job notes (.ofValue value rest) := by
  cases value with
  | error fault => exact .fault leads
  | ok value => exact .found shown leads

end Gives

/-! ## Evaluation is reading -/

variable (front)

/-- What is noted for a remark. -/
def notes : Remark → List Note
  | .missed expectation left => (front.payloads expectation).map (⟨·, front.place left⟩)
  | .passed operator left => (front.passed operator).map (⟨·, front.place left⟩)

/-- The job that reads a goal. -/
def job : Goal → Value → Job
  | .part part, input => .call (.rule part.cell) input
  | .steps level, input => .loop (stepParser front.parser level) input

variable {front} {input : Value} {symbols rest : List Symbol} {reading : Reading}
  {notes more : List Note}

/-- A terminal that does not stand there is missed. -/
theorem gives_nothing {expectation : Expectation} (shown : front.Shows input symbols)
    (none : expectation.meets symbols = false) :
    front.Gives (.call (front.parser expectation) input)
      (front.notes (.missed expectation symbols.length)) (.ok .none) := by
  obtain ⟨payload, given, leads⟩ := front.misses shown none
  exact .nothing leads

/-- Where no minus stands a signed operand is missed. -/
theorem signed_nothing (shown : front.Shows input symbols)
    (none : Expectation.minus.meets symbols = false) :
    front.Gives (.call (signedParser front.parser) input)
      (front.notes (.missed .minus symbols.length)) (.ok .none) :=
  (gives_nothing shown none).sequenceMiss.transform

/-- After a sign the operand decides. -/
theorem signed_gives (shown : front.Shows input (.operator .minus :: rest))
    (operand : ∀ later, front.Shows later rest →
      front.Gives (front.job (.part .unary) later) notes reading) :
    front.Gives (.call (signedParser front.parser) input) notes
      (reading.apply Value.negate) := by
  obtain ⟨value, later, shownLater, leads⟩ := front.finds_mark .minus (by simp) shown rfl
  have gives : front.Gives (.call (signedParser front.parser) input) ([] ++ notes) _ :=
    (Gives.pair leads (operand later shownLater)).transform
  rw [Reading.apply_apply, List.nil_append] at gives
  exact gives

/-- What stands after a sign decides, unless it fails. -/
theorem unary_of_signed
    (signed : front.Gives (.call (signedParser front.parser) input) notes reading)
    (decided : reading ≠ .ok none) : front.Gives (front.job (.part .unary) input) notes reading :=
  (signed.anyFirst decided).choice.rule (resolve_part front.parser .unary)

/-- Without a sign an operand is a number or stands in parentheses. -/
theorem unary_of_factor
    (signed : front.Gives (.call (signedParser front.parser) input) notes (.ok none))
    (factor : front.Gives (.call (factorParser front.parser) input) more reading) :
    front.Gives (front.job (.part .unary) input) (notes ++ more) reading := by
  have resolved : (Workspace.resolve (Part.unary.cell + 1)).run.run (workspaceWith front.parser)
      = (.ok (factorParser front.parser), workspaceWith front.parser) := rfl
  exact (signed.anyNext (factor.rule resolved).anyLast).choice.rule
    (resolve_part front.parser .unary)

/-- What is no number is in parentheses. -/
theorem factor_of_group (shown : front.Shows input symbols)
    (none : Expectation.number.meets symbols = false)
    (group : front.Gives (.call (groupParser front.parser) input) notes reading) :
    front.Gives (.call (factorParser front.parser) input)
      (front.notes (.missed .number symbols.length) ++ notes) reading :=
  ((gives_nothing shown none).anyNext group.anyLast).choice

/-- Where no parenthesis is opened a group is missed. -/
theorem group_nothing (shown : front.Shows input symbols)
    (none : Expectation.left.meets symbols = false) :
    front.Gives (.call (groupParser front.parser) input)
      (front.notes (.missed .left symbols.length)) (.ok .none) :=
  (gives_nothing shown none).sequenceMiss.transform

/-- An expression in parentheses has its own value. -/
theorem group_closed {value : Value} {after : List Symbol}
    (shown : front.Shows input (.left :: rest))
    (inner : ∀ later, front.Shows later rest →
      front.Gives (front.job (.part (.chain .sum)) later) notes
        (.ok (some (value, .right :: after)))) :
    front.Gives (.call (groupParser front.parser) input) notes (.ok (some (value, after))) := by
  obtain ⟨mark, later, shownLater, opens⟩ := front.finds_mark .left (by simp) shown rfl
  cases inner later shownLater with
  | @found _ middle _ shownMiddle leads =>
    obtain ⟨second, last, shownLast, closes⟩ :=
      front.finds_mark .right (by simp) shownMiddle rfl
    have parts : front.Leads
        (.all input [.rule (Part.chain .sum).cell, front.parser .right] later)
        (.ok (.ok (.list [value, second]) last)) (notes ++ ([] ++ [])) :=
      Leads.append leads (Leads.append closes Leads.allNil .allCons) .allCons
    have whole := Leads.sequence (Leads.append opens parts .allCons)
    rw [List.append_nil, List.append_nil, List.nil_append] at whole
    exact (Gives.found shownLast whole).transform

/-- What comes after an opening parenthesis may stop the group. -/
theorem group_stopped (shown : front.Shows input (.left :: rest))
    (parts : ∀ later, front.Shows later rest → front.Gives
      (.all input [.rule (Part.chain .sum).cell, front.parser .right] later) notes reading)
    (stopped : ∀ value after, reading ≠ .ok (some (value, after))) :
    front.Gives (.call (groupParser front.parser) input) notes reading := by
  obtain ⟨mark, later, shownLater, opens⟩ := front.finds_mark .left (by simp) shown rfl
  cases parts later shownLater with
  | found => exact absurd rfl (stopped _ _)
  | nothing leads =>
    exact (Gives.nothing (Leads.sequence (Leads.append opens leads .allFailLater))).transform
  | fault leads =>
    exact (Gives.fault (Leads.sequence (Leads.append opens leads .allRaiseLater))).transform

/-- The operands of a chain. -/
theorem chain_gives {level : Level} {first : Value} {middle : List Symbol}
    (head : front.Gives (front.job (.part level.operand) input) notes (.ok (some (first, middle))))
    (tail : ∀ later, front.Shows later middle →
      front.Gives (front.job (.steps level) later) more reading) :
    front.Gives (front.job (.part (.chain level)) input) (notes ++ more)
      (reading.apply fun steps => Action.foldOperators (.list [first, steps])) := by
  cases head with
  | @found _ later _ shown leads =>
    have gives : front.Gives (.call (partParser front.parser (.chain level)) input)
        (notes ++ more) _ := (Gives.pair leads (tail later shown).star).transform
    rw [Reading.apply_apply] at gives
    exact gives.rule (resolve_part front.parser (.chain level))

/-- Where no operator of the level stands there is no further step of a chain. -/
theorem step_nothing {level : Level} (shown : front.Shows input symbols)
    (none : (Expectation.operators level).meets symbols = false) :
    front.Gives (.call (stepParser front.parser level) input)
      (front.notes (.missed (.operators level) symbols.length)) (.ok .none) :=
  (gives_nothing shown none).sequenceMiss

/-- An operator of a chain with the operand after it. -/
theorem step_gives {operator : Operator} (shown : front.Shows input (.operator operator :: rest))
    (operand : ∀ later, front.Shows later rest →
      front.Gives (front.job (.part operator.level.operand) later) notes reading) :
    front.Gives (.call (stepParser front.parser operator.level) input)
      (front.notes (.passed operator (rest.length + 1)) ++ notes)
      (reading.apply fun value => .ok (stepValue (operator, value))) := by
  obtain ⟨later, shownLater, leads⟩ := front.finds_operator shown
  exact Gives.pair leads (operand later shownLater)

/-- A loop goes on after a round. -/
theorem Gives.loopMore {body : Parser} {value : Value} {values : List Value}
    {middle after : List Symbol}
    (round : front.Gives (.call body input) notes (.ok (some (value, middle))))
    (rounds : ∀ later, front.Shows later middle →
      front.Gives (.loop body later) more (.ok (some (.list values, after)))) :
    front.Gives (.loop body input) (notes ++ more)
      (.ok (some (.list (value :: values), after))) := by
  cases round with
  | @found _ later _ shown leads =>
    cases rounds later shown with
    | found shownLast goesOn => exact .found shownLast (Leads.append leads goesOn .loopMore)

/-- A fault in a later round is one of the loop. -/
theorem Gives.loopRaise {body : Parser} {value : Value} {fault : Fault} {middle : List Symbol}
    (round : front.Gives (.call body input) notes (.ok (some (value, middle))))
    (rounds : ∀ later, front.Shows later middle →
      front.Gives (.loop body later) more (.error fault)) :
    front.Gives (.loop body input) (notes ++ more) (.error fault) := by
  cases round with
  | @found _ later _ shown leads =>
    cases rounds later shown with
    | fault goesOn => exact .fault (Leads.append leads goesOn .loopRaiseLater)

/-- A fault in a round stops a loop. -/
theorem Gives.loopStart {body : Parser} {fault : Fault}
    (round : front.Gives (.call body input) notes (.error fault)) :
    front.Gives (.loop body input) notes (.error fault) := by
  cases round with
  | fault leads => exact .fault (Leads.raise rfl leads)

/-- **Evaluating the rules of the grammar is reading.** By induction on the reading: each of its
rules is what the combinators of a rule of the grammar make of the parts. -/
theorem gives {goal : Goal} {remarks : List Remark} (reads : Reads goal symbols reading remarks)
    (shown : front.Shows input symbols) :
    front.Gives (front.job goal input) (remarks.flatMap front.notes) reading := by
  induction reads generalizing input with
  | negated _ operand =>
    exact unary_of_signed (signed_gives shown fun later => operand) (Reading.ofValue_ne_none _ _)
  | negatedMiss _ operand =>
    have factor := factor_of_group shown rfl (group_nothing shown rfl)
    have whole := unary_of_factor (signed_gives shown fun later => operand) factor
    simpa [List.flatMap_append] using whole
  | number numeral rest =>
    obtain ⟨later, shownLater, leads⟩ := front.finds_number shown
    have factor : front.Gives (.call (factorParser front.parser) input) [] _ :=
      ((Gives.ofLeads shownLater leads).anyFirst (Reading.ofValue_ne_none _ _)).choice
    have whole := unary_of_factor (signed_nothing shown rfl) factor
    simpa using whole
  | group _ inner =>
    have factor := factor_of_group shown rfl (group_closed shown fun later => inner)
    have whole := unary_of_factor (signed_nothing shown rfl) factor
    simpa using whole
  | @groupOpen rest after value remarks _ unclosed inner =>
    have group : front.Gives (.call (groupParser front.parser) input)
        (remarks.flatMap front.notes ++ front.notes (.missed .right after.length)) (.ok none) := by
      -- the inside is found, and then its closing parenthesis is missing
      refine group_stopped shown (fun later shownLater => ?_) (by simp)
      cases inner shownLater with
      | found shownAfter leads =>
        cases gives_nothing shownAfter unclosed with
        | nothing misses =>
          exact .nothing (Leads.append leads (misses.of_first .allFail) .allFailLater)
    have factor := factor_of_group shown rfl group
    have whole := unary_of_factor (signed_nothing shown rfl) factor
    simpa [List.flatMap_append] using whole
  | @groupMiss rest remarks _ inner =>
    have group : front.Gives (.call (groupParser front.parser) input)
        (remarks.flatMap front.notes) (.ok none) := by
      refine group_stopped shown (fun later shownLater => ?_) (by simp)
      cases inner shownLater with
      | nothing leads => exact .nothing (leads.of_first .allFail)
    have factor := factor_of_group shown rfl group
    have whole := unary_of_factor (signed_nothing shown rfl) factor
    simpa using whole
  | noOperand noMinus noNumber noLeft =>
    have factor := factor_of_group shown noNumber (group_nothing shown noLeft)
    have whole := unary_of_factor (signed_nothing shown noMinus) factor
    simpa using whole
  | chain _ _ head tail =>
    rw [List.flatMap_append]
    exact chain_gives (head shown) fun later => tail
  | chainMiss _ head =>
    exact Gives.rule (resolve_part front.parser _) (head shown).sequenceMiss.transform
  | chainRaise _ _ head tail =>
    rw [List.flatMap_append]
    exact chain_gives (head shown) fun later => tail
  | stepsEnd noOperator =>
    rw [List.flatMap_singleton]
    exact Gives.loopStop shown (step_nothing shown noOperator)
  | stepsMiss same _ operand =>
    subst same
    exact Gives.loopStop shown (step_gives shown fun later => operand)
  | stepsMore same _ _ operand steps =>
    subst same
    rw [List.flatMap_append]
    exact Gives.loopMore (step_gives shown fun later => operand) fun later => steps
  | stepsRaise same _ _ operand steps =>
    subst same
    rw [List.flatMap_append]
    exact Gives.loopRaise (step_gives shown fun later => operand) fun later => steps
  | @raise goal first symbols rest fault before remarks start _ inside =>
    rw [List.flatMap_append]
    -- what is read first raises the fault, and the goal tells what that is
    unfold Goal.first? at start
    split at start
    · cases start
      exact unary_of_signed (signed_gives shown fun later => inside) (by simp)
    · cases start
      have group : front.Gives (.call (groupParser front.parser) input)
          (remarks.flatMap front.notes) (.error fault) := by
        refine group_stopped shown (fun later shownLater => ?_) (by simp)
        cases inside shownLater with
        | fault leads => exact .fault (Leads.raise rfl leads)
      have factor := factor_of_group shown rfl group
      have whole := unary_of_factor (signed_nothing shown rfl) factor
      simpa using whole
    · cases start
    · cases start
      exact Gives.rule (resolve_part front.parser _) (inside shown).sequenceRaise.transform
    · split at start
      · rename_i same
        cases start
        subst same
        rw [List.flatMap_singleton]
        exact (step_gives shown fun later => inside).loopStart
      · cases start
    · cases start

/-! ## What a parse reports -/

section Whole

variable {remarks : List Remark}

/-- The rule of the whole expression is resolved to its parser. -/
theorem resolve_whole : (Workspace.resolve 1).run.run (workspaceWith front.parser)
    = (.ok (wholeParser front.parser), workspaceWith front.parser) := rfl

/-- Where a value is read of all symbols the parse matches with it. -/
theorem leads_value {value : Value}
    (reads : ReadsAll front.symbols (.ok (some value)) remarks) :
    ∃ rest, rest.isSequence ∧ front.Leads (.call (.rule 1) front.source) (.ok (.ok value rest))
      (remarks.flatMap front.notes) := by
  cases reads with
  | finish reads =>
    cases gives reads front.shows_source with
    | found shown leads =>
      obtain ⟨last, rest, sequence, finishes⟩ := front.finds_finish shown
      have parts : front.Leads
          (.all front.source [.rule (Part.chain .sum).cell, front.parser .finish] front.source)
          (.ok (.ok (.list [value, last]) rest)) (remarks.flatMap front.notes ++ ([] ++ [])) :=
        Leads.append leads (Leads.append finishes Leads.allNil .allCons) .allCons
      rw [List.append_nil, List.append_nil] at parts
      exact ⟨rest, sequence, Leads.rule resolve_whole (Leads.transform (Leads.sequence parts))⟩

/-- Where nothing is read of all symbols the parse fails on its whole input. -/
theorem leads_nothing (reads : ReadsAll front.symbols (.ok none) remarks) :
    ∃ payload, front.Leads (.call (.rule 1) front.source) (.ok (.fail payload front.source))
      (remarks.flatMap front.notes) := by
  cases reads with
  | unfinished reads more =>
    cases gives reads front.shows_source with
    | found shown leads =>
      cases gives_nothing shown more with
      | @nothing payload given misses =>
        have parts : front.Leads
            (.all front.source [.rule (Part.chain .sum).cell, front.parser .finish] front.source)
            (.ok (.fail payload front.source)) _ :=
          Leads.append leads (misses.of_first .allFail) .allFailLater
        rw [List.flatMap_append, List.flatMap_singleton]
        exact ⟨payload, Leads.rule resolve_whole (Leads.transformFail (Leads.sequence parts))⟩
  | miss reads =>
    cases gives reads front.shows_source with
    | @nothing payload given leads =>
      have parts : front.Leads
          (.all front.source [.rule (Part.chain .sum).cell, front.parser .finish] front.source)
          (.ok (.fail payload front.source)) _ := leads.of_first .allFail
      exact ⟨payload, Leads.rule resolve_whole (Leads.transformFail (Leads.sequence parts))⟩

/-- Where a fault is raised in reading the symbols the parse raises it. -/
theorem leads_fault {fault : Fault} (reads : ReadsAll front.symbols (.error fault) remarks) :
    front.Leads (.call (.rule 1) front.source) (.error fault)
      (remarks.flatMap front.notes) := by
  cases reads with
  | raise reads =>
    cases (gives reads front.shows_source).sequenceRaise.transform.rule resolve_whole with
    | fault leads => exact leads

/-- The notes for terminals that were looked for in vain at one place. -/
theorem flatMap_missedAt (left : Nat) (expectations : List Expectation) :
    (missedAt left expectations).flatMap front.notes
      = (expectations.flatMap front.payloads).map (⟨·, front.place left⟩) := by
  rw [missedAt, List.flatMap_map, List.map_flatMap]
  rfl

/-- Remarks on nearer places are noted at nearer places. -/
theorem notes_before {left : Nat} (before : AllBefore left remarks)
    (within : AllWithin front.symbols.length remarks) :
    ∀ note ∈ remarks.flatMap front.notes, note.position < front.place left := by
  intro note member
  obtain ⟨remark, listed, member⟩ := List.mem_flatMap.1 member
  have nearer : front.place remark.left < front.place left :=
    front.place_lt (before remark listed) (within remark listed)
  cases remark with
  | missed expectation place =>
    obtain ⟨payload, -, rfl⟩ := List.mem_map.1 member
    exact nearer
  | passed operator place =>
    obtain ⟨payload, -, rfl⟩ := List.mem_map.1 member
    exact nearer

/-- A parse of the whole input ends with the report, given enough steps. -/
def Reports (front : FrontEnd) (report : Report Success) : Prop :=
  ∃ enough, ∀ fuel ≥ enough,
    parse fuel (workspaceWith front.parser) (.rule 1) front.source none = some report

/-- What a parse reports is a report of the front end. -/
theorem Reports.of_parse {fuel : Nat} {report : Report Success}
    (reported : parse fuel (workspaceWith front.parser) (.rule 1) front.source none = some report) :
    front.Reports report :=
  ⟨fuel, fun _ le => parse_mono le reported⟩

/-- Parses of one input end with one report. -/
theorem Reports.unique {first second : Report Success} (reports : front.Reports first)
    (reportsToo : front.Reports second) : first = second := by
  obtain ⟨enough, all⟩ := reports
  obtain ⟨enoughToo, allToo⟩ := reportsToo
  have same := all (max enough enoughToo) (Nat.le_max_left _ _)
  rw [allToo (max enough enoughToo) (Nat.le_max_right _ _)] at same
  exact (Option.some.inj same).symm

/-- The failure is that of an impasse: it lies behind the longest start of an expression, and lists
everything that is expected there. -/
structure Impasse (front : FrontEnd) (failure : Failure) (read rest : List Symbol) : Prop where
  /-- The symbols are split. -/
  symbols_eq : front.symbols = read ++ rest
  /-- What comes first is the start of an expression. -/
  isStart : IsStart read
  /-- No longer start is one. -/
  longest : ∀ longer, longer <+: front.symbols → IsStart longer → longer.length ≤ read.length
  /-- The failure is where the rest begins. -/
  liesAt : failure.LiesAt front.source (front.place rest.length)
  /-- It lists what is expected. -/
  alternatives_eq :
    failure.alternatives = distinct ((expectedAfter read).flatMap front.payloads)

/-- The answer of a parse conveys what came of reading: the value, the impasse or the fault. -/
def Conveys (front : FrontEnd) (answer : Except Fault Success) : Except Fault (Option Value) → Prop
  | .ok (some value) => ∃ success, answer = .ok success ∧ success.result = value
  | .ok none => ∃ failure read rest, answer = .error (.parse failure)
    ∧ front.Impasse failure read rest
  | .error fault => answer = .error fault

/-- A value that is read is reported as it is. -/
theorem exists_report_of_value {value : Value}
    (reads : ReadsAll front.symbols (.ok (some value)) remarks) :
    ∃ report, front.Reports report ∧ front.Conveys report.answer (.ok (some value)) := by
  obtain ⟨rest, sequence, leads⟩ := leads_value reads
  have place : Failure.positionIn front.source rest
      = .ok ((front.source.length : Int) - rest.length) := by
    simp [Failure.positionIn, sequence, front.isSequence]
  refine ⟨_, leads.exists_report,
    ⟨value, rest, (front.source.length : Int) - rest.length⟩, ?_, rfl⟩
  simp only [Except.bind, State.conclude, State.quiet, place]
  rfl

/-- Where nothing is read a failure is reported. -/
theorem exists_report_of_nothing (reads : ReadsAll front.symbols (.ok none) remarks) :
    ∃ report, front.Reports report ∧ front.Conveys report.answer (.ok none) := by
  -- where reading got stuck everything expected was missed, and all else was missed before
  obtain ⟨left, stuck⟩ := reads.stuck
  obtain ⟨read, rest, early, late, whole, rfl, isStart, longest, rfl, before, after⟩ :=
    stuck.exists_longest
  obtain ⟨payload, leads⟩ := leads_nothing reads
  obtain ⟨⟨within, -⟩, withinToo⟩ : (AllWithin _ early ∧ _) ∧ AllWithin _ late := by
    have within := reads.allWithin
    rwa [AllWithin, List.forall_mem_append, List.forall_mem_append] at within
  rw [List.flatMap_append, List.flatMap_append, flatMap_missedAt] at leads
  have expected : (expectedAfter read).flatMap front.payloads ≠ [] := by
    intro none
    rw [List.flatMap_eq_nil_iff] at none
    obtain ⟨expectation, member⟩ := List.exists_mem_of_ne_nil _ (expectedAfter_ne_nil read)
    exact front.payloads_ne_nil expectation (none expectation member)
  have writable : ∀ payload ∈ (expectedAfter read).flatMap front.payloads,
      payload.isWritable := by
    intro payload member
    obtain ⟨expectation, -, listed⟩ := List.mem_flatMap.1 member
    exact front.writable expectation payload listed
  obtain ⟨failure, concluded, lies, listed⟩ := exists_failure (workspaceWith front.parser) payload
    front.isSequence expected (front.place_le rest.length) (notes_before before within)
    (notes_before after withinToo) writable
  exact ⟨_, leads.exists_report, failure, read, rest, concluded,
    ⟨whole, isStart, longest, lies, listed⟩⟩

/-- **A parse ends, and its report conveys what came of reading the symbols.** -/
theorem exists_report {answer : Except Fault (Option Value)}
    (reads : ReadsAll front.symbols answer remarks) :
    ∃ report, front.Reports report ∧ front.Conveys report.answer answer := by
  match answer with
  | .ok (some value) => exact exists_report_of_value reads
  | .ok none => exact exists_report_of_nothing reads
  | .error fault => exact ⟨_, (leads_fault reads).exists_report, rfl⟩

/-- Every report of a parse does. -/
theorem Reports.conveys {report : Report Success} (reports : front.Reports report)
    {answer : Except Fault (Option Value)} (reads : ReadsAll front.symbols answer remarks) :
    front.Conveys report.answer answer := by
  obtain ⟨other, reportsToo, conveys⟩ := exists_report reads
  rwa [reports.unique reportsToo]

end Whole

/-! ## Reports and expressions -/

variable {report : Report Success}

/-- **A value is reported** exactly if the symbols are an expression with this value. -/
theorem Reports.value_iff (reports : front.Reports report) {value : Value} :
    (∃ success, report.answer = .ok success ∧ success.result = value)
      ↔ ∃ tree, Derives (.chain .sum) front.symbols tree ∧ tree.value = .ok value := by
  constructor
  · rintro ⟨success, answered, rfl⟩
    obtain ⟨answer, remarks, reads⟩ := exists_readsAll front.symbols
    have conveys := reports.conveys reads
    rw [answered] at conveys
    match answer with
    | .error fault => cases conveys
    | .ok none =>
      obtain ⟨failure, read, rest, refused, -⟩ := conveys
      cases refused
    | .ok (some value) =>
      obtain ⟨_, same, rfl⟩ := conveys
      cases same
      exact reads.sound
  · rintro ⟨tree, derives, computed⟩
    obtain ⟨remarks, reads⟩ := derives.readsAll
    rw [computed] at reads
    exact reports.conveys reads

/-- **A fault in the value of an expression is reported.** -/
theorem Reports.fault_eq (reports : front.Reports report) {tree : Tree} {fault : Fault}
    (derives : Derives (.chain .sum) front.symbols tree) (raised : tree.value = .error fault) :
    report.answer = .error fault := by
  obtain ⟨remarks, reads⟩ := derives.readsAll
  rw [raised] at reads
  exact reports.conveys reads

/-- **A failure is reported** only at an impasse. -/
theorem Reports.exists_impasse (reports : front.Reports report) {failure : Failure}
    (failed : report.answer = .error (.parse failure)) :
    ∃ read rest, front.Impasse failure read rest := by
  obtain ⟨answer, remarks, reads⟩ := exists_readsAll front.symbols
  have conveys := reports.conveys reads
  rw [failed] at conveys
  match answer with
  | .error fault =>
    cases conveys
    exact absurd rfl (reads.noFailure failure)
  | .ok none =>
    obtain ⟨_, read, rest, same, impasse⟩ := conveys
    cases same
    exact ⟨read, rest, impasse⟩
  | .ok (some value) =>
    obtain ⟨success, answered, -⟩ := conveys
    cases answered

end FrontEnd

end Peg.Calculator
