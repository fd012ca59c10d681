import Peg.Proofs.Calculator.Parens
import Peg.Proofs.Calculator.Tokenised

/-! # The small grammars answer

Whatever text it is given, each of the small grammars comes to an answer. A fault in the place of
the answer says what is wrong: it has a message.

* **`Computes`**: a computation with numbers comes to a number or to such a fault.
* **`Reads.computes`**: so does all that reading an expression computes.
* **`Answers`** is what this comes to for a parse. The calculators have it by `FrontEnd.answers`,
  nested parentheses by `parens_answer` and three numbers in a row by `triplet_answers`. -/

namespace Peg.Calculator

open Pattern

/-! ## Faults with a message -/

/-- The computation does not end with a fault that has no message. -/
abbrev HasMessage {α : Type} (result : Except Fault α) : Prop :=
  RaisesOnly (fun fault => fault.message?.isSome) result

namespace HasMessage

/-- A text that is no integer is told of with a message. -/
theorem toInteger (text : List Char) : HasMessage (Value.toInteger (.str text)) := by
  simp only [Value.toInteger, Value.readInteger]
  split
  · exact .ok _
  · exact .error rfl
  · exact .error rfl

/-- A value that cannot be written is told of with a message. -/
theorem write (value : Value) : HasMessage value.write := by
  unfold Value.write
  split
  · exact .ok _
  · exact .error rfl

end HasMessage

/-! ## Computations with numbers -/

/-- The value is a number. -/
def IsNumber (value : Value) : Prop := value.num?.isSome

/-- The computation comes to a number, or to a fault with a message. -/
inductive Computes : Except Fault Value → Prop
  /-- The value is a number. -/
  | number {value : Value} (isNumber : IsNumber value) : Computes (.ok value)
  /-- The fault has a message. -/
  | fault {fault : Fault} (message : fault.message?.isSome) : Computes (.error fault)

namespace Computes

/-- An operation on numbers comes to a number, and all its faults have messages. -/
theorem ofNum {result : Except Fault Num} (raises : RaisesOnly IsArithmetic result) :
    Computes (Num.toValue <$> result) := by
  cases result with
  | error fault => cases raises fault rfl <;> exact .fault rfl
  | ok number => cases number <;> exact .number rfl

/-- The negative of a number is a number, and so nothing is raised. -/
theorem negate {value : Value} (number : IsNumber value) : Computes value.negate := by
  obtain ⟨x, found⟩ := Option.isSome_iff_exists.1 number
  rw [Value.negate, found]
  cases x <;> exact .number rfl

/-- A numeral is converted to a number. -/
theorem readNumber (numeral : List Char) : Computes (readNumber (.str numeral)) := by
  rw [Calculator.readNumber]
  split
  · simp only [Value.toFloat, Value.readFloat]
    split
    · exact .number rfl
    · exact .fault rfl
  · simp only [Value.toInteger, Value.readInteger]
    split
    · exact .number rfl
    · exact .fault rfl
    · exact .fault rfl

/-- An operation on two numbers. -/
theorem apply (operator : Operator) {left right : Value} (first : IsNumber left)
    (second : IsNumber right) : Computes (operator.apply left right) := by
  obtain ⟨x, found⟩ := Option.isSome_iff_exists.1 first
  obtain ⟨y, foundToo⟩ := Option.isSome_iff_exists.1 second
  have both : Value.nums? left right = some (x, y) := by
    simp only [Value.nums?, found, foundToo]
  cases operator with
  | plus =>
    have sum : left.add right = Num.toValue <$> Num.combine (· + ·) (· + ·) x y := by
      cases left <;> cases found <;> cases right <;> cases foundToo <;> rfl
    rw [Operator.apply, sum]
    exact ofNum (combine_raisesOnly _ _ x y)
  | minus =>
    simp only [Operator.apply, Value.subtract, both]
    exact ofNum (combine_raisesOnly _ _ x y)
  | times =>
    simp only [Operator.apply, Value.multiply, both]
    exact ofNum (combine_raisesOnly _ _ x y)
  | divide =>
    simp only [Operator.apply, Value.divide, both]
    exact ofNum (divide_raisesOnly x y)

/-- Operators applied from left to right. -/
theorem foldOperators {start : Value} (number : IsNumber start) {operands : List (Operator × Value)}
    (numbers : ∀ step ∈ operands, IsNumber step.2) :
    Computes (Action.foldOperators (.list [start, .list (operands.map stepValue)])) := by
  rw [foldOperators_eq]
  induction operands generalizing start with
  | nil => exact .number number
  | cons step operands inductionHypothesis =>
    obtain ⟨head, tail⟩ := List.forall_mem_cons.1 numbers
    rw [List.foldlM_cons]
    have computes := apply step.1 number head
    generalize step.1.apply start step.2 = total at computes ⊢
    cases computes with
    | number isNumber => exact inductionHypothesis isNumber tail
    | fault message => exact .fault message

end Computes

/-! ## Reading -/

/-- What the value of a goal is made of: that of a part is a number, and the steps of a chain have
one as each operand. -/
def Goal.MadeOfNumbers : Goal → Value → Prop
  | .part _, value => IsNumber value
  | .steps _, value => ∃ operands : List (Operator × Value),
    value = .list (operands.map stepValue) ∧ ∀ step ∈ operands, IsNumber step.2

/-- What comes of reading a goal is made of numbers, or it is a fault with a message. -/
inductive Goal.Computes (goal : Goal) : Reading → Prop
  /-- A value is made of numbers. -/
  | found {value : Value} {rest : List Symbol} (numbers : goal.MadeOfNumbers value) :
      Computes goal (.ok (some (value, rest)))
  /-- There may be nothing. -/
  | nothing : Computes goal (.ok none)
  /-- A fault has a message. -/
  | fault {fault : Fault} (message : fault.message?.isSome) : Computes goal (.error fault)

/-- What a part computes may be handed on as what was read of it. -/
theorem Computes.ofValue {value : Except Fault Value} (computes : Computes value) (part : Part)
    (rest : List Symbol) : (Goal.part part).Computes (.ofValue value rest) := by
  cases computes with
  | number isNumber => exact .found isNumber
  | fault message => exact .fault message

/-- **What reading computes is made of numbers**, or it is a fault with a message. -/
theorem Reads.computes {goal : Goal} {symbols : List Symbol} {reading : Reading}
    {remarks : List Remark} (reads : Reads goal symbols reading remarks) :
    goal.Computes reading := by
  induction reads with
  | negated _ operand =>
    cases operand with
    | found number => exact (Computes.negate number).ofValue _ _
  | number numeral rest => exact (Computes.readNumber numeral).ofValue _ rest
  | group _ inner =>
    cases inner with
    | found number => exact .found number
  | chain _ _ head tail =>
    cases head with
    | found number =>
      cases tail with
      | found numbers =>
        obtain ⟨operands, rfl, numbers⟩ := numbers
        exact (Computes.foldOperators number numbers).ofValue _ _
  | chainRaise _ _ _ tail =>
    cases tail with
    | fault message => exact .fault message
  | stepsEnd => exact .found ⟨[], rfl, List.forall_mem_nil _⟩
  | stepsMiss => exact .found ⟨[], rfl, List.forall_mem_nil _⟩
  | @stepsMore _ operator _ _ _ value _ _ _ _ _ _ operand steps =>
    cases operand with
    | found number =>
      cases steps with
      | found numbers =>
        obtain ⟨operands, listed, numbers⟩ := numbers
        cases listed
        exact .found ⟨(operator, value) :: operands, rfl, List.forall_mem_cons.2 ⟨number, numbers⟩⟩
  | stepsRaise _ _ _ _ steps =>
    cases steps with
    | fault message => exact .fault message
  | raise _ _ inside =>
    cases inside with
    | fault message => exact .fault message
  | _ => exact .nothing

/-- The faults of reading a whole text have messages. -/
theorem ReadsAll.hasMessage {symbols : List Symbol} {answer : Except Fault (Option Value)}
    {remarks : List Remark} (reads : ReadsAll symbols answer remarks) : HasMessage answer := by
  cases reads with
  | raise reads =>
    cases reads.computes with
    | fault message => exact .error message
  | _ => exact .ok _

/-! ## Answers -/

/-- A parse with built-in parsers that comes to an answer, or to a fault with a message. -/
structure Answers (workspace : Workspace) (parser : Parser) (input : Value) : Prop where
  /-- The parser is built in. -/
  builtIn : parser.BuiltIn
  /-- The rules are built in. -/
  rules : workspace.BuiltIn
  /-- The input has a length. -/
  isSequence : input.isSequence
  /-- The parse ends. -/
  exists_report : ∃ fuel report, parse fuel workspace parser input none = some report
    ∧ HasMessage report.answer

/-- The rules of the calculator are built in if the terminals are. -/
theorem workspaceWith_builtIn {parser : Expectation → Parser}
    (builtIn : ∀ expectation, (parser expectation).BuiltIn) : (workspaceWith parser).BuiltIn := by
  have part (part : Part) : (partParser parser part).BuiltIn := by
    cases part with
    | unary =>
      refine .choice (.transform (.sequence (builtIn _) ?_) _ _) ?_
      · exact List.forall_mem_singleton.2 (.rule _)
      · exact List.forall_mem_singleton.2 (.rule _)
    | chain level =>
      refine .transform (.sequence (.rule _) (List.forall_mem_singleton.2 ?_)) _ _
      exact .star (.sequence (builtIn _) (List.forall_mem_singleton.2 (.rule _)))
  have group : (groupParser parser).BuiltIn :=
    .transform (.sequence (builtIn _) (List.forall_mem_cons.2 ⟨.rule _,
      List.forall_mem_singleton.2 (builtIn _)⟩)) _ _
  have factor : (factorParser parser).BuiltIn :=
    .choice (builtIn _) (List.forall_mem_singleton.2 group)
  have whole : (wholeParser parser).BuiltIn :=
    .transform (.sequence (.rule _) (List.forall_mem_singleton.2 (builtIn _))) _ _
  refine ⟨?_, by simp [workspaceWith]⟩
  simp only [workspaceWith, List.mem_toArray, List.forall_mem_cons]
  exact ⟨part _, whole, part _, part _, factor, List.forall_mem_nil _⟩

/-- **A calculator answers**, whichever way symbols are presented to it. -/
theorem FrontEnd.answers (front : FrontEnd)
    (builtIn : ∀ expectation, (front.parser expectation).BuiltIn) :
    Answers (workspaceWith front.parser) (.rule 1) front.source := by
  obtain ⟨answer, remarks, reads⟩ := exists_readsAll front.symbols
  obtain ⟨report, ⟨enough, ended⟩, conveys⟩ := front.exists_report reads
  refine ⟨.rule 1, workspaceWith_builtIn builtIn, front.isSequence, enough, report,
    ended enough (Nat.le_refl _), ?_⟩
  rcases answer with fault | (_ | value)
  · rw [show report.answer = .error fault from conveys]
    exact .error (reads.hasMessage fault rfl)
  · obtain ⟨failure, read, rest, answered, -⟩ := conveys
    rw [answered]
    exact .error rfl
  · obtain ⟨success, answered, -⟩ := conveys
    rw [answered]
    exact .ok success

/-- The calculator answers on every text that it reads without a lexer. -/
theorem text_answers (text : List Char) :
    Answers (workspaceWith textParser) (.rule 1) (.str text) := by
  refine (textFront text).answers fun expectation => ?_
  have after (leaf : Terminal) : (afterBlanks leaf).BuiltIn :=
    .sequence (.terminal _) (List.forall_mem_singleton.2 (.terminal leaf))
  cases expectation with
  | finish => exact after _
  | number => exact .transform (.transform (after _) _ _) _ _
  | _ => exact .transform (after _) _ _

/-- The calculator answers on the tokens of every text that can be cut into tokens. -/
theorem tokens_answer {text : List Char} {tokens : List Token} (cut : tokenize text = .ok tokens) :
    Answers (workspaceWith tokenParser) (.rule 1) (.tuple (tokens.map .token)) := by
  have cuts := tokenize_cuts text
  rw [cut] at cuts
  refine (tokenFront tokens _ (forall₂_isTokenFor cuts)).answers fun expectation => ?_
  have operator (first second : Char) : (operatorParser first second).BuiltIn :=
    .transform (.choice (.terminal _) (List.forall_mem_singleton.2 (.terminal _))) _ _
  rcases expectation with _ | (_ | _) | _ | _ | _ | _
  · exact .transform (.terminal _) _ _
  · exact operator _ _
  · exact operator _ _
  · exact .transform (.terminal _) _ _
  · exact .terminal _
  · exact .terminal _
  · exact .terminal _

/-- What holds of the answer may be weakened. -/
theorem ParensAnswers.imp {text : List Char} {kind other : Except Fault Success → Prop}
    (answers : ParensAnswers text kind) (weaker : ∀ answer, kind answer → other answer) :
    ParensAnswers text other := by
  obtain ⟨enough, report, ended, holds⟩ := answers
  exact ⟨enough, report, ended, weaker _ holds⟩

/-- The grammar of parentheses answers on every text. -/
theorem parens_answer (text : List Char) : Answers parensWorkspace (.rule 0) (.str text) := by
  have builtIn : parensParser.BuiltIn := by
    refine .transform (.sequence (.terminal _) ?_) _ _
    exact List.forall_mem_cons.2 ⟨.optional (.rule 0) _,
      List.forall_mem_singleton.2 (.terminal _)⟩
  have answered : ParensAnswers text HasMessage := by
    by_cases noneOpened : openings text = 0
    · refine (answers_of_no_opening noneOpened).imp ?_
      rintro _ ⟨failure, rfl, -⟩
      exact .error rfl
    · by_cases few : closings text < openings text
      · refine (answers_of_few few).imp ?_
        rintro _ ⟨failure, rfl, -⟩
        exact .error rfl
      · refine (answers_of_enough (Nat.one_le_iff_ne_zero.2 noneOpened) (Nat.not_lt.1 few)).imp ?_
        rintro _ ⟨success, rfl, -⟩
        exact .ok success
  obtain ⟨enough, report, ended, message⟩ := answered
  refine ⟨.rule 0, ⟨?_, by simp [parensWorkspace]⟩, rfl, enough, report, ?_, message⟩
  · simp only [parensWorkspace, List.mem_toArray, List.forall_mem_cons]
    exact ⟨builtIn, List.forall_mem_nil _⟩
  · rw [← parseParens_eq]
    exact ended enough (Nat.le_refl _)

/-! ## Three numbers in a row -/

/-- The parser of a row of digits, which are converted. -/
def integerParser : Parser :=
  .transform (.terminal (.token (.plain digitsPattern (.run digits 1 none true)))) "int"
    Value.toInteger

/-- The parser of three numbers with blanks between them. -/
def tripletParser : Parser :=
  .sequence integerParser
    [.terminal (.token blanks), integerParser, .terminal (.token blanks), integerParser]

/-- A parse of three numbers is a parse without any rules. -/
theorem parseTriplet_eq (fuel : Nat) (input : Value) (tracer : Option Tracer) :
    parseTriplet fuel input tracer = parse fuel {} tripletParser input tracer := by
  have built : triplet.build.run.run {} = (.ok tripletParser, {}) := rfl
  simp only [parseTriplet, built]

section Row

variable {text : List Char}

/-- On a part of a text the job matches and notes nothing, or it gives a text back and notes one
thing that can be written, or it raises a fault with a message. -/
inductive Settles (text given : List Char) (job : Job) : Prop
  /-- The job matches. -/
  | matched {value : Value} {later : List Char} (within : later <:+ text)
      (leads : Leads {} (.str text) job (.ok (.ok value (.str later))) []) : Settles text given job
  /-- The job fails. -/
  | missed {payload : Value} {offset : Nat} (bound : offset ≤ text.length)
      (writable : payload.isWritable)
      (leads : Leads {} (.str text) job (.ok (.fail payload (.str given))) [⟨payload, offset⟩]) :
      Settles text given job
  /-- The job raises a fault. -/
  | raised {fault : Fault} (message : fault.message?.isSome)
      (leads : Leads {} (.str text) job (.error fault) []) : Settles text given job

/-- A pattern that is held against a part of a text reads some of it, or it misses and notes
itself. -/
theorem leads_token (source : String) (regex : Regex) {chars : List Char}
    (within : chars <:+ text) :
    (∃ read later, later <:+ text
      ∧ Leads {} (.str text) (.call (.terminal (.token (.plain source regex))) (.str chars))
        (.ok (.ok (.str read) (.str later))) [])
    ∨ Leads {} (.str text) (.call (.terminal (.token (.plain source regex))) (.str chars))
        (.ok (.fail (.pattern (.plain source regex)) (.str chars)))
        [⟨.pattern (.plain source regex), text.length - chars.length⟩] := by
  have verdict := verdict_plain source regex chars
  cases found : (Pattern.plain source regex).matchLength? [] chars with
  | some length =>
    rw [found] at verdict
    exact .inl ⟨_, _, (List.drop_suffix _ _).trans within, Leads.matched verdict⟩
  | none =>
    rw [found] at verdict
    have place : (.str chars : Value) = (Value.str text).drop (text.length - chars.length) :=
      congrArg Value.str (List.suffix_iff_eq_drop.1 within)
    rw [place] at verdict ⊢
    exact .inr (Leads.missed rfl verdict)

/-- Blanks settle at once, and without them nothing is noted. -/
theorem settles_blanks {chars : List Char} (within : chars <:+ text) :
    Settles text chars (.call (.terminal (.token blanks)) (.str chars)) := by
  rcases leads_token _ _ within with ⟨read, later, behind, leads⟩ | leads
  · exact .matched behind leads
  · exact .missed (Nat.sub_le _ _) rfl leads

/-- The digits of a number are converted, unless there are too many of them. -/
theorem settles_integer {chars : List Char} (within : chars <:+ text) :
    Settles text chars (.call integerParser (.str chars)) := by
  rcases leads_token digitsPattern (.run digits 1 none true) within with
    ⟨read, later, behind, leads⟩ | leads
  · have converted : Leads {} (.str text) (.call integerParser (.str chars))
        ((Value.toInteger (.str read)).map fun result => .ok result (.str later)) [] :=
      Leads.transform leads
    cases result : Value.toInteger (.str read) with
    | error fault =>
      rw [result] at converted
      exact .raised (HasMessage.toInteger read fault result) converted
    | ok value =>
      rw [result] at converted
      exact .matched behind converted
  · exact .missed (Nat.sub_le _ _) rfl (Leads.transformFail leads)

/-- Parts that settle settle one after the other. By induction on the parts; all of them give back
what the first one was given. -/
theorem settles_all {parsers : List Parser} (entry : List Char)
    (parts : ∀ parser ∈ parsers, ∀ chars, chars <:+ text →
      Settles text chars (.call parser (.str chars)))
    {chars : List Char} (within : chars <:+ text) :
    Settles text entry (.all (.str entry) parsers (.str chars)) := by
  induction parsers generalizing chars with
  | nil => exact .matched within Leads.allNil
  | cons parser parsers inductionHypothesis =>
    obtain ⟨head, others⟩ := List.forall_mem_cons.1 parts
    cases head chars within with
    | missed bound writable leads => exact .missed bound writable (leads.of_first .allFail)
    | raised message leads => exact .raised message (Leads.raise rfl leads)
    | matched later leads =>
      cases inductionHypothesis others later with
      | missed bound writable tail =>
        exact .missed bound writable (leads.append tail .allFailLater)
      | raised message tail => exact .raised message (leads.append tail .allRaiseLater)
      | matched last tail =>
        obtain ⟨values, rfl⟩ := (tail none).all_eq_list
        exact .matched last (leads.append tail .allCons)

end Row

/-- The parser of three numbers answers on every text. -/
theorem triplet_answers (text : List Char) : Answers {} tripletParser (.str text) := by
  have integer : integerParser.BuiltIn := .transform (.terminal _) _ _
  have builtIn : tripletParser.BuiltIn := by
    refine .sequence integer ?_
    simp only [List.forall_mem_cons]
    exact ⟨.terminal _, integer, .terminal _, integer, List.forall_mem_nil _⟩
  have settles : Settles text text (.all (.str text) [integerParser, .terminal (.token blanks),
      integerParser, .terminal (.token blanks), integerParser] (.str text)) := by
    refine settles_all text ?_ List.suffix_rfl
    simp only [List.forall_mem_cons]
    exact ⟨fun _ => settles_integer, fun _ => settles_blanks, fun _ => settles_integer,
      fun _ => settles_blanks, fun _ => settles_integer, List.forall_mem_nil _⟩
  refine ⟨builtIn, ⟨by simp, by simp⟩, rfl, ?_⟩
  cases settles with
  | matched within leads =>
    obtain ⟨enough, ended⟩ := (Leads.sequence leads).exists_report
    exact ⟨enough, _, ended enough (Nat.le_refl _), .ok _⟩
  | @missed payload offset bound writable leads =>
    obtain ⟨enough, ended⟩ := (Leads.sequence leads).exists_report
    obtain ⟨failure, concluded, -⟩ := @exists_failure {} (.str text) payload rfl [] [] [payload]
      offset (List.cons_ne_nil _ _) bound (List.forall_mem_nil _) (List.forall_mem_nil _)
      (List.forall_mem_singleton.2 writable)
    refine ⟨enough, _, ended enough (Nat.le_refl _), ?_⟩
    intro fault same
    rw [← Except.error.inj (concluded.symm.trans same)]
    rfl
  | raised message leads =>
    obtain ⟨enough, ended⟩ := (Leads.sequence leads).exists_report
    exact ⟨enough, _, ended enough (Nat.le_refl _), .error message⟩

end Peg.Calculator
