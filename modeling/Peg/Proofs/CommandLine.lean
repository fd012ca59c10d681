import Peg.CommandLine
import Peg.Proofs.Calculator.Answers
import Peg.Proofs.Retracing

/-! # How commands end

A command makes one parse of its text and prints what comes of it. Every parse of it ends, with and
without a trace, so that the command ends: it prints a result, or it reports a fault. Two things
stand outside of this order, and both come from integers that are too long to be written.

* **`commands_end`**: a fault escapes exactly if a calculator without a trace comes to such an
  integer, since the result is written after the faults of the command have been caught.
* **`trace_changes_only_errors`**: a trace changes the error output and nothing else if all that the
  parsers report can be written. If something cannot, the command fails where it would go on without
  a trace. -/

namespace Peg.CommandLine

open Calculator (HasMessage Tree IsSentence Spells Derives Symbol)

/-! ## The parse of a command -/

/-- The parse that a command makes of a text. -/
def Command.parsed (command : Command) (fuel : Nat) (text : List Char) (tracer : Option Tracer) :
    Option (Report Success) :=
  match command.name with
  | .calc =>
    if command.tokens then
      match Calculator.tokenize text with
      | .error fault => some (Calculator.faultReport fault)
      | .ok tokens => Calculator.parseTokens fuel tokens none tracer
    else Calculator.parseText fuel (.str text) none tracer
  | .triplet => Calculator.parseTriplet fuel (.str text) tracer
  | .parens => Calculator.parseParens fuel (.str text) none tracer

/-- What a command makes of a success. -/
def Command.result (command : Command) (success : Success) : Except Fault Value :=
  match command.name with
  | .calc => .ok success.result
  | .triplet => do return .ofString ((← success.result.write) ++ (← unconsumedNote success))
  | .parens => do
    return .ofString ("depth=" ++ (← success.result.write) ++ (← unconsumedNote success))

namespace Command

variable (command : Command) (text : List Char)

/-- **A command finishes its parse.** -/
theorem exists_evaluate : ∃ before, ∀ fuel, command.evaluate fuel (some text)
    = finish before (command.parsed fuel text command.tracer?) command.result := by
  obtain ⟨name, origin, debug, tokens⟩ := command
  cases name with
  | triplet => exact ⟨"", fun _ => rfl⟩
  | parens => exact ⟨"", fun _ => rfl⟩
  | «calc» =>
    have result : Command.result ⟨.calc, origin, debug, tokens⟩
        = fun success => .ok success.result := rfl
    rw [result]
    cases tokens with
    | false =>
      refine ⟨"", fun fuel => ?_⟩
      simp only [evaluate, calculate, parsed, inputOf, Bool.false_eq_true, if_false]
    | true =>
      cases cut : Calculator.tokenize text with
      | error fault =>
        refine ⟨"", fun fuel => ?_⟩
        simp only [evaluate, calculate, parsed, Option.getD_some, cut, if_true]
        rfl
      | ok tokens =>
        refine ⟨debugLine ⟨.calc, origin, debug, true⟩ s!"tokens={tokens.length}", fun fuel => ?_⟩
        simp only [evaluate, calculate, parsed, Option.getD_some, cut, if_true]

/-- The result of a command that is no calculator is a text. -/
theorem isWritable_of_result (other : command.name ≠ .calc) {success : Success} {value : Value}
    (made : command.result success = .ok value) : value.isWritable := by
  obtain ⟨name, origin, debug, tokens⟩ := command
  cases name with
  | «calc» => exact absurd rfl other
  | triplet =>
    obtain ⟨first, -, made⟩ := exists_of_bind_eq_ok made
    obtain ⟨second, -, made⟩ := exists_of_bind_eq_ok made
    cases made
    rfl
  | parens =>
    obtain ⟨first, -, made⟩ := exists_of_bind_eq_ok made
    obtain ⟨second, -, made⟩ := exists_of_bind_eq_ok made
    cases made
    rfl

/-- What a command makes of a success may raise a fault, but only one with a message. -/
theorem result_hasMessage (success : Success) : HasMessage (command.result success) := by
  have note : HasMessage (unconsumedNote success) :=
    (HasMessage.write _).bind fun _ => .ok _
  obtain ⟨name, origin, debug, tokens⟩ := command
  cases name with
  | «calc» => exact .ok _
  | triplet => exact (HasMessage.write _).bind fun _ => note.bind fun _ => .ok _
  | parens => exact (HasMessage.write _).bind fun _ => note.bind fun _ => .ok _

/-- The parse of a command answers, or the text has no tokens. -/
theorem parsed_cases :
    (∃ workspace parser input, Calculator.Answers workspace parser input
      ∧ ∀ fuel tracer, command.parsed fuel text tracer = parse fuel workspace parser input tracer)
    ∨ ∃ fault, fault.message?.isSome
      ∧ ∀ fuel tracer, command.parsed fuel text tracer = some (Calculator.faultReport fault) := by
  obtain ⟨name, origin, debug, tokens⟩ := command
  cases name with
  | triplet =>
    exact .inl ⟨_, _, _, Calculator.triplet_answers text, fun fuel tracer =>
      Calculator.parseTriplet_eq fuel _ tracer⟩
  | parens =>
    exact .inl ⟨_, _, _, Calculator.parens_answer text, fun fuel tracer =>
      Calculator.parseParens_eq fuel _ tracer⟩
  | «calc» =>
    cases tokens with
    | false =>
      refine .inl ⟨_, _, _, Calculator.text_answers text, fun fuel tracer => ?_⟩
      simp only [parsed, Bool.false_eq_true, if_false]
      exact Calculator.parseText_eq fuel text tracer
    | true =>
      have cuts := Calculator.tokenize_cuts text
      cases cut : Calculator.tokenize text with
      | error fault =>
        rw [cut] at cuts
        obtain ⟨-, offset, line, column, rfl⟩ := cuts
        refine .inr ⟨.unexpectedChar text offset line column, rfl, fun fuel tracer => ?_⟩
        simp only [parsed, cut, if_true]
      | ok tokens =>
        refine .inl ⟨_, _, _, Calculator.tokens_answer cut, fun fuel tracer => ?_⟩
        simp only [parsed, cut, if_true]
        exact Calculator.parseTokens_eq fuel tokens tracer

end Command

/-- The reports of the parse of a command: without a tracer, with one that records everything, and
with the one that prints. -/
structure Command.Reports (command : Command) (text : List Char)
    (plain recorded printed : Report Success) : Prop where
  /-- Given enough steps, the parses end with these reports. -/
  ends : ∃ enough, ∀ fuel ≥ enough, command.parsed fuel text none = some plain
    ∧ command.parsed fuel text (some .recording) = some recorded
    ∧ command.parsed fuel text (some .printing) = some printed
  /-- A fault has a message. -/
  hasMessage : HasMessage plain.answer
  /-- The printed parse answers like the plain one if all events can be printed. -/
  printed_answer : printed.answer
    = if recorded.events.all Event.isPrintable then plain.answer else .error .integerUnwritable
  /-- If all events can be printed the value can be. -/
  isWritable : recorded.events.all Event.isPrintable → ∀ success, plain.answer = .ok success →
    success.result.isWritable

/-- **Every parse of a command ends.** -/
theorem Command.exists_reports (command : Command) (text : List Char) :
    ∃ plain recorded printed, command.Reports text plain recorded printed := by
  rcases command.parsed_cases text with
    ⟨workspace, parser, input, ⟨builtIn, rules, isSequence, fuel, plain, ended, message⟩, same⟩
      | ⟨fault, message, same⟩
  · obtain ⟨enough, recorded, printed, traced, -, -, answer, writable⟩ :=
      exists_traces builtIn rules isSequence ended
    refine ⟨plain, recorded, printed, ⟨max fuel enough, fun more le => ?_⟩, message, answer,
      writable⟩
    obtain ⟨records, prints⟩ := traced more ((Nat.le_max_right _ _).trans le)
    rw [same, same, same]
    exact ⟨parse_mono ((Nat.le_max_left _ _).trans le) ended, records, prints⟩
  · refine ⟨Calculator.faultReport fault, Calculator.faultReport fault,
      Calculator.faultReport fault, ⟨0, fun fuel _ => ⟨same _ _, same _ _, same _ _⟩⟩,
      .error message, rfl, ?_⟩
    intro _ success answered
    cases answered

/-! ## Ends -/

/-- A diagnostic that goes to the error output. -/
inductive IsDiagnostic : String → Prop
  /-- The parse failed. -/
  | parseError (failure : Failure) : IsDiagnostic s!"[PARSE ERROR]\n{failure.message}\n"
  /-- The text has no tokens, or the grammar is malformed. -/
  | syntaxError {fault : Fault} {message : String} (found : fault.message? = some message) :
      IsDiagnostic s!"[SYNTAX ERROR]\n{message}\n"
  /-- Anything else went wrong, which has a class and a message. -/
  | error {fault : Fault} {message : String} (found : fault.message? = some message) :
      IsDiagnostic s!"[ERROR] {fault.className} {message}\n"

/-- The report of a fault with a message is a diagnostic. -/
theorem isDiagnostic_report {fault : Fault} (message : fault.message?.isSome) :
    IsDiagnostic (CommandFault.failed fault).report := by
  obtain ⟨words, found⟩ := Option.isSome_iff_exists.1 message
  unfold CommandFault.report
  split
  · rename_i same
    cases same
  · exact .parseError _
  · rename_i same
    cases same
    rw [found]
    dsimp only [Option.getD_some]
    split
    · exact .syntaxError found
    · exact .syntaxError found
    · exact .error found

/-- How a command ends that has come to a result or to a fault. -/
def endOf (errors : String) : Except Fault Value → CommandEnd
  | .error fault => .returned 2 "" (errors ++ (CommandFault.failed fault).report)
  | .ok value =>
    if value.isWritable then .returned 0 (value.printed ++ "\n") errors
    else .escaped .integerUnwritable "" errors

/-- **A command ends with what comes of its parse.** -/
theorem Command.exists_execute (command : Command) (text : List Char) :
    ∃ before, ∀ readFile fuel report, command.origin.read readFile = .ok (some text) →
      command.parsed fuel text command.tracer? = some report →
      command.execute fuel readFile
        = endOf (before ++ eventLines "  " report.events) (report.answer.bind command.result) := by
  obtain ⟨before, evaluates⟩ := command.exists_evaluate text
  refine ⟨command.debugLine s!"input ready | chars={(inputOf (some text)).length}" ++ before, ?_⟩
  intro readFile fuel report read parsed
  rw [execute, read]
  simp only [evaluates, parsed, finish]
  cases report.answer.bind command.result with
  | error fault => simp only [endOf, String.append_assoc]
  | ok value => simp only [endOf, String.append_assoc]

/-- A command ends in one of three ways. -/
theorem endOf_cases (errors : String) {outcome : Except Fault Value}
    (message : HasMessage outcome) :
    (∃ value : Value, value.isWritable
      ∧ endOf errors outcome = .returned 0 (value.printed ++ "\n") errors)
    ∨ (∃ diagnostic, IsDiagnostic diagnostic
      ∧ endOf errors outcome = .returned 2 "" (errors ++ diagnostic))
    ∨ endOf errors outcome = .escaped .integerUnwritable "" errors := by
  cases outcome with
  | error fault => exact .inr (.inl ⟨_, isDiagnostic_report (message fault rfl), rfl⟩)
  | ok value =>
    rw [endOf]
    split
    · exact .inl ⟨value, ‹_›, rfl⟩
    · exact .inr (.inr rfl)

/-- A fault escapes exactly where a result cannot be written. -/
theorem escapes_iff (errors : String) (outcome : Except Fault Value) :
    (∃ fault output told, endOf errors outcome = .escaped fault output told)
      ↔ ∃ value, outcome = .ok value ∧ value.isWritable = false := by
  cases outcome with
  | error fault => simp [endOf]
  | ok value => cases writable : value.isWritable <;> simp [endOf, writable]

/-- If the result can be written, the code and the output do not depend on the errors. -/
theorem exists_endOf {outcome : Except Fault Value}
    (writable : ¬ ∃ value, outcome = .ok value ∧ value.isWritable = false) :
    ∃ code output, ∀ errors, ∃ told, endOf errors outcome = .returned code output told := by
  cases outcome with
  | error fault => exact ⟨2, "", fun errors => ⟨_, rfl⟩⟩
  | ok value =>
    have printable : value.isWritable := by
      by_contra unwritable
      exact writable ⟨value, rfl, Bool.eq_false_of_not_eq_true unwritable⟩
    exact ⟨0, value.printed ++ "\n", fun errors => ⟨errors, by rw [endOf, if_pos printable]⟩⟩

namespace Command.Reports

variable {command : Command} {text : List Char} {plain recorded printed : Report Success}

/-- A calculator computes the value of an expression, and only of an expression. -/
theorem value_iff (reports : command.Reports text plain recorded printed)
    (isCalc : command.name = .calc) (value : Value) :
    (∃ success, plain.answer = .ok success ∧ success.result = value)
      ↔ ∃ tree, IsSentence text tree ∧ tree.value = .ok value := by
  obtain ⟨enough, ends⟩ := reports.ends
  obtain ⟨ended, -, -⟩ := ends enough (Nat.le_refl _)
  obtain ⟨name, origin, debug, tokens⟩ := command
  cases isCalc
  simp only [Calculator.isSentence_iff]
  cases tokens with
  | false =>
    simp only [parsed, Bool.false_eq_true, if_false, Calculator.parseText_eq] at ended
    exact (@Calculator.FrontEnd.Reports.of_parse (Calculator.textFront text) _ _ ended).value_iff
  | true =>
    have cuts := Calculator.tokenize_cuts text
    cases cut : Calculator.tokenize text with
    | ok tokens =>
      rw [cut] at cuts
      simp only [parsed, cut, if_true, Calculator.parseTokens_eq] at ended
      exact (@Calculator.FrontEnd.Reports.of_parse (Calculator.tokenFront tokens _
        (Calculator.forall₂_isTokenFor cuts)) _ _ ended).value_iff
    | error fault =>
      -- there is no value, and a character without a token is in no expression
      rw [cut] at cuts
      simp only [parsed, cut, if_true] at ended
      cases ended
      obtain ⟨⟨piece, member, c, unknown⟩, -⟩ := cuts
      constructor
      · rintro ⟨success, answered, -⟩
        cases answered
      · rintro ⟨tree, derives, -⟩
        have known := Calculator.not_other_of_afterAll? (derives.afterAll? 0) _
          (List.mem_map_of_mem member)
        exact absurd unknown (known c)

/-- The report that the command makes its result of. -/
theorem exists_end (reports : command.Reports text plain recorded printed) :
    ∃ enough errors, ∀ fuel ≥ enough, ∀ readFile,
      command.origin.read readFile = .ok (some text) → command.execute fuel readFile
        = endOf errors ((if command.debug then printed else plain).answer.bind command.result) := by
  obtain ⟨before, executes⟩ := command.exists_execute text
  obtain ⟨enough, ends⟩ := reports.ends
  refine ⟨enough, _, fun fuel le readFile read => executes readFile fuel _ read ?_⟩
  obtain ⟨plainly, -, traced⟩ := ends fuel le
  rw [tracer?]
  cases command.debug with
  | false => exact plainly
  | true => exact traced

/-- The parse is the same whether a trace is shown or not. -/
theorem withDebug (reports : command.Reports text plain recorded printed) (debug : Bool) :
    { command with debug := debug }.Reports text plain recorded printed :=
  ⟨reports.ends, reports.hasMessage, reports.printed_answer, reports.isWritable⟩

/-- If the printed parse comes to a value, its value can be written. -/
theorem isWritable_of_printed (reports : command.Reports text plain recorded printed)
    {success : Success} (answered : printed.answer = .ok success) : success.result.isWritable := by
  rw [reports.printed_answer] at answered
  split at answered
  · exact reports.isWritable ‹_› success answered
  · cases answered

/-- A fault of the command has a message. -/
theorem outcome_hasMessage (reports : command.Reports text plain recorded printed) :
    HasMessage ((if command.debug then printed else plain).answer.bind command.result) := by
  have answer : HasMessage (if command.debug then printed else plain).answer := by
    split
    · rw [reports.printed_answer]
      split
      · exact reports.hasMessage
      · exact .error rfl
    · exact reports.hasMessage
  exact answer.bind fun success => command.result_hasMessage success

/-- The result of a command cannot be written exactly if it is that of a calculator without a trace
on an expression whose value cannot be written. -/
theorem unwritable_iff (reports : command.Reports text plain recorded printed) :
    (∃ value, (if command.debug then printed else plain).answer.bind command.result = .ok value
        ∧ value.isWritable = false)
      ↔ command.name = .calc ∧ command.debug = false ∧ ∃ tree value,
        IsSentence text tree ∧ tree.value = .ok value ∧ value.isWritable = false := by
  have calcResult (isCalc : command.name = .calc) (success : Success) :
      command.result success = .ok success.result := by
    simp only [result, isCalc]
  constructor
  · rintro ⟨value, made, unwritable⟩
    obtain ⟨success, answered, made⟩ := exists_of_bind_eq_ok made
    have isCalc : command.name = .calc := by
      by_contra other
      rw [command.isWritable_of_result other made] at unwritable
      cases unwritable
    rw [calcResult isCalc] at made
    cases made
    cases debug : command.debug with
    | true =>
      rw [debug, if_pos rfl] at answered
      rw [reports.isWritable_of_printed answered] at unwritable
      cases unwritable
    | false =>
      rw [debug, if_neg Bool.false_ne_true] at answered
      obtain ⟨tree, sentence, computed⟩ :=
        (reports.value_iff isCalc _).1 ⟨success, answered, rfl⟩
      exact ⟨isCalc, rfl, tree, _, sentence, computed, unwritable⟩
  · rintro ⟨isCalc, debug, tree, value, sentence, computed, unwritable⟩
    obtain ⟨success, answered, rfl⟩ := (reports.value_iff isCalc value).2 ⟨tree, sentence, computed⟩
    refine ⟨success.result, ?_, unwritable⟩
    rw [debug, if_neg Bool.false_ne_true, answered]
    exact calcResult isCalc success

end Command.Reports

/-! ## An integer that cannot be written -/

/-- A row of nines. -/
def nines (count : Nat) : List Char := List.replicate count '9'

/-- A row of nines is one less than a power of ten. -/
theorem ofDigits_nines (count : Nat) :
    Number.ofDigits (List.replicate count 9) + 1 = 10 ^ count := by
  induction count with
  | zero => rfl
  | succ count inductionHypothesis =>
    rw [List.replicate_succ', Number.ofDigits, List.foldl_append, ← Number.ofDigits, pow_succ,
      ← inductionHypothesis, List.foldl_cons, List.foldl_nil]
    omega

/-- A numeral without underscores has none in a wrong place. -/
theorem underscoresFit_nines (count : Nat) : Number.underscoresFit true (nines count) := by
  induction count with
  | zero => rfl
  | succ count inductionHypothesis => exact inductionHypothesis

/-- A row of nines is read as a number, if it is not too long. -/
theorem readInteger_nines {count : Nat} (some : 0 < count) (few : count ≤ Number.digitLimit) :
    Number.readInteger (nines count) = .ok (Number.ofDigits (List.replicate count 9) : Nat) := by
  obtain ⟨fewer, rfl⟩ := Nat.exists_eq_add_of_le' some
  have trimmed : Number.trimBlanks (nines (fewer + 1)) = nines (fewer + 1) := by
    have ink : (nines (fewer + 1)).dropWhile Text.isBlank = nines (fewer + 1) := rfl
    rw [Number.trimBlanks, ink, nines, List.reverse_replicate, ← nines, ink, nines,
      List.reverse_replicate]
  have row : (nines (fewer + 1)).takeWhile Number.isDigitOrUnderscore = nines (fewer + 1) := by
    refine List.takeWhile_eq_self_iff.2 fun c member => ?_
    rw [List.eq_of_mem_replicate member]
    rfl
  have fits : Number.underscoresFit false (nines (fewer + 1)) := underscoresFit_nines fewer
  have values : Number.digitValues (nines (fewer + 1)) = List.replicate (fewer + 1) 9 :=
    List.filterMap_replicate_of_some rfl
  have unsigned : Number.splitSign (nines (fewer + 1)) = (false, nines (fewer + 1)) := rfl
  simp only [Number.readInteger, trimmed, unsigned, row, fits, values, List.length_replicate,
    Nat.not_lt.2 few, Nat.lt_irrefl]
  simp

/-- The value of a row of nines is the number that it spells. -/
theorem value_nines {count : Nat} (some : 0 < count) (few : count ≤ Number.digitLimit) :
    (Tree.number (nines count)).value
      = .ok (.int (Number.ofDigits (List.replicate count 9) : Nat)) := by
  have noPoint : (nines count).contains '.' = false := by
    simp [nines]
  rw [Tree.value, noPoint, if_neg Bool.false_ne_true, Value.toInteger, Value.readInteger,
    readInteger_nines some few]

/-- Nine times a row of nines, as an expression. -/
def productTree (count : Nat) : Tree :=
  .chain (.chain (.number (nines count)) [(.times, .number (nines 1))]) []

/-- The product is a sentence, with the tree of a product. -/
theorem isSentence_product {count : Nat} (some : 0 < count) :
    IsSentence (nines count ++ ['*', '9']) (productTree count) := by
  have numeral {count : Nat} (some : 0 < count) :
      Symbol.IsSpelt (.number (nines count)) (nines count) := by
    refine .number (.whole ?_ fun c member => ?_)
    · rw [nines, ne_eq, List.replicate_eq_nil_iff]
      omega
    · rw [List.eq_of_mem_replicate member]
      decide
  have spells : Spells (nines count ++ ['*', '9'])
      [.number (nines count), .operator .times, .number (nines 1)] :=
    .symbol (numeral some) (.symbol (.operator .times) (.symbol (numeral Nat.one_pos) .finish))
  have product := @Derives.chain .product _ _ [⟨.times, _, _⟩] (.number (nines count))
    (List.forall_mem_singleton.2 rfl) (List.forall_mem_singleton.2 (.number (nines 1)))
  exact ⟨_, spells, @Derives.chain .sum _ _ [] product (List.forall_mem_nil _)
    (List.forall_mem_nil _)⟩

/-- The value of the product is nine times the row of nines, and computing it raises no fault,
however long it gets. -/
theorem value_product {count : Nat} (some : 0 < count) (few : count ≤ Number.digitLimit) :
    (productTree count).value
      = .ok (.int ((Number.ofDigits (List.replicate count 9) : Nat) * 9)) := by
  have nine := value_nines Nat.one_pos (Nat.le_trans some few)
  rw [productTree, Tree.value, Tree.value, value_nines some few]
  simp only [Calculator.valuesOf, nine]
  rfl

/-- Nine times the greatest integer that can be written cannot be written. -/
theorem isWritable_product : (Value.int
    ((Number.ofDigits (List.replicate Number.digitLimit 9) : Nat) * 9)).isWritable = false := by
  have power := ofDigits_nines Number.digitLimit
  have large : 10 ≤ 10 ^ Number.digitLimit := Nat.le_self_pow (by decide) 10
  generalize Number.ofDigits (List.replicate Number.digitLimit 9) = number at power ⊢
  have long : Nat.pow 10 Number.digitLimit ≤ number * 9 := by
    rw [Nat.pow_eq]
    omega
  simpa using isWritable_of_limit_le long

/-- A calculator on nine times the greatest integer that can be written. -/
def productCommand : Command where
  name := .calc
  origin := .text (some (nines Number.digitLimit ++ ['*', '9']))
  debug := false
  tokens := false

/-- Its value is one that cannot be written. -/
theorem productCommand_unwritable : productCommand.name = .calc ∧ productCommand.debug = false
    ∧ ∃ tree value, IsSentence (nines Number.digitLimit ++ ['*', '9']) tree
      ∧ tree.value = .ok value ∧ value.isWritable = false :=
  ⟨rfl, rfl, _, _, isSentence_product (by decide), value_product (by decide) (Nat.le_refl _),
    isWritable_product⟩

/-! ## Commands on any text -/

/-- **How commands end.** Whatever text it is given, a command ends, and if no fault escapes it ends
in order: it returns zero after one result was printed, or it returns two, nothing was printed and
a diagnostic was reported. A fault escapes exactly if the command is a calculator without a trace
and the text is an expression whose value cannot be written. -/
theorem commands_end (command : Command) (text : List Char)
    (origin : command.origin = .text (some text)) :
    ∃ enough ending, (∀ fuel ≥ enough, ∀ readFile, command.execute fuel readFile = ending)
      ∧ ((∃ value errors, value.isWritable
            ∧ ending = .returned 0 (Value.printed value ++ "\n") errors)
        ∨ (∃ before diagnostic, IsDiagnostic diagnostic
            ∧ ending = .returned 2 "" (before ++ diagnostic))
        ∨ ∃ errors, ending = .escaped .integerUnwritable "" errors)
      ∧ ((∃ fault output errors, ending = .escaped fault output errors)
        ↔ command.name = .calc ∧ command.debug = false ∧ ∃ tree value,
          IsSentence text tree ∧ tree.value = .ok value
            ∧ value.isWritable = false) := by
  obtain ⟨plain, recorded, printed, reports⟩ := command.exists_reports text
  obtain ⟨enough, errors, ends⟩ := reports.exists_end
  have read (readFile : List Char → Except ReadFault (List UInt8)) :
      command.origin.read readFile = .ok (some text) := by
    rw [origin]
    rfl
  refine ⟨enough, _, fun fuel le readFile => ends fuel le readFile (read readFile), ?_, ?_⟩
  · rcases endOf_cases errors reports.outcome_hasMessage with
      ⟨value, writable, same⟩ | ⟨diagnostic, isDiagnostic, same⟩ | same
    · exact .inl ⟨value, errors, writable, same⟩
    · exact .inr (.inl ⟨errors, diagnostic, isDiagnostic, same⟩)
    · exact .inr (.inr ⟨errors, same⟩)
  · rw [escapes_iff, reports.unwritable_iff]

/-- A calculator is given nine times the greatest integer that can be written, and a fault
escapes. -/
theorem unwritable_result_escapes : ∃ enough errors, ∀ fuel ≥ enough, ∀ readFile,
    productCommand.execute fuel readFile = .escaped .integerUnwritable "" errors := by
  obtain ⟨enough, ending, ends, ways, escapes⟩ := commands_end productCommand _ rfl
  obtain ⟨fault, output, told, same⟩ := escapes.2 productCommand_unwritable
  rcases ways with ⟨value, errors, -, other⟩ | ⟨before, diagnostic, -, other⟩ | ⟨errors, ended⟩
  · cases same.symm.trans other
  · cases same.symm.trans other
  · exact ⟨enough, errors, fun fuel le readFile => (ends fuel le readFile).trans ended⟩

/-- **A trace changes only the error output, as far as it can be printed.** Take a command that has
a text. Either all events of its parse can be printed: then it returns the same code and prints the
same with a trace and without one, and no fault escapes. Or there is an event with an integer that
cannot be written: then with a trace it returns two and prints nothing, because the tracer fails. -/
theorem trace_changes_only_errors (command : Command) (text : List Char) :
    ∃ enough recorded, ∀ fuel ≥ enough,
      command.parsed fuel text (some .recording) = some recorded
      ∧ ∀ readFile, command.origin.read readFile = .ok (some text) →
        (recorded.events.all Event.isPrintable → ∃ code output errors trace,
          { command with debug := false }.execute fuel readFile = .returned code output errors
            ∧ { command with debug := true }.execute fuel readFile = .returned code output trace)
        ∧ (recorded.events.all Event.isPrintable = false → ∃ trace,
          { command with debug := true }.execute fuel readFile
            = .returned 2 "" (trace ++ (CommandFault.failed .integerUnwritable).report)) := by
  obtain ⟨plain, recorded, printed, reports⟩ := command.exists_reports text
  obtain ⟨enough, ends⟩ := reports.ends
  obtain ⟨first, errors, plainly⟩ := (reports.withDebug false).exists_end
  obtain ⟨second, trace, traced⟩ := (reports.withDebug true).exists_end
  refine ⟨max enough (max first second), recorded, fun fuel le =>
    ⟨(ends fuel (by omega)).2.1, fun readFile read => ⟨fun all => ?_, fun some => ?_⟩⟩⟩
  · have writable : ¬ ∃ value, printed.answer.bind command.result = .ok value
        ∧ value.isWritable = false := by
      intro unwritable
      -- only without a trace can an unwritable value come as far as the output
      obtain ⟨-, debug, -⟩ := (reports.withDebug true).unwritable_iff.1 unwritable
      cases debug
    obtain ⟨code, output, ended⟩ := exists_endOf writable
    obtain ⟨told, same⟩ := ended errors
    obtain ⟨toldToo, sameToo⟩ := ended trace
    refine ⟨code, output, told, toldToo, ?_, ?_⟩
    · rw [plainly fuel (by omega) readFile read, ← same, reports.printed_answer, if_pos all]
      rfl
    · rw [traced fuel (by omega) readFile read, ← sameToo]
      rfl
  · refine ⟨trace, (traced fuel (by omega) readFile read).trans ?_⟩
    -- the tracer has refused an event, and the command returns what it raised
    rw [if_pos rfl, reports.printed_answer, some]
    rfl

/-- On nine times the greatest integer that can be written a trace makes a difference: without one a
fault escapes, and with one it is reported, since the tracer fails on the product before. -/
theorem unwritable_result_stops_trace : ∃ enough, ∀ fuel ≥ enough, ∀ readFile,
    (∃ fault output errors, productCommand.execute fuel readFile = .escaped fault output errors)
      ∧ ∃ trace, { productCommand with debug := true }.execute fuel readFile
        = .returned 2 "" (trace ++ (CommandFault.failed .integerUnwritable).report) := by
  obtain ⟨plain, _, printed, reports⟩ := productCommand.exists_reports _
  obtain ⟨first, errors, plainly⟩ := reports.exists_end
  obtain ⟨second, recorded, traced⟩ := trace_changes_only_errors productCommand
    (nines Number.digitLimit ++ ['*', '9'])
  have escapes := (escapes_iff errors _).2 (reports.unwritable_iff.2 productCommand_unwritable)
  obtain ⟨fault, output, told, escapes⟩ := escapes
  refine ⟨max first second, fun fuel le readFile => ?_⟩
  have escaped := (plainly fuel (by omega) readFile rfl).trans escapes
  obtain ⟨alike, stopped⟩ := (traced fuel (by omega)).2 readFile rfl
  refine ⟨⟨fault, output, told, escaped⟩, stopped ?_⟩
  -- if everything could be printed the command would return
  by_contra all
  obtain ⟨code, printed, errors, trace, returned, -⟩ := alike (Bool.eq_true_of_not_eq_false all)
  cases escaped.symm.trans returned

end Peg.CommandLine
