import Peg.Machine

/-! # Parsing

The ways to run a parser on an input: for a success or a failure with its diagnosis, for the bare
outcome, with a second parser to go on with, or without any context. Every function takes the
number of steps it may use and gives `none` if they do not suffice. -/

namespace Peg

/-- A successful parse. -/
structure Success where
  /-- The value. -/
  result : Value
  /-- The input after it. -/
  unconsumed : Value
  /-- The offset of the unconsumed input. -/
  position : Int

/-- Nothing is left of the input. -/
def Success.isComplete (success : Success) : Bool := success.unconsumed.length == 0

/-- What a parse gives: its answer, the events it reported in order, and the workspace after it. -/
structure Report (α : Type) where
  /-- The answer, or the fault that stopped the parse. -/
  answer : Except Fault α
  /-- The events, earliest first. -/
  events : List Event
  /-- The workspace after the parse. -/
  workspace : Workspace

/-- The report of a run that ended. -/
def Ending.report (ending : Ending) (finish : State → Outcome → Except Fault α) : Report α where
  answer := ending.answer.bind (finish ending.state)
  events := ending.state.events.reverse
  workspace := ending.state.workspace

/-- The state in which a parse starts. -/
def State.initial (workspace : Workspace) (input : Value) (tracer : Option Tracer) : State where
  workspace := workspace
  context := some { source := input, tracer := tracer }

/-- The success or the failure that an outcome means to the caller. -/
def State.conclude (state : State) : Outcome → Except Fault Success
  | .ok value rest =>
    match state.context with
    | some context => do
      let position ← Failure.positionIn context.source rest
      return ⟨value, rest, position⟩
    | none => .error .wrongKind
  | .fail payload rest =>
    match state.context with
    | some context => do throw (.parse (← context.failure payload rest))
    | none => .error .wrongKind

/-- Parses an input. -/
def parse (fuel : Nat) (workspace : Workspace) (parser : Parser) (input : Value)
    (tracer : Option Tracer := none) : Option (Report Success) :=
  (run fuel (.call parser input) [] (.initial workspace input tracer)).map
    (·.report State.conclude)

/-- Parses an input and gives the bare outcome. -/
def parseOutcome (fuel : Nat) (workspace : Workspace) (parser : Parser) (input : Value)
    (tracer : Option Tracer := none) : Option (Report Outcome) :=
  (run fuel (.call parser input) [] (.initial workspace input tracer)).map
    (·.report fun _ outcome => .ok outcome)

/-- Runs a parser without a context: nothing is recorded or traced. -/
def runOutcome (fuel : Nat) (workspace : Workspace) (parser : Parser) (input : Value) :
    Option (Report Outcome) :=
  (run fuel (.call parser input) [] ⟨workspace, none, []⟩).map
    (·.report fun _ outcome => .ok outcome)

/-- The value that reports an outcome. -/
def Outcome.toValue : Outcome → Value
  | .ok value rest => .tuple [.ofString "ok", value, rest]
  | .fail payload rest => .tuple [.ofString "fail", payload, rest]

/-- The value that reports the outcome of a second parser after a first one gave a value. -/
def Outcome.toSecondValue (first : Value) : Outcome → Value
  | .ok value rest => .tuple [.ofString "ok2", .list [first, value], rest]
  | .fail payload rest => .tuple [.ofString "fail2", .list [first, payload], rest]

/-- Parses an input and, after a match, goes on with a second parser in the same context. -/
def parseChain (fuel : Nat) (workspace : Workspace) (parser next : Parser) (input : Value)
    (tracer : Option Tracer := none) : Option (Report Value) := do
  let ending ← run fuel (.call parser input) [] (.initial workspace input tracer)
  match ending.answer with
  | .ok (.ok value rest) =>
    let later ← run fuel (.call next rest) [] ending.state
    return later.report fun _ outcome => .ok (outcome.toSecondValue value)
  | _ => return ending.report fun _ outcome => .ok outcome.toValue

/-! ## Parsing from a grammar -/

/-- The name of the rule to start from: the given one or, if none is given or it is empty, the
start rule of the grammar. -/
def Workspace.startOr (workspace : Workspace) : Option String → Except Fault String
  | none => workspace.startName
  | some name => if name.isEmpty then workspace.startName else .ok name

/-- The rule to start from, after a check of the grammar. -/
def startRule (start : Option String) : Edit Parser := do
  (← get).check
  let name ← (← get).startOr start
  return .rule (← Workspace.ruleCell name)

/-- Parses an input from the given rule of the grammar or from its start rule. -/
def parseFrom (fuel : Nat) (workspace : Workspace) (start : Option String) (input : Value)
    (tracer : Option Tracer := none) : Option (Report Success) :=
  match (startRule start).run.run workspace with
  | (.error fault, later) => some ⟨.error fault, [], later⟩
  | (.ok parser, later) => parse fuel later parser input tracer

/-! ## Ways to ask for an answer -/

/-- What is done with the outcome of a parse. -/
inductive Way where
  /-- A success or a failure with its diagnosis. -/
  | diagnosed
  /-- The bare outcome. -/
  | outcome
  /-- The bare outcome of a run without a context. -/
  | plain
  /-- Only one of the two final continuations: this is refused. -/
  | unpaired
  /-- The bare outcome, after going on with a second parser. -/
  | chain (next : Parser)

/-- What a parse answers. -/
inductive Answer where
  /-- A successful parse. -/
  | success (success : Success)
  /-- A value that reports an outcome. -/
  | value (value : Value)

/-- The report with its answer changed. -/
def Report.map (change : α → β) (report : Report α) : Report β :=
  ⟨change <$> report.answer, report.events, report.workspace⟩

/-- Runs a parser on an input in one of the ways. -/
def Way.run (way : Way) (fuel : Nat) (workspace : Workspace) (parser : Parser) (input : Value)
    (tracer : Option Tracer) : Option (Report Answer) :=
  match way with
  | .diagnosed => (parse fuel workspace parser input tracer).map (·.map .success)
  | .outcome =>
    (parseOutcome fuel workspace parser input tracer).map (·.map (.value ·.toValue))
  | .plain => (runOutcome fuel workspace parser input).map (·.map (.value ·.toValue))
  | .unpaired => some ⟨.error .unpairedContinuations, [], workspace⟩
  | .chain next => (parseChain fuel workspace parser next input tracer).map (·.map .value)

end Peg
