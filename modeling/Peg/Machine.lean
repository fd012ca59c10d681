import Peg.Record
import Peg.Workspace

/-! # The parsing machine

A parse runs as a machine whose pending work is a list of frames, so its depth is bounded by memory
alone. One step either calls a parser on an input or hands an outcome to the topmost frame. -/

namespace Peg

/-- What belongs to one parse: the whole input, the tracer, how many traced parsers are open, and
the record of failures. -/
structure Context where
  /-- The whole input. -/
  source : Value
  /-- The tracer, if the parse is traced. -/
  tracer : Option Tracer := none
  /-- How many traced parsers are open. -/
  depth : Nat := 0
  /-- The farthest failures so far. -/
  record : Record := none

/-- What a step can change. -/
structure State where
  /-- The rules and what terminals remember. -/
  workspace : Workspace
  /-- The context of the innermost parse; `none` for a run without one. -/
  context : Option Context
  /-- The events reported so far, latest first. -/
  events : List Event := []

/-- Pending work: what to do with the outcome of the parser that runs now. -/
inductive Frame where
  /-- Go on with the rest of a sequence; `done` holds the values so far, latest first. -/
  | sequence (entry : Value) (done : List Value) (others : List Parser)
  /-- Try the other alternatives. -/
  | choice (entry : Value) (others : List Parser)
  /-- Repeat; `rest` is where the current attempt started. -/
  | loop (body : Parser) (done : List Value) (rest : Value)
  /-- The first round of a repetition that needs one. -/
  | plus (body : Parser) (entry : Value)
  /-- Put a value in the place of a failure. -/
  | optional (absent entry : Value)
  /-- Give the input back. -/
  | ahead (entry : Value)
  /-- Turn the outcome round, and forget the failures of a body that failed. -/
  | notAhead (entry : Value) (saved : Option Record)
  /-- Apply a function. -/
  | transform (function : Value → Except Fault Value)
  /-- Parse the value with a second parser. -/
  | nest (inner : Parser) (form : NestedForm)
  /-- End a nested parse and go back to the context around it. -/
  | unnest (form : NestedForm) (outer : Option Context) (rest : Value)
  /-- Report the exit from a traced parser. -/
  | exit (label : String) (depth : Nat)

/-- What the machine does next. -/
inductive Control where
  /-- Call a parser. -/
  | call (parser : Parser) (input : Value)
  /-- Hand an outcome on. -/
  | answer (outcome : Outcome)

/-- The result of a step. -/
inductive Progress where
  /-- There is more to do. -/
  | next (control : Control) (stack : List Frame) (state : State)
  /-- The parse has an outcome. -/
  | finished (outcome : Outcome) (state : State)
  /-- A fault stopped the parse. -/
  | raised (fault : Fault) (state : State)

namespace State

/-- The tracer of the current context. -/
def tracer? (state : State) : Option Tracer := state.context.bind (·.tracer)

/-- Sets the number of open traced parsers. -/
def setDepth (state : State) (depth : Nat) : State :=
  { state with context := state.context.map fun context => { context with depth := depth } }

/-- Notes a failure in the record of the current context. A second failure on an input without a
length is a fault. -/
def note (state : State) (payload rest : Value) : Except Fault State :=
  match state.context, rest with
  | none, _ => .ok state
  | some _, .null => .ok state
  | some context, _ =>
    if context.record.isNone || rest.isSequence then
      .ok { state with context := some { context with record := context.record.note payload rest } }
    else .error .wrongKind

/-- The record of the current context. -/
def saveRecord (state : State) : Option Record := state.context.map (·.record)

/-- Brings back a record saved earlier. -/
def restoreRecord (state : State) : Option Record → State
  | none => state
  | some record =>
    { state with context := state.context.map fun context => { context with record := record } }

/-- Reports an event to the tracer, if there is one. -/
def emit (state : State) (kind : EventKind) (name : String) (depth : Nat) (rest value : Value) :
    Except Fault State :=
  match state.context with
  | some context =>
    match context.tracer with
    | some tracer => do
      let position ← Failure.positionIn context.source rest
      let event : Event := ⟨kind, name, depth, position, value⟩
      match tracer state.events event with
      | some fault => throw fault
      | none => return { state with events := event :: state.events }
    | none => .ok state
  | none => .ok state

/-- The inputs of the earlier calls of a terminal that remembers them, latest first, and the state
in which the new one is remembered too. -/
def remember (state : State) (memory : Option Nat) (input : Value) : List Value × State :=
  match memory with
  | none => ([], state)
  | some number =>
    let memories := state.workspace.memories
    (memories[number]?.getD [],
      { state with
        workspace := { state.workspace with memories := memories.modify number (input :: ·) } })

end State

/-- Goes on with a result, or stops at a fault. -/
def Progress.after (state : State) (result : Except Fault α) (next : α → Progress) : Progress :=
  match result with
  | .ok value => next value
  | .error fault => .raised fault state

/-- Goes on with an outcome. -/
def Progress.answer (outcome : Outcome) (stack : List Frame) (state : State) : Progress :=
  .next (.answer outcome) stack state

/-- Goes on with a call. -/
def Progress.call (parser : Parser) (input : Value) (stack : List Frame) (state : State) :
    Progress :=
  .next (.call parser input) stack state

/-- Enters a traced parser: reports the entry and leaves a frame for the exit. Without a tracer
nothing happens. -/
def State.enter (state : State) (label : String) (input : Value) (stack : List Frame)
    (next : List Frame → State → Progress) : Progress :=
  match state.context with
  | some ⟨_, some _, depth, _⟩ =>
    .after state (state.emit .enter label depth input .null) fun entered =>
      next (.exit label depth :: stack) (entered.setDepth (depth + 1))
  | _ => next stack state

/-- Runs a terminal written by hand. -/
def Foreign.run (leaf : Foreign) (input : Value) (stack : List Frame) (state : State) : Progress :=
  let (earlier, remembering) := state.remember leaf.memory input
  .after remembering (leaf.respond earlier input) fun outcome => .answer outcome stack remembering

/-- Runs a terminal; a miss is noted. -/
def Terminal.run (leaf : Terminal) (input : Value) (stack : List Frame) (state : State) :
    Progress :=
  .after state (leaf.verdict input) fun
    | .matched value rest => .answer (.ok value rest) stack state
    | .missed payload =>
      .after state (state.note payload input) fun noted =>
        .answer (.fail payload input) stack noted

/-- Calls the rule in a cell, building it if it is pending. -/
def callRule (cell : Nat) (input : Value) (stack : List Frame) (state : State) : Progress :=
  match (Workspace.resolve cell).run.run state.workspace with
  | (.ok body, workspace) =>
    let resolved := { state with workspace := workspace }
    resolved.enter (workspace.nameOf cell) input stack fun stack state =>
      .call body input stack state
  | (.error fault, workspace) => .raised fault { state with workspace := workspace }

/-- What a parser does first, apart from its trace. -/
def Parser.start (parser : Parser) (input : Value) (stack : List Frame) (state : State) :
    Progress :=
  match parser with
  | .terminal leaf => leaf.run input stack state
  | .foreign leaf => leaf.run input stack state
  | .sequence first others => .call first input (.sequence input [] others :: stack) state
  | .choice first others => .call first input (.choice input others :: stack) state
  | .star body => .call body input (.loop body [] input :: stack) state
  | .plus body => .call body input (.plus body input :: stack) state
  | .optional body absent => .call body input (.optional absent input :: stack) state
  | .ahead body => .call body input (.ahead input :: stack) state
  | .notAhead body => .call body input (.notAhead input state.saveRecord :: stack) state
  | .transform body _ function => .call body input (.transform function :: stack) state
  | .nested body inner form => .call body input (.nest inner form :: stack) state
  | .traced _ body => .call body input stack state
  | .rule cell => callRule cell input stack state
  | .constant _ => .raised .wrongKind state

/-- Calls a parser: a labelled one is entered first. -/
def Parser.call (parser : Parser) (input : Value) (stack : List Frame) (state : State) :
    Progress :=
  match parser.label? with
  | some label => state.enter label input stack fun stack state =>
    parser.start input stack state
  | none => parser.start input stack state

/-- The failure that a parse ends with: the farthest one on record, unless there is none or it lies
before the input given back. -/
def Context.failure (context : Context) (payload rest : Value) : Except Fault Failure :=
  let fallback := Failure.report payload rest context.source payload rest .null
  match context.record with
  | none => fallback
  | some farthest =>
    if farthest.rest.isSequence && rest.isSequence then
      if rest.length < farthest.rest.length then fallback
      else
        Failure.report payload farthest.rest context.source farthest.payload rest
          (.list farthest.alternatives)
    else .error .wrongKind

/-- The outcome of a nested parse as a value for the parse around it. -/
def NestedForm.value (form : NestedForm) (context : Option Context) (outcome : Outcome) :
    Except Fault Value :=
  match form, outcome with
  | .outcome, .ok value rest => .ok (.list [.ofString "ok", value, rest])
  | .outcome, .fail payload rest => .ok (.list [.ofString "fail", payload, rest])
  | .result, .ok value rest =>
    match context with
    | some inner => do
      let _ ← Failure.positionIn inner.source rest
      return value
    | none => .ok value
  | .result, .fail payload rest =>
    match context with
    | some inner => do throw (.parse (← inner.failure payload rest))
    | none => .error .wrongKind

/-- Hands an outcome to a frame. -/
def Frame.receive (frame : Frame) (outcome : Outcome) (stack : List Frame) (state : State) :
    Progress :=
  match frame, outcome with
  | .sequence _ done [], .ok value rest =>
    .answer (.ok (.list (value :: done).reverse) rest) stack state
  | .sequence entry done (parser :: others), .ok value rest =>
    .call parser rest (.sequence entry (value :: done) others :: stack) state
  | .sequence entry _ _, .fail payload _ => .answer (.fail payload entry) stack state
  | .choice _ _, .ok value rest => .answer (.ok value rest) stack state
  | .choice entry [], .fail payload _ => .answer (.fail payload entry) stack state
  | .choice entry (parser :: others), .fail _ _ =>
    .call parser entry (.choice entry others :: stack) state
  | .loop body done _, .ok value rest =>
    .call body rest (.loop body (value :: done) rest :: stack) state
  | .loop _ done rest, .fail _ _ => .answer (.ok (.list done.reverse) rest) stack state
  | .plus body _, .ok value rest => .call body rest (.loop body [value] rest :: stack) state
  | .plus _ entry, .fail payload _ => .answer (.fail payload entry) stack state
  | .optional _ _, .ok value rest => .answer (.ok value rest) stack state
  | .optional absent entry, .fail _ _ => .answer (.ok absent entry) stack state
  | .ahead entry, .ok value _ => .answer (.ok value entry) stack state
  | .ahead entry, .fail payload _ => .answer (.fail payload entry) stack state
  | .notAhead entry _, .ok value _ =>
    .after state (state.note value entry) fun noted => .answer (.fail value entry) stack noted
  | .notAhead entry saved, .fail payload _ =>
    .answer (.ok payload entry) stack (state.restoreRecord saved)
  | .transform function, .ok value rest =>
    .after state (function value) fun result => .answer (.ok result rest) stack state
  | .transform _, .fail payload rest => .answer (.fail payload rest) stack state
  | .nest inner form, .ok value rest =>
    .call inner value (.unnest form state.context rest :: stack)
      { state with context := some { source := value } }
  | .nest _ _, .fail payload rest => .answer (.fail payload rest) stack state
  | .unnest form outer rest, outcome =>
    .after state (form.value state.context outcome) fun result =>
      .answer (.ok result rest) stack { state with context := outer }
  | .exit label depth, .ok value rest =>
    let left := state.setDepth depth
    .after left (left.emit .succeed label depth rest value) fun told =>
      .answer (.ok value rest) stack told
  | .exit label depth, .fail payload rest =>
    let left := state.setDepth depth
    .after left (left.emit .fail label depth rest payload) fun told =>
      .answer (.fail payload rest) stack told

/-- One step of the machine. -/
def step : Control → List Frame → State → Progress
  | .call parser input, stack, state => parser.call input stack state
  | .answer outcome, [], state => .finished outcome state
  | .answer outcome, frame :: stack, state => frame.receive outcome stack state

/-- How a run ends: with an outcome or with a fault. -/
structure Ending where
  /-- The outcome, or the fault. -/
  answer : Except Fault Outcome
  /-- What the run left behind. -/
  state : State

/-- Takes at most `fuel` steps; `none` if they did not suffice. -/
def run : Nat → Control → List Frame → State → Option Ending
  | 0, _, _, _ => none
  | fuel + 1, control, stack, state =>
    match step control stack state with
    | .next control stack state => run fuel control stack state
    | .finished outcome state => some ⟨.ok outcome, state⟩
    | .raised fault state => some ⟨.error fault, state⟩

end Peg
