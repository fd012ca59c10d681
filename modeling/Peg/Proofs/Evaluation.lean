import Peg.Machine

/-! # Direct evaluation of parsers

The meaning of parsers as a relation between an input and what comes of it, without frames and
without continuations: `Evaluates job state last` says that doing `job` in `state` ends as `last`
says, with a match, a failure or a fault, and with the state that is left. Each rule says how a
parser ends when its parts have ended; what no rule derives does not end.

A parser is called under its label, so that a tracer sees it; the parser without the label is a job
of its own, and so are the parts of a sequence, the alternatives of a choice and the rounds of a
repetition. -/

namespace Peg

/-! ## Endings -/

/-- The value of a match or the payload of a failure. -/
def Outcome.value : Outcome → Value
  | .ok value _ => value
  | .fail payload _ => payload

/-- The input that is handed back. -/
def Outcome.rest : Outcome → Value
  | .ok _ rest => rest
  | .fail _ rest => rest

/-- The event that reports an outcome to a tracer. -/
def Outcome.exitKind : Outcome → EventKind
  | .ok _ _ => .succeed
  | .fail _ _ => .fail

/-- Fails on an input and notes the failure. -/
def State.failOn (state : State) (payload input : Value) : Ending :=
  match state.note payload input with
  | .ok noted => ⟨.ok (.fail payload input), noted⟩
  | .error fault => ⟨.error fault, state⟩

/-- A terminal ends with what it finds; if that is a miss, it is noted. -/
def Terminal.read (leaf : Terminal) (input : Value) (state : State) : Ending :=
  match leaf.verdict input with
  | .ok (.matched value rest) => ⟨.ok (.ok value rest), state⟩
  | .ok (.missed payload) => state.failOn payload input
  | .error fault => ⟨.error fault, state⟩

/-- A terminal written by hand ends as it responds. -/
def Foreign.read (leaf : Foreign) (input : Value) (state : State) : Ending :=
  let (earlier, remembering) := state.remember leaf.memory input
  ⟨leaf.respond earlier input, remembering⟩

/-- Reports the exit from a labelled parser to the tracer. A parser that a fault stopped reports
nothing. -/
def Ending.leave (label : String) (depth : Nat) (last : Ending) : Ending :=
  match last.answer with
  | .ok outcome =>
    let left := last.state.setDepth depth
    match left.emit outcome.exitKind label depth outcome.rest outcome.value with
    | .ok told => ⟨.ok outcome, told⟩
    | .error fault => ⟨.error fault, left⟩
  | .error fault => ⟨.error fault, last.state⟩

/-- Ends a nested parse: its outcome becomes a value of the parse around it. -/
def Ending.unnest (form : NestedForm) (outer : Option Context) (rest : Value) (last : Ending) :
    Ending :=
  match last.answer with
  | .ok outcome =>
    match form.value last.state.context outcome with
    | .ok value => ⟨.ok (.ok value rest), { last.state with context := outer }⟩
    | .error fault => ⟨.error fault, last.state⟩
  | .error fault => ⟨.error fault, last.state⟩

/-! ## Jobs -/

/-- What is evaluated. -/
inductive Job where
  /-- A parser, under its label. -/
  | call (parser : Parser) (input : Value)
  /-- A parser without its label. -/
  | bare (parser : Parser) (input : Value)
  /-- A job under a label. -/
  | under (label : String) (job : Job)
  /-- All parsers in order, as parts of a sequence that started on `entry`. -/
  | all (entry : Value) (parsers : List Parser) (input : Value)
  /-- The first parser that matches. -/
  | any (first : Parser) (others : List Parser) (input : Value)
  /-- Zero or more times. -/
  | loop (body : Parser) (input : Value)

/-- The input of a job. -/
def Job.input : Job → Value
  | .call _ input => input
  | .bare _ input => input
  | .under _ job => job.input
  | .all _ _ input => input
  | .any _ _ input => input
  | .loop _ input => input

/-- The job that a job starts with, where it does something with the outcome of that. -/
def Job.first? : Job → Option Job
  | .bare (.plus body) input => some (.call body input)
  | .bare (.optional body _) input => some (.call body input)
  | .bare (.ahead body) input => some (.call body input)
  | .bare (.notAhead body) input => some (.call body input)
  | .bare (.transform body _ _) input => some (.call body input)
  | .bare (.nested body _ _) input => some (.call body input)
  | .all _ (parser :: _) input => some (.call parser input)
  | .any first _ input => some (.call first input)
  | .loop body input => some (.call body input)
  | _ => none

/-! ## Evaluation -/

/-- Doing a job in a state ends in a certain way. -/
inductive Evaluates : Job → State → Ending → Prop
  /-- A parser without a label does what it does. -/
  | unlabelled {parser : Parser} {input : Value} {state : State} {last : Ending}
      (label : parser.label? = none) (body : Evaluates (.bare parser input) state last) :
      Evaluates (.call parser input) state last
  /-- A parser with a label does what it does under the label. -/
  | labelled {parser : Parser} {input : Value} {label : String} {state : State} {last : Ending}
      (found : parser.label? = some label)
      (body : Evaluates (.under label (.bare parser input)) state last) :
      Evaluates (.call parser input) state last
  /-- Without a tracer a label means nothing. -/
  | unwatched {label : String} {job : Job} {state : State} {last : Ending}
      (quiet : state.tracer? = none) (body : Evaluates job state last) :
      Evaluates (.under label job) state last
  /-- The tracer may refuse the entry. -/
  | refused {label : String} {job : Job} {state : State} {context : Context} {fault : Fault}
      (current : state.context = some context) (watched : context.tracer.isSome)
      (entry : state.emit .enter label context.depth job.input .null = .error fault) :
      Evaluates (.under label job) state ⟨.error fault, state⟩
  /-- The tracer is told of the entry and of the exit. -/
  | watched {label : String} {job : Job} {state entered : State} {context : Context}
      {last : Ending} (current : state.context = some context)
      (watched : context.tracer.isSome)
      (entry : state.emit .enter label context.depth job.input .null = .ok entered)
      (body : Evaluates job (entered.setDepth (context.depth + 1)) last) :
      Evaluates (.under label job) state (last.leave label context.depth)
  /-- A terminal looks at the input. -/
  | terminal {leaf : Terminal} {input : Value} {state : State} :
      Evaluates (.bare (.terminal leaf) input) state (leaf.read input state)
  /-- A terminal written by hand responds to the input. -/
  | foreign {leaf : Foreign} {input : Value} {state : State} :
      Evaluates (.bare (.foreign leaf) input) state (leaf.read input state)
  /-- A sequence does all its parts. -/
  | sequence {first : Parser} {others : List Parser} {input : Value} {state : State}
      {last : Ending} (parts : Evaluates (.all input (first :: others) input) state last) :
      Evaluates (.bare (.sequence first others) input) state last
  /-- No parts match nothing. -/
  | allNil {entry input : Value} {state : State} :
      Evaluates (.all entry [] input) state ⟨.ok (.ok (.list []) input), state⟩
  /-- The parts after the first one go on with what it left. -/
  | allCons {parser : Parser} {others : List Parser} {entry input value middle rest : Value}
      {values : List Value} {state between after : State}
      (head : Evaluates (.call parser input) state ⟨.ok (.ok value middle), between⟩)
      (tail : Evaluates (.all entry others middle) between
        ⟨.ok (.ok (.list values) rest), after⟩) :
      Evaluates (.all entry (parser :: others) input) state
        ⟨.ok (.ok (.list (value :: values)) rest), after⟩
  /-- When a part fails, the sequence fails on the input it started on. -/
  | allFail {parser : Parser} {others : List Parser} {entry input payload rest : Value}
      {state after : State}
      (head : Evaluates (.call parser input) state ⟨.ok (.fail payload rest), after⟩) :
      Evaluates (.all entry (parser :: others) input) state ⟨.ok (.fail payload entry), after⟩
  /-- The failure of a later part is that of the parts from the first one on. -/
  | allFailLater {parser : Parser} {others : List Parser}
      {entry input value middle payload rest : Value} {state between after : State}
      (head : Evaluates (.call parser input) state ⟨.ok (.ok value middle), between⟩)
      (tail : Evaluates (.all entry others middle) between ⟨.ok (.fail payload rest), after⟩) :
      Evaluates (.all entry (parser :: others) input) state ⟨.ok (.fail payload rest), after⟩
  /-- A fault of a later part stops all of them. -/
  | allRaiseLater {parser : Parser} {others : List Parser} {entry input value middle : Value}
      {fault : Fault} {state between after : State}
      (head : Evaluates (.call parser input) state ⟨.ok (.ok value middle), between⟩)
      (tail : Evaluates (.all entry others middle) between ⟨.error fault, after⟩) :
      Evaluates (.all entry (parser :: others) input) state ⟨.error fault, after⟩
  /-- A choice does the first of its alternatives that matches. -/
  | choice {first : Parser} {others : List Parser} {input : Value} {state : State} {last : Ending}
      (alternatives : Evaluates (.any first others input) state last) :
      Evaluates (.bare (.choice first others) input) state last
  /-- An alternative that matches is the last one. -/
  | anyOk {first : Parser} {others : List Parser} {input value rest : Value} {state after : State}
      (head : Evaluates (.call first input) state ⟨.ok (.ok value rest), after⟩) :
      Evaluates (.any first others input) state ⟨.ok (.ok value rest), after⟩
  /-- When the only alternative left fails, its payload is that of the choice. -/
  | anyLast {first : Parser} {input payload rest : Value} {state after : State}
      (head : Evaluates (.call first input) state ⟨.ok (.fail payload rest), after⟩) :
      Evaluates (.any first [] input) state ⟨.ok (.fail payload input), after⟩
  /-- After an alternative that fails the next one starts on the same input. -/
  | anyNext {first second : Parser} {others : List Parser} {input payload rest : Value}
      {state between : State} {last : Ending}
      (head : Evaluates (.call first input) state ⟨.ok (.fail payload rest), between⟩)
      (tail : Evaluates (.any second others input) between last) :
      Evaluates (.any first (second :: others) input) state last
  /-- A repetition that needs no round is a loop. -/
  | star {body : Parser} {input : Value} {state : State} {last : Ending}
      (rounds : Evaluates (.loop body input) state last) :
      Evaluates (.bare (.star body) input) state last
  /-- A round that fails ends the loop where the round started. -/
  | loopStop {body : Parser} {input payload rest : Value} {state after : State}
      (round : Evaluates (.call body input) state ⟨.ok (.fail payload rest), after⟩) :
      Evaluates (.loop body input) state ⟨.ok (.ok (.list []) input), after⟩
  /-- After a round that matches the loop goes on with what it left. -/
  | loopMore {body : Parser} {input value middle rest : Value} {values : List Value}
      {state between after : State}
      (round : Evaluates (.call body input) state ⟨.ok (.ok value middle), between⟩)
      (more : Evaluates (.loop body middle) between ⟨.ok (.ok (.list values) rest), after⟩) :
      Evaluates (.loop body input) state ⟨.ok (.ok (.list (value :: values)) rest), after⟩
  /-- A fault of a later round stops the loop. -/
  | loopRaiseLater {body : Parser} {input value middle : Value} {fault : Fault}
      {state between after : State}
      (round : Evaluates (.call body input) state ⟨.ok (.ok value middle), between⟩)
      (more : Evaluates (.loop body middle) between ⟨.error fault, after⟩) :
      Evaluates (.loop body input) state ⟨.error fault, after⟩
  /-- A repetition that needs a round fails with the payload of that round. -/
  | plusFail {body : Parser} {input payload rest : Value} {state after : State}
      (round : Evaluates (.call body input) state ⟨.ok (.fail payload rest), after⟩) :
      Evaluates (.bare (.plus body) input) state ⟨.ok (.fail payload input), after⟩
  /-- After the round it needs, a repetition is a loop. -/
  | plusMore {body : Parser} {input value middle rest : Value} {values : List Value}
      {state between after : State}
      (round : Evaluates (.call body input) state ⟨.ok (.ok value middle), between⟩)
      (more : Evaluates (.loop body middle) between ⟨.ok (.ok (.list values) rest), after⟩) :
      Evaluates (.bare (.plus body) input) state
        ⟨.ok (.ok (.list (value :: values)) rest), after⟩
  /-- A fault of a later round stops the repetition. -/
  | plusRaiseLater {body : Parser} {input value middle : Value} {fault : Fault}
      {state between after : State}
      (round : Evaluates (.call body input) state ⟨.ok (.ok value middle), between⟩)
      (more : Evaluates (.loop body middle) between ⟨.error fault, after⟩) :
      Evaluates (.bare (.plus body) input) state ⟨.error fault, after⟩
  /-- An optional parser that matches does what it does. -/
  | present {body : Parser} {input absent value rest : Value} {state after : State}
      (head : Evaluates (.call body input) state ⟨.ok (.ok value rest), after⟩) :
      Evaluates (.bare (.optional body absent) input) state ⟨.ok (.ok value rest), after⟩
  /-- An optional parser that fails matches nothing. -/
  | absent {body : Parser} {input absent payload rest : Value} {state after : State}
      (head : Evaluates (.call body input) state ⟨.ok (.fail payload rest), after⟩) :
      Evaluates (.bare (.optional body absent) input) state ⟨.ok (.ok absent input), after⟩
  /-- A look ahead that matches gives the input back. -/
  | aheadOk {body : Parser} {input value rest : Value} {state after : State}
      (head : Evaluates (.call body input) state ⟨.ok (.ok value rest), after⟩) :
      Evaluates (.bare (.ahead body) input) state ⟨.ok (.ok value input), after⟩
  /-- A look ahead that fails gives the input back. -/
  | aheadFail {body : Parser} {input payload rest : Value} {state after : State}
      (head : Evaluates (.call body input) state ⟨.ok (.fail payload rest), after⟩) :
      Evaluates (.bare (.ahead body) input) state ⟨.ok (.fail payload input), after⟩
  /-- A negative look ahead fails with what its body matched, and this is noted. -/
  | notAheadFail {body : Parser} {input value rest : Value} {state after : State}
      (head : Evaluates (.call body input) state ⟨.ok (.ok value rest), after⟩) :
      Evaluates (.bare (.notAhead body) input) state (after.failOn value input)
  /-- A negative look ahead matches when its body fails, and the failures noted since are
  forgotten. -/
  | notAheadOk {body : Parser} {input payload rest : Value} {state after : State}
      (head : Evaluates (.call body input) state ⟨.ok (.fail payload rest), after⟩) :
      Evaluates (.bare (.notAhead body) input) state
        ⟨.ok (.ok payload input), after.restoreRecord state.saveRecord⟩
  /-- A function is applied to the value of a match; it may raise a fault. -/
  | transformOk {body : Parser} {name : String} {function : Value → Except Fault Value}
      {input value rest : Value} {state after : State}
      (head : Evaluates (.call body input) state ⟨.ok (.ok value rest), after⟩) :
      Evaluates (.bare (.transform body name function) input) state
        ⟨(function value).map fun result => .ok result rest, after⟩
  /-- Failures pass by a function. -/
  | transformFail {body : Parser} {name : String} {function : Value → Except Fault Value}
      {input payload rest : Value} {state after : State}
      (head : Evaluates (.call body input) state ⟨.ok (.fail payload rest), after⟩) :
      Evaluates (.bare (.transform body name function) input) state
        ⟨.ok (.fail payload rest), after⟩
  /-- The value of a match is parsed in a context of its own. -/
  | nestedOk {body inner : Parser} {form : NestedForm} {input value rest : Value}
      {state between : State} {last : Ending}
      (head : Evaluates (.call body input) state ⟨.ok (.ok value rest), between⟩)
      (nested : Evaluates (.call inner value)
        { between with context := some { source := value } } last) :
      Evaluates (.bare (.nested body inner form) input) state
        (last.unnest form between.context rest)
  /-- Failures pass by a nested parse. -/
  | nestedFail {body inner : Parser} {form : NestedForm} {input payload rest : Value}
      {state after : State}
      (head : Evaluates (.call body input) state ⟨.ok (.fail payload rest), after⟩) :
      Evaluates (.bare (.nested body inner form) input) state ⟨.ok (.fail payload rest), after⟩
  /-- Apart from its label, a traced parser is its body. -/
  | traced {name : String} {body : Parser} {input : Value} {state : State} {last : Ending}
      (inside : Evaluates (.call body input) state last) :
      Evaluates (.bare (.traced name body) input) state last
  /-- A rule that cannot be resolved raises a fault. -/
  | unresolved {cell : Nat} {input : Value} {fault : Fault} {state : State}
      {workspace : Workspace}
      (found : (Workspace.resolve cell).run.run state.workspace = (.error fault, workspace)) :
      Evaluates (.bare (.rule cell) input) state
        ⟨.error fault, { state with workspace := workspace }⟩
  /-- A rule is its body under the name of the rule. -/
  | resolved {cell : Nat} {body : Parser} {input : Value} {state : State} {workspace : Workspace}
      {last : Ending}
      (found : (Workspace.resolve cell).run.run state.workspace = (.ok body, workspace))
      (inside : Evaluates (.under (workspace.nameOf cell) (.call body input))
        { state with workspace := workspace } last) :
      Evaluates (.bare (.rule cell) input) state last
  /-- A value cannot run. -/
  | constant {value input : Value} {state : State} :
      Evaluates (.bare (.constant value) input) state ⟨.error .wrongKind, state⟩
  /-- A fault of what a job starts with stops the job: nothing catches it. -/
  | raise {job first : Job} {fault : Fault} {state after : State} (start : job.first? = some first)
      (head : Evaluates first state ⟨.error fault, after⟩) :
      Evaluates job state ⟨.error fault, after⟩

end Peg
