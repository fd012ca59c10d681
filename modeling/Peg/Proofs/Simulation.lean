import Peg.Proofs.Evaluation
import Peg.Proofs.Run

/-! # The machine does what evaluation says

A job of an evaluation stands at a point of a run of the machine (`Job.point`), whatever work is
pending below it. `Evaluates.reaches` leads from there to the answer that the evaluation gives, by
induction on the evaluation; `exists_evaluates` finds the evaluation in a run that ends, by
induction on the steps of the run. -/

namespace Peg

open Progress

/-! ## Jobs as points of a run -/

/-- Goes on with the pending work after a job has ended. -/
def Ending.resume (last : Ending) (stack : List Frame) : Progress :=
  match last.answer with
  | .ok outcome => .answer outcome stack last.state
  | .error fault => .raised fault last.state

/-- An outcome is handed on to what is pending. -/
@[simp] theorem Ending.resume_ok (outcome : Outcome) (state : State) (stack : List Frame) :
    Ending.resume ⟨.ok outcome, state⟩ stack = .answer outcome stack state := rfl

/-- A fault stops the run whatever is pending. -/
@[simp] theorem Ending.resume_error (fault : Fault) (state : State) (stack : List Frame) :
    Ending.resume ⟨.error fault, state⟩ stack = .raised fault state := rfl

/-- Where the machine stands when it does a job; `done` holds the values that the parts before have
given, latest first. -/
def Job.point (done : List Value) : Job → List Frame → State → Progress
  | .call parser input, stack, state => .call parser input stack state
  | .bare parser input, stack, state => parser.start input stack state
  | .under label job, stack, state =>
    state.enter label job.input stack fun stack state => job.point [] stack state
  | .all _ [] input, stack, state => .answer (.ok (.list done.reverse) input) stack state
  | .all entry (parser :: others) input, stack, state =>
    .call parser input (.sequence entry done others :: stack) state
  | .any first others input, stack, state =>
    .call first input (.choice input others :: stack) state
  | .loop body input, stack, state => .call body input (.loop body done input :: stack) state

/-- The values of the parts before stand before the values of a match. -/
def Outcome.gather (done : List Value) : Outcome → Outcome
  | .ok (.list values) rest => .ok (.list (done.reverse ++ values)) rest
  | outcome => outcome

/-- The end of a job together with the parts before, of which `done` holds the values. -/
def Job.gather (done : List Value) : Job → Ending → Ending
  | .all .., last => ⟨last.answer.map (Outcome.gather done), last.state⟩
  | .loop .., last => ⟨last.answer.map (Outcome.gather done), last.state⟩
  | _, last => last

/-- Without earlier values nothing is gathered. -/
@[simp] theorem Outcome.gather_nil (outcome : Outcome) : outcome.gather [] = outcome := by
  cases outcome with
  | ok value rest => cases value <;> rfl
  | fail payload rest => rfl

/-- A value that stands first is like one that was there before. -/
theorem Outcome.gather_cons (done values : List Value) (value rest : Value) :
    Outcome.gather done (.ok (.list (value :: values)) rest)
      = Outcome.gather (value :: done) (.ok (.list values) rest) := by
  simp only [Outcome.gather, List.reverse_cons, List.append_assoc, List.singleton_append]

/-- Without earlier values a job ends as it does. -/
@[simp] theorem Job.gather_nil (job : Job) (last : Ending) : job.gather [] last = last := by
  obtain ⟨answer, state⟩ := last
  cases job <;> cases answer <;> simp [Job.gather, Except.map]

/-- A fault ends a job whatever values there are. -/
@[simp] theorem Job.gather_error (done : List Value) (job : Job) (fault : Fault) (state : State) :
    job.gather done ⟨.error fault, state⟩ = ⟨.error fault, state⟩ := by
  cases job <;> rfl

/-- The frame of a sequence goes on with the parts that are left. -/
theorem receive_sequence_ok (entry : Value) (done : List Value) (others : List Parser)
    (value rest : Value) (stack : List Frame) (state : State) :
    (Frame.sequence entry done others).receive (.ok value rest) stack state
      = (Job.all entry others rest).point (value :: done) stack state := by
  cases others <;> rfl

/-- The frame of a sequence turns the failure of a part into that of the sequence. -/
theorem receive_sequence_fail (entry : Value) (done : List Value) (others : List Parser)
    (payload rest : Value) (stack : List Frame) (state : State) :
    (Frame.sequence entry done others).receive (.fail payload rest) stack state
      = .answer (.fail payload entry) stack state := by
  cases others <;> rfl

/-- A job that starts with another one waits for it in a frame. -/
theorem exists_frame_of_first? {job first : Job} (start : job.first? = some first)
    (done : List Value) (stack : List Frame) (state : State) :
    ∃ frame, job.point done stack state = first.point [] (frame :: stack) state := by
  revert start
  fun_cases Job.first? job with
  | case10 => simp
  | _ =>
    intro start
    cases start
    exact ⟨_, rfl⟩

/-! ## What leaves, labels and frames do, as endings -/

/-- To note a failure and hand it on is to fail and resume. -/
theorem after_note (state : State) (payload input : Value) (stack : List Frame) :
    (Progress.after state (state.note payload input) fun noted =>
        .answer (.fail payload input) stack noted)
      = (state.failOn payload input).resume stack := by
  rw [State.failOn]
  cases state.note payload input <;> rfl

/-- A terminal reads and resumes. -/
theorem Terminal.run_eq (leaf : Terminal) (input : Value) (stack : List Frame) (state : State) :
    leaf.run input stack state = (leaf.read input state).resume stack := by
  rw [Terminal.run, Terminal.read]
  cases leaf.verdict input with
  | error fault => rfl
  | ok verdict =>
    cases verdict with
    | matched value rest => rfl
    | missed payload => exact after_note state payload input stack

/-- A terminal written by hand reads and resumes. -/
theorem Foreign.run_eq (leaf : Foreign) (input : Value) (stack : List Frame) (state : State) :
    leaf.run input stack state = (leaf.read input state).resume stack := by
  simp only [Foreign.run, Foreign.read, Progress.after, Ending.resume]
  cases leaf.respond _ input <;> rfl

/-- Without a tracer an entry leaves no frame. -/
theorem State.enter_of_unwatched {state : State} (quiet : state.tracer? = none) (label : String)
    (input : Value) (stack : List Frame) (next : List Frame → State → Progress) :
    state.enter label input stack next = next stack state := by
  obtain ⟨workspace, context, events⟩ := state
  cases context with
  | none => rfl
  | some context =>
    obtain ⟨source, tracer, depth, record⟩ := context
    cases tracer with
    | none => rfl
    | some tracer => simp [State.tracer?] at quiet

/-- With a tracer an entry is reported and leaves a frame for the exit. -/
theorem State.enter_of_watched {state : State} {context : Context}
    (current : state.context = some context) (watched : context.tracer.isSome) (label : String)
    (input : Value) (stack : List Frame) (next : List Frame → State → Progress) :
    state.enter label input stack next
      = .after state (state.emit .enter label context.depth input .null) fun entered =>
          next (.exit label context.depth :: stack) (entered.setDepth (context.depth + 1)) := by
  obtain ⟨source, tracer, depth, record⟩ := context
  obtain ⟨tracer, rfl⟩ := Option.isSome_iff_exists.1 watched
  simp only [State.enter, current]

/-- Handing an outcome to the exit of a labelled parser is to leave it and resume. -/
theorem receive_exit (label : String) (depth : Nat) (outcome : Outcome) (stack : List Frame)
    (state : State) :
    (Frame.exit label depth).receive outcome stack state
      = (Ending.leave label depth ⟨.ok outcome, state⟩).resume stack := by
  cases outcome with
  | ok value rest =>
    simp only [Frame.receive, Ending.leave, Outcome.exitKind, Outcome.rest, Outcome.value]
    cases (state.setDepth depth).emit .succeed label depth rest value <;> rfl
  | fail payload rest =>
    simp only [Frame.receive, Ending.leave, Outcome.exitKind, Outcome.rest, Outcome.value]
    cases (state.setDepth depth).emit .fail label depth rest payload <;> rfl

/-- Handing an outcome to the end of a nested parse is to end that and resume. -/
theorem receive_unnest (form : NestedForm) (outer : Option Context) (rest : Value)
    (outcome : Outcome) (stack : List Frame) (state : State) :
    (Frame.unnest form outer rest).receive outcome stack state
      = (Ending.unnest form outer rest ⟨.ok outcome, state⟩).resume stack := by
  simp only [Frame.receive, Ending.unnest]
  cases form.value state.context outcome <;> rfl

/-- Handing a match to a transformation is to apply the function and resume. -/
theorem receive_transform_ok (function : Value → Except Fault Value) (value rest : Value)
    (stack : List Frame) (state : State) :
    (Frame.transform function).receive (.ok value rest) stack state
      = Ending.resume ⟨(function value).map fun result => .ok result rest, state⟩ stack := by
  simp only [Frame.receive]
  cases function value <;> rfl

/-- A parser without a label starts at once. -/
theorem step_call_of_unlabelled {parser : Parser} (label : parser.label? = none) (input : Value)
    (stack : List Frame) (state : State) :
    step (.call parser input) stack state = parser.start input stack state := by
  simp only [step, Parser.call, label]

/-- A parser with a label starts under it. -/
theorem step_call_of_labelled {parser : Parser} {label : String}
    (found : parser.label? = some label) (input : Value) (stack : List Frame) (state : State) :
    step (.call parser input) stack state
      = (Job.under label (.bare parser input)).point [] stack state := by
  simp only [step, Parser.call, found]
  rfl

namespace Progress.Reaches

/-- An outcome on top of a frame is handed to the frame. -/
theorem receive {progress : Progress} {outcome : Outcome} {frame : Frame} {stack : List Frame}
    {state : State} (reaches : Reaches progress (.answer outcome (frame :: stack) state)) :
    Reaches progress (frame.receive outcome stack state) :=
  reaches.trans (.step (.answer outcome) (frame :: stack) state)

/-- A job under a label is left through the frame of its exit. -/
theorem leave {progress : Progress} {label : String} {depth : Nat} {last : Ending}
    {stack : List Frame} (reaches : Reaches progress (last.resume (.exit label depth :: stack))) :
    Reaches progress ((last.leave label depth).resume stack) := by
  obtain ⟨answer, state⟩ := last
  cases answer with
  | error fault => exact reaches
  | ok outcome =>
    rw [← receive_exit]
    exact reaches.receive

/-- A nested parse is left through the frame that holds the parse around it. -/
theorem unnest {progress : Progress} {form : NestedForm} {outer : Option Context} {rest : Value}
    {last : Ending} {stack : List Frame}
    (reaches : Reaches progress (last.resume (.unnest form outer rest :: stack))) :
    Reaches progress ((last.unnest form outer rest).resume stack) := by
  obtain ⟨answer, state⟩ := last
  cases answer with
  | error fault => exact reaches
  | ok outcome =>
    rw [← receive_unnest]
    exact reaches.receive

end Progress.Reaches

/-! ## From an evaluation to the machine -/

/-- **What evaluates, the machine does.** From the point of a job, whatever work is pending, the
machine reaches the point where it hands the end of the job to that work. -/
theorem Evaluates.reaches {job : Job} {state : State} {last : Ending}
    (evaluates : Evaluates job state last) (done : List Value) (stack : List Frame) :
    Reaches (job.point done stack state) ((job.gather done last).resume stack) := by
  -- The parts run on larger stacks and with other values before them, so both are general.
  induction evaluates generalizing done stack with
  | @unlabelled parser input state last label _ body =>
    have start := Reaches.step (.call parser input) stack state
    rw [step_call_of_unlabelled label] at start
    exact start.trans (body [] stack)
  | @labelled parser input label state last found _ body =>
    have start := Reaches.step (.call parser input) stack state
    rw [step_call_of_labelled found] at start
    exact start.trans (body [] stack)
  | unwatched quiet _ body =>
    rw [Job.point, State.enter_of_unwatched quiet]
    have inside := body [] stack
    rw [Job.gather_nil] at inside
    exact inside
  | refused current watched entry =>
    rw [Job.point, State.enter_of_watched current watched, entry]
    exact .refl _
  | @watched label job state entered context last current watched entry _ body =>
    rw [Job.point, State.enter_of_watched current watched, entry]
    have inside := body [] (.exit label context.depth :: stack)
    rw [Job.gather_nil] at inside
    exact inside.leave
  | terminal =>
    rw [Job.point, Parser.start, Terminal.run_eq]
    exact .refl _
  | foreign =>
    rw [Job.point, Parser.start, Foreign.run_eq]
    exact .refl _
  | sequence _ parts =>
    have inside := parts [] stack
    rw [Job.gather_nil] at inside
    exact inside
  | allNil => simpa [Job.point, Job.gather, Except.map, Outcome.gather] using Reaches.refl _
  | @allCons parser others entry input value middle rest values state between after _ _ head tail =>
    have start := (head [] (.sequence entry done others :: stack)).receive
    rw [receive_sequence_ok] at start
    have finish := tail (value :: done) stack
    simp only [Job.gather, Except.map, Outcome.gather_cons] at finish ⊢
    exact start.trans finish
  | @allFail parser others entry input payload rest state after _ head =>
    have start := (head [] (.sequence entry done others :: stack)).receive
    rw [receive_sequence_fail] at start
    exact start
  | @allFailLater parser others entry input value middle payload rest state between after
      _ _ head tail =>
    have start := (head [] (.sequence entry done others :: stack)).receive
    rw [receive_sequence_ok] at start
    exact start.trans (tail (value :: done) stack)
  | @allRaiseLater parser others entry input value middle fault state between after
      _ _ head tail =>
    have start := (head [] (.sequence entry done others :: stack)).receive
    rw [receive_sequence_ok] at start
    exact start.trans (tail (value :: done) stack)
  | choice _ alternatives => exact alternatives [] stack
  | @anyOk first others input value rest state after _ head =>
    exact (head [] (.choice input others :: stack)).receive
  | @anyLast first input payload rest state after _ head =>
    exact (head [] (.choice input [] :: stack)).receive
  | @anyNext first second others input payload rest state between last _ _ head tail =>
    have start := (head [] (.choice input (second :: others) :: stack)).receive
    exact start.trans (tail [] stack)
  | star _ rounds =>
    have inside := rounds [] stack
    rw [Job.gather_nil] at inside
    exact inside
  | @loopStop body input payload rest state after _ round =>
    have start := (round [] (.loop body done input :: stack)).receive
    simp only [Job.gather, Except.map, Outcome.gather, List.append_nil]
    exact start
  | @loopMore body input value middle rest values state between after _ _ round more =>
    have start := (round [] (.loop body done input :: stack)).receive
    have finish := more (value :: done) stack
    simp only [Job.gather, Except.map, Outcome.gather_cons] at finish ⊢
    exact start.trans finish
  | @loopRaiseLater body input value middle fault state between after _ _ round more =>
    have start := (round [] (.loop body done input :: stack)).receive
    exact start.trans (more (value :: done) stack)
  | @plusFail body input payload rest state after _ round =>
    exact (round [] (.plus body input :: stack)).receive
  | @plusMore body input value middle rest values state between after _ _ round more =>
    have start := (round [] (.plus body input :: stack)).receive
    exact start.trans (more [value] stack)
  | @plusRaiseLater body input value middle fault state between after _ _ round more =>
    have start := (round [] (.plus body input :: stack)).receive
    exact start.trans (more [value] stack)
  | @present body input absent value rest state after _ head =>
    exact (head [] (.optional absent input :: stack)).receive
  | @absent body input absent payload rest state after _ head =>
    exact (head [] (.optional absent input :: stack)).receive
  | @aheadOk body input value rest state after _ head =>
    exact (head [] (.ahead input :: stack)).receive
  | @aheadFail body input payload rest state after _ head =>
    exact (head [] (.ahead input :: stack)).receive
  | @notAheadFail body input value rest state after _ head =>
    have start := (head [] (.notAhead input state.saveRecord :: stack)).receive
    simp only [Frame.receive, after_note] at start
    exact start
  | @notAheadOk body input payload rest state after _ head =>
    exact (head [] (.notAhead input state.saveRecord :: stack)).receive
  | @transformOk body name function input value rest state after _ head =>
    have start := (head [] (.transform function :: stack)).receive
    rw [receive_transform_ok] at start
    exact start
  | @transformFail body name function input payload rest state after _ head =>
    exact (head [] (.transform function :: stack)).receive
  | @nestedOk body inner form input value rest state between last _ _ head nested =>
    -- the frame keeps the context that the body left, and the inner parse starts in a fresh one
    have start := (head [] (.nest inner form :: stack)).receive
    have inside := nested [] (.unnest form between.context rest :: stack)
    exact start.trans inside.unnest
  | @nestedFail body inner form input payload rest state after _ head =>
    exact (head [] (.nest inner form :: stack)).receive
  | traced _ inside => exact inside [] stack
  | unresolved found =>
    simp only [Job.point, Parser.start, callRule, found]
    exact .refl _
  | @resolved cell body input state workspace last found _ inside =>
    simp only [Job.point, Parser.start, callRule, found]
    exact inside [] stack
  | constant => exact .refl _
  | raise start _ head =>
    -- whatever frame waits for the call, the fault goes past it
    obtain ⟨frame, same⟩ := exists_frame_of_first? start done stack _
    rw [same, Job.gather_error]
    simpa using head [] (frame :: stack)

/-! ## From the machine to an evaluation -/

namespace Evaluates

/-- A loop ends with a list of values or with a fault. -/
theorem loop_eq_list {body : Parser} {input : Value} {state after : State} {outcome : Outcome}
    (evaluates : Evaluates (.loop body input) state ⟨.ok outcome, after⟩) :
    ∃ values rest, outcome = .ok (.list values) rest := by
  cases evaluates with
  | loopStop round => exact ⟨[], input, rfl⟩
  | loopMore round more => exact ⟨_, _, rfl⟩

/-- The parts of a sequence match with a list of values. -/
theorem all_eq_list {entry input value rest : Value} {parsers : List Parser}
    {state after : State}
    (evaluates : Evaluates (.all entry parsers input) state ⟨.ok (.ok value rest), after⟩) :
    ∃ values, value = .list values := by
  cases evaluates with
  | allNil => exact ⟨[], rfl⟩
  | allCons head tail => exact ⟨_, rfl⟩

/-- A round that matches and the rounds after it are a loop, with one value more. -/
theorem loop_cons {body : Parser} {input value middle : Value} {state between : State}
    {later : Ending}
    (round : Evaluates (.call body input) state ⟨.ok (.ok value middle), between⟩)
    (more : Evaluates (.loop body middle) between later) :
    ∃ own, Evaluates (.loop body input) state own ∧ Evaluates (.bare (.plus body) input) state own
      ∧ ∀ done, (Job.loop body input).gather done own
        = (Job.loop body middle).gather (value :: done) later := by
  obtain ⟨answer, after⟩ := later
  cases answer with
  | error fault =>
    exact ⟨_, .loopRaiseLater round more, .plusRaiseLater round more, fun done => rfl⟩
  | ok outcome =>
    obtain ⟨values, rest, rfl⟩ := more.loop_eq_list
    refine ⟨_, .loopMore round more, .plusMore round more, fun done => ?_⟩
    simp only [Job.gather, Except.map, Outcome.gather_cons]

/-- A part that matches and the parts after it are parts of the sequence, with one value more. -/
theorem all_cons {parser : Parser} {others : List Parser} {entry input value middle : Value}
    {state between : State} {later : Ending}
    (head : Evaluates (.call parser input) state ⟨.ok (.ok value middle), between⟩)
    (tail : Evaluates (.all entry others middle) between later) :
    ∃ own, Evaluates (.all entry (parser :: others) input) state own
      ∧ ∀ done, (Job.all entry (parser :: others) input).gather done own
        = (Job.all entry others middle).gather (value :: done) later := by
  obtain ⟨answer, after⟩ := later
  cases answer with
  | error fault => exact ⟨_, .allRaiseLater head tail, fun done => rfl⟩
  | ok outcome =>
    cases outcome with
    | fail payload rest => exact ⟨_, .allFailLater head tail, fun done => rfl⟩
    | ok value rest =>
      obtain ⟨values, rfl⟩ := tail.all_eq_list
      refine ⟨_, .allCons head tail, fun done => ?_⟩
      simp only [Job.gather, Except.map, Outcome.gather_cons]

end Evaluates

/-- A run from the point of a job that ends as `last` says holds an evaluation of the job, and the
fuel that is left goes to the pending work. -/
def Job.Accounted (fuel : Nat) (job : Job) (done : List Value) (stack : List Frame) (state : State)
    (last : Ending) : Prop :=
  ∃ own, Evaluates job state own ∧ ∃ left ≤ fuel, ((job.gather done own).resume stack).run left
    = some last

/-- Handing an outcome to a frame takes a step. -/
theorem exists_receive_of_run {fuel : Nat} {outcome : Outcome} {frame : Frame}
    {stack : List Frame} {state : State} {last : Ending}
    (ended : (Progress.answer outcome (frame :: stack) state).run fuel = some last) :
    ∃ left < fuel, (frame.receive outcome stack state).run left = some last := by
  cases fuel with
  | zero => simp [Progress.answer] at ended
  | succ fuel =>
    rw [Progress.answer, run_succ_next] at ended
    exact ⟨fuel, Nat.lt_succ_self fuel, ended⟩

/-- A job that starts with a call is accounted for when the call is and when, after a call that did
not raise a fault, the work of its frame is. -/
theorem Job.accounted_of_first? {fuel : Nat} {job : Job} {parser : Parser} {input : Value}
    {frame : Frame} {done : List Value} {stack : List Frame} {state : State} {last : Ending}
    (start : job.first? = some (.call parser input))
    (call : (Job.call parser input).Accounted fuel [] (frame :: stack) state last)
    (next : ∀ outcome after left, left < fuel →
      Evaluates (.call parser input) state ⟨.ok outcome, after⟩ →
      (frame.receive outcome stack after).run left = some last →
      job.Accounted fuel done stack state last) :
    job.Accounted fuel done stack state last := by
  obtain ⟨⟨answer, after⟩, head, left, fewer, ended⟩ := call
  -- a fault goes past the frame, an outcome is handed to it
  cases answer with
  | error fault => exact ⟨_, .raise start head, left, fewer, by rw [Job.gather_error]; exact ended⟩
  | ok outcome =>
    obtain ⟨less, smaller, ended⟩ := exists_receive_of_run ended
    exact next outcome after less (by omega) head ended

/-- Whatever run from the point of the job takes this much fuel is accounted for. -/
def Job.AllAccounted (fuel : Nat) (job : Job) : Prop :=
  ∀ done stack state last, (job.point done stack state).run fuel = some last →
    job.Accounted fuel done stack state last

/-- Putting a job under a label takes no fuel before the exit. -/
theorem Job.AllAccounted.under {fuel : Nat} {job : Job} (inside : job.AllAccounted fuel)
    (label : String) : (Job.under label job).AllAccounted fuel := by
  intro done stack state last ended
  rw [Job.point] at ended
  cases current : state.tracer? with
  | none =>
    rw [State.enter_of_unwatched current] at ended
    obtain ⟨own, body, left, fewer, ended⟩ := inside [] stack state last ended
    rw [Job.gather_nil] at ended
    exact ⟨own, .unwatched current body, left, fewer, ended⟩
  | some tracer =>
    obtain ⟨context, current, watched⟩ := Option.bind_eq_some_iff.1 current
    have watched : context.tracer.isSome := by rw [watched]; rfl
    rw [State.enter_of_watched current watched] at ended
    cases entry : state.emit .enter label context.depth job.input .null with
    | error fault =>
      rw [entry] at ended
      exact ⟨_, .refused current watched entry, fuel, le_rfl, ended⟩
    | ok entered =>
      rw [entry] at ended
      -- the job runs on the frame of its exit; only an outcome takes the step through that frame
      obtain ⟨⟨answer, after⟩, body, left, fewer, ended⟩ := inside [] _ _ last ended
      rw [Job.gather_nil] at ended
      refine ⟨_, .watched current watched entry body, ?_⟩
      cases answer with
      | error fault => exact ⟨left, fewer, ended⟩
      | ok outcome =>
        obtain ⟨less, smaller, ended⟩ := exists_receive_of_run ended
        rw [receive_exit] at ended
        exact ⟨less, by omega, ended⟩

section Fuel

variable {fuel : Nat} (fewer : ∀ less < fuel, ∀ job : Job, job.AllAccounted less)
  (calls : ∀ parser input, (Job.call parser input).AllAccounted fuel)

include fewer calls

/-- The rounds of a loop are accounted for. -/
theorem Job.loop_accounted (body : Parser) (input : Value) :
    (Job.loop body input).AllAccounted fuel := by
  intro done stack state last ended
  refine accounted_of_first? rfl
    (calls body input [] (.loop body done input :: stack) state last ended)
    fun outcome after left smaller head ended => ?_
  cases outcome with
  | ok value middle =>
    -- the round has used fuel, so the rounds after it are accounted for already
    obtain ⟨later, more, less, fewer, ended⟩ :=
      fewer left smaller (.loop body middle) (value :: done) stack after last ended
    obtain ⟨own, evaluates, -, same⟩ := head.loop_cons more
    exact ⟨own, evaluates, less, by omega, by rw [same]; exact ended⟩
  | fail payload rest =>
    refine ⟨_, .loopStop head, left, by omega, ?_⟩
    simp only [Job.gather, Except.map, Outcome.gather, List.append_nil]
    exact ended

/-- The parts of a sequence are accounted for. -/
theorem Job.all_accounted (entry : Value) (parsers : List Parser) (input : Value) :
    (Job.all entry parsers input).AllAccounted fuel := by
  intro done stack state last ended
  cases parsers with
  | nil =>
    refine ⟨_, .allNil, fuel, le_rfl, ?_⟩
    simp only [Job.gather, Except.map, Outcome.gather, List.append_nil]
    exact ended
  | cons parser others =>
    refine accounted_of_first? rfl
      (calls parser input [] (.sequence entry done others :: stack) state last ended)
      fun outcome after left smaller head ended => ?_
    cases outcome with
    | ok value middle =>
      rw [receive_sequence_ok] at ended
      obtain ⟨later, tail, less, fewer, ended⟩ :=
        fewer left smaller (.all entry others middle) (value :: done) stack after last ended
      obtain ⟨own, evaluates, same⟩ := head.all_cons tail
      exact ⟨own, evaluates, less, by omega, by rw [same]; exact ended⟩
    | fail payload rest =>
      rw [receive_sequence_fail] at ended
      exact ⟨_, .allFail head, left, by omega, ended⟩

/-- The alternatives of a choice are accounted for. -/
theorem Job.any_accounted (first : Parser) (others : List Parser) (input : Value) :
    (Job.any first others input).AllAccounted fuel := by
  intro done stack state last ended
  refine accounted_of_first? rfl
    (calls first input [] (.choice input others :: stack) state last ended)
    fun outcome after left smaller head ended => ?_
  cases outcome with
  | ok value rest => exact ⟨_, .anyOk head, left, by omega, ended⟩
  | fail payload rest =>
    cases others with
    | nil => exact ⟨_, .anyLast head, left, by omega, ended⟩
    | cons second others =>
      obtain ⟨later, tail, less, fewer, ended⟩ :=
        fewer left smaller (.any second others input) [] stack after last ended
      exact ⟨later, .anyNext head tail, less, by omega, ended⟩

/-- A parser without its label is accounted for. -/
theorem Job.bare_accounted (parser : Parser) (input : Value) :
    (Job.bare parser input).AllAccounted fuel := by
  intro done stack state last ended
  cases parser with
  | terminal leaf =>
    rw [Job.point, Parser.start, Terminal.run_eq] at ended
    exact ⟨_, .terminal, fuel, le_rfl, ended⟩
  | foreign leaf =>
    rw [Job.point, Parser.start, Foreign.run_eq] at ended
    exact ⟨_, .foreign, fuel, le_rfl, ended⟩
  | sequence first others =>
    obtain ⟨own, parts, left, less, ended⟩ :=
      Job.all_accounted fewer calls input (first :: others) input [] stack state last ended
    rw [Job.gather_nil] at ended
    exact ⟨own, .sequence parts, left, less, ended⟩
  | choice first others =>
    obtain ⟨own, alternatives, left, less, ended⟩ :=
      Job.any_accounted fewer calls first others input [] stack state last ended
    exact ⟨own, .choice alternatives, left, less, ended⟩
  | star body =>
    obtain ⟨own, rounds, left, less, ended⟩ :=
      Job.loop_accounted fewer calls body input [] stack state last ended
    rw [Job.gather_nil] at ended
    exact ⟨own, .star rounds, left, less, ended⟩
  | plus body =>
    refine accounted_of_first? rfl
      (calls body input [] (.plus body input :: stack) state last ended)
      fun outcome after left smaller head ended => ?_
    cases outcome with
    | ok value middle =>
      -- from its second round on, a repetition that needs one is a loop
      obtain ⟨later, more, less, fewer, ended⟩ :=
        fewer left smaller (.loop body middle) [value] stack after last ended
      obtain ⟨own, -, evaluates, same⟩ := head.loop_cons more
      rw [← same, Job.gather_nil] at ended
      exact ⟨own, evaluates, less, by omega, ended⟩
    | fail payload rest => exact ⟨_, .plusFail head, left, by omega, ended⟩
  | optional body absent =>
    refine accounted_of_first? rfl
      (calls body input [] (.optional absent input :: stack) state last ended)
      fun outcome after left smaller head ended => ?_
    cases outcome with
    | ok value rest => exact ⟨_, .present head, left, by omega, ended⟩
    | fail payload rest => exact ⟨_, .absent head, left, by omega, ended⟩
  | ahead body =>
    refine accounted_of_first? rfl (calls body input [] (.ahead input :: stack) state last ended)
      fun outcome after left smaller head ended => ?_
    cases outcome with
    | ok value rest => exact ⟨_, .aheadOk head, left, by omega, ended⟩
    | fail payload rest => exact ⟨_, .aheadFail head, left, by omega, ended⟩
  | notAhead body =>
    refine accounted_of_first? rfl
      (calls body input [] (.notAhead input state.saveRecord :: stack) state last ended)
      fun outcome after left smaller head ended => ?_
    cases outcome with
    | ok value rest =>
      simp only [Frame.receive, after_note] at ended
      exact ⟨_, .notAheadFail head, left, by omega, ended⟩
    | fail payload rest => exact ⟨_, .notAheadOk head, left, by omega, ended⟩
  | transform body name function =>
    refine accounted_of_first? rfl
      (calls body input [] (.transform function :: stack) state last ended)
      fun outcome after left smaller head ended => ?_
    cases outcome with
    | ok value rest =>
      rw [receive_transform_ok] at ended
      exact ⟨_, .transformOk head, left, by omega, ended⟩
    | fail payload rest => exact ⟨_, .transformFail head, left, by omega, ended⟩
  | nested body inner form =>
    refine accounted_of_first? rfl
      (calls body input [] (.nest inner form :: stack) state last ended)
      fun outcome after left smaller head ended => ?_
    cases outcome with
    | ok value rest =>
      -- the inner parse is accounted for with the frame that waits for it on top of the stack
      obtain ⟨⟨answer, inside⟩, nested, less, few, ended⟩ :=
        fewer left smaller (.call inner value) [] (.unnest form after.context rest :: stack)
          { after with context := some { source := value } } last ended
      cases answer with
      | error fault => exact ⟨_, .nestedOk head nested, less, by omega, ended⟩
      | ok outcome =>
        obtain ⟨rest, smallest, ended⟩ := exists_receive_of_run ended
        rw [receive_unnest] at ended
        exact ⟨_, .nestedOk head nested, rest, by omega, ended⟩
    | fail payload rest => exact ⟨_, .nestedFail head, left, by omega, ended⟩
  | traced name body =>
    obtain ⟨own, inside, left, less, ended⟩ := calls body input [] stack state last ended
    exact ⟨own, .traced inside, left, less, ended⟩
  | rule cell =>
    simp only [Job.point, Parser.start, callRule] at ended
    cases found : (Workspace.resolve cell).run.run state.workspace with
    | mk answer workspace =>
      rw [found] at ended
      cases answer with
      | error fault => exact ⟨_, .unresolved found, fuel, le_rfl, ended⟩
      | ok body =>
        obtain ⟨own, inside, left, less, ended⟩ :=
          (calls body input).under (workspace.nameOf cell) [] stack _ last ended
        exact ⟨own, .resolved found inside, left, less, ended⟩
  | constant value => exact ⟨_, .constant, fuel, le_rfl, ended⟩

end Fuel

/-- A call takes a step before the parser starts. -/
theorem Job.call_accounted {fuel : Nat} (fewer : ∀ less < fuel, ∀ job : Job, job.AllAccounted less)
    (parser : Parser) (input : Value) : (Job.call parser input).AllAccounted fuel := by
  intro done stack state last ended
  cases fuel with
  | zero => simp [Job.point, Progress.call] at ended
  | succ fuel =>
    rw [Job.point, Progress.call, run_succ_next] at ended
    cases label : parser.label? with
    | none =>
      rw [step_call_of_unlabelled label] at ended
      obtain ⟨own, body, left, less, ended⟩ :=
        fewer fuel (Nat.lt_succ_self fuel) (.bare parser input) [] stack state last ended
      exact ⟨own, .unlabelled label body, left, by omega, ended⟩
    | some name =>
      rw [step_call_of_labelled label] at ended
      obtain ⟨own, body, left, less, ended⟩ :=
        fewer fuel (Nat.lt_succ_self fuel) (.under name (.bare parser input)) [] stack state last
          ended
      exact ⟨own, .labelled label body, left, by omega, ended⟩

/-- **What the machine does, evaluates.** Every run that ends, from the point of a job and with any
work pending, holds an evaluation of the job. -/
theorem Job.allAccounted (fuel : Nat) (job : Job) : job.AllAccounted fuel := by
  -- The fuel falls with each call; at the same fuel a job only passes to a call or to its inside.
  induction fuel using Nat.strong_induction_on generalizing job with
  | h fuel fewer =>
    have calls := fun parser input => Job.call_accounted fewer parser input
    induction job with
    | call parser input => exact calls parser input
    | bare parser input => exact Job.bare_accounted fewer calls parser input
    | under label job inside => exact inside.under label
    | all entry parsers input => exact Job.all_accounted fewer calls entry parsers input
    | any first others input => exact Job.any_accounted fewer calls first others input
    | loop body input => exact Job.loop_accounted fewer calls body input

/-! ## Evaluation and runs to the end -/

/-- An ending that no pending work waits for ends the run. -/
theorem Ending.ending_resume_nil (last : Ending) : (last.resume []).ending = Part.some last := by
  obtain ⟨answer, state⟩ := last
  cases answer with
  | error fault => exact ending_raised fault state
  | ok outcome => exact ending_answer_nil outcome state

/-- **Evaluation is what a run to the end gives.** -/
theorem mem_ending_call_iff {parser : Parser} {input : Value} {state : State} {last : Ending} :
    last ∈ (Progress.call parser input [] state).ending
      ↔ Evaluates (.call parser input) state last := by
  constructor
  · intro ends
    obtain ⟨fuel, ended⟩ := mem_ending_iff.1 ends
    obtain ⟨own, evaluates, left, -, ended⟩ :=
      Job.allAccounted fuel (.call parser input) [] [] state last ended
    have same : last ∈ (own.resume []).ending := mem_ending_iff.2 ⟨left, ended⟩
    rw [Ending.ending_resume_nil, Part.mem_some_iff] at same
    rw [same]
    exact evaluates
  · intro evaluates
    have reaches : Reaches (.call parser input [] state) (last.resume []) :=
      evaluates.reaches [] []
    rw [ending_eq_of_reaches reaches, Ending.ending_resume_nil]
    exact Part.mem_some last

/-- A run ends in some way exactly if the evaluation does. -/
theorem exists_run_iff {parser : Parser} {input : Value} {state : State} {last : Ending} :
    (∃ fuel, run fuel (.call parser input) [] state = some last)
      ↔ Evaluates (.call parser input) state last := by
  rw [← mem_ending_call_iff, mem_ending_iff]
  rfl

/-- A call evaluates in at most one way. -/
theorem Evaluates.unique {parser : Parser} {input : Value} {state : State} {first second : Ending}
    (one : Evaluates (.call parser input) state first)
    (other : Evaluates (.call parser input) state second) : first = second :=
  Part.mem_unique (mem_ending_call_iff.2 one) (mem_ending_call_iff.2 other)

/-- A call that evaluates is driven as the end of the evaluation is. -/
theorem Evaluates.drive_eq {parser : Parser} {input : Value} {state : State} {last : Ending}
    (evaluates : Evaluates (.call parser input) state last) (succeed fail : Continuation α)
    (stack : List Frame) :
    (Progress.call parser input stack state).drive succeed fail
      = (last.resume stack).drive succeed fail :=
  drive_eq_of_reaches (evaluates.reaches [] stack) succeed fail

/-- A call that evaluates in no way goes on for ever, whatever work is pending. -/
theorem drive_eq_none {parser : Parser} {input : Value} {state : State}
    (none : ¬ ∃ last, Evaluates (.call parser input) state last) (succeed fail : Continuation α)
    (stack : List Frame) :
    (Progress.call parser input stack state).drive succeed fail = Part.none := by
  have endless : (Progress.call parser input stack state).ending = Part.none := by
    refine Part.eq_none_iff.2 fun last ends => none ?_
    obtain ⟨fuel, ended⟩ := mem_ending_iff.1 ends
    obtain ⟨own, evaluates, -⟩ :=
      Job.allAccounted fuel (.call parser input) [] stack state last ended
    exact ⟨own, evaluates⟩
  rw [Progress.drive, endless, Part.bind_none]

/-- **The machine implements evaluation**, for every parser, input and state, with any work pending
and for every pair of final continuations. Evaluation is deterministic. Where it derives a match or
a failure, driving the call is driving that outcome; with no work pending this is the continuation
itself, applied to the value and the rest. Where it derives a fault, the run raises that fault past
all pending work and past both continuations. Where it derives nothing, the run goes on for ever.
A run to the end therefore answers with exactly what evaluation derives. -/
theorem machine_implements_evaluation (parser : Parser) (input : Value) (state : State) :
    (∀ first second, Evaluates (.call parser input) state first →
      Evaluates (.call parser input) state second → first = second) ∧
    (∀ (α : Type) (succeed fail : Continuation α) (stack : List Frame),
      (∀ outcome after, Evaluates (.call parser input) state ⟨.ok outcome, after⟩ →
        (Progress.call parser input stack state).drive succeed fail
          = (Progress.answer outcome stack after).drive succeed fail) ∧
      (∀ fault after, Evaluates (.call parser input) state ⟨.error fault, after⟩ →
        (Progress.call parser input stack state).drive succeed fail
          = Part.some (.error fault, after)) ∧
      ((¬ ∃ last, Evaluates (.call parser input) state last) →
        (Progress.call parser input stack state).drive succeed fail = Part.none)) ∧
    (∀ (α : Type) (succeed fail : Continuation α),
      (∀ value rest after, Evaluates (.call parser input) state ⟨.ok (.ok value rest), after⟩ →
        (Progress.call parser input [] state).drive succeed fail = succeed value rest after) ∧
      (∀ payload rest after,
        Evaluates (.call parser input) state ⟨.ok (.fail payload rest), after⟩ →
        (Progress.call parser input [] state).drive succeed fail = fail payload rest after)) ∧
    (∀ last, (∃ fuel, run fuel (.call parser input) [] state = some last)
      ↔ Evaluates (.call parser input) state last) := by
  refine ⟨fun first second one other => one.unique other, fun α succeed fail stack => ⟨?_, ?_, ?_⟩,
    fun α succeed fail => ⟨?_, ?_⟩, fun last => exists_run_iff⟩
  · intro outcome after evaluates
    exact evaluates.drive_eq succeed fail stack
  · intro fault after evaluates
    -- a fault passes both continuations by
    rw [evaluates.drive_eq, Ending.resume_error, Progress.drive, ending_raised, Part.bind_some]
    rfl
  · intro none
    exact drive_eq_none none succeed fail stack
  · intro value rest after evaluates
    -- with nothing pending the outcome goes to one of the two continuations
    rw [evaluates.drive_eq, Ending.resume_ok, Progress.drive, ending_answer_nil, Part.bind_some]
    rfl
  · intro payload rest after evaluates
    rw [evaluates.drive_eq, Ending.resume_ok, Progress.drive, ending_answer_nil, Part.bind_some]
    rfl

end Peg
