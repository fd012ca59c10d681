import Peg.Proofs.CallTree
import Peg.Proofs.Observation
import Peg.Proofs.QuietParse

/-! # Printed traces

A tracer that records accepts every event. One that prints refuses the events that cannot be
written, and that stops the parse. Up to there the two parses are the same.

* **`Progress.watchedBy`** puts another tracer in the place of the one that watches a run.
* **`step_retraced`**: a step of a recorded run is a step of the run with the other tracer, unless
  that tracer refuses the event which the step tells.
* **`exists_printed`**: a printed parse is a recorded one, cut at the first event that cannot be
  printed.
* **`exists_traces`**: so all events of the recorded parse decide whether a printed parse answers
  what one without a tracer answers. -/

namespace Peg

/-! ## Another tracer -/

/-- The context with another tracer, if it has one. -/
def Context.watchedBy (tracer : Tracer) (context : Context) : Context :=
  { context with tracer := context.tracer.map fun _ => tracer }

/-- The state with another tracer, if it has one. -/
def State.watchedBy (tracer : Tracer) (state : State) : State :=
  { state with context := state.context.map (·.watchedBy tracer) }

/-- The frame with another tracer: only the context around a nested parse is kept in frames. -/
def Frame.watchedBy (tracer : Tracer) : Frame → Frame
  | .unnest form outer rest => .unnest form (outer.map (·.watchedBy tracer)) rest
  | frame => frame

/-- The point of a run with another tracer. -/
def Progress.watchedBy (tracer : Tracer) : Progress → Progress
  | .next control stack state =>
    .next control (stack.map (·.watchedBy tracer)) (state.watchedBy tracer)
  | .finished outcome state => .finished outcome (state.watchedBy tracer)
  | .raised fault state => .raised fault (state.watchedBy tracer)

/-- Whoever watches the run records it. -/
def Progress.IsRecorded (progress : Progress) : Prop :=
  progress.watchedBy .recording = progress

/-- The events are those told before, and perhaps one more that the tracer accepts. -/
inductive Tracer.Accepts (tracer : Tracer) (told : List Event) : List Event → Prop
  /-- Nothing is told. -/
  | nothing : Accepts tracer told told
  /-- One event is told. -/
  | one {event : Event} (accepted : tracer told event = none) : Accepts tracer told (event :: told)

/-- A tracer that accepts adds events in front of those that were told. -/
theorem Tracer.Accepts.suffix {tracer : Tracer} {told events : List Event}
    (accepts : tracer.Accepts told events) : told <:+ events := by
  cases accepts with
  | nothing => exact List.suffix_rfl
  | one => exact List.suffix_cons _ _

namespace State

variable {state : State} {tracer : Tracer}

/-- The state is watched by the given tracer, if it was watched at all. -/
theorem watchedBy_tracer? (state : State) (tracer : Tracer) :
    (state.watchedBy tracer).tracer? = state.tracer?.map fun _ => tracer := by
  obtain ⟨workspace, context, events⟩ := state
  cases context <;> rfl

/-- In a context that was watched the other tracer takes the place of the first. -/
theorem watchedBy_current {context : Context} {watcher : Tracer}
    (current : state.context = some context) (watched : context.tracer = some watcher)
    (tracer : Tracer) :
    (state.watchedBy tracer).context = some (context.watchedBy tracer)
      ∧ (context.watchedBy tracer).tracer = some tracer := by
  constructor
  · rw [watchedBy, current, Option.map_some]
  · rw [Context.watchedBy, watched, Option.map_some]

/-- The depth is set alike whoever watches. -/
theorem watchedBy_setDepth (state : State) (tracer : Tracer) (depth : Nat) :
    (state.watchedBy tracer).setDepth depth = (state.setDepth depth).watchedBy tracer := by
  obtain ⟨workspace, context, events⟩ := state
  cases context <;> rfl

/-- The record is the same whoever watches. -/
theorem watchedBy_saveRecord (state : State) (tracer : Tracer) :
    (state.watchedBy tracer).saveRecord = state.saveRecord := by
  obtain ⟨workspace, context, events⟩ := state
  cases context <;> rfl

/-- A record is brought back alike whoever watches. -/
theorem watchedBy_restoreRecord (state : State) (tracer : Tracer) (saved : Option Record) :
    (state.watchedBy tracer).restoreRecord saved
      = (state.restoreRecord saved).watchedBy tracer := by
  obtain ⟨workspace, context, events⟩ := state
  cases saved <;> cases context <;> rfl

/-- A failure is noted alike whoever watches. -/
theorem watchedBy_note (state : State) (tracer : Tracer) (payload rest : Value) :
    (state.watchedBy tracer).note payload rest
      = (state.note payload rest).map (·.watchedBy tracer) := by
  obtain ⟨workspace, context, events⟩ := state
  cases context with
  | none => rfl
  | some context =>
    obtain ⟨source, watcher, depth, record⟩ := context
    unfold note
    cases rest with
    | null => rfl
    | _ =>
      dsimp only [watchedBy, Context.watchedBy, Option.map_some]
      split <;> rfl

/-- A call is remembered alike whoever watches. -/
theorem watchedBy_remember (state : State) (tracer : Tracer) (memory : Option Nat)
    (input : Value) :
    (state.watchedBy tracer).remember memory input
      = ((state.remember memory input).1, (state.remember memory input).2.watchedBy tracer) := by
  cases memory <;> rfl

/-- A success or a failure is made from the whole input and the record. -/
theorem watchedBy_conclude (state : State) (tracer : Tracer) (outcome : Outcome) :
    (state.watchedBy tracer).conclude outcome = state.conclude outcome := by
  obtain ⟨workspace, context, events⟩ := state
  cases outcome <;> cases context <;> rfl

/-- A note tells the tracer nothing. -/
theorem note_events {noted : State} {payload rest : Value}
    (done : state.note payload rest = .ok noted) : noted.events = state.events := by
  obtain rfl | ⟨context, -, rfl⟩ := note_cases done <;> rfl

/-- Neither does bringing back a record. -/
@[simp] theorem restoreRecord_events (state : State) (saved : Option Record) :
    (state.restoreRecord saved).events = state.events := by
  cases saved <;> rfl

section Emit

variable {context : Context} {watcher : Tracer} {kind : EventKind} {name : String} {depth : Nat}
  {rest value : Value} {position : Int} {fault : Fault}

/-- An event without a place is reported to no tracer: it is a fault. -/
theorem emit_of_misplaced (current : state.context = some context)
    (watched : context.tracer = some watcher)
    (misplaced : Failure.positionIn context.source rest = .error fault) :
    state.emit kind name depth rest value = .error fault := by
  rw [emit_of_watched current watched, misplaced]
  rfl

/-- An event that the tracer accepts is kept. -/
theorem emit_of_accepted (current : state.context = some context)
    (watched : context.tracer = some watcher)
    (placed : Failure.positionIn context.source rest = .ok position)
    (accepted : watcher state.events ⟨kind, name, depth, position, value⟩ = none) :
    state.emit kind name depth rest value
      = .ok { state with events := ⟨kind, name, depth, position, value⟩ :: state.events } := by
  rw [emit_of_watched current watched, placed]
  simp only [Except.bind, accepted]

/-- An event that the tracer refuses is a fault. -/
theorem emit_of_refused (current : state.context = some context)
    (watched : context.tracer = some watcher)
    (placed : Failure.positionIn context.source rest = .ok position)
    (refused : watcher state.events ⟨kind, name, depth, position, value⟩ = some fault) :
    state.emit kind name depth rest value = .error fault := by
  rw [emit_of_watched current watched, placed]
  simp only [Except.bind, refused]

end Emit

/-- An event is told to both tracers, or the other one refuses it. -/
theorem watchedBy_emit (recorded : state.watchedBy .recording = state) (tracer : Tracer)
    (kind : EventKind) (name : String) (depth : Nat) (rest value : Value) :
    (state.watchedBy tracer).emit kind name depth rest value
        = (state.emit kind name depth rest value).map (·.watchedBy tracer)
      ∧ (∀ told, state.emit kind name depth rest value = .ok told →
        tracer.Accepts state.events told.events)
    ∨ ∃ event told fault, state.emit kind name depth rest value = .ok told
      ∧ told.events = event :: state.events ∧ tracer state.events event = some fault
      ∧ (state.watchedBy tracer).emit kind name depth rest value = .error fault := by
  cases present : state.tracer? with
  | none =>
    have presentToo : (state.watchedBy tracer).tracer? = none := by
      rw [watchedBy_tracer?, present, Option.map_none]
    rw [emit_of_unwatched present, emit_of_unwatched presentToo]
    exact .inl ⟨rfl, fun told done => Except.ok.inj done ▸ .nothing⟩
  | some watcher =>
    obtain ⟨context, current, watched⟩ := Option.bind_eq_some_iff.1 present
    obtain ⟨currentToo, watchedToo⟩ := watchedBy_current current watched tracer
    cases placed : Failure.positionIn context.source rest with
    | error fault =>
      rw [emit_of_misplaced current watched placed,
        emit_of_misplaced currentToo watchedToo placed]
      exact .inl ⟨rfl, fun told done => by cases done⟩
    | ok position =>
      -- the tracer that is there accepts every event
      have accepted : watcher state.events ⟨kind, name, depth, position, value⟩ = none := by
        have same := congrArg State.tracer? recorded
        rw [watchedBy_tracer?, present, Option.map_some] at same
        rw [← Option.some.inj same]
        rfl
      have told := emit_of_accepted current watched placed accepted
      cases other : tracer state.events ⟨kind, name, depth, position, value⟩ with
      | none =>
        rw [told, emit_of_accepted currentToo watchedToo placed other]
        exact .inl ⟨rfl, fun told done => Except.ok.inj done ▸ .one other⟩
      | some fault =>
        exact .inr ⟨_, _, fault, told, rfl, other,
          emit_of_refused currentToo watchedToo placed other⟩

end State

/-! ## One step -/

/-- What a step of a run with another tracer leads to, if the recorded run comes to the given point
and some events were told before: the same point, or a fault with which the tracer refuses the next
event of the recorded run. -/
inductive Progress.Retraced (tracer : Tracer) (told : List Event) : Progress → Progress → Prop
  /-- The tracer has accepted what was told. -/
  | same {progress : Progress} (keeps : tracer.Accepts told progress.state.events) :
      Retraced tracer told progress (progress.watchedBy tracer)
  /-- The tracer has refused an event. -/
  | refused {progress : Progress} {event : Event} {fault : Fault} {later : State}
      (tells : progress.state.events = event :: told) (refuses : tracer told event = some fault)
      (stays : later.events = told) : Retraced tracer told progress (.raised fault later)

/-- What is done next tells nothing itself, and does not depend on the tracer. -/
structure TellsNothing (next : List Frame → State → Progress) : Prop where
  /-- The tracer makes no difference. -/
  watchedBy_eq : ∀ tracer stack state,
    next (stack.map (·.watchedBy tracer)) (state.watchedBy tracer)
      = (next stack state).watchedBy tracer
  /-- Nothing is told. -/
  events_eq : ∀ stack state, (next stack state).state.events = state.events

namespace TellsNothing

variable {next : List Frame → State → Progress}

/-- What tells the tracer nothing is retraced: both sides go on alike, and nothing is added to what
was accepted. -/
theorem retraced (silent : TellsNothing next) (tracer : Tracer) (stack : List Frame)
    {state : State} {told : List Event} (keeps : tracer.Accepts told state.events) :
    Progress.Retraced tracer told (next stack state)
      (next (stack.map (·.watchedBy tracer)) (state.watchedBy tracer)) := by
  rw [silent.watchedBy_eq]
  refine .same ?_
  rwa [silent.events_eq]

/-- Calling a parser tells nothing by itself. -/
theorem call (parser : Parser) (input : Value) : TellsNothing (Progress.call parser input) :=
  ⟨fun _ _ _ => rfl, fun _ _ => rfl⟩

/-- Most parsers leave a frame and call another parser. -/
theorem callUnder {frame : Frame} (same : ∀ tracer, frame.watchedBy tracer = frame)
    (parser : Parser) (input : Value) :
    TellsNothing fun stack state => .call parser input (frame :: stack) state where
  watchedBy_eq tracer stack state := by
    simp only [Progress.call, Progress.watchedBy, List.map_cons, same]
  events_eq _ _ := rfl

/-- Handing an outcome on tells nothing by itself. -/
theorem answer (outcome : Outcome) : TellsNothing (Progress.answer outcome) :=
  ⟨fun _ _ _ => rfl, fun _ _ => rfl⟩

/-- Nor is anything told by going on inside a labelled parser. -/
theorem inside (silent : TellsNothing next) (label : String) (depth : Nat) :
    TellsNothing fun stack state => next (.exit label depth :: stack) (state.setDepth (depth + 1))
    where
  watchedBy_eq tracer stack state := by
    rw [State.watchedBy_setDepth]
    exact silent.watchedBy_eq tracer (.exit label depth :: stack) _
  events_eq stack state := silent.events_eq _ _

/-- A terminal tells nothing. -/
theorem terminal (leaf : Terminal) (input : Value) : TellsNothing (leaf.run input) where
  watchedBy_eq tracer stack state := by
    simp only [Terminal.run]
    cases leaf.verdict input with
    | error fault => rfl
    | ok verdict =>
      cases verdict with
      | matched value rest => rfl
      | missed payload =>
        simp only [Progress.after, State.watchedBy_note]
        cases state.note payload input <;> rfl
  events_eq stack state := by
    simp only [Terminal.run]
    cases leaf.verdict input with
    | error fault => rfl
    | ok verdict =>
      cases verdict with
      | matched value rest => rfl
      | missed payload =>
        simp only [Progress.after]
        cases noted : state.note payload input with
        | error fault => rfl
        | ok noted => exact State.note_events noted

/-- A terminal written by hand tells nothing. -/
theorem foreign (leaf : Foreign) (input : Value) : TellsNothing (leaf.run input) where
  watchedBy_eq tracer stack state := by
    simp only [Foreign.run, State.watchedBy_remember]
    cases leaf.respond (state.remember leaf.memory input).1 input <;> rfl
  events_eq stack state := by
    have same : (state.remember leaf.memory input).2.events = state.events := by
      cases leaf.memory <;> rfl
    simp only [Foreign.run]
    cases leaf.respond (state.remember leaf.memory input).1 input <;> exact same

/-- A labelled parser tells nothing apart from its own entry and exit. -/
theorem start {parser : Parser} (notRule : ∀ cell, parser ≠ .rule cell) (input : Value) :
    TellsNothing (parser.start input) := by
  cases parser with
  | terminal leaf => exact terminal leaf input
  | foreign leaf => exact foreign leaf input
  | sequence first others => exact callUnder (fun _ => rfl) first input
  | choice first others => exact callUnder (fun _ => rfl) first input
  | star body => exact callUnder (fun _ => rfl) body input
  | plus body => exact callUnder (fun _ => rfl) body input
  | optional body absent => exact callUnder (fun _ => rfl) body input
  | ahead body => exact callUnder (fun _ => rfl) body input
  | notAhead body =>
    refine ⟨fun tracer stack state => ?_, fun _ _ => rfl⟩
    simp only [Parser.start, State.watchedBy_saveRecord]
    rfl
  | transform body name function => exact callUnder (fun _ => rfl) body input
  | nested body inner form => exact callUnder (fun _ => rfl) body input
  | traced name body => exact call body input
  | rule cell => exact absurd rfl (notRule cell)
  | constant value => exact ⟨fun _ _ _ => rfl, fun _ _ => rfl⟩

end TellsNothing

namespace Progress

variable {state : State} {stack : List Frame} {tracer : Tracer}

/-- What is told before the run goes on is told to both tracers, or the other one refuses it. -/
theorem emit_retraced (recorded : state.watchedBy .recording = state)
    {next : List Frame → State → Progress} (silent : TellsNothing next) (kind : EventKind)
    (name : String) (depth : Nat) (rest value : Value) :
    Retraced tracer state.events
      (.after state (state.emit kind name depth rest value) (next stack))
      (.after (state.watchedBy tracer) ((state.watchedBy tracer).emit kind name depth rest value)
        (next (stack.map (·.watchedBy tracer)))) := by
  rcases State.watchedBy_emit recorded tracer kind name depth rest value with
    ⟨same, keeps⟩ | ⟨event, told, fault, done, tells, refuses, stops⟩
  · rw [same]
    cases done : state.emit kind name depth rest value with
    | error fault => exact .same .nothing
    | ok told => exact silent.retraced tracer stack (keeps told done)
  · rw [done, stops]
    exact .refused ((silent.events_eq _ _).trans tells) refuses rfl

/-- The entry of a labelled parser is retraced: the other tracer accepts the event that was
recorded, or it stops the run there. -/
theorem enter_retraced (recorded : state.watchedBy .recording = state) (label : String)
    (input : Value) {next : List Frame → State → Progress} (silent : TellsNothing next) :
    Retraced tracer state.events (state.enter label input stack next)
      ((state.watchedBy tracer).enter label input (stack.map (·.watchedBy tracer)) next) := by
  cases present : state.tracer? with
  | none =>
    rw [State.enter_of_unwatched present, State.enter_of_unwatched]
    · exact silent.retraced tracer stack .nothing
    · rw [State.watchedBy_tracer?, present, Option.map_none]
  | some watcher =>
    obtain ⟨context, current, watched⟩ := Option.bind_eq_some_iff.1 present
    obtain ⟨currentToo, watchedToo⟩ := State.watchedBy_current current watched tracer
    rw [State.enter_of_watched current (Option.isSome_of_eq_some watched),
      State.enter_of_watched currentToo (Option.isSome_of_eq_some watchedToo)]
    exact emit_retraced recorded (silent.inside label context.depth) _ _ _ _ _

/-- The call of a rule is retraced, with the building of the rule. -/
theorem callRule_retraced (recorded : state.watchedBy .recording = state) (cell : Nat)
    (input : Value) :
    Retraced tracer state.events (callRule cell input stack state)
      (callRule cell input (stack.map (·.watchedBy tracer)) (state.watchedBy tracer)) := by
  rw [callRule, callRule, show (state.watchedBy tracer).workspace = state.workspace from rfl]
  cases found : (Workspace.resolve cell).run.run state.workspace with
  | mk answer workspace =>
    cases answer with
    | error fault => exact .same .nothing
    | ok body =>
      have resolved : State.watchedBy .recording { state with workspace := workspace }
          = { state with workspace := workspace } :=
        congrArg (fun state => { state with workspace := workspace }) recorded
      exact enter_retraced resolved _ input (.call body input)

/-- The call of a parser is retraced. -/
theorem call_retraced (recorded : state.watchedBy .recording = state) (parser : Parser)
    (input : Value) :
    Retraced tracer state.events (parser.call input stack state)
      (parser.call input (stack.map (·.watchedBy tracer)) (state.watchedBy tracer)) := by
  by_cases isRule : ∃ cell, parser = .rule cell
  · obtain ⟨cell, rfl⟩ := isRule
    exact callRule_retraced recorded cell input
  · have silent := TellsNothing.start (not_exists.1 isRule) input
    unfold Parser.call
    split
    · exact enter_retraced recorded _ input silent
    · exact silent.retraced tracer stack .nothing

/-- The exit from a labelled parser is retraced like its entry. -/
theorem exit_retraced (recorded : state.watchedBy .recording = state) (label : String)
    (depth : Nat) (outcome : Outcome) :
    Retraced tracer state.events ((Frame.exit label depth).receive outcome stack state)
      ((Frame.exit label depth).receive outcome (stack.map (·.watchedBy tracer))
        (state.watchedBy tracer)) := by
  have left : (state.setDepth depth).watchedBy .recording = state.setDepth depth := by
    rw [← State.watchedBy_setDepth, recorded]
  cases outcome <;>
  · simp only [Frame.receive, State.watchedBy_setDepth]
    exact emit_retraced left (.answer _) _ _ _ _ _

/-- All other frames tell nothing. -/
theorem receive_retraced {frame : Frame} (notExit : ∀ label depth, frame ≠ .exit label depth)
    (outcome : Outcome) :
    Retraced tracer state.events (frame.receive outcome stack state)
      ((frame.watchedBy tracer).receive outcome (stack.map (·.watchedBy tracer))
        (state.watchedBy tracer)) := by
  cases frame with
  | exit label depth => exact absurd rfl (notExit label depth)
  | sequence entry done others =>
    cases outcome with
    | fail payload rest => cases others <;> exact .same .nothing
    | ok value rest => cases others <;> exact .same .nothing
  | choice entry others =>
    cases outcome with
    | ok value rest => exact .same .nothing
    | fail payload rest => cases others <;> exact .same .nothing
  | loop body done rest => cases outcome <;> exact .same .nothing
  | plus body entry => cases outcome <;> exact .same .nothing
  | optional absent entry => cases outcome <;> exact .same .nothing
  | ahead entry => cases outcome <;> exact .same .nothing
  | notAhead entry saved =>
    cases outcome with
    | ok value rest =>
      simp only [Frame.watchedBy, Frame.receive, State.watchedBy_note]
      cases noted : state.note value entry with
      | error fault => exact .same .nothing
      | ok noted =>
        refine .same ?_
        exact State.note_events noted ▸ .nothing
    | fail payload rest =>
      simp only [Frame.watchedBy, Frame.receive, State.watchedBy_restoreRecord]
      refine .same ?_
      exact (state.restoreRecord_events saved) ▸ .nothing
  | transform function =>
    cases outcome with
    | fail payload rest => exact .same .nothing
    | ok value rest =>
      simp only [Frame.watchedBy, Frame.receive]
      cases function value <;> exact .same .nothing
  | nest inner form => cases outcome <;> exact .same .nothing
  | unnest form outer rest =>
    have same : form.value (state.watchedBy tracer).context outcome
        = form.value state.context outcome := by
      obtain ⟨workspace, context, events⟩ := state
      cases form <;> cases outcome <;> cases context <;> rfl
    simp only [Frame.watchedBy, Frame.receive, same]
    cases form.value state.context outcome <;> exact .same .nothing

/-- **A step of a recorded run is a step of the run with another tracer**, unless that tracer
refuses what the step tells. -/
theorem step_retraced (tracer : Tracer) (control : Control)
    (recorded : (Progress.next control stack state).IsRecorded) :
    Retraced tracer state.events (step control stack state)
      (step control (stack.map (·.watchedBy tracer)) (state.watchedBy tracer)) := by
  have here : state.watchedBy .recording = state := congrArg Progress.state recorded
  cases control with
  | call parser input => exact call_retraced here parser input
  | answer outcome =>
    cases stack with
    | nil => exact .same .nothing
    | cons frame stack =>
      by_cases isExit : ∃ label depth, frame = .exit label depth
      · obtain ⟨label, depth, rfl⟩ := isExit
        exact exit_retraced here label depth outcome
      · exact receive_retraced (fun label depth same => isExit ⟨label, depth, same⟩) outcome

/-- What is recorded stays recorded, and nothing that was told is taken back. -/
theorem IsRecorded.step {control : Control}
    (recorded : (Progress.next control stack state).IsRecorded) :
    (Peg.step control stack state).IsRecorded
      ∧ state.events <:+ (Peg.step control stack state).state.events := by
  have retraced := step_retraced .recording control recorded
  have again : Peg.step control (stack.map (·.watchedBy .recording)) (state.watchedBy .recording)
      = Peg.step control stack state := by
    obtain ⟨-, sameStack, sameState⟩ := Progress.next.inj
      (recorded : Progress.next _ _ _ = Progress.next _ _ _)
    rw [sameStack, sameState]
  generalize Peg.step control (stack.map _) (state.watchedBy _) = second at retraced again
  cases retraced with
  | same keeps => exact ⟨again, keeps.suffix⟩
  | refused _ refuses => cases refuses

end Progress

/-! ## Whole runs -/

namespace Progress

/-- Along a recorded run nothing that was told is taken back. -/
theorem IsRecorded.events_suffix {fuel : Nat} {progress : Progress} {last : Ending}
    (recorded : progress.IsRecorded) (ended : progress.run fuel = some last) :
    progress.state.events <:+ last.state.events := by
  induction fuel generalizing progress with
  | zero =>
    cases progress with
    | next control stack state => cases ended
    | finished outcome state => cases ended; exact List.suffix_rfl
    | raised fault state => cases ended; exact List.suffix_rfl
  | succ fuel inductionHypothesis =>
    cases progress with
    | next control stack state =>
      rw [run_succ_next] at ended
      obtain ⟨later, keeps⟩ := recorded.step
      exact keeps.trans (inductionHypothesis later ended)
    | finished outcome state => cases ended; exact List.suffix_rfl
    | raised fault state => cases ended; exact List.suffix_rfl

end Progress

/-- The second end is that of the printed run, if the first one is that of the recorded run. -/
structure Ending.PrintedAs (last printed : Ending) : Prop where
  /-- The events up to the first one that cannot be printed are told. -/
  events_eq : printed.state.events.reverse = last.state.events.reverse.takeWhile Event.isPrintable
  /-- If all can be printed, the two runs end alike. -/
  same : last.state.events.all Event.isPrintable →
    printed = ⟨last.answer, last.state.watchedBy .printing⟩
  /-- Otherwise the tracer stops the printed run. -/
  stopped : last.state.events.all Event.isPrintable = false →
    printed.answer = .error .integerUnwritable

/-- A run that tells only what can be printed ends as it does. -/
theorem Ending.printedAs_self {last : Ending} (all : last.state.events.all Event.isPrintable) :
    last.PrintedAs ⟨last.answer, last.state.watchedBy .printing⟩ where
  events_eq := by
    rw [List.takeWhile_eq_self_iff.2]
    · rfl
    · intro event member
      exact List.all_eq_true.1 all event (List.mem_reverse.1 member)
  same _ := rfl
  stopped some := by
    rw [all] at some
    cases some

/-- A run that is stopped at the first event which cannot be printed. -/
theorem Ending.printedAs_of_refused {last : Ending} {event : Event} {later : State}
    (tells : event :: later.events <:+ last.state.events)
    (all : later.events.all Event.isPrintable) (refused : event.isPrintable = false) :
    last.PrintedAs ⟨.error .integerUnwritable, later⟩ := by
  obtain ⟨more, whole⟩ := tells
  refine ⟨?_, fun printable => ?_, fun _ => rfl⟩
  · rw [← whole, List.reverse_append, List.reverse_cons, List.append_assoc,
      List.takeWhile_append_of_pos, List.singleton_append, List.takeWhile_cons_of_neg,
      List.append_nil]
    · rw [refused]
      exact Bool.false_ne_true
    · exact fun event member => List.all_eq_true.1 all event (List.mem_reverse.1 member)
  · rw [← whole, List.all_append, List.all_cons, refused] at printable
    simp at printable

/-- What the printing tracer refuses cannot be printed. -/
theorem Tracer.isPrintable_of_refused {told : List Event} {event : Event} {fault : Fault}
    (refuses : printing told event = some fault) :
    event.isPrintable = false ∧ fault = .integerUnwritable := by
  rw [printing] at refuses
  split at refuses
  · cases refuses
  · rename_i refused
    exact ⟨Bool.eq_false_of_not_eq_true refused, (Option.some.inj refuses).symm⟩

/-- What the printing tracer accepts can be printed. -/
theorem Tracer.Accepts.printable {told events : List Event}
    (accepts : Tracer.printing.Accepts told events) (all : told.all Event.isPrintable) :
    events.all Event.isPrintable := by
  cases accepts with
  | nothing => exact all
  | one accepted =>
    rw [List.all_cons, all, Bool.and_true]
    by_contra refused
    rw [printing, if_neg refused] at accepted
    cases accepted

/-- **A printed run is a recorded run, cut at the first event that cannot be printed.** By induction
on the steps; what has been told so far could be printed. -/
theorem Progress.IsRecorded.exists_printed {fuel : Nat} {progress : Progress} {last : Ending}
    (recorded : progress.IsRecorded) (printable : progress.state.events.all Event.isPrintable)
    (ended : progress.run fuel = some last) :
    ∃ printed, (progress.watchedBy .printing).run fuel = some printed ∧ last.PrintedAs printed := by
  induction fuel generalizing progress with
  | zero =>
    cases progress with
    | next control stack state => cases ended
    | finished outcome state => cases ended; exact ⟨_, rfl, Ending.printedAs_self printable⟩
    | raised fault state => cases ended; exact ⟨_, rfl, Ending.printedAs_self printable⟩
  | succ fuel inductionHypothesis =>
    cases progress with
    | finished outcome state => cases ended; exact ⟨_, rfl, Ending.printedAs_self printable⟩
    | raised fault state => cases ended; exact ⟨_, rfl, Ending.printedAs_self printable⟩
    | next control stack state =>
      rw [run_succ_next] at ended
      have retraced := step_retraced .printing control recorded
      obtain ⟨later, -⟩ := recorded.step
      rw [watchedBy, run_succ_next]
      generalize Peg.step control (stack.map _) (state.watchedBy _) = second at retraced ⊢
      cases retraced with
      | same accepts => exact inductionHypothesis later (accepts.printable printable) ended
      | refused tells refuses stays =>
        -- the recorded run goes on, but the event that was refused here stays on its list
        obtain ⟨refused, rfl⟩ := Tracer.isPrintable_of_refused refuses
        refine ⟨_, rfl, Ending.printedAs_of_refused ?_ (stays ▸ printable) refused⟩
        rw [stays, ← tells]
        exact later.events_suffix ended

/-! ## Parses -/

section Parse

variable {workspace : Workspace} {parser : Parser} {input : Value} {fuel : Nat}

/-- **A printed parse is a recorded parse, cut at the first event that cannot be printed.** If there
is one the answer is a fault, and otherwise it is the same. -/
theorem exists_printed {recorded : Report Success}
    (ended : parse fuel workspace parser input (some .recording) = some recorded) :
    ∃ printed, parse fuel workspace parser input (some .printing) = some printed
      ∧ printed.events = recorded.events.takeWhile Event.isPrintable
      ∧ printed.answer = if recorded.events.all Event.isPrintable then recorded.answer
        else .error .integerUnwritable := by
  obtain ⟨last, ran, rfl⟩ := Option.map_eq_some_iff.1 ended
  have recorded : (Progress.call parser input []
      (.initial workspace input (some .recording))).IsRecorded := rfl
  obtain ⟨printed, endedToo, printedAs⟩ := recorded.exists_printed rfl ran
  refine ⟨printed.report State.conclude, congrArg (Option.map _) endedToo, printedAs.events_eq, ?_⟩
  simp only [Ending.report, List.all_reverse]
  split
  · rename_i all
    rw [printedAs.same all]
    exact congrArg last.answer.bind (funext (State.watchedBy_conclude _ _))
  · rename_i some
    rw [printedAs.stopped (Bool.eq_false_of_not_eq_true some)]
    rfl

/-- The answer of a recorded parse is that of a parse without a tracer. -/
theorem exists_recorded (builtIn : parser.BuiltIn) (rules : workspace.BuiltIn)
    (sequence : input.isSequence) {report : Report Success}
    (ended : parse fuel workspace parser input none = some report) :
    ∃ enough recorded, parse enough workspace parser input (some .recording) = some recorded
      ∧ recorded.answer = report.answer := by
  have fair : (Progress.call parser input []
      (.initial workspace input (some .recording))).AllCalls (Call.Fair (some .recording)) := by
    intro steps call made
    refine ⟨(tracked_initial builtIn rules input (some .recording)).obeys steps call made, ?_⟩
    intro tracer same
    rw [← Option.some.inj same]
    cases call <;> trivial
  -- both runs are the quiet run with something hidden, and so they are observed to end alike
  have muted := Progress.muted_initial (show Veil.tracer ≠ .nothing by simp) workspace parser
    sequence (some .recording)
  have same : (Set.range fun fuel =>
      (parse fuel workspace parser input (some .recording)).map Report.result)
        = Set.range fun fuel => (parse fuel workspace parser input none).map Report.result := by
    rw [Progress.range_parse, Progress.range_parse,
      muted.observations_eq fair Progress.Muted.conclude_eq]
    rfl
  have seen : some report.result ∈ Set.range fun fuel =>
      (parse fuel workspace parser input (some .recording)).map Report.result := by
    rw [same]
    exact ⟨fuel, congrArg (Option.map Report.result) ended⟩
  obtain ⟨enough, seen⟩ := seen
  obtain ⟨recorded, endedToo, result⟩ := Option.map_eq_some_iff.1 seen
  exact ⟨enough, recorded, endedToo, congrArg Prod.fst result⟩

/-- A success is made of a match. -/
theorem State.exists_of_conclude {state : State} {outcome : Outcome} {success : Success}
    (concluded : state.conclude outcome = .ok success) :
    ∃ rest, outcome = .ok success.result rest := by
  obtain ⟨workspace, context, events⟩ := state
  cases outcome with
  | ok value rest =>
    cases context with
    | none => cases concluded
    | some context =>
      obtain ⟨position, -, same⟩ := exists_of_bind_eq_ok concluded
      cases same
      exact ⟨rest, rfl⟩
  | fail payload rest =>
    cases context with
    | none => cases concluded
    | some context =>
      obtain ⟨failure, -, raised⟩ := exists_of_bind_eq_ok concluded
      cases raised

/-- The value that a recorded parse answers stands in its last event. -/
theorem isWritable_of_recorded (builtIn : parser.BuiltIn) (rules : workspace.BuiltIn)
    {recorded : Report Success} {success : Success}
    (ended : parse fuel workspace parser input (some .recording) = some recorded)
    (answered : recorded.answer = .ok success)
    (printable : recorded.events.all Event.isPrintable) : success.result.isWritable := by
  obtain ⟨⟨answer, after⟩, ran, rfl⟩ := Option.map_eq_some_iff.1 ended
  obtain ⟨outcome, rfl, concluded⟩ := exists_of_bind_eq_ok answered
  obtain ⟨rest, rfl⟩ := State.exists_of_conclude concluded
  -- the whole run stands between the entry and the exit of the parser, and the exit tells the value
  obtain ⟨label, inside, -, reports⟩ :=
    (exists_run_iff.1 ⟨fuel, ran⟩).exists_bracket ⟨builtIn, rules, trivial⟩ rfl rfl
  obtain ⟨told, -⟩ := reports.of_initial
  simp only [Ending.report, told, List.all_append, List.all_cons, Bool.and_eq_true] at printable
  exact printable.2.1

/-- **The events of the recorded parse decide what comes of a printed parse.** If a parse without a
tracer ends, then a recorded parse ends with the same answer. The printed one tells the same events
up to the first one that cannot be printed; it ends with the same answer if there is none, and with
a fault otherwise. -/
theorem exists_traces (builtIn : parser.BuiltIn) (rules : workspace.BuiltIn)
    (sequence : input.isSequence) {report : Report Success}
    (ended : parse fuel workspace parser input none = some report) :
    ∃ enough recorded printed,
      (∀ more ≥ enough, parse more workspace parser input (some .recording) = some recorded
        ∧ parse more workspace parser input (some .printing) = some printed)
      ∧ recorded.answer = report.answer
      ∧ printed.events = recorded.events.takeWhile Event.isPrintable
      ∧ (printed.answer = if recorded.events.all Event.isPrintable then report.answer
        else .error .integerUnwritable)
      ∧ (recorded.events.all Event.isPrintable → ∀ success, report.answer = .ok success →
        success.result.isWritable) := by
  obtain ⟨enough, recorded, records, same⟩ := exists_recorded builtIn rules sequence ended
  obtain ⟨printed, prints, events, answer⟩ := exists_printed records
  refine ⟨enough, recorded, printed,
    fun more le => ⟨parse_mono le records, parse_mono le prints⟩, same, events, ?_, ?_⟩
  · rw [answer, same]
  · intro printable success answered
    exact isWritable_of_recorded builtIn rules records (same.trans answered) printable

end Parse

end Peg
