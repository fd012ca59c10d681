import Peg.Proofs.Calls
import Peg.Proofs.Simulation

/-! # Runs on top of pending work

A parser runs in the same way whatever work is pending: the frames below are not looked at before it
has an outcome. `Progress.visits` lists the calls of parsers that a run makes, and `Progress.Above`
compares a run that started with no work pending with the same run on top of other frames.

* **`Above.later`**: as long as the first has no outcome the two go step by step, and make the same
  calls.
* **`exists_handOver`**: an outcome of the first is what the second hands to the frames below. -/

namespace Peg

open Progress

/-! ## Calls of parsers -/

/-- A call of a parser on an input. -/
abbrev Visit := Parser × Value

/-- The call that the next step makes, if it makes one. -/
def Control.visits : Control → List Visit
  | .call parser input => [(parser, input)]
  | .answer _ => []

namespace Progress

/-- The calls of parsers in a number of steps, in order. -/
def visits : Nat → Progress → List Visit
  | steps + 1, .next control stack state =>
    control.visits ++ visits steps (step control stack state)
  | _, _ => []

/-- In no steps nothing is visited. -/
@[simp] theorem visits_zero (progress : Progress) : progress.visits 0 = [] := by
  cases progress <;> rfl

/-- The visits of the first step come first. -/
@[simp] theorem visits_succ_next (steps : Nat) (control : Control) (stack : List Frame)
    (state : State) :
    (Progress.next control stack state).visits (steps + 1)
      = control.visits ++ (step control stack state).visits steps := rfl

/-- Where a run has ended no more calls are made. -/
theorem visits_of_ended {progress : Progress} {last : Ending} (ended : progress.run 0 = some last)
    (steps : Nat) : progress.visits steps = [] := by
  cases progress with
  | next control stack state => cases ended
  | finished outcome state => cases steps <;> rfl
  | raised fault state => cases steps <;> rfl

/-- After an outcome that no frame waits for no call is made. -/
theorem visits_answer_nil (outcome : Outcome) (state : State) (steps : Nat) :
    (Progress.answer outcome [] state).visits steps = [] := by
  have ended : (Progress.finished outcome state).run 0 = some ⟨.ok outcome, state⟩ := rfl
  cases steps with
  | zero => rfl
  | succ steps => exact visits_of_ended ended steps

/-- The visits of some steps and of more after them come in that order. -/
theorem visits_add (first second : Nat) (progress : Progress) :
    progress.visits (first + second)
      = progress.visits first ++ (progress.later first).visits second := by
  induction first generalizing progress with
  | zero => rw [Nat.zero_add, visits_zero, later_zero, List.nil_append]
  | succ first inductionHypothesis =>
    rw [Nat.succ_add]
    cases progress with
    | next control stack state => simp only [visits, later, inductionHypothesis, List.append_assoc]
    | finished outcome state => cases second <;> rfl
    | raised fault state => cases second <;> rfl

/-- Going on where some steps have led ends where the whole run ends. -/
theorem run_add (first second : Nat) (progress : Progress) :
    progress.run (first + second) = (progress.later first).run second := by
  rw [run_eq_later, later_add, ← run_eq_later]

/-- Whenever a run is seen to have ended, it has made the same calls. -/
theorem visits_eq_of_run {progress : Progress} {first second : Nat} {last other : Ending}
    (ended : progress.run first = some last) (again : progress.run second = some other) :
    progress.visits first = progress.visits second := by
  rw [run_eq_later] at ended again
  have early := visits_add first second progress
  have late := visits_add second first progress
  rw [visits_of_ended ended, List.append_nil] at early
  rw [visits_of_ended again, List.append_nil, Nat.add_comm] at late
  rw [← early, late]

end Progress

/-! ## Calls without a tracer -/

/-- Without a tracer the call of a parser is what the parser does first. -/
theorem step_call_of_quiet {state : State} (quiet : state.tracer? = none) (parser : Parser)
    (input : Value) (stack : List Frame) :
    step (.call parser input) stack state = parser.start input stack state := by
  cases label : parser.label? with
  | none => exact step_call_of_unlabelled label input stack state
  | some name =>
    simp only [step, Parser.call, label]
    exact state.enter_of_unwatched quiet name input stack _

/-- An evaluation without a tracer leaves a state without one. -/
theorem Evaluates.quiet {job : Job} {state after : State} {outcome : Outcome}
    (evaluates : Evaluates job state ⟨.ok outcome, after⟩) (quiet : state.tracer? = none) :
    after.tracer? = none := by
  have told (state : State) : state.tracer? = state.setting.bind (·.2) := by
    rw [State.tracer?, State.setting, Option.bind_map]
    rfl
  rw [told, evaluates.setting_eq rfl, ← told, quiet]

/-! ## The same run on other frames -/

/-- Two points of runs that differ only in the frames that are pending below the second one. Neither
of them has an outcome. -/
inductive Progress.Above (base : List Frame) : Progress → Progress → Prop
  /-- There is more to do in both. -/
  | next (control : Control) (stack : List Frame) (state : State) :
      Above base (.next control stack state) (.next control (stack ++ base) state)
  /-- The same fault has stopped both. -/
  | raised (fault : Fault) (state : State) : Above base (.raised fault state) (.raised fault state)

namespace Progress.Above

variable {base : List Frame}

/-- After a computation that may raise a fault, runs go on with the same frames below. -/
theorem after {state : State} (result : Except Fault α) {one two : α → Progress}
    (above : ∀ value, Above base (one value) (two value)) :
    Above base (.after state result one) (.after state result two) := by
  cases result with
  | error fault => exact .raised fault state
  | ok value => exact above value

/-- The entry into a labelled parser is the same on other frames. -/
theorem enter {state : State} {label : String} {input : Value} {stack : List Frame}
    {next : List Frame → State → Progress}
    (above : ∀ stack state, Above base (next stack state) (next (stack ++ base) state)) :
    Above base (state.enter label input stack next)
      (state.enter label input (stack ++ base) next) := by
  unfold State.enter
  split
  · exact after _ fun entered => above _ _
  · exact above stack state

/-- An ending is handed on in the same way on other frames. -/
theorem resume (last : Ending) (stack : List Frame) :
    Above base (last.resume stack) (last.resume (stack ++ base)) := by
  obtain ⟨answer, state⟩ := last
  cases answer with
  | error fault => exact .raised fault state
  | ok outcome => exact .next (.answer outcome) stack state

/-- What a parser does first is the same on other frames. -/
theorem start (parser : Parser) (input : Value) (stack : List Frame) (state : State) :
    Above base (parser.start input stack state) (parser.start input (stack ++ base) state) := by
  cases parser with
  | terminal leaf =>
    rw [Parser.start, Parser.start, leaf.run_eq, leaf.run_eq]
    exact resume _ stack
  | foreign leaf =>
    rw [Parser.start, Parser.start, leaf.run_eq, leaf.run_eq]
    exact resume _ stack
  | rule cell =>
    simp only [Parser.start, callRule]
    split
    · exact enter fun stack state => .next _ stack state
    · exact .raised _ _
  | constant value => exact .raised _ _
  | traced name body => exact .next _ stack state
  | sequence first others => exact .next _ (_ :: stack) state
  | choice first others => exact .next _ (_ :: stack) state
  | star body => exact .next _ (_ :: stack) state
  | plus body => exact .next _ (_ :: stack) state
  | optional body absent => exact .next _ (_ :: stack) state
  | ahead body => exact .next _ (_ :: stack) state
  | notAhead body => exact .next _ (_ :: stack) state
  | transform body name function => exact .next _ (_ :: stack) state
  | nested body inner form => exact .next _ (_ :: stack) state

/-- A frame does the same with an outcome on other frames. -/
theorem receive (frame : Frame) (outcome : Outcome) (stack : List Frame) (state : State) :
    Above base (frame.receive outcome stack state)
      (frame.receive outcome (stack ++ base) state) := by
  cases frame with
  | sequence entry done others =>
    cases outcome with
    | fail payload rest =>
      rw [receive_sequence_fail, receive_sequence_fail]
      exact .next _ stack state
    | ok value rest =>
      cases others with
      | nil => exact .next _ stack state
      | cons parser others => exact .next _ (_ :: stack) state
  | choice entry others =>
    cases outcome with
    | ok value rest => exact .next _ stack state
    | fail payload rest =>
      cases others with
      | nil => exact .next _ stack state
      | cons parser others => exact .next _ (_ :: stack) state
  | loop body done place =>
    cases outcome with
    | ok value rest => exact .next _ (_ :: stack) state
    | fail payload rest => exact .next _ stack state
  | plus body entry =>
    cases outcome with
    | ok value rest => exact .next _ (_ :: stack) state
    | fail payload rest => exact .next _ stack state
  | optional absent entry => cases outcome <;> exact .next _ stack state
  | ahead entry => cases outcome <;> exact .next _ stack state
  | notAhead entry saved =>
    cases outcome with
    | ok value rest => exact after _ fun noted => .next _ stack noted
    | fail payload rest => exact .next _ stack _
  | transform function =>
    cases outcome with
    | ok value rest => exact after _ fun result => .next _ stack state
    | fail payload rest => exact .next _ stack state
  | nest inner form =>
    cases outcome with
    | ok value rest => exact .next _ (_ :: stack) _
    | fail payload rest => exact .next _ stack state
  | unnest form outer rest => exact after _ fun result => .next _ stack _
  | exit label depth => cases outcome <;> exact after _ fun told => .next _ stack told

/-- **A step is the same on other frames**, unless it is the one that ends the run. -/
theorem step {control : Control} {stack : List Frame} {state : State}
    (goesOn : ∀ outcome, control = .answer outcome → stack ≠ []) :
    Above base (Peg.step control stack state) (Peg.step control (stack ++ base) state) := by
  cases control with
  | call parser input =>
    simp only [Peg.step, Parser.call]
    split
    · exact enter fun stack state => start parser input stack state
    · exact start parser input stack state
  | answer outcome =>
    cases stack with
    | nil => exact absurd rfl (goesOn outcome rfl)
    | cons frame stack => exact receive frame outcome stack state

/-- **Runs go step by step on other frames**, and make the same calls, as long as the first of them
has no outcome. -/
theorem later {one two : Progress} (above : Above base one two) {steps : Nat}
    (goesOn : ∀ outcome state, one.run steps ≠ some ⟨.ok outcome, state⟩) :
    Above base (one.later steps) (two.later steps) ∧ two.visits steps = one.visits steps := by
  induction steps generalizing one two with
  | zero =>
    simp only [later_zero, visits_zero, and_true]
    exact above
  | succ steps inductionHypothesis =>
    cases above with
    | raised fault state => exact ⟨.raised fault state, rfl⟩
    | next control stack state =>
      simp only [run_succ_next] at goesOn
      have pending : ∀ outcome, control = .answer outcome → stack ≠ [] := by
        rintro outcome rfl rfl
        exact goesOn outcome state rfl
      obtain ⟨above, same⟩ := inductionHypothesis (step pending) goesOn
      exact ⟨above, by rw [visits_succ_next, visits_succ_next, same]⟩

end Progress.Above

/-- **An outcome of a run is handed to the frames below.** A run that comes to an outcome gets to
the point where it gives it, and on other frames to the point where it is handed to them, after the
same calls. -/
theorem exists_handOver {control : Control} {stack : List Frame} {state after : State} {steps : Nat}
    {outcome : Outcome}
    (ended : (Progress.next control stack state).run steps = some ⟨.ok outcome, after⟩) :
    ∃ early < steps, (Progress.next control stack state).later early = .answer outcome [] after
      ∧ ∀ base, (Progress.next control (stack ++ base) state).later early
          = .answer outcome base after
        ∧ (Progress.next control (stack ++ base) state).visits early
          = (Progress.next control stack state).visits early := by
  have reached : ∃ early < steps,
      (Progress.next control stack state).later early = .answer outcome [] after := by
    induction steps generalizing control stack state with
    | zero => cases ended
    | succ steps inductionHypothesis =>
      rw [run_succ_next] at ended
      by_cases pending : ∀ outcome, control = .answer outcome → stack ≠ []
      · -- a step that does not end the run leads to a point of the same kind
        have above : Above [] (step control stack state) (step control (stack ++ []) state) :=
          .step pending
        generalize stepped : step control stack state = next at above ended
        generalize step control (stack ++ []) state = other at above
        cases above with
        | raised fault state => cases ended
        | next control' stack' state' =>
          obtain ⟨early, less, reached⟩ := inductionHypothesis ended
          refine ⟨early + 1, Nat.succ_lt_succ less, ?_⟩
          rw [Progress.later, stepped, reached]
      · push Not at pending
        obtain ⟨given, rfl, rfl⟩ := pending
        cases ended
        exact ⟨0, Nat.succ_pos _, rfl⟩
  obtain ⟨early, less, reached⟩ := reached
  refine ⟨early, less, reached, fun base => ?_⟩
  -- up to the hand-over there is no outcome, so nothing looks at the frames below
  have goesOn : ∀ given left,
      (Progress.next control stack state).run early ≠ some ⟨.ok given, left⟩ := by
    intro given left stopped
    rw [run_eq_later, reached] at stopped
    cases stopped
  have start : Above base (.next control stack state) (.next control (stack ++ base) state) :=
    .next control stack state
  obtain ⟨above, same⟩ := start.later goesOn
  rw [reached] at above
  generalize there : (Progress.next control (stack ++ base) state).later early = point at above
  cases above with
  | next => exact ⟨rfl, same⟩

end Peg
