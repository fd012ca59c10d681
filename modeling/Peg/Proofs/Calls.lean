import Mathlib.Data.Set.Image
import Peg.Proofs.Ledger

/-! # What a run shows from outside

The machine has steps of its own, and its calls of terminals, functions and tracers are what others
can see of it. `Progress.observations` is all that can be seen of a run at any time, apart from its
tracer: the calls so far, in order, and the end once it is there. Two runs with the same
observations make the same calls and end alike, or neither of them ends (`Progress.ending_map_eq`).

A terminal written by hand has a protocol to obey (`Call.Obeys`). Without such terminals there is
nothing to obey (`Progress.Tracked.obeys`). -/

namespace Peg

/-! ## Calls -/

/-- A call of a terminal, a function or a tracer. -/
inductive Call where
  /-- A terminal on an input. -/
  | terminal (leaf : Terminal) (input : Value)
  /-- A terminal written by hand on an input, after calls on the earlier inputs, latest first. -/
  | foreign (leaf : Foreign) (earlier : List Value) (input : Value)
  /-- A function on the value of a match. -/
  | function (function : Value → Except Fault Value) (value : Value)
  /-- A nested parse of the value of a match. -/
  | nested (inner : Parser) (form : NestedForm) (value : Value)
  /-- The tracer on an event, after the events seen so far, latest first. -/
  | tracer (seen : List Event) (event : Event)

/-- A match hands back a rest of the input, a failure the input itself. -/
def Outcome.Fits (input : Value) : Outcome → Prop
  | .ok _ rest => rest.IsRestOf input
  | .fail _ rest => rest = input

namespace Call

/-- The protocol for terminals written by hand: on a sequence the outcome fits the input. -/
def Obeys : Call → Prop
  | .foreign leaf earlier input =>
    input.isSequence → ∀ outcome, leaf.respond earlier input = .ok outcome → outcome.Fits input
  | _ => True

/-- A tracer that is called accepts the event. -/
def AcceptedBy (watcher : Tracer) : Call → Prop
  | .tracer seen event => watcher seen event = none
  | _ => True

/-- The calls that are not those of a tracer. -/
def shown (calls : List Call) : List Call :=
  calls.filter fun
    | .tracer _ _ => false
    | _ => true

/-- The calls shown of two stretches are those of each. -/
@[simp] theorem shown_append (early late : List Call) :
    shown (early ++ late) = shown early ++ shown late :=
  List.filter_append ..

end Call

namespace State

/-- The call of the tracer for a report, if there is a tracer. -/
def asks (state : State) (kind : EventKind) (name : String) (depth : Nat) (rest value : Value) :
    List Call :=
  match state.tracer?, state.context.map fun context => Failure.positionIn context.source rest with
  | some _, some (.ok position) => [.tracer state.events ⟨kind, name, depth, position, value⟩]
  | _, _ => []

/-- The call of the tracer for the entry into a parser. -/
def asksEntry (state : State) (label : String) (input : Value) : List Call :=
  state.asks .enter label (state.context.elim 0 (·.depth)) input .null

/-- The tracer, if there is one, accepts the entry into a parser. -/
def admits (state : State) (label : String) (input : Value) : Bool :=
  (state.emit .enter label (state.context.elim 0 (·.depth)) input .null).isOk

/-- The call of a tracer is not shown. -/
theorem shown_asks (state : State) (kind : EventKind) (name : String) (depth : Nat)
    (rest value : Value) : Call.shown (state.asks kind name depth rest value) = [] := by
  rw [asks]
  split <;> rfl

end State

namespace Call

/-- The calls that a parser makes first, apart from its label. -/
def ofStart (input : Value) (state : State) : Parser → List Call
  | .terminal leaf => [.terminal leaf input]
  | .foreign leaf => [.foreign leaf (state.remember leaf.memory input).1 input]
  | .rule cell =>
    match (Workspace.resolve cell).run.run state.workspace with
    | (.ok _, workspace) => state.asksEntry (workspace.nameOf cell) input
    | (.error _, _) => []
  | _ => []

/-- The calls that the call of a parser makes. A terminal is called once its entry is accepted. -/
def ofCall (parser : Parser) (input : Value) (state : State) : List Call :=
  match parser.label? with
  | some label =>
    state.asksEntry label input
      ++ if state.admits label input then ofStart input state parser else []
  | none => ofStart input state parser

/-- The calls that are made when an outcome is handed to the topmost frame. -/
def ofAnswer (outcome : Outcome) (state : State) : List Frame → List Call
  | .exit label depth :: _ => state.asks outcome.exitKind label depth outcome.rest outcome.value
  | .transform applied :: _ =>
    match outcome with
    | .ok value _ => [.function applied value]
    | .fail _ _ => []
  | .nest inner form :: _ =>
    match outcome with
    | .ok value _ => [.nested inner form value]
    | .fail _ _ => []
  | _ => []

/-- The calls that the next step makes. -/
def made : Control → List Frame → State → List Call
  | .call parser input, _, state => ofCall parser input state
  | .answer outcome, stack, state => ofAnswer outcome state stack

end Call

namespace Progress

/-- The calls made in a number of steps, in order. -/
def calls : Nat → Progress → List Call
  | steps + 1, .next control stack state =>
    Call.made control stack state ++ calls steps (step control stack state)
  | _, _ => []

/-- Where a number of steps leads. -/
def later : Nat → Progress → Progress
  | steps + 1, .next control stack state => later steps (step control stack state)
  | _, progress => progress

/-- What can be seen of a run after a number of steps, apart from its tracer: the calls and, if it
has ended, its end. -/
def observe (view : Ending → α) (steps : Nat) (progress : Progress) : List Call × Option α :=
  (Call.shown (progress.calls steps), (progress.run steps).map view)

/-- All that can be seen of a run at any time. -/
def observations (view : Ending → α) (progress : Progress) : Set (List Call × Option α) :=
  Set.range fun steps => progress.observe view steps

/-- In no steps no calls are made. -/
@[simp] theorem calls_zero (progress : Progress) : progress.calls 0 = [] := by
  cases progress <;> rfl

/-- No steps lead nowhere else. -/
@[simp] theorem later_zero (progress : Progress) : progress.later 0 = progress := by
  cases progress <;> rfl

/-- A run has ended where its steps have led to an end. -/
theorem run_eq_later (steps : Nat) (progress : Progress) :
    progress.run steps = (progress.later steps).run 0 := by
  induction steps generalizing progress with
  | zero => rw [later_zero]
  | succ steps inductionHypothesis =>
    cases progress with
    | next control stack state =>
      rw [run_succ_next, inductionHypothesis]
      rfl
    | finished outcome state => rfl
    | raised fault state => rfl

/-- Calls of one stretch of a run after those of another. -/
theorem calls_add (first second : Nat) (progress : Progress) :
    progress.calls (first + second)
      = progress.calls first ++ (progress.later first).calls second := by
  induction first generalizing progress with
  | zero => rw [Nat.zero_add, calls_zero, later_zero, List.nil_append]
  | succ first inductionHypothesis =>
    rw [Nat.succ_add]
    cases progress with
    | next control stack state =>
      simp only [calls, later, inductionHypothesis, List.append_assoc]
    | finished outcome state => cases second <;> rfl
    | raised fault state => cases second <;> rfl

/-- Going on where some steps have led takes the steps of both. -/
theorem later_add (first second : Nat) (progress : Progress) :
    progress.later (first + second) = (progress.later first).later second := by
  induction first generalizing progress with
  | zero => rw [Nat.zero_add, later_zero]
  | succ first inductionHypothesis =>
    rw [Nat.succ_add]
    cases progress with
    | next control stack state => exact inductionHypothesis _
    | finished outcome state => cases second <;> rfl
    | raised fault state => cases second <;> rfl

end Progress

/-! ## Properties of all calls -/

/-- All calls that a run ever makes have a property. -/
def Progress.AllCalls (property : Call → Prop) (progress : Progress) : Prop :=
  ∀ steps, ∀ call ∈ progress.calls steps, property call

namespace Progress

variable {property : Call → Prop} {control : Control} {stack : List Frame} {state : State}

/-- What holds of all calls of a run holds of those of its first step. -/
theorem AllCalls.made (all : (Progress.next control stack state).AllCalls property) :
    ∀ call ∈ Call.made control stack state, property call := by
  intro call made
  exact all 1 call (List.mem_append_left _ made)

/-- What holds of all calls of a run holds of those after its first step. -/
theorem AllCalls.step (all : (Progress.next control stack state).AllCalls property) :
    (Peg.step control stack state).AllCalls property :=
  fun steps call made => all (steps + 1) call (List.mem_append_right _ made)

/-- What holds of all calls of a run holds of those after any number of steps. -/
theorem AllCalls.later {progress : Progress} (all : progress.AllCalls property) (steps : Nat) :
    (progress.later steps).AllCalls property := by
  intro more call made
  refine all (steps + more) call ?_
  rw [calls_add]
  exact List.mem_append_right _ made

/-- A run that has ended makes no more calls, so only the calls up to its end count. -/
theorem allCalls_of_run {progress : Progress} {fuel : Nat} {last : Ending}
    (ended : progress.run fuel = some last) (upTo : ∀ call ∈ progress.calls fuel, property call) :
    progress.AllCalls property := by
  intro steps call made
  have longer : call ∈ progress.calls (fuel + steps) := by
    rw [Nat.add_comm, calls_add]
    exact List.mem_append_left _ made
  rw [calls_add] at longer
  rcases List.mem_append.1 longer with before | after
  · exact upTo call before
  · rw [run_eq_later] at ended
    cases reached : progress.later fuel with
    | next control stack state =>
      rw [reached] at ended
      cases ended
    | finished outcome state =>
      rw [reached] at after
      cases steps <;> cases after
    | raised fault state =>
      rw [reached] at after
      cases steps <;> cases after

end Progress

/-- The calls of a tracer have nothing to obey. -/
theorem State.asks_obey (state : State) (kind : EventKind) (name : String) (depth : Nat)
    (rest value : Value) : ∀ call ∈ state.asks kind name depth rest value, call.Obeys := by
  rw [State.asks]
  split
  · exact List.forall_mem_singleton.2 trivial
  · exact List.forall_mem_nil _

/-- A built-in parser calls no terminal written by hand. -/
theorem Parser.BuiltIn.calls_obey {parser : Parser} (builtIn : parser.BuiltIn) (input : Value)
    (state : State) : ∀ call ∈ Call.ofCall parser input state, call.Obeys := by
  have start : ∀ call ∈ Call.ofStart input state parser, call.Obeys := by
    cases builtIn with
    | terminal leaf => exact List.forall_mem_singleton.2 trivial
    | rule cell =>
      simp only [Call.ofStart]
      split
      · exact state.asks_obey _ _ _ _ _
      · exact List.forall_mem_nil _
    | _ => exact List.forall_mem_nil _
  rw [Call.ofCall]
  split
  · refine List.forall_mem_append.2 ⟨state.asks_obey _ _ _ _ _, ?_⟩
    split
    · exact start
    · exact List.forall_mem_nil _
  · exact start

/-- Frames call no terminal written by hand. -/
theorem Call.ofAnswer_obey (outcome : Outcome) (state : State) (stack : List Frame) :
    ∀ call ∈ Call.ofAnswer outcome state stack, call.Obeys := by
  unfold Call.ofAnswer
  split
  · exact state.asks_obey _ _ _ _ _
  · cases outcome with
    | ok value rest => exact List.forall_mem_singleton.2 trivial
    | fail payload rest => exact List.forall_mem_nil _
  · cases outcome with
    | ok value rest => exact List.forall_mem_singleton.2 trivial
    | fail payload rest => exact List.forall_mem_nil _
  · exact List.forall_mem_nil _

/-- Without terminals written by hand there is nothing to obey. -/
theorem Progress.Tracked.obeys {root : Value} {progress : Progress} {old new : Ledger}
    (tracked : progress.Tracked root old new) : progress.AllCalls Call.Obeys := by
  intro steps
  induction steps generalizing progress old new with
  | zero =>
    rw [calls_zero]
    exact List.forall_mem_nil _
  | succ steps inductionHypothesis =>
    cases progress with
    | next control stack state =>
      obtain ⟨there, fits⟩ := tracked
      refine List.forall_mem_append.2 ⟨?_, inductionHypothesis (there.step fits)⟩
      cases control with
      | call parser input => exact fits.2.calls_obey input state
      | answer outcome => exact Call.ofAnswer_obey outcome state stack
    | finished outcome state => exact List.forall_mem_nil _
    | raised fault state => exact List.forall_mem_nil _

/-! ## The ends of runs -/

/-- How a run ends, apart from what is left of its context. -/
def Ending.result (last : Ending) : Except Fault Outcome × Workspace :=
  (last.answer, last.state.workspace)

/-- The answer of a parse and the workspace after it. -/
def Report.result (report : Report α) : Except Fault α × Workspace :=
  (report.answer, report.workspace)

/-- A final continuation that knows of the workspace but not of the context. -/
def Continuation.ofWorkspace
    (next : Value → Value → Workspace → Part (Except Fault α × Workspace)) : Continuation α :=
  fun value rest state =>
    (next value rest state.workspace).map fun last => (last.1, { state with workspace := last.2 })

/-- What a run gives after its outcome has been handed to such continuations. -/
def Progress.resultOf
    (succeed fail : Value → Value → Workspace → Part (Except Fault α × Workspace))
    (progress : Progress) : Part (Except Fault α × Workspace) :=
  (progress.drive (.ofWorkspace succeed) (.ofWorkspace fail)).map fun last =>
    (last.1, last.2.workspace)

namespace Progress

/-- The end of a run is the end that is seen at some time. -/
theorem mem_ending_map_iff {view : Ending → α} {progress : Progress} {seen : α} :
    seen ∈ progress.ending.map view ↔ ∃ calls, (calls, some seen) ∈ progress.observations view := by
  rw [Part.mem_map_iff]
  constructor
  · rintro ⟨last, ended, rfl⟩
    obtain ⟨fuel, ended⟩ := mem_ending_iff.1 ended
    exact ⟨Call.shown (progress.calls fuel), fuel, by simp only [observe, ended, Option.map_some]⟩
  · rintro ⟨calls, fuel, same⟩
    obtain ⟨last, ended, rfl⟩ := Option.map_eq_some_iff.1 (congrArg Prod.snd same)
    exact ⟨last, mem_ending_iff.2 ⟨fuel, ended⟩, rfl⟩

/-- Runs that look the same end alike. -/
theorem ending_map_eq {view : Ending → α} {progress other : Progress}
    (same : progress.observations view = other.observations view) :
    progress.ending.map view = other.ending.map view := by
  ext seen
  rw [mem_ending_map_iff, mem_ending_map_iff, same]

/-- What final continuations give depends on how a run ends and not on its context. -/
theorem resultOf_eq (succeed fail : Value → Value → Workspace → Part (Except Fault α × Workspace))
    (progress : Progress) :
    progress.resultOf succeed fail
      = (progress.ending.map Ending.result).bind fun last =>
          match last.1 with
          | .ok (.ok value rest) => succeed value rest last.2
          | .ok (.fail payload rest) => fail payload rest last.2
          | .error fault => Part.some (.error fault, last.2) := by
  rw [resultOf, drive, Part.map_bind, Part.bind_map]
  congr 1
  funext last
  obtain ⟨answer, state⟩ := last
  have unchanged (result : Part (Except Fault α × Workspace)) :
      (result.map fun last => (last.1, ({ state with workspace := last.2 } : State))).map
        (fun last => (last.1, last.2.workspace)) = result := by
    rw [Part.map_map]
    exact Part.map_id' (fun _ => rfl) result
  cases answer with
  | error fault => exact Part.map_some _ _
  | ok outcome =>
    cases outcome with
    | ok value rest => exact unchanged _
    | fail payload rest => exact unchanged _

/-- What a parse reports is what is seen of its end. -/
theorem range_parse (workspace : Workspace) (parser : Parser) (input : Value)
    (watcher : Option Tracer) :
    (Set.range fun fuel => (parse fuel workspace parser input watcher).map Report.result)
      = Prod.snd '' (Progress.call parser input [] (.initial workspace input watcher)).observations
          fun last => (last.report State.conclude).result := by
  rw [observations, ← Set.range_comp]
  congr 1
  funext fuel
  exact Option.map_map _ _ _

end Progress

end Peg
