import Peg.Proofs.Edit
import Peg.Proofs.Simulation
import Peg.Proofs.State

/-! # What a run can do to the workspace

A run changes the workspace in two ways only: it resolves rules, and terminals written by hand
remember their calls. A relation between workspaces that is reflexive and transitive and allows
these two is a footprint, and it holds between the workspaces before and after every run. If it does
not allow that resolving a rule ends in a fault, it still holds as long as there is no fault.

* **`related_of_evaluates`**: a footprint holds along every evaluation, also if it ends in a fault.
* **`Way.run_related`**: so it does along a run, whatever is done with the outcome. -/

namespace Peg

namespace Workspace

/-- A relation between workspaces that allows all that a run can do; if not `faulty`, all that it
can do before there is a fault. -/
structure IsTrail (faulty : Prop) (related : Workspace → Workspace → Prop) : Prop where
  /-- Nothing need be done. -/
  refl (workspace : Workspace) : related workspace workspace
  /-- One thing can be done after the other. -/
  trans {first second third : Workspace} (early : related first second)
      (late : related second third) : related first third
  /-- A rule can be resolved, or a fault can come of it. -/
  resolve {workspace after : Workspace} {cell : Nat} {answer : Except Fault Parser}
      (found : (resolve cell).outcome workspace = (answer, after))
      (allowed : answer.isOk ∨ faulty) : related workspace after
  /-- A call can be remembered. -/
  remember (workspace : Workspace) (memories : Array (List Value)) :
      related workspace { workspace with memories := memories }

/-- A relation between workspaces that allows all that a run can do. -/
abbrev IsFootprint (related : Workspace → Workspace → Prop) : Prop := IsTrail True related

end Workspace

/-- A tracer that is told of the exit makes no outcome of a fault. -/
theorem Ending.isOk_of_leave {label : String} {depth : Nat} {last : Ending}
    (answered : (last.leave label depth).answer.isOk) : last.answer.isOk := by
  obtain ⟨answer, state⟩ := last
  cases answer with
  | ok outcome => rfl
  | error fault => cases answered

/-- Neither does the end of a nested parse. -/
theorem Ending.isOk_of_unnest {form : NestedForm} {outer : Option Context} {rest : Value}
    {last : Ending} (answered : (last.unnest form outer rest).answer.isOk) : last.answer.isOk := by
  obtain ⟨answer, state⟩ := last
  cases answer with
  | ok outcome => rfl
  | error fault => cases answered

/-- A terminal leaves the workspace as it is. -/
theorem Terminal.read_workspace (leaf : Terminal) (input : Value) (state : State) :
    (leaf.read input state).state.workspace = state.workspace := by
  obtain ⟨value, rest, -, same⟩ | ⟨payload, -, same⟩ | ⟨fault, same⟩ :=
    leaf.read_cases input state <;> rw [same]
  exact state.failOn_workspace payload input

section Footprint

variable {faulty : Prop} {related : Workspace → Workspace → Prop}

/-- A terminal written by hand remembers at most that it was called. -/
theorem Foreign.read_related (trail : Workspace.IsTrail faulty related) (leaf : Foreign)
    (input : Value) (state : State) :
    related state.workspace (leaf.read input state).state.workspace := by
  simp only [Foreign.read, State.remember]
  cases leaf.memory with
  | none => exact trail.refl _
  | some number => exact trail.remember _ _

/-- **A footprint holds along every evaluation**, also if it ends in a fault. One that allows no
fault holds along every evaluation that ends with an outcome. -/
theorem related_of_evaluates {job : Job} {state : State} {last : Ending}
    (evaluates : Evaluates job state last) (trail : Workspace.IsTrail faulty related)
    (allowed : last.answer.isOk ∨ faulty) :
    related state.workspace last.state.workspace := by
  -- what is done before the last part has an outcome; the last part ends as the whole does
  induction evaluates with
  | unlabelled _ _ body => exact body allowed
  | labelled _ _ body => exact body allowed
  | unwatched _ _ body => exact body allowed
  | refused => exact trail.refl _
  | watched _ _ entry _ body =>
    rw [Ending.leave_workspace, ← State.emit_workspace entry]
    exact body (allowed.imp_left Ending.isOk_of_leave)
  | @terminal leaf input state =>
    rw [leaf.read_workspace]
    exact trail.refl _
  | @foreign leaf input state => exact leaf.read_related trail input state
  | sequence _ parts => exact parts allowed
  | allNil => exact trail.refl _
  | allCons _ _ head tail => exact trail.trans (head (.inl rfl)) (tail (.inl rfl))
  | allFail _ head => exact head (.inl rfl)
  | allFailLater _ _ head tail => exact trail.trans (head (.inl rfl)) (tail (.inl rfl))
  | allRaiseLater _ _ head tail => exact trail.trans (head (.inl rfl)) (tail allowed)
  | choice _ alternatives => exact alternatives allowed
  | anyOk _ head => exact head (.inl rfl)
  | anyLast _ head => exact head (.inl rfl)
  | anyNext _ _ head tail => exact trail.trans (head (.inl rfl)) (tail allowed)
  | star _ rounds => exact rounds allowed
  | loopStop _ round => exact round (.inl rfl)
  | loopMore _ _ round more => exact trail.trans (round (.inl rfl)) (more (.inl rfl))
  | loopRaiseLater _ _ round more => exact trail.trans (round (.inl rfl)) (more allowed)
  | plusFail _ round => exact round (.inl rfl)
  | plusMore _ _ round more => exact trail.trans (round (.inl rfl)) (more (.inl rfl))
  | plusRaiseLater _ _ round more => exact trail.trans (round (.inl rfl)) (more allowed)
  | present _ head => exact head (.inl rfl)
  | absent _ head => exact head (.inl rfl)
  | aheadOk _ head => exact head (.inl rfl)
  | aheadFail _ head => exact head (.inl rfl)
  | notAheadFail _ head =>
    rw [State.failOn_workspace]
    exact head (.inl rfl)
  | notAheadOk _ head =>
    rw [State.restoreRecord_workspace]
    exact head (.inl rfl)
  | transformOk _ head => exact head (.inl rfl)
  | transformFail _ head => exact head (.inl rfl)
  | nestedOk _ _ head nested =>
    rw [Ending.unnest_workspace]
    exact trail.trans (head (.inl rfl)) (nested (allowed.imp_left Ending.isOk_of_unnest))
  | nestedFail _ head => exact head (.inl rfl)
  | traced _ inside => exact inside allowed
  | unresolved found => exact trail.resolve found allowed
  | resolved found _ inside =>
    -- this is the only place where rules are built
    exact trail.trans (trail.resolve found (.inl rfl)) (inside allowed)
  | constant => exact trail.refl _
  | raise _ _ head => exact head allowed

/-! ## Runs -/

/-- The workspaces before and after a run are related, if the relation allows all that a run can
do. -/
theorem related_of_run {fuel : Nat} {parser : Parser} {input : Value} {state : State}
    {ending : Ending} (ended : run fuel (.call parser input) [] state = some ending)
    (footprint : Workspace.IsFootprint related) :
    related state.workspace ending.state.workspace :=
  related_of_evaluates (exists_run_iff.1 ⟨fuel, ended⟩) footprint (.inr trivial)

variable {fuel : Nat} {workspace : Workspace} {parser next : Parser} {input : Value}
  {tracer : Option Tracer}

/-- So are those before and after a parse. -/
theorem related_of_parse {report : Report Success}
    (parsed : parse fuel workspace parser input tracer = some report)
    (footprint : Workspace.IsFootprint related) : related workspace report.workspace := by
  obtain ⟨ending, ended, rfl⟩ := Option.map_eq_some_iff.1 parsed
  exact related_of_run ended footprint

/-- The second of two parses in a row goes on with the workspace that the first one has left. -/
theorem related_of_parseChain {report : Report Value}
    (parsed : parseChain fuel workspace parser next input tracer = some report)
    (footprint : Workspace.IsFootprint related) : related workspace report.workspace := by
  obtain ⟨ending, ended, goesOn⟩ := Option.bind_eq_some_iff.1 parsed
  have first := related_of_run ended footprint
  split at goesOn
  · obtain ⟨later, endedToo, same⟩ := Option.bind_eq_some_iff.1 goesOn
    cases same
    exact footprint.trans first (related_of_run endedToo footprint)
  · cases goesOn
    exact first

/-- **Whatever way a parser is run, a footprint holds.** -/
theorem Way.run_related {way : Way} {report : Report Answer}
    (ran : way.run fuel workspace parser input tracer = some report)
    (footprint : Workspace.IsFootprint related) : related workspace report.workspace := by
  cases way with
  | diagnosed =>
    obtain ⟨inner, parsed, rfl⟩ := Option.map_eq_some_iff.1 ran
    exact related_of_parse parsed footprint
  | outcome =>
    obtain ⟨inner, parsed, rfl⟩ := Option.map_eq_some_iff.1 ran
    obtain ⟨ending, ended, rfl⟩ := Option.map_eq_some_iff.1 parsed
    exact related_of_run ended footprint
  | plain =>
    obtain ⟨inner, parsed, rfl⟩ := Option.map_eq_some_iff.1 ran
    obtain ⟨ending, ended, rfl⟩ := Option.map_eq_some_iff.1 parsed
    exact related_of_run ended footprint
  | unpaired =>
    cases ran
    exact footprint.refl workspace
  | chain next =>
    obtain ⟨inner, parsed, rfl⟩ := Option.map_eq_some_iff.1 ran
    exact related_of_parseChain parsed footprint

end Footprint

end Peg
