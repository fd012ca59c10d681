import Peg.Proofs.Origin
import Peg.Proofs.Run

/-! # Runs at different stages

Two workspaces that come from the same one may have built different rules. A parser runs alike in
both: at each point the machine does the same, with twins in the place of parsers, and where one run
builds a rule that the other finds built, the origin of the rule says that they get twins.

* `Workspace.Alike`: two stages of one workspace, with the cells of rules of one origin paired.
* **`Progress.Twin.step`**: a step leads from twins to twins.
* **`parse_alike`**: a parse gives the same answer and the same events at every stage, and leaves a
  stage. -/

namespace Peg

/-! ## Two stages -/

/-- The two workspaces are stages of the source, and cells that are paired hold rules of one
origin. -/
def Workspace.Alike (source : Workspace) (pairs : Nat → Nat → Prop) (workspace copy : Workspace) :
    Prop :=
  ∃ origins copyOrigins, Stage source origins workspace ∧ Stage source copyOrigins copy
    ∧ ∀ cell other, pairs cell other → cell < workspace.cells.size ∧ other < copy.cells.size
      ∧ origins cell = copyOrigins other

/-- **A rule is resolved alike at two stages**, whether it has been built at one of them or not. -/
theorem Workspace.Alike.resolve {source workspace copy : Workspace} {pairs : Nat → Nat → Prop}
    (alike : Alike source pairs workspace copy) (contained : source.Contained) {cell other : Nat}
    (paired : pairs cell other) :
    ∃ more : Nat → Nat → Prop, (∀ one another, pairs one another → more one another)
      ∧ Alike source more ((Workspace.resolve cell).outcome workspace).2
          ((Workspace.resolve other).outcome copy).2
      ∧ ((Workspace.resolve other).outcome copy).2.nameOf other
          = ((Workspace.resolve cell).outcome workspace).2.nameOf cell
      ∧ Agree (Parser.Twin more) ((Workspace.resolve cell).outcome workspace).1
          ((Workspace.resolve other).outcome copy).1 := by
  obtain ⟨origins, copyOrigins, stage, copyStage, places⟩ := alike
  obtain ⟨bound, copyBound, same⟩ := places cell other paired
  obtain ⟨later, kept, grown, next, agree⟩ := stage.resolve contained bound
  obtain ⟨copyLater, copyKept, copyGrown, copyNext, copyAgree⟩ :=
    copyStage.resolve contained copyBound
  generalize (Workspace.resolve cell).outcome workspace = done at *
  generalize (Workspace.resolve other).outcome copy = copied at *
  -- from now on all rules of one origin are paired
  refine ⟨fun one another => one < done.2.cells.size ∧ another < copied.2.cells.size
    ∧ later one = copyLater another, ?_, ⟨later, copyLater, next, copyNext, fun _ _ same => same⟩,
    ?_, ?_⟩
  · intro one another paired
    obtain ⟨inside, copyInside, origin⟩ := places one another paired
    exact ⟨Nat.lt_of_lt_of_le inside grown, Nat.lt_of_lt_of_le copyInside copyGrown,
      by rw [kept one inside, copyKept another copyInside, origin]⟩
  · rw [next.names cell (Nat.lt_of_lt_of_le bound grown),
      copyNext.names other (Nat.lt_of_lt_of_le copyBound copyGrown), kept cell bound,
      copyKept other copyBound, same]
  · rw [← same] at copyAgree
    -- both answers are twins of what the origin gives, and so of each other
    generalize (origins cell).parser source = common at agree copyAgree
    obtain ⟨answer, after⟩ := done
    obtain ⟨copyAnswer, copyAfter⟩ := copied
    cases agree with
    | error fault =>
      cases copyAgree
      exact .error fault
    | ok twin =>
      cases copyAgree with
      | ok copyTwin =>
        refine .ok ((twin.of_common copyTwin).mono ?_)
        rintro one another ⟨number, ⟨inside, reads⟩, copyInside, copyReads⟩
        exact ⟨inside, copyInside, reads.trans copyReads.symm⟩

/-! ## Points of two runs -/

/-- The frames do the same with twins. -/
inductive Frame.Twin (pairs : Nat → Nat → Prop) : Frame → Frame → Prop
  | sequence (entry : Value) (done : List Value) {others copies : List Parser}
      (tail : Parser.AllTwin pairs others copies) :
      Twin pairs (.sequence entry done others) (.sequence entry done copies)
  | choice (entry : Value) {others copies : List Parser}
      (tail : Parser.AllTwin pairs others copies) :
      Twin pairs (.choice entry others) (.choice entry copies)
  | loop {body copy : Parser} (inside : body.Twin pairs copy) (done : List Value) (rest : Value) :
      Twin pairs (.loop body done rest) (.loop copy done rest)
  | plus {body copy : Parser} (inside : body.Twin pairs copy) (entry : Value) :
      Twin pairs (.plus body entry) (.plus copy entry)
  | optional (absent entry : Value) : Twin pairs (.optional absent entry) (.optional absent entry)
  | ahead (entry : Value) : Twin pairs (.ahead entry) (.ahead entry)
  | notAhead (entry : Value) (saved : Option Record) :
      Twin pairs (.notAhead entry saved) (.notAhead entry saved)
  | transform (function : Value → Except Fault Value) :
      Twin pairs (.transform function) (.transform function)
  | nest {inner copy : Parser} (inside : inner.Twin pairs copy) (form : NestedForm) :
      Twin pairs (.nest inner form) (.nest copy form)
  | unnest (form : NestedForm) (outer : Option Context) (rest : Value) :
      Twin pairs (.unnest form outer rest) (.unnest form outer rest)
  | exit (label : String) (depth : Nat) : Twin pairs (.exit label depth) (.exit label depth)

/-- The pending work is the same with twins. -/
abbrev Frame.AllTwin (pairs : Nat → Nat → Prop) : List Frame → List Frame → Prop :=
  List.Forall₂ (Frame.Twin pairs)

/-- Twins stay twins when more cells are paired. -/
theorem Frame.Twin.mono {pairs more : Nat → Nat → Prop}
    (weaker : ∀ cell copy, pairs cell copy → more cell copy) {frame copy : Frame}
    (twin : frame.Twin pairs copy) : frame.Twin more copy := by
  cases twin with
  | sequence entry done tail => exact .sequence entry done (tail.imp fun _ _ => .mono weaker)
  | choice entry tail => exact .choice entry (tail.imp fun _ _ => .mono weaker)
  | loop inside done rest => exact .loop (inside.mono weaker) done rest
  | plus inside entry => exact .plus (inside.mono weaker) entry
  | optional absent entry => exact .optional absent entry
  | ahead entry => exact .ahead entry
  | notAhead entry saved => exact .notAhead entry saved
  | transform function => exact .transform function
  | nest inside form => exact .nest (inside.mono weaker) form
  | unnest form outer rest => exact .unnest form outer rest
  | exit label depth => exact .exit label depth

/-- The machine does the same next, with twins. -/
inductive Control.Twin (pairs : Nat → Nat → Prop) : Control → Control → Prop
  | call {parser copy : Parser} (twin : parser.Twin pairs copy) (input : Value) :
      Twin pairs (.call parser input) (.call copy input)
  | answer (outcome : Outcome) : Twin pairs (.answer outcome) (.answer outcome)

/-- The state in another workspace. -/
def State.within (state : State) (workspace : Workspace) : State :=
  { state with workspace := workspace }

/-- The points of two runs are the same but for the stages of their workspaces. -/
inductive Progress.Twin (source : Workspace) : Progress → Progress → Prop
  | next {pairs : Nat → Nat → Prop} {control mirror : Control} {stack copies : List Frame}
      {state : State} {copy : Workspace}
      (alike : Workspace.Alike source pairs state.workspace copy)
      (controls : control.Twin pairs mirror) (frames : Frame.AllTwin pairs stack copies) :
      Twin source (.next control stack state) (.next mirror copies (state.within copy))
  | finished {pairs : Nat → Nat → Prop} {state : State} {copy : Workspace} (outcome : Outcome)
      (alike : Workspace.Alike source pairs state.workspace copy) :
      Twin source (.finished outcome state) (.finished outcome (state.within copy))
  | raised {pairs : Nat → Nat → Prop} {state : State} {copy : Workspace} (fault : Fault)
      (alike : Workspace.Alike source pairs state.workspace copy) :
      Twin source (.raised fault state) (.raised fault (state.within copy))

namespace State

variable (state : State) (workspace : Workspace)

/-- Another workspace leaves the context as it is. -/
@[simp] theorem within_context : (state.within workspace).context = state.context := rfl

/-- The workspace is the one that was put in. -/
@[simp] theorem within_workspace : (state.within workspace).workspace = workspace := rfl

/-- Notes do not look at the workspace. -/
theorem within_note (payload rest : Value) :
    (state.within workspace).note payload rest
      = (state.note payload rest).map (·.within workspace) := by
  obtain ⟨_, context, events⟩ := state
  cases context with
  | none => rfl
  | some context =>
    cases rest with
    | null => rfl
    | _ =>
      simp only [note, within]
      split <;> rfl

/-- Neither do tracers. -/
theorem within_emit (kind : EventKind) (name : String) (depth : Nat) (rest value : Value) :
    (state.within workspace).emit kind name depth rest value
      = (state.emit kind name depth rest value).map (·.within workspace) := by
  obtain ⟨_, context, events⟩ := state
  cases context with
  | none => rfl
  | some context =>
    obtain ⟨source, tracer, openParsers, record⟩ := context
    cases tracer with
    | none => rfl
    | some tracer =>
      simp only [emit, within]
      cases Failure.positionIn source rest with
      | error fault => rfl
      | ok position =>
        simp only [bind, Except.bind]
        split <;> rfl

/-- A parse that ends does not look at the workspace. -/
theorem within_conclude : (state.within workspace).conclude = state.conclude := by
  funext outcome
  cases outcome <;> rfl

/-- Restoring a record does not look at the workspace. -/
theorem within_restoreRecord (saved : Option Record) :
    (state.within workspace).restoreRecord saved = (state.restoreRecord saved).within workspace := by
  cases saved <;> rfl

end State

/-! ## Steps -/

namespace Progress.Twin

variable {source copy : Workspace} {pairs : Nat → Nat → Prop} {state : State}
  {stack copies : List Frame}

/-- What is computed without the workspace is the same. -/
theorem after (alike : Workspace.Alike source pairs state.workspace copy)
    {result : Except Fault α} {next mirror : α → Progress}
    (later : ∀ value, result = .ok value → Twin source (next value) (mirror value)) :
    Twin source (.after state result next) (.after (state.within copy) result mirror) := by
  cases result with
  | error fault => exact .raised fault alike
  | ok value => exact later value rfl

/-- A state that is computed is the same but for the workspace. -/
theorem afterState (alike : Workspace.Alike source pairs state.workspace copy)
    {result : Except Fault State} {next mirror : State → Progress}
    (later : ∀ value, result = .ok value → Twin source (next value) (mirror (value.within copy))) :
    Twin source (.after state result next)
      (.after (state.within copy) (result.map (·.within copy)) mirror) := by
  cases result with
  | error fault => exact .raised fault alike
  | ok value => exact later value rfl

/-- Entering a labelled parser leads to twins, if what comes after the entry does. -/
theorem enter (alike : Workspace.Alike source pairs state.workspace copy)
    (frames : Frame.AllTwin pairs stack copies) {next mirror : List Frame → State → Progress}
    (inside : ∀ {stack copies} {state : State},
      Workspace.Alike source pairs state.workspace copy → Frame.AllTwin pairs stack copies →
      Twin source (next stack state) (mirror copies (state.within copy)))
    (label : String) (input : Value) :
    Twin source (state.enter label input stack next)
      ((state.within copy).enter label input copies mirror) := by
  obtain ⟨workspace, context, events⟩ := state
  cases context with
  | none => exact inside alike frames
  | some context =>
    obtain ⟨whole, tracer, depth, record⟩ := context
    cases tracer with
    | none => exact inside alike frames
    | some tracer =>
      simp only [State.enter, State.within_context]
      rw [State.within_emit]
      refine afterState alike fun entered entry => ?_
      have same : (entered.setDepth (depth + 1)).workspace = workspace :=
        State.emit_workspace entry
      exact inside (same ▸ alike) (.cons (.exit label depth) frames)

/-- A terminal does not look at the workspace, so reading one leads to twins. -/
theorem terminal (alike : Workspace.Alike source pairs state.workspace copy)
    (frames : Frame.AllTwin pairs stack copies) (leaf : Terminal) (input : Value) :
    Twin source (leaf.run input stack state) (leaf.run input copies (state.within copy)) := by
  refine after alike fun verdict _ => ?_
  cases verdict with
  | matched value rest => exact .next alike (.answer _) frames
  | missed payload =>
    dsimp only
    rw [State.within_note]
    exact afterState alike fun noted done =>
      .next (State.note_workspace done ▸ alike) (.answer _) frames

/-- A terminal that forgets its calls does not look at the workspace. -/
theorem foreign (alike : Workspace.Alike source pairs state.workspace copy)
    (frames : Frame.AllTwin pairs stack copies) {leaf : Foreign} (forgets : leaf.memory = none)
    (input : Value) :
    Twin source (leaf.run input stack state) (leaf.run input copies (state.within copy)) := by
  simp only [Foreign.run, State.remember, forgets]
  exact after alike fun outcome _ => .next alike (.answer outcome) frames

/-- This is where the stages differ: one run may build what the other finds built. -/
theorem callRule (alike : Workspace.Alike source pairs state.workspace copy)
    (contained : source.Contained) (frames : Frame.AllTwin pairs stack copies) {cell other : Nat}
    (paired : pairs cell other) (input : Value) :
    Twin source (callRule cell input stack state)
      (Peg.callRule other input copies (state.within copy)) := by
  obtain ⟨more, weaker, later, names, agree⟩ := alike.resolve contained paired
  have frames : Frame.AllTwin more stack copies := frames.imp fun _ _ => .mono weaker
  simp only [Edit.outcome] at later names agree
  simp only [Peg.callRule, State.within_workspace]
  generalize (Workspace.resolve cell).run.run state.workspace = done at *
  generalize (Workspace.resolve other).run.run copy = copied at *
  obtain ⟨answer, after⟩ := done
  obtain ⟨copyAnswer, copyAfter⟩ := copied
  have alike : Workspace.Alike source more (state.within after).workspace copyAfter := later
  cases agree with
  | error fault => exact .raised fault alike
  | ok twin =>
    dsimp only at names ⊢
    rw [names]
    exact enter alike frames (fun alike frames => .next alike (.call twin input) frames) _ input

/-- Apart from its label a parser does the same first. -/
theorem start (alike : Workspace.Alike source pairs state.workspace copy)
    (contained : source.Contained) (frames : Frame.AllTwin pairs stack copies)
    {parser mirror : Parser} (twin : parser.Twin pairs mirror) (input : Value) :
    Twin source (parser.start input stack state)
      (mirror.start input copies (state.within copy)) := by
  cases twin with
  | terminal leaf => exact terminal alike frames leaf input
  | foreign forgets => exact foreign alike frames forgets input
  | sequence head length tail =>
    exact .next alike (.call head input)
      (.cons (.sequence input [] (List.forall₂_iff_zip.2 ⟨length, tail⟩)) frames)
  | choice head length tail =>
    exact .next alike (.call head input)
      (.cons (.choice input (List.forall₂_iff_zip.2 ⟨length, tail⟩)) frames)
  | star inside => exact .next alike (.call inside input) (.cons (.loop inside [] input) frames)
  | plus inside => exact .next alike (.call inside input) (.cons (.plus inside input) frames)
  | optional inside absent =>
    exact .next alike (.call inside input) (.cons (.optional absent input) frames)
  | ahead inside => exact .next alike (.call inside input) (.cons (.ahead input) frames)
  | notAhead inside => exact .next alike (.call inside input) (.cons (.notAhead input _) frames)
  | transform inside name function =>
    exact .next alike (.call inside input) (.cons (.transform function) frames)
  | nested inside deep form =>
    exact .next alike (.call inside input) (.cons (.nest deep form) frames)
  | traced name inside => exact .next alike (.call inside input) frames
  | rule paired => exact callRule alike contained frames paired input
  | constant value => exact .raised .wrongKind alike

/-- Calls of twins lead to twins, also where a rule is resolved first. -/
theorem call (alike : Workspace.Alike source pairs state.workspace copy)
    (contained : source.Contained) (frames : Frame.AllTwin pairs stack copies)
    {parser mirror : Parser} (twin : parser.Twin pairs mirror) (input : Value) :
    Twin source (parser.call input stack state)
      (mirror.call input copies (state.within copy)) := by
  have label : mirror.label? = parser.label? := by cases twin <;> rfl
  rw [Parser.call, Parser.call, label]
  cases parser.label? with
  | none => exact start alike contained frames twin input
  | some label =>
    exact enter alike frames (fun alike frames => start alike contained frames twin input) label
      input

/-- A frame does the same with an outcome. -/
theorem receive (alike : Workspace.Alike source pairs state.workspace copy)
    (frames : Frame.AllTwin pairs stack copies) {frame mirror : Frame}
    (twin : frame.Twin pairs mirror) (outcome : Outcome) :
    Twin source (frame.receive outcome stack state)
      (mirror.receive outcome copies (state.within copy)) := by
  cases twin with
  | sequence entry done tail =>
    cases outcome with
    | fail payload rest => cases tail <;> exact .next alike (.answer _) frames
    | ok value rest =>
      cases tail with
      | nil => exact .next alike (.answer _) frames
      | cons head tail =>
        exact .next alike (.call head rest) (.cons (.sequence entry _ tail) frames)
  | choice entry tail =>
    cases outcome with
    | ok value rest => cases tail <;> exact .next alike (.answer _) frames
    | fail payload rest =>
      cases tail with
      | nil => exact .next alike (.answer _) frames
      | cons head tail =>
        exact .next alike (.call head entry) (.cons (.choice entry tail) frames)
  | loop inside done rest =>
    cases outcome with
    | ok value rest => exact .next alike (.call inside rest) (.cons (.loop inside _ rest) frames)
    | fail payload _ => exact .next alike (.answer _) frames
  | plus inside entry =>
    cases outcome with
    | ok value rest => exact .next alike (.call inside rest) (.cons (.loop inside _ rest) frames)
    | fail payload _ => exact .next alike (.answer _) frames
  | optional absent entry => cases outcome <;> exact .next alike (.answer _) frames
  | ahead entry => cases outcome <;> exact .next alike (.answer _) frames
  | notAhead entry saved =>
    cases outcome with
    | ok value rest =>
      simp only [Frame.receive, State.within_note]
      exact afterState alike fun noted done =>
        .next (State.note_workspace done ▸ alike) (.answer _) frames
    | fail payload rest =>
      simp only [Frame.receive, State.within_restoreRecord]
      refine .next ?_ (.answer _) frames
      rw [State.restoreRecord_workspace]
      exact alike
  | transform function =>
    cases outcome with
    | ok value rest => exact after alike fun result _ => .next alike (.answer _) frames
    | fail payload rest => exact .next alike (.answer _) frames
  | nest inside form =>
    cases outcome with
    | fail payload rest => exact .next alike (.answer _) frames
    | ok value rest =>
      -- the second parse has a context of its own, over the same rules
      have nested : Workspace.Alike source pairs
          ({ state with context := some { source := value } } : State).workspace copy := alike
      exact .next nested (.call inside value) (.cons (.unnest form state.context rest) frames)
  | unnest form outer rest =>
    have around : Workspace.Alike source pairs
        ({ state with context := outer } : State).workspace copy := alike
    simp only [Frame.receive, State.within_context]
    exact after alike fun result _ => .next around (.answer _) frames
  | exit label depth =>
    have left : Workspace.Alike source pairs (state.setDepth depth).workspace copy := alike
    have same : (state.within copy).setDepth depth = (state.setDepth depth).within copy := rfl
    cases outcome <;>
    · simp only [Frame.receive, same, State.within_emit]
      exact afterState left fun told done =>
        .next (State.emit_workspace done ▸ left) (.answer _) frames

/-- **A step leads from twins to twins.** -/
theorem step (alike : Workspace.Alike source pairs state.workspace copy)
    (contained : source.Contained) {control mirror : Control}
    (controls : control.Twin pairs mirror) (frames : Frame.AllTwin pairs stack copies) :
    Twin source (step control stack state) (Peg.step mirror copies (state.within copy)) := by
  cases controls with
  | call twin input => exact call alike contained frames twin input
  | answer outcome =>
    cases frames with
    | nil => exact .finished outcome alike
    | cons twin frames => exact receive alike frames twin outcome

end Progress.Twin

/-! ## Runs -/

/-- The runs have ended the same but for the stages of their workspaces. -/
def Ending.Twin (source : Workspace) (last mirror : Ending) : Prop :=
  ∃ pairs copy, Workspace.Alike source pairs last.state.workspace copy
    ∧ mirror = ⟨last.answer, last.state.within copy⟩

/-- Runs from twins end in twins after the same number of steps, or neither of them has ended. -/
theorem Progress.Twin.run {source : Workspace} (contained : source.Contained)
    {progress mirror : Progress} (twin : Progress.Twin source progress mirror) (fuel : Nat) :
    Option.Rel (Ending.Twin source) (progress.run fuel) (mirror.run fuel) := by
  induction fuel generalizing progress mirror with
  | zero =>
    cases twin with
    | next => exact .none
    | finished outcome alike => exact .some ⟨_, _, alike, rfl⟩
    | raised fault alike => exact .some ⟨_, _, alike, rfl⟩
  | succ fuel inductionHypothesis =>
    cases twin with
    | next alike controls frames =>
      rw [run_succ_next, run_succ_next]
      exact inductionHypothesis (step alike contained controls frames)
    | finished outcome alike => exact .some ⟨_, _, alike, rfl⟩
    | raised fault alike => exact .some ⟨_, _, alike, rfl⟩

/-- The reports are the same but for the workspaces, of which the first is a stage. -/
structure Report.Twin (source : Workspace) (report mirror : Report α) : Prop where
  /-- The answers are the same. -/
  answer_eq : mirror.answer = report.answer
  /-- The events are the same. -/
  events_eq : mirror.events = report.events
  /-- The workspace is a stage. -/
  stage : ∃ origins, Stage source origins report.workspace

/-- **A parse gives the same answer and the same events at every stage**, and leaves a stage. -/
theorem parse_alike {source workspace copy : Workspace} (contained : source.Contained)
    {pairs : Nat → Nat → Prop} (alike : Workspace.Alike source pairs workspace copy)
    {parser mirror : Parser} (twin : parser.Twin pairs mirror) (fuel : Nat) (input : Value)
    (tracer : Option Tracer) :
    Option.Rel (Report.Twin source) (parse fuel workspace parser input tracer)
      (parse fuel copy mirror input tracer) := by
  have start : Progress.Twin source (.call parser input [] (.initial workspace input tracer))
      (.call mirror input [] (.initial copy input tracer)) :=
    .next alike (.call twin input) .nil
  have ended := start.run contained fuel
  rw [parse, parse]
  simp only [Progress.run, Progress.call] at ended
  revert ended
  generalize run fuel (.call parser input) [] (.initial workspace input tracer) = one,
    run fuel (.call mirror input) [] (.initial copy input tracer) = other
  rintro (⟨pairs, after, alike, rfl⟩ | _)
  · obtain ⟨origins, -, stage, -⟩ := alike
    refine .some ⟨?_, rfl, origins, stage⟩
    simp only [Ending.report, State.within_conclude]
  · exact .none

end Peg
