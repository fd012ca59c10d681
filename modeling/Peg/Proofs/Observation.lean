import Peg.Proofs.Calls

/-! # Observation does not disturb parsing

A parse may be watched by a tracer, it may keep a record of failures, or there may be no context at
all. The machine then takes other steps: a tracer has it leave frames for the exits, and a look
ahead saves a record or none. Seen from outside, all runs are the same one.

* **`Muted`** relates the pending work of a watched run to that of a run with less observation. What
  is taken away is a `Veil`: the tracer, or the whole context. Nested parses have contexts of their
  own, and those stay.
* **`Muted.step`**: a step of the watched run is matched by a step of the other run with the same
  calls, or it only leaves a labelled parser and is matched by no step at all. This needs calls that
  are `Call.Fair`.
* **`Progress.Muted.observations_eq`**: so the two runs look the same.
* **`observation_changes_nothing`** puts this together for the three ways to run a parser. -/

namespace Peg

/-! ## Veils -/

/-- What is hidden from a parser that runs. -/
inductive Veil where
  /-- Nothing. -/
  | nothing
  /-- The tracer, and how many traced parsers are open. -/
  | tracer
  /-- The whole context. -/
  | context

namespace Veil

/-- What is left of a context. -/
def hide : Veil → Option Context → Option Context
  | .nothing, whole => whole
  | .tracer, whole => whole.map fun current => { current with tracer := none, depth := 0 }
  | .context, _ => none

/-- What is left of a saved record. -/
def hideRecord : Veil → Option Record → Option Record
  | .context, _ => none
  | _, saved => saved

/-- Where something is hidden, the value is a sequence. -/
def Allows (veil : Veil) (value : Value) : Prop := veil ≠ .nothing → value.isSequence

/-- Where nothing is hidden there is no tracer. Otherwise a tracer is the given one, and it watches
a parse of a sequence. -/
def WatchedBy (veil : Veil) (watcher : Option Tracer) (context : Option Context) : Prop :=
  ∀ current tracer, context = some current → current.tracer = some tracer →
    veil ≠ .nothing ∧ current.source.isSequence ∧ watcher = some tracer

theorem Allows.rest {veil : Veil} {rest input : Value} (allows : veil.Allows input)
    (isRest : rest.IsRestOf input) : veil.Allows rest := by
  intro hides
  rw [isRest.isSequence_eq]
  exact allows hides

/-- No context that is left has a tracer. -/
theorem hide_tracer {veil : Veil} {watcher : Option Tracer} {context : Option Context}
    (watched : veil.WatchedBy watcher context) :
    (veil.hide context).bind (·.tracer) = none := by
  cases context with
  | none => cases veil <;> rfl
  | some current =>
    cases veil with
    | nothing =>
      by_contra present
      obtain ⟨tracer, present⟩ := Option.ne_none_iff_exists'.1 present
      exact (watched current tracer rfl present).1 rfl
    | tracer => rfl
    | context => rfl

end Veil

/-- A call that goes well whoever watches: a terminal written by hand obeys its protocol, and the
tracer accepts. -/
def Call.Fair (watcher : Option Tracer) (call : Call) : Prop :=
  call.Obeys ∧ ∀ tracer, watcher = some tracer → call.AcceptedBy tracer

/-! ## States under a veil -/

/-- The second state is the first one with something hidden. -/
structure State.Muted (watcher : Option Tracer) (veil : Veil) (state quiet : State) : Prop where
  /-- The workspace is the same. -/
  workspace_eq : quiet.workspace = state.workspace
  /-- The context is what is left. -/
  context_eq : quiet.context = veil.hide state.context
  /-- The tracer, if there is one, is the given one. -/
  watched : veil.WatchedBy watcher state.context

/-- Whether there is a tracer depends on the setting of the parse only. -/
theorem Veil.WatchedBy.of_setting {veil : Veil} {watcher : Option Tracer} {state after : State}
    (watched : veil.WatchedBy watcher state.context) (same : after.setting = state.setting) :
    veil.WatchedBy watcher after.context := by
  intro current tracer found present
  rw [State.setting, State.setting, found, Option.map_some] at same
  obtain ⟨before, current_before, same⟩ := Option.map_eq_some_iff.1 same.symm
  obtain ⟨source, tracers⟩ := Prod.mk.inj same
  rw [← source]
  exact watched before tracer current_before (tracers.trans present)

namespace State.Muted

variable {watcher : Option Tracer} {veil : Veil} {state quiet : State}

/-- Nobody watches under a veil. -/
theorem tracer?_eq_none (states : state.Muted watcher veil quiet) : quiet.tracer? = none := by
  rw [tracer?, states.context_eq]
  exact Veil.hide_tracer states.watched

/-- A change of the workspace is not hidden. -/
theorem withWorkspace (states : state.Muted watcher veil quiet) (workspace : Workspace) :
    State.Muted watcher veil { state with workspace := workspace }
      { quiet with workspace := workspace } where
  workspace_eq := rfl
  context_eq := states.context_eq
  watched := states.watched

/-- How many traced parsers are open is hidden with the tracer. -/
theorem setDepth (states : state.Muted watcher veil quiet) (hides : veil ≠ .nothing)
    (depth : Nat) : (state.setDepth depth).Muted watcher veil quiet where
  workspace_eq := states.workspace_eq
  context_eq := by
    rw [states.context_eq, State.setDepth]
    cases veil with
    | nothing => exact absurd rfl hides
    | tracer =>
      simp only [Veil.hide, Option.map_map]
      rfl
    | context => rfl
  watched := states.watched.of_setting (state.setDepth_setting depth)

/-- A report that the tracer accepts is hidden. -/
theorem exists_emit (states : state.Muted watcher veil quiet) {kind : EventKind} {name : String}
    {depth : Nat} {rest value : Value} (allows : veil.Allows rest)
    (fair : ∀ call ∈ state.asks kind name depth rest value, call.Fair watcher) :
    ∃ told, state.emit kind name depth rest value = .ok told
      ∧ told.Muted watcher veil quiet := by
  cases present : state.tracer? with
  | none => exact ⟨state, State.emit_of_unwatched present _ _ _ _ _, states⟩
  | some tracer =>
    obtain ⟨context, current, watched⟩ := Option.bind_eq_some_iff.1 present
    obtain ⟨hides, source, same⟩ := states.watched context tracer current watched
    have place : Failure.positionIn context.source rest
        = .ok ((context.source.length : Int) - rest.length) := by
      simp only [Failure.positionIn, source, allows hides, Bool.and_self, if_true]
    have accepts : tracer state.events
        ⟨kind, name, depth, (context.source.length : Int) - rest.length, value⟩ = none := by
      simp only [asks, present, current, Option.map_some, place] at fair
      exact (List.forall_mem_singleton.1 fair).2 tracer same
    rw [State.emit_of_watched current watched, place]
    simp only [Except.bind, accepts]
    exact ⟨_, rfl, states.workspace_eq, states.context_eq, states.watched⟩

/-- A tracer that accepts the entry into a parser lets it be called. -/
theorem admits (states : state.Muted watcher veil quiet) {label : String} {input : Value}
    (allows : veil.Allows input)
    (fair : ∀ call ∈ state.asksEntry label input, call.Fair watcher) :
    state.admits label input = true ∧ quiet.admits label input = true := by
  constructor
  · obtain ⟨told, reported, -⟩ := states.exists_emit allows fair
    rw [State.admits, reported]
    rfl
  · rw [State.admits, State.emit_of_unwatched states.tracer?_eq_none]
    rfl

/-- A terminal written by hand remembers the same. -/
theorem remember (states : state.Muted watcher veil quiet) (memory : Option Nat) (input : Value) :
    (quiet.remember memory input).1 = (state.remember memory input).1
      ∧ (state.remember memory input).2.Muted watcher veil (quiet.remember memory input).2 := by
  cases memory with
  | none => exact ⟨rfl, states⟩
  | some number =>
    simp only [State.remember, states.workspace_eq]
    exact ⟨trivial, states.withWorkspace _⟩

/-- What a look ahead saves is what is left of what it would save. -/
theorem saveRecord_eq (states : state.Muted watcher veil quiet) :
    quiet.saveRecord = veil.hideRecord state.saveRecord := by
  rw [saveRecord, states.context_eq, saveRecord]
  cases veil with
  | nothing => rfl
  | tracer =>
    simp only [Veil.hide, Option.map_map]
    rfl
  | context => rfl

theorem restoreRecord (states : state.Muted watcher veil quiet) (saved : Option Record) :
    (state.restoreRecord saved).Muted watcher veil
      (quiet.restoreRecord (veil.hideRecord saved)) where
  workspace_eq := by
    rw [restoreRecord_workspace, restoreRecord_workspace, states.workspace_eq]
  context_eq := by
    obtain ⟨workspace, context, events⟩ := state
    obtain ⟨_, _, _⟩ := quiet
    cases states.context_eq
    cases saved <;> cases veil <;> cases context <;> rfl
  watched := states.watched.of_setting (state.restoreRecord_setting saved)

/-- A failure is noted in what is left of the context, and both notes are faults or none is. -/
theorem note (states : state.Muted watcher veil quiet) {rest : Value} (allows : veil.Allows rest)
    (payload : Value) :
    (∃ noted hushed, state.note payload rest = .ok noted ∧ quiet.note payload rest = .ok hushed
      ∧ noted.Muted watcher veil hushed)
    ∨ ∃ fault, state.note payload rest = .error fault ∧ quiet.note payload rest = .error fault := by
  -- it is enough that the contexts after the notes are left over from each other
  suffices both : (∃ noted hushed, state.note payload rest = .ok noted
      ∧ quiet.note payload rest = .ok hushed ∧ hushed.context = veil.hide noted.context)
      ∨ ∃ fault, state.note payload rest = .error fault
        ∧ quiet.note payload rest = .error fault by
    refine both.imp_left ?_
    rintro ⟨noted, hushed, done, same, left⟩
    refine ⟨noted, hushed, done, same, ?_, left, states.watched.of_setting (note_setting done)⟩
    rw [note_workspace done, note_workspace same, states.workspace_eq]
  have left := states.context_eq
  cases current : state.context with
  | none =>
    have none_left : quiet.context = none := by
      rw [left, current]
      cases veil <;> rfl
    refine .inl ⟨state, quiet, ?_, ?_, left⟩
    · simp only [State.note, current]
    · simp only [State.note, none_left]
  | some context =>
    cases veil with
    | nothing =>
      -- both have the same context
      have same : quiet.context = some context := left.trans current
      simp only [State.note, current, same]
      split
      · exact .inl ⟨state, quiet, rfl, rfl, left⟩
      · exact .inl ⟨state, quiet, rfl, rfl, left⟩
      · split
        · exact .inl ⟨_, _, rfl, rfl, rfl⟩
        · exact .inr ⟨_, rfl, rfl⟩
    | tracer =>
      have sequence : rest.isSequence := allows (by simp)
      rw [current] at left
      exact .inl ⟨_, _, State.note_of_isSequence current sequence payload,
        State.note_of_isSequence left sequence payload, rfl⟩
    | context =>
      have sequence : rest.isSequence := allows (by simp)
      refine .inl ⟨_, quiet, State.note_of_isSequence current sequence payload, ?_, left⟩
      simp only [State.note, left, Veil.hide]

/-- A nested parse has a context of its own, and nothing of it is hidden. -/
theorem nest (states : state.Muted watcher veil quiet) (value : Value) :
    State.Muted watcher .nothing { state with context := some { source := value } }
      { quiet with context := some { source := value } } where
  workspace_eq := states.workspace_eq
  context_eq := rfl
  watched := by
    intro current tracer found present
    cases found
    cases present

/-- After a nested parse the context around it is back, with the same parts hidden. -/
theorem unnest {outer : Option Context} (states : state.Muted watcher .nothing quiet)
    (watched : veil.WatchedBy watcher outer) :
    State.Muted watcher veil { state with context := outer }
      { quiet with context := veil.hide outer } where
  workspace_eq := states.workspace_eq
  context_eq := rfl
  watched := watched

end State.Muted

/-! ## Pending work under a veil -/

/-- What a frame gives back is a sequence where something is hidden. The frames that hold records or
contexts and those for exits are left out. -/
def Frame.Allowed (veil : Veil) : Frame → Prop
  | .sequence entry _ _ => veil.Allows entry
  | .choice entry _ => veil.Allows entry
  | .loop _ _ rest => veil.Allows rest
  | .plus _ entry => veil.Allows entry
  | .optional _ entry => veil.Allows entry
  | .ahead entry => veil.Allows entry
  | .transform _ => True
  | .nest _ _ => True
  | .notAhead _ _ => False
  | .unnest _ _ _ => False
  | .exit _ _ => False

/-- What is called or handed on is a sequence where something is hidden. -/
def Control.Allowed (veil : Veil) : Control → Prop
  | .call _ input => veil.Allows input
  | .answer outcome => veil.Allows outcome.rest

/-- The second stack is the first one with something hidden. The veil is the one for the innermost
parse; that for the outermost one is `root`. -/
inductive Muted (watcher : Option Tracer) (root : Veil) : Veil → List Frame → List Frame → Prop
  /-- There is nothing to hide. -/
  | nil : Muted watcher root root [] []
  /-- Frames for exits are hidden. -/
  | exit {veil : Veil} {label : String} {depth : Nat} {stack hushed : List Frame}
      (hides : veil ≠ .nothing) (tail : Muted watcher root veil stack hushed) :
      Muted watcher root veil (.exit label depth :: stack) hushed
  /-- Most frames stay. -/
  | frame {veil : Veil} {frame : Frame} {stack hushed : List Frame} (allowed : frame.Allowed veil)
      (tail : Muted watcher root veil stack hushed) :
      Muted watcher root veil (frame :: stack) (frame :: hushed)
  /-- A negative look ahead may have saved a record. -/
  | notAhead {veil : Veil} {entry : Value} {saved : Option Record} {stack hushed : List Frame}
      (allows : veil.Allows entry) (tail : Muted watcher root veil stack hushed) :
      Muted watcher root veil (.notAhead entry saved :: stack)
        (.notAhead entry (veil.hideRecord saved) :: hushed)
  /-- Nothing of a nested parse is hidden, but something of the context around it may be. -/
  | unnest {veil : Veil} {form : NestedForm} {outer : Option Context} {rest : Value}
      {stack hushed : List Frame} (allows : veil.Allows rest)
      (watched : veil.WatchedBy watcher outer) (tail : Muted watcher root veil stack hushed) :
      Muted watcher root .nothing (.unnest form outer rest :: stack)
        (.unnest form (veil.hide outer) rest :: hushed)

/-- The second point of a run is the first one with something hidden. -/
inductive Progress.Muted (watcher : Option Tracer) (root : Veil) : Progress → Progress → Prop
  /-- The same is done next. -/
  | next {veil : Veil} {control : Control} {stack hushed : List Frame} {state quiet : State}
      (frames : Peg.Muted watcher root veil stack hushed) (states : state.Muted watcher veil quiet)
      (allowed : control.Allowed veil) :
      Muted watcher root (.next control stack state) (.next control hushed quiet)
  /-- The outcomes are the same. -/
  | finished {outcome : Outcome} {state quiet : State} (states : state.Muted watcher root quiet) :
      Muted watcher root (.finished outcome state) (.finished outcome quiet)
  /-- The faults are the same. -/
  | raised {fault : Fault} {state quiet : State} (same : quiet.workspace = state.workspace) :
      Muted watcher root (.raised fault state) (.raised fault quiet)

/-! ## One step -/

section Step

variable {watcher : Option Tracer} {root veil : Veil} {stack hushed : List Frame}
  {state quiet : State}

/-- Both go on with the result of one computation, or both stop. -/
theorem Progress.Muted.after (states : state.Muted watcher veil quiet) (result : Except Fault α)
    {next hush : α → Progress} (goesOn : ∀ value, (next value).Muted watcher root (hush value)) :
    (Progress.after state result next).Muted watcher root (.after quiet result hush) := by
  cases result with
  | error fault => exact .raised states.workspace_eq
  | ok value => exact goesOn value

/-- Both note a failure and go on, or both stop. -/
theorem Progress.Muted.after_note (states : state.Muted watcher veil quiet) {rest : Value}
    (allows : veil.Allows rest) (payload : Value) {next hush : State → Progress}
    (goesOn : ∀ {noted still : State}, noted.Muted watcher veil still →
      (next noted).Muted watcher root (hush still)) :
    (Progress.after state (state.note payload rest) next).Muted watcher root
      (.after quiet (quiet.note payload rest) hush) := by
  obtain ⟨noted, still, done, same, both⟩ | ⟨fault, raised, same⟩ := states.note allows payload
  · rw [done, same]
    exact goesOn both
  · rw [raised, same]
    exact .raised states.workspace_eq

/-- The entry into a labelled parser is reported to nobody under a veil. -/
theorem State.Muted.enter (states : state.Muted watcher veil quiet)
    (frames : Peg.Muted watcher root veil stack hushed) {label : String} {input : Value}
    (allows : veil.Allows input)
    (fair : ∀ call ∈ state.asksEntry label input, call.Fair watcher)
    {next : List Frame → State → Progress}
    (goesOn : ∀ {stack : List Frame} {state : State}, Peg.Muted watcher root veil stack hushed →
      state.Muted watcher veil quiet → (next stack state).Muted watcher root (next hushed quiet)) :
    (state.enter label input stack next).Muted watcher root
      (quiet.enter label input hushed next) := by
  rw [State.enter_of_unwatched states.tracer?_eq_none]
  cases present : state.tracer? with
  | none =>
    rw [State.enter_of_unwatched present]
    exact goesOn frames states
  | some tracer =>
    obtain ⟨context, current, present⟩ := Option.bind_eq_some_iff.1 present
    obtain ⟨hides, -⟩ := states.watched context tracer current present
    obtain ⟨told, reported, states⟩ := states.exists_emit allows fair
    simp only [current, Option.elim_some] at reported
    rw [State.enter_of_watched current (by rw [present]; rfl), reported]
    exact goesOn (.exit hides frames) (states.setDepth hides _)

/-- A terminal finds the same. -/
theorem Terminal.run_muted (leaf : Terminal) {input : Value} (allows : veil.Allows input)
    (frames : Muted watcher root veil stack hushed) (states : state.Muted watcher veil quiet) :
    (leaf.run input stack state).Muted watcher root (leaf.run input hushed quiet) := by
  rw [Terminal.run, Terminal.run]
  cases found : leaf.verdict input with
  | error fault => exact .raised states.workspace_eq
  | ok verdict =>
    cases verdict with
    | matched value rest =>
      exact .next frames states (allows.rest (isRestOf_of_verdict found))
    | missed payload =>
      exact .after_note states allows payload fun states => .next frames states allows

/-- A terminal written by hand that obeys the protocol responds the same. -/
theorem Foreign.run_muted (leaf : Foreign) {input : Value} (allows : veil.Allows input)
    (frames : Muted watcher root veil stack hushed) (states : state.Muted watcher veil quiet)
    (obeys : (Call.foreign leaf (state.remember leaf.memory input).1 input).Obeys) :
    (leaf.run input stack state).Muted watcher root (leaf.run input hushed quiet) := by
  obtain ⟨same, remembers⟩ := states.remember leaf.memory input
  simp only [Foreign.run, same]
  cases found : leaf.respond (state.remember leaf.memory input).1 input with
  | error fault => exact .raised remembers.workspace_eq
  | ok outcome =>
    refine .next frames remembers fun hides => ?_
    have fits := obeys (allows hides) outcome found
    cases outcome with
    | ok value rest => exact allows.rest fits hides
    | fail payload rest =>
      cases fits
      exact allows hides

/-- A rule is resolved in the same workspace. -/
theorem callRule_muted (cell : Nat) {input : Value} (allows : veil.Allows input)
    (frames : Muted watcher root veil stack hushed) (states : state.Muted watcher veil quiet)
    (fair : ∀ call ∈ Call.ofStart input state (.rule cell), call.Fair watcher) :
    (callRule cell input stack state).Muted watcher root (callRule cell input hushed quiet) := by
  simp only [Call.ofStart] at fair
  simp only [callRule, states.workspace_eq]
  cases resolved : (Workspace.resolve cell).run.run state.workspace with
  | mk found workspace =>
    cases found with
    | error fault => exact .raised rfl
    | ok body =>
      rw [resolved] at fair
      exact (states.withWorkspace workspace).enter frames allows fair fun frames states =>
        .next frames states allows

/-- Apart from its label a parser does the same first. -/
theorem Parser.start_muted (parser : Parser) {input : Value} (allows : veil.Allows input)
    (frames : Muted watcher root veil stack hushed) (states : state.Muted watcher veil quiet)
    (fair : ∀ call ∈ Call.ofStart input state parser, call.Fair watcher) :
    (parser.start input stack state).Muted watcher root (parser.start input hushed quiet) := by
  cases parser with
  | terminal leaf => exact leaf.run_muted allows frames states
  | foreign leaf =>
    exact leaf.run_muted allows frames states (List.forall_mem_singleton.1 fair).1
  | sequence first others => exact .next (.frame allows frames) states allows
  | choice first others => exact .next (.frame allows frames) states allows
  | star body => exact .next (.frame allows frames) states allows
  | plus body => exact .next (.frame allows frames) states allows
  | optional body absent => exact .next (.frame allows frames) states allows
  | ahead body => exact .next (.frame allows frames) states allows
  | notAhead body =>
    simp only [Parser.start, states.saveRecord_eq]
    exact .next (.notAhead allows frames) states allows
  | transform body name function => exact .next (.frame trivial frames) states allows
  | nested body inner form => exact .next (.frame trivial frames) states allows
  | traced name body => exact .next frames states allows
  | rule cell => exact callRule_muted cell allows frames states fair
  | constant value => exact .raised states.workspace_eq

/-- Apart from the tracer a parser with a label calls at most a terminal. -/
theorem Call.ofStart_fair {parser : Parser} {label : String} (found : parser.label? = some label)
    (input : Value) (state : State) (watcher : Option Tracer) :
    ∀ call ∈ Call.ofStart input state parser, call.Fair watcher := by
  cases parser with
  | terminal leaf => exact List.forall_mem_singleton.2 ⟨trivial, fun _ _ => trivial⟩
  | foreign leaf => cases found
  | rule cell => cases found
  | _ => exact List.forall_mem_nil _

/-- A parser is called the same, with or without a label. -/
theorem Parser.call_muted (parser : Parser) {input : Value} (allows : veil.Allows input)
    (frames : Muted watcher root veil stack hushed) (states : state.Muted watcher veil quiet)
    (fair : ∀ call ∈ Call.ofCall parser input state, call.Fair watcher) :
    (parser.call input stack state).Muted watcher root (parser.call input hushed quiet) := by
  rw [Call.ofCall] at fair
  rw [Parser.call, Parser.call]
  cases found : parser.label? with
  | none =>
    rw [found] at fair
    exact parser.start_muted allows frames states fair
  | some label =>
    rw [found] at fair
    exact states.enter frames allows (List.forall_mem_append.1 fair).1 fun frames states =>
      parser.start_muted allows frames states (Call.ofStart_fair found input _ watcher)

/-- Apart from its label and the tracer a parser makes the same calls first. -/
theorem State.Muted.shown_ofStart (states : state.Muted watcher veil quiet) (input : Value)
    (parser : Parser) :
    Call.shown (Call.ofStart input state parser)
      = Call.shown (Call.ofStart input quiet parser) := by
  cases parser with
  | foreign leaf => simp only [Call.ofStart, (states.remember leaf.memory input).1]
  | rule cell =>
    simp only [Call.ofStart, states.workspace_eq]
    split
    · rw [State.asksEntry, State.asksEntry, State.shown_asks, State.shown_asks]
    · rfl
  | _ => rfl

/-- Apart from the tracer the call of a parser makes the same calls. -/
theorem State.Muted.shown_ofCall (states : state.Muted watcher veil quiet) (parser : Parser)
    {input : Value} (allows : veil.Allows input)
    (fair : ∀ call ∈ Call.ofCall parser input state, call.Fair watcher) :
    Call.shown (Call.ofCall parser input state) = Call.shown (Call.ofCall parser input quiet) := by
  rw [Call.ofCall] at fair ⊢
  rw [Call.ofCall]
  cases found : parser.label? with
  | none => exact states.shown_ofStart input parser
  | some label =>
    rw [found] at fair
    obtain ⟨admitted, stillAdmitted⟩ := states.admits allows (List.forall_mem_append.1 fair).1
    simp only [Call.shown_append, admitted, stillAdmitted, if_true, State.asksEntry,
      State.shown_asks, states.shown_ofStart input parser]

/-- Most frames do the same with an outcome. -/
theorem Frame.receive_muted {frame : Frame} (allowed : frame.Allowed veil) {outcome : Outcome}
    (allows : veil.Allows outcome.rest) (frames : Muted watcher root veil stack hushed)
    (states : state.Muted watcher veil quiet) :
    (frame.receive outcome stack state).Muted watcher root
      (frame.receive outcome hushed quiet) := by
  cases frame with
  | sequence entry done others =>
    cases outcome with
    | ok value rest =>
      cases others with
      | nil => exact .next frames states allows
      | cons parser others => exact .next (.frame allowed frames) states allows
    | fail payload rest => cases others <;> exact .next frames states allowed
  | choice entry others =>
    cases outcome with
    | ok value rest => exact .next frames states allows
    | fail payload rest =>
      cases others with
      | nil => exact .next frames states allowed
      | cons parser others => exact .next (.frame allowed frames) states allowed
  | loop body done entry =>
    cases outcome with
    | ok value rest => exact .next (.frame allows frames) states allows
    | fail payload rest => exact .next frames states allowed
  | plus body entry =>
    cases outcome with
    | ok value rest => exact .next (.frame allows frames) states allows
    | fail payload rest => exact .next frames states allowed
  | optional absent entry =>
    cases outcome with
    | ok value rest => exact .next frames states allows
    | fail payload rest => exact .next frames states allowed
  | ahead entry => cases outcome <;> exact .next frames states allowed
  | transform function =>
    cases outcome with
    | ok value rest =>
      exact .after states (function value) fun result => .next frames states allows
    | fail payload rest => exact .next frames states allows
  | nest inner form =>
    cases outcome with
    | ok value rest =>
      -- the context around the nested parse waits in the new frame
      simp only [Frame.receive, states.context_eq]
      exact .next (.unnest allows states.watched frames) (states.nest value) (absurd rfl)
    | fail payload rest => exact .next frames states allows
  | notAhead | unnest | exit => cases allowed

/-- A negative look ahead turns the same outcome round. -/
theorem Frame.receive_notAhead_muted {entry : Value} (allows : veil.Allows entry)
    (saved : Option Record) (outcome : Outcome) (frames : Muted watcher root veil stack hushed)
    (states : state.Muted watcher veil quiet) :
    ((Frame.notAhead entry saved).receive outcome stack state).Muted watcher root
      ((Frame.notAhead entry (veil.hideRecord saved)).receive outcome hushed quiet) := by
  cases outcome with
  | ok value rest => exact .after_note states allows value fun states => .next frames states allows
  | fail payload rest => exact .next frames (states.restoreRecord saved) allows

/-- A nested parse ends the same, and what is around it goes on under the veil. -/
theorem Frame.receive_unnest_muted {outer : Option Context} {rest : Value}
    (allows : veil.Allows rest) (accepts : veil.WatchedBy watcher outer) (form : NestedForm)
    (outcome : Outcome) (frames : Muted watcher root veil stack hushed)
    (states : state.Muted watcher .nothing quiet) :
    ((Frame.unnest form outer rest).receive outcome stack state).Muted watcher root
      ((Frame.unnest form (veil.hide outer) rest).receive outcome hushed quiet) := by
  simp only [Frame.receive, states.context_eq]
  exact .after states _ fun result => .next frames (states.unnest accepts) allows

/-- The exit from a labelled parser is reported and nothing else happens. -/
theorem State.Muted.exists_exit (states : state.Muted watcher veil quiet) (hides : veil ≠ .nothing)
    {label : String} {depth : Nat} {outcome : Outcome} (allows : veil.Allows outcome.rest)
    (fair : ∀ call ∈ state.asks outcome.exitKind label depth outcome.rest outcome.value,
      call.Fair watcher) (stack : List Frame) :
    ∃ told, (Frame.exit label depth).receive outcome stack state = .answer outcome stack told
      ∧ told.Muted watcher veil quiet := by
  -- the tracer is asked after the depth has been set, which it does not see
  have same (kind : EventKind) (rest value : Value) :
      (state.setDepth depth).asks kind label depth rest value
        = state.asks kind label depth rest value := by
    obtain ⟨workspace, context, events⟩ := state
    cases context <;> rfl
  rw [← same] at fair
  obtain ⟨told, reported, states⟩ := (states.setDepth hides depth).exists_emit allows fair
  refine ⟨told, ?_, states⟩
  simp only [receive_exit, Ending.leave, reported]
  rfl

/-- **A step and its match.** A step of the watched run calls only the tracer and takes a frame away
that is hidden, or the other run takes a step with the same calls. -/
theorem Muted.step {control : Control} (frames : Muted watcher root veil stack hushed)
    (states : state.Muted watcher veil quiet) (allowed : control.Allowed veil)
    (fair : ∀ call ∈ Call.made control stack state, call.Fair watcher) :
    (∃ left told, left.length < stack.length ∧ Call.shown (Call.made control stack state) = []
      ∧ Peg.step control stack state = .next control left told
      ∧ Muted watcher root veil left hushed ∧ told.Muted watcher veil quiet)
    ∨ (Call.shown (Call.made control stack state) = Call.shown (Call.made control hushed quiet)
      ∧ (Peg.step control stack state).Muted watcher root (Peg.step control hushed quiet)) := by
  cases control with
  | call parser input =>
    exact .inr ⟨states.shown_ofCall parser allowed fair,
      parser.call_muted allowed frames states fair⟩
  | answer outcome =>
    cases frames with
    | nil => exact .inr ⟨rfl, .finished states⟩
    | @exit _ label depth left _ hides tail =>
      obtain ⟨told, stepped, states⟩ := states.exists_exit hides allowed fair left
      exact .inl ⟨left, told, Nat.lt_succ_self _, state.shown_asks _ _ _ _ _, stepped, tail, states⟩
    | @frame _ frame _ _ fits tail =>
      refine .inr ⟨?_, Frame.receive_muted fits allowed tail states⟩
      cases frame <;> first | rfl | cases fits
    | notAhead allows tail =>
      exact .inr ⟨rfl, Frame.receive_notAhead_muted allows _ outcome tail states⟩
    | unnest allows watched tail =>
      exact .inr ⟨rfl, Frame.receive_unnest_muted allows watched _ outcome tail states⟩

end Step

/-! ## Whole runs -/

section Run

variable {watcher : Option Tracer} {root veil : Veil}

/-- The run with less observation keeps up with the watched one. By induction on the steps: a hidden
step is matched by none. -/
theorem Progress.Muted.exists_quiet {progress quiet : Progress}
    (muted : progress.Muted watcher root quiet) (fair : progress.AllCalls (Call.Fair watcher))
    (steps : Nat) :
    ∃ fewer, Call.shown (quiet.calls fewer) = Call.shown (progress.calls steps)
      ∧ (progress.later steps).Muted watcher root (quiet.later fewer) := by
  induction steps generalizing progress quiet with
  | zero =>
    refine ⟨0, by rw [calls_zero, calls_zero], ?_⟩
    rw [later_zero, later_zero]
    exact muted
  | succ steps inductionHypothesis =>
    cases muted with
    | next frames states allowed =>
      have fairAfter := fair.step
      -- a step of the watched run may be one out of a label, which the other run does not take
      obtain ⟨left, told, -, silent, stepped, frames, states⟩ | ⟨same, both⟩ :=
        frames.step states allowed fair.made
      · rw [stepped] at fairAfter
        obtain ⟨fewer, made, reached⟩ :=
          inductionHypothesis (.next frames states allowed) fairAfter
        refine ⟨fewer, ?_, ?_⟩
        · rw [made, calls, Call.shown_append, silent, stepped, List.nil_append]
        · rw [later, stepped]
          exact reached
      · obtain ⟨fewer, made, reached⟩ := inductionHypothesis both fairAfter
        refine ⟨fewer + 1, ?_, reached⟩
        rw [calls, calls, Call.shown_append, Call.shown_append, same, made]
    | finished states => exact ⟨0, rfl, .finished states⟩
    | raised same => exact ⟨0, rfl, .raised same⟩

/-- A step of the run with less observation is matched by some steps of the watched one, after those
that leave labelled parsers. -/
theorem Muted.exists_match {control : Control} {stack hushed : List Frame} {state quiet : State}
    (frames : Muted watcher root veil stack hushed) (states : state.Muted watcher veil quiet)
    (allowed : control.Allowed veil)
    (fair : (Progress.next control stack state).AllCalls (Call.Fair watcher)) :
    ∃ steps, Call.shown ((Progress.next control stack state).calls steps)
        = Call.shown (Call.made control hushed quiet)
      ∧ ((Progress.next control stack state).later steps).Muted watcher root
        (Peg.step control hushed quiet) := by
  -- each hidden step takes a frame away, so the induction is on their number
  induction size : stack.length using Nat.strong_induction_on generalizing stack state with
  | _ size inductionHypothesis =>
    have fairAfter := fair.step
    obtain ⟨left, told, less, silent, stepped, frames, states⟩ | ⟨same, both⟩ :=
      frames.step states allowed fair.made
    · rw [stepped] at fairAfter
      obtain ⟨steps, made, reached⟩ :=
        inductionHypothesis left.length (by omega) frames states fairAfter rfl
      refine ⟨steps + 1, ?_, ?_⟩
      · rw [Progress.calls, Call.shown_append, silent, stepped, made, List.nil_append]
      · rw [Progress.later, stepped]
        exact reached
    · refine ⟨1, ?_, ?_⟩
      · rw [Progress.calls, Progress.calls_zero, List.append_nil, same]
      · rw [Progress.later, Progress.later_zero]
        exact both

/-- The watched run keeps up with the one with less observation. -/
theorem Progress.Muted.exists_watched {progress quiet : Progress}
    (muted : progress.Muted watcher root quiet) (fair : progress.AllCalls (Call.Fair watcher))
    (steps : Nat) :
    ∃ more, Call.shown (progress.calls more) = Call.shown (quiet.calls steps)
      ∧ (progress.later more).Muted watcher root (quiet.later steps) := by
  induction steps generalizing progress quiet with
  | zero =>
    refine ⟨0, by rw [calls_zero, calls_zero], ?_⟩
    rw [later_zero, later_zero]
    exact muted
  | succ steps inductionHypothesis =>
    cases muted with
    | next frames states allowed =>
      obtain ⟨first, early, reached⟩ := frames.exists_match states allowed fair
      obtain ⟨more, late, reached⟩ := inductionHypothesis reached (fair.later first)
      refine ⟨first + more, ?_, ?_⟩
      · rw [calls_add, Call.shown_append, early, late, calls, Call.shown_append]
      · rw [later_add]
        exact reached
    | finished states => exact ⟨0, rfl, .finished states⟩
    | raised same => exact ⟨0, rfl, .raised same⟩

/-- **Two runs that differ in what is hidden look the same**, to a view of their ends that does not
see the difference. -/
theorem Progress.Muted.observations_eq {progress quiet : Progress}
    (muted : progress.Muted watcher root quiet) (fair : progress.AllCalls (Call.Fair watcher))
    {view : Ending → α}
    (blind : ∀ {last still : Progress}, last.Muted watcher root still →
      (last.run 0).map view = (still.run 0).map view) :
    progress.observations view = quiet.observations view := by
  ext seen
  constructor
  · rintro ⟨steps, rfl⟩
    obtain ⟨fewer, made, reached⟩ := muted.exists_quiet fair steps
    refine ⟨fewer, ?_⟩
    simp only [observe, made, run_eq_later steps, run_eq_later fewer, blind reached]
  · rintro ⟨steps, rfl⟩
    obtain ⟨more, made, reached⟩ := muted.exists_watched fair steps
    refine ⟨more, ?_⟩
    simp only [observe, made, run_eq_later steps, run_eq_later more, blind reached]

end Run

/-! ## The ends of runs -/

namespace Progress

variable {watcher : Option Tracer} {last still : Progress}

/-- Under any veil a run ends with the same outcome or fault, in the same workspace. -/
theorem Muted.result_eq {root : Veil} (muted : last.Muted watcher root still) :
    (last.run 0).map Ending.result = (still.run 0).map Ending.result := by
  cases muted with
  | next frames states allowed => rfl
  | finished states => simp only [run_finished, Option.map_some, Ending.result, states.workspace_eq]
  | raised same => simp only [run_raised, Option.map_some, Ending.result, same]

/-- Without the tracer, the end of a parse means the same to the caller. -/
theorem Muted.conclude_eq (muted : last.Muted watcher .tracer still) :
    (last.run 0).map (fun last => (last.report State.conclude).result)
      = (still.run 0).map fun last => (last.report State.conclude).result := by
  cases muted with
  | next frames states allowed => rfl
  | @finished outcome state quiet states =>
    -- a success and a failure are made from the whole input and the record, which are left
    obtain ⟨workspace, context, events⟩ := state
    obtain ⟨_, _, _⟩ := quiet
    obtain ⟨same, left, -⟩ := states
    cases same
    cases left
    cases outcome <;> cases context <;> rfl
  | @raised fault state quiet same =>
    simp only [run_raised, Option.map_some, Ending.report, Report.result, same]
    rfl

/-- The start of a parse under a veil is the start of a parse without a tracer or of a run without a
context. -/
theorem muted_initial {veil : Veil} (hides : veil ≠ .nothing) (workspace : Workspace)
    (parser : Parser) {input : Value} (sequence : input.isSequence) (watcher : Option Tracer) :
    (Progress.call parser input [] (.initial workspace input watcher)).Muted watcher veil
      (.call parser input []
        ⟨workspace, veil.hide (some { source := input, tracer := watcher }), []⟩) := by
  refine .next .nil ⟨rfl, rfl, ?_⟩ fun _ => sequence
  intro current tracer found watched
  cases found
  exact ⟨hides, sequence, watched⟩

end Progress

/-! ## Three ways to run a parser -/

/-- **Observation does not disturb parsing.** Take a parser, a sequence, and a tracer that accepts
all events of the parse. All terminals are built in, or the calls of those written by hand obey the
protocol: a match hands back a rest of the input and a failure the input. Then

* a run without a context, a parse without a tracer and a parse with the tracer look the same from
  outside: they make the same calls of terminals and functions in the same order, and after the
  same calls they end with the same outcome or fault, with the same rules and memories, or none of
  them ends;
* whatever final continuations do with the outcome, they give the same;
* with and without the tracer the parse reports the same success or raises the same failure. -/
theorem observation_changes_nothing (workspace : Workspace) (parser : Parser) (input : Value)
    (tracer : Tracer) (sequence : input.isSequence)
    (accepts : (Progress.call parser input []
      (.initial workspace input (some tracer))).AllCalls (Call.AcceptedBy tracer))
    (obeys : (parser.BuiltIn ∧ workspace.BuiltIn)
      ∨ (Progress.call parser input []
          (.initial workspace input (some tracer))).AllCalls Call.Obeys) :
    (∀ watcher ∈ [none, some tracer],
      (Progress.call parser input [] (.initial workspace input watcher)).observations Ending.result
        = (Progress.call parser input [] ⟨workspace, none, []⟩).observations Ending.result) ∧
    (∀ watcher ∈ [none, some tracer],
      ∀ (α : Type) (succeed fail : Value → Value → Workspace → Part (Except Fault α × Workspace)),
      (Progress.call parser input [] (.initial workspace input watcher)).resultOf succeed fail
        = (Progress.call parser input [] ⟨workspace, none, []⟩).resultOf succeed fail) ∧
    (Set.range fun fuel => (parse fuel workspace parser input (some tracer)).map Report.result)
      = Set.range fun fuel => (parse fuel workspace parser input none).map Report.result := by
  have fair : (Progress.call parser input []
      (.initial workspace input (some tracer))).AllCalls (Call.Fair (some tracer)) := by
    intro steps call made
    refine ⟨?_, fun _ same => Option.some.inj same ▸ accepts steps call made⟩
    rcases obeys with ⟨builtIn, rules⟩ | obeys
    · exact (tracked_initial builtIn rules input (some tracer)).obeys steps call made
    · exact obeys steps call made
  have contextless := Progress.muted_initial (show Veil.context ≠ .nothing by simp) workspace parser
    sequence (some tracer)
  have tracerless := Progress.muted_initial (show Veil.tracer ≠ .nothing by simp) workspace parser
    sequence (some tracer)
  have same : ∀ watcher ∈ [none, some tracer],
      (Progress.call parser input [] (.initial workspace input watcher)).observations Ending.result
        = (Progress.call parser input [] ⟨workspace, none, []⟩).observations Ending.result := by
    have plain := contextless.observations_eq fair Progress.Muted.result_eq
    have untraced := tracerless.observations_eq fair Progress.Muted.result_eq
    exact List.forall_mem_cons.2 ⟨untraced.symm.trans plain, List.forall_mem_singleton.2 plain⟩
  refine ⟨same, ?_, ?_⟩
  · intro watcher member α succeed fail
    rw [Progress.resultOf_eq, Progress.resultOf_eq, Progress.ending_map_eq (same watcher member)]
  · -- here the record has to be kept, so only the tracer is hidden
    rw [Progress.range_parse, Progress.range_parse,
      tracerless.observations_eq fair Progress.Muted.conclude_eq]
    rfl

/-- A terminal that gives up after two calls obeys the protocol, and a tracer that accepts four
events is told of no more. Being watched does not tire the terminal: in all three runs it is called
three times and then the function is applied. -/
theorem tiring_terminal_seen_alike :
    ∃ calls workspace, calls.length = 4 ∧ ∀ watcher ∈ [none, some (Tracer.limited 4)],
      (calls, some (.ok (.ok (.tuple [.list [.null, .null]]) (.ofString "ab")), workspace))
        ∈ (Progress.call (.transform (.star (.foreign (.tiring 0 2))) "box"
            fun value => .ok (.tuple [value])) (.ofString "ab") []
            (.initial { memories := #[[]] } (.ofString "ab") watcher)).observations
              Ending.result := by
  have obeys (earlier : List Value) (input : Value) :
      (Call.foreign (.tiring 0 2) earlier input).Obeys := by
    intro _ outcome found
    simp only [Foreign.tiring] at found
    split at found <;> cases found
    · exact rfl
    · exact .refl input
  -- the entries, the three calls of the terminal, an exit, the function and the last exit
  have fair : (Progress.call (.transform (.star (.foreign (.tiring 0 2))) "box"
      fun value => .ok (.tuple [value])) (.ofString "ab") []
      (.initial { memories := #[[]] } (.ofString "ab") (some (Tracer.limited 4)))).AllCalls
        fun call => call.AcceptedBy (.limited 4) ∧ call.Obeys :=
    Progress.allCalls_of_run (show Progress.run 20 _ = _ from rfl) <|
      List.forall_mem_cons.2 ⟨⟨rfl, trivial⟩, List.forall_mem_cons.2 ⟨⟨rfl, trivial⟩,
      List.forall_mem_cons.2 ⟨⟨trivial, obeys _ _⟩, List.forall_mem_cons.2 ⟨⟨trivial, obeys _ _⟩,
      List.forall_mem_cons.2 ⟨⟨trivial, obeys _ _⟩, List.forall_mem_cons.2 ⟨⟨rfl, trivial⟩,
      List.forall_mem_cons.2 ⟨⟨trivial, trivial⟩, List.forall_mem_singleton.2 ⟨rfl, trivial⟩⟩⟩⟩⟩⟩⟩⟩
  obtain ⟨same, -, -⟩ := observation_changes_nothing { memories := #[[]] }
    (.transform (.star (.foreign (.tiring 0 2))) "box" fun value => .ok (.tuple [value]))
    (.ofString "ab") (.limited 4) rfl (fun steps call made => (fair steps call made).1)
    (.inr fun steps call made => (fair steps call made).2)
  have seen : ∃ calls workspace, calls.length = 4
      ∧ (calls, some (.ok (.ok (.tuple [.list [.null, .null]]) (.ofString "ab")), workspace))
        = (Progress.call (.transform (.star (.foreign (.tiring 0 2))) "box"
            fun value => .ok (.tuple [value])) (.ofString "ab") []
            ⟨{ memories := #[[]] }, none, []⟩).observe Ending.result 20 := by
    refine ⟨_, _, ?_, rfl⟩
    rfl
  obtain ⟨calls, workspace, count, seen⟩ := seen
  refine ⟨calls, workspace, count, fun watcher member => ?_⟩
  rw [same watcher member]
  exact ⟨20, seen.symm⟩

end Peg
