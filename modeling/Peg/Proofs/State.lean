import Peg.Proofs.Evaluation

/-! # What the operations on the state leave alone

Notes, restored records, depths and events each touch one part of the state. The workspace stays,
and so does the `setting` of the current parse: its whole input and its tracer. Evaluation that
does not end in a fault keeps the setting (`Evaluates.setting_eq`), since a nested parse gives the
context around it back. -/

namespace Peg

/-! ## Steps that may raise a fault -/

/-- A computation that comes to a result has come to a result in each of its steps. -/
theorem exists_of_bind_eq_ok {computation : Except ε α} {next : α → Except ε β} {result : β}
    (done : computation >>= next = .ok result) :
    ∃ value, computation = .ok value ∧ next value = .ok result := by
  cases computation with
  | error fault => cases done
  | ok value => exact ⟨value, rfl, done⟩

/-- A fault comes from one of the steps. -/
theorem of_bind_eq_error {computation : Except ε α} {next : α → Except ε β} {fault : ε}
    (raised : computation >>= next = .error fault) :
    computation = .error fault ∨ ∃ value, computation = .ok value ∧ next value = .error fault := by
  cases computation with
  | error fault =>
    cases raised
    exact .inl rfl
  | ok value => exact .inr ⟨value, rfl, raised⟩

/-! ## Faults of diagnoses -/

/-- A position is asked for in vain only of something that is no sequence. -/
theorem Failure.fault_of_positionIn {source rest : Value} {fault : Fault}
    (raised : positionIn source rest = .error fault) : fault = .wrongKind := by
  rw [positionIn] at raised
  split at raised <;> cases raised
  rfl

/-- Putting a failure together raises only two faults. -/
theorem Failure.fault_of_report {result unconsumed source expected rewound alternatives : Value}
    {fault : Fault}
    (raised : report result unconsumed source expected rewound alternatives = .error fault) :
    fault = .wrongKind ∨ fault = .integerUnwritable := by
  simp only [report] at raised
  rcases of_bind_eq_error raised with listed | ⟨options, -, raised⟩
  · unfold alternativesOr at listed
    split at listed
    · split at listed <;> cases listed
      exact .inl rfl
    · cases listed
  · split at raised
    · rcases of_bind_eq_error raised with placed | ⟨position, -, raised⟩
      · cases placed
      · split at raised <;> cases raised
        exact .inr rfl
    · rcases of_bind_eq_error raised with placed | ⟨position, -, raised⟩
      · rw [positionIn] at placed
        split at placed <;> cases placed
        exact .inl rfl
      · split at raised <;> cases raised
        exact .inr rfl

/-- A parse that fails in vain has met something that is no sequence, or an integer too long to be
written into the message. -/
theorem Context.fault_of_failure {context : Context} {payload rest : Value} {fault : Fault}
    (raised : context.failure payload rest = .error fault) :
    fault = .wrongKind ∨ fault = .integerUnwritable := by
  rw [Context.failure] at raised
  split at raised
  · exact Failure.fault_of_report raised
  · split at raised
    · split at raised <;> exact Failure.fault_of_report raised
    · cases raised
      exact .inl rfl

namespace State

/-- The whole input and the tracer of the current parse, which nothing changes. -/
def setting (state : State) : Option (Value × Option Tracer) :=
  state.context.map fun context => (context.source, context.tracer)

/-! ## Depths -/

/-- Setting the depth keeps the workspace. -/
@[simp] theorem setDepth_workspace (state : State) (depth : Nat) :
    (state.setDepth depth).workspace = state.workspace := rfl

/-- The depth is no part of the setting. -/
@[simp] theorem setDepth_setting (state : State) (depth : Nat) :
    (state.setDepth depth).setting = state.setting := by
  simp only [setting, setDepth, Option.map_map]
  rfl

/-- The depth is no part of the record that a look ahead saves. -/
@[simp] theorem setDepth_saveRecord (state : State) (depth : Nat) :
    (state.setDepth depth).saveRecord = state.saveRecord := by
  simp only [saveRecord, setDepth, Option.map_map]
  rfl

/-! ## Records -/

/-- Restoring a record keeps the workspace. -/
@[simp] theorem restoreRecord_workspace (state : State) (saved : Option Record) :
    (state.restoreRecord saved).workspace = state.workspace := by
  cases saved <;> rfl

/-- Restoring a record keeps the setting. -/
@[simp] theorem restoreRecord_setting (state : State) (saved : Option Record) :
    (state.restoreRecord saved).setting = state.setting := by
  cases saved with
  | none => rfl
  | some record =>
    simp only [setting, restoreRecord, Option.map_map]
    rfl

/-- A note only touches the record of the current context. -/
theorem note_cases {state noted : State} {payload rest : Value}
    (done : state.note payload rest = .ok noted) :
    noted = state ∨ ∃ context, state.context = some context
      ∧ noted = { state with
          context := some { context with record := context.record.note payload rest } } := by
  unfold note at done
  split at done
  · cases done
    exact .inl rfl
  · cases done
    exact .inl rfl
  · rename_i context current _
    split at done
    · cases done
      exact .inr ⟨context, current, rfl⟩
    · cases done

/-- A note is a fault only on something that is no sequence. -/
theorem fault_of_note {state : State} {payload rest : Value} {fault : Fault}
    (raised : state.note payload rest = .error fault) : fault = .wrongKind := by
  unfold note at raised
  split at raised
  · cases raised
  · cases raised
  · split at raised <;> cases raised
    rfl

/-- A note keeps the workspace. -/
theorem note_workspace {state noted : State} {payload rest : Value}
    (done : state.note payload rest = .ok noted) : noted.workspace = state.workspace := by
  obtain rfl | ⟨context, -, rfl⟩ := note_cases done <;> rfl

/-- A note is made in the record alone, which is no part of the setting. -/
theorem note_setting {state noted : State} {payload rest : Value}
    (done : state.note payload rest = .ok noted) : noted.setting = state.setting := by
  obtain rfl | ⟨context, current, rfl⟩ := note_cases done
  · rfl
  · simp only [setting, current, Option.map_some]

/-- On a sequence a note updates the record of the current context. -/
theorem note_of_isSequence {state : State} {context : Context}
    (current : state.context = some context) {rest : Value} (sequence : rest.isSequence)
    (payload : Value) :
    state.note payload rest = .ok { state with
      context := some { context with record := context.record.note payload rest } } := by
  unfold note
  rw [current]
  cases rest <;> simp_all [Value.isSequence]

/-- Without a context, or on a sequence, a failure can always be noted. -/
theorem exists_note {state : State} {rest : Value} (fit : state.setting = none ∨ rest.isSequence)
    (payload : Value) : ∃ noted, state.note payload rest = .ok noted := by
  cases current : state.context with
  | none => exact ⟨state, by simp only [note, current]⟩
  | some context =>
    have sequence : rest.isSequence := by
      refine fit.resolve_left ?_
      rw [setting, current]
      exact nofun
    exact ⟨_, note_of_isSequence current sequence payload⟩

/-! ## Events -/

/-- Without a tracer nothing is reported. -/
theorem emit_of_unwatched {state : State} (quiet : state.tracer? = none) (kind : EventKind)
    (name : String) (depth : Nat) (rest value : Value) :
    state.emit kind name depth rest value = .ok state := by
  obtain ⟨workspace, context, events⟩ := state
  cases context with
  | none => rfl
  | some context =>
    have quiet : context.tracer = none := quiet
    simp only [emit, quiet]

/-- A tracer is told an event at an offset of the whole input, and it may refuse it. -/
theorem emit_of_watched {state : State} {context : Context} {tracer : Tracer}
    (current : state.context = some context) (watched : context.tracer = some tracer)
    (kind : EventKind) (name : String) (depth : Nat) (rest value : Value) :
    state.emit kind name depth rest value
      = (Failure.positionIn context.source rest).bind fun position =>
          match tracer state.events ⟨kind, name, depth, position, value⟩ with
          | some fault => .error fault
          | none => .ok { state with
              events := ⟨kind, name, depth, position, value⟩ :: state.events } := by
  simp only [emit, current, watched]
  rfl

/-- A report to the tracer only adds an event. -/
theorem emit_eq {state told : State} {kind : EventKind} {name : String} {depth : Nat}
    {rest value : Value} (done : state.emit kind name depth rest value = .ok told) :
    ∃ events, told = { state with events := events } := by
  unfold emit at done
  split at done
  · split at done
    · obtain ⟨position, -, done⟩ := exists_of_bind_eq_ok done
      dsimp only at done
      split at done
      · cases done
      · cases done
        exact ⟨_, rfl⟩
    · cases done
      exact ⟨_, rfl⟩
  · cases done
    exact ⟨_, rfl⟩

/-- Telling the tracer of an event keeps the workspace. -/
theorem emit_workspace {state told : State} {kind : EventKind} {name : String} {depth : Nat}
    {rest value : Value} (done : state.emit kind name depth rest value = .ok told) :
    told.workspace = state.workspace := by
  obtain ⟨events, rfl⟩ := emit_eq done
  rfl

/-- Telling the tracer of an event keeps the context, and with it the record and the depth. -/
theorem emit_context {state told : State} {kind : EventKind} {name : String} {depth : Nat}
    {rest value : Value} (done : state.emit kind name depth rest value = .ok told) :
    told.context = state.context := by
  obtain ⟨events, rfl⟩ := emit_eq done
  rfl

end State

/-! ## Endings -/

/-- A noted failure hands its input back, unless the note is a fault. -/
theorem State.failOn_cases (state : State) (payload input : Value) :
    (∃ noted, state.note payload input = .ok noted
      ∧ state.failOn payload input = ⟨.ok (.fail payload input), noted⟩)
    ∨ ∃ fault, state.failOn payload input = ⟨.error fault, state⟩ := by
  rw [State.failOn]
  cases found : state.note payload input with
  | error fault => exact .inr ⟨fault, rfl⟩
  | ok noted => exact .inl ⟨noted, rfl, rfl⟩

/-- A noted failure keeps the workspace, also where the note is a fault. -/
@[simp] theorem State.failOn_workspace (state : State) (payload input : Value) :
    (state.failOn payload input).state.workspace = state.workspace := by
  obtain ⟨noted, done, same⟩ | ⟨fault, same⟩ := state.failOn_cases payload input
  · rw [same]
    exact State.note_workspace done
  · rw [same]

/-- A noted failure keeps the setting, also where the note is a fault. -/
@[simp] theorem State.failOn_setting (state : State) (payload input : Value) :
    (state.failOn payload input).state.setting = state.setting := by
  obtain ⟨noted, done, same⟩ | ⟨fault, same⟩ := state.failOn_cases payload input
  · rw [same]
    exact State.note_setting done
  · rw [same]

/-- A terminal either matches in the same state, or fails and notes it, or raises a fault. -/
theorem Terminal.read_cases (leaf : Terminal) (input : Value) (state : State) :
    (∃ value rest, leaf.verdict input = .ok (.matched value rest)
      ∧ leaf.read input state = ⟨.ok (.ok value rest), state⟩)
    ∨ (∃ payload, leaf.verdict input = .ok (.missed payload)
      ∧ leaf.read input state = state.failOn payload input)
    ∨ ∃ fault, leaf.read input state = ⟨.error fault, state⟩ := by
  rw [Terminal.read]
  cases found : leaf.verdict input with
  | error fault => exact .inr (.inr ⟨fault, rfl⟩)
  | ok verdict =>
    cases verdict with
    | matched value rest => exact .inl ⟨value, rest, rfl, rfl⟩
    | missed payload => exact .inr (.inl ⟨payload, rfl, rfl⟩)

namespace Ending

/-- The exit from a labelled parser passes the outcome on, unless the tracer refuses it. -/
theorem leave_cases (label : String) (depth : Nat) (last : Ending) :
    (∃ events, last.leave label depth
      = ⟨last.answer, { last.state.setDepth depth with events := events }⟩)
    ∨ (∃ fault, last.answer = .error fault ∧ last.leave label depth = last)
    ∨ ∃ fault, last.leave label depth = ⟨.error fault, last.state.setDepth depth⟩ := by
  obtain ⟨answer, state⟩ := last
  cases answer with
  | error fault => exact .inr (.inl ⟨fault, rfl, rfl⟩)
  | ok outcome =>
    simp only [leave]
    cases told : (state.setDepth depth).emit outcome.exitKind label depth outcome.rest
        outcome.value with
    | error fault => exact .inr (.inr ⟨fault, rfl⟩)
    | ok told =>
      obtain ⟨events, rfl⟩ := State.emit_eq told
      exact .inl ⟨events, rfl⟩

/-- What comes out of a labelled parser came out of what stands under the label. -/
theorem answer_of_leave {label : String} {depth : Nat} {last : Ending} {outcome : Outcome}
    (left : (last.leave label depth).answer = .ok outcome) : last.answer = .ok outcome := by
  obtain ⟨events, same⟩ | ⟨fault, raised, same⟩ | ⟨fault, same⟩ := last.leave_cases label depth
  · rw [same] at left
    exact left
  · rw [same] at left
    exact left
  · rw [same] at left
    cases left

/-- The exit from a labelled parser keeps the workspace, also where the tracer refuses it. -/
@[simp] theorem leave_workspace (label : String) (depth : Nat) (last : Ending) :
    (last.leave label depth).state.workspace = last.state.workspace := by
  obtain ⟨events, same⟩ | ⟨fault, -, same⟩ | ⟨fault, same⟩ := last.leave_cases label depth <;>
    rw [same] <;> rfl

/-- The exit from a labelled parser keeps the setting, also where the tracer refuses it. -/
@[simp] theorem leave_setting (label : String) (depth : Nat) (last : Ending) :
    (last.leave label depth).state.setting = last.state.setting := by
  obtain ⟨events, same⟩ | ⟨fault, -, same⟩ | ⟨fault, same⟩ := last.leave_cases label depth
  · rw [same]
    exact State.setDepth_setting last.state depth
  · rw [same]
  · rw [same, State.setDepth_setting]

/-- A nested parse that raises no fault is a match of the parse around it, in the context of that
parse. -/
theorem unnest_cases (form : NestedForm) (outer : Option Context) (rest : Value) (last : Ending) :
    (∃ value, last.unnest form outer rest
      = ⟨.ok (.ok value rest), { last.state with context := outer }⟩)
    ∨ ∃ fault, last.unnest form outer rest = ⟨.error fault, last.state⟩ := by
  obtain ⟨answer, state⟩ := last
  cases answer with
  | error fault => exact .inr ⟨fault, rfl⟩
  | ok outcome =>
    simp only [unnest]
    cases form.value state.context outcome with
    | error fault => exact .inr ⟨fault, rfl⟩
    | ok value => exact .inl ⟨value, rfl⟩

/-- What a nested parse has done to the workspace stays when its context is given up. -/
@[simp] theorem unnest_workspace (form : NestedForm) (outer : Option Context) (rest : Value)
    (last : Ending) : (last.unnest form outer rest).state.workspace = last.state.workspace := by
  obtain ⟨value, same⟩ | ⟨fault, same⟩ := last.unnest_cases form outer rest <;> rw [same]

end Ending

/-! ## The setting of a parse -/

/-- **Evaluation keeps the setting**: the whole input and the tracer are after a match or a failure
what they were before. A fault may leave a nested parse unfinished. -/
theorem Evaluates.setting_eq {job : Job} {state : State} {last : Ending}
    (evaluates : Evaluates job state last) {outcome : Outcome}
    (ended : last.answer = .ok outcome) : last.state.setting = state.setting := by
  induction evaluates generalizing outcome with
  | unlabelled _ _ body => exact body ended
  | labelled _ _ body => exact body ended
  | unwatched _ _ body => exact body ended
  | refused => cases ended
  | watched current watched entry _ body =>
    -- the tracer sees the context but only events and the depth change
    rw [Ending.leave_setting, body (Ending.answer_of_leave ended), State.setDepth_setting]
    simp only [State.setting, State.emit_context entry]
  | @terminal leaf input state =>
    obtain ⟨value, rest, -, same⟩ | ⟨payload, -, same⟩ | ⟨fault, same⟩ :=
      leaf.read_cases input state <;> rw [same]
    exact state.failOn_setting payload input
  | @foreign leaf input state =>
    simp only [Foreign.read, State.remember]
    split <;> rfl
  | sequence _ parts => exact parts ended
  | allNil => rfl
  | allCons _ _ head tail => exact (tail rfl).trans (head rfl)
  | allFail _ head => exact head rfl
  | allFailLater _ _ head tail => exact (tail rfl).trans (head rfl)
  | allRaiseLater => cases ended
  | choice _ alternatives => exact alternatives ended
  | anyOk _ head => exact head rfl
  | anyLast _ head => exact head rfl
  | anyNext _ _ head tail => exact (tail ended).trans (head rfl)
  | star _ rounds => exact rounds ended
  | loopStop _ round => exact round rfl
  | loopMore _ _ round more => exact (more rfl).trans (round rfl)
  | loopRaiseLater => cases ended
  | plusFail _ round => exact round rfl
  | plusMore _ _ round more => exact (more rfl).trans (round rfl)
  | plusRaiseLater => cases ended
  | present _ head => exact head rfl
  | absent _ head => exact head rfl
  | aheadOk _ head => exact head rfl
  | aheadFail _ head => exact head rfl
  | notAheadFail _ head => exact (State.failOn_setting _ _ _).trans (head rfl)
  | notAheadOk _ head => exact (State.restoreRecord_setting _ _).trans (head rfl)
  | transformOk _ head => exact head rfl
  | transformFail _ head => exact head rfl
  | @nestedOk body inner form input value rest state between last _ _ head nested =>
    -- what the inner parse did to its own context is gone with that context
    obtain ⟨value, same⟩ | ⟨fault, same⟩ := last.unnest_cases form between.context rest
    · rw [same]
      exact head rfl
    · rw [same] at ended
      cases ended
  | nestedFail _ head => exact head rfl
  | traced _ inside => exact inside ended
  | unresolved => cases ended
  | resolved _ _ inside => exact inside ended
  | constant => cases ended
  | raise => cases ended

end Peg
