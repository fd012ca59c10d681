import Peg.Proofs.Diagnosis

/-! # Look ahead and the record

A job adds notes to the record and does nothing else with it: `Evaluates.addsNotes` finds the notes,
and they are the same whatever the record held before. For a negative look ahead this says exactly
what it leaves behind (`lookAhead_record_eq`): the record as it was if its body fails, but the notes
of the body and one of its own if the body matches. -/

namespace Peg

/-! ## Records with several notes -/

/-- Notes several failures in order. Each one is a payload with the input that was left. -/
def Record.noteAll (record : Record) (notes : List (Value × Value)) : Record :=
  notes.foldl (fun record note => record.note note.1 note.2) record

/-- Without notes the record stays. -/
@[simp] theorem Record.noteAll_nil (record : Record) : record.noteAll [] = record := rfl

/-- Notes are made one after the other. -/
@[simp] theorem Record.noteAll_append (record : Record) (early late : List (Value × Value)) :
    record.noteAll (early ++ late) = (record.noteAll early).noteAll late :=
  List.foldl_append

/-- A single note is one note. -/
@[simp] theorem Record.noteAll_singleton (record : Record) (payload rest : Value) :
    record.noteAll [(payload, rest)] = record.note payload rest := rfl

/-! ## States with another record -/

/-- The state with another record in its current context. -/
def State.withRecord (state : State) (record : Record) : State := state.restoreRecord (some record)

/-- The ending with another record in the context that it leaves. -/
def Ending.withRecord (last : Ending) (record : Record) : Ending :=
  ⟨last.answer, last.state.withRecord record⟩

namespace State

/-- The tracer is no part of the record. -/
@[simp] theorem withRecord_tracer? (state : State) (record : Record) :
    (state.withRecord record).tracer? = state.tracer? := by
  obtain ⟨workspace, context, events⟩ := state
  cases context <;> rfl

/-- Only the latest record counts. -/
@[simp] theorem restoreRecord_withRecord (state : State) (saved : Option Record)
    (record : Record) :
    (state.restoreRecord saved).withRecord record = state.withRecord record := by
  obtain ⟨workspace, context, events⟩ := state
  cases context <;> cases saved <;> rfl

/-- The record and the depth are changed independently. -/
@[simp] theorem withRecord_setDepth (state : State) (record : Record) (depth : Nat) :
    (state.setDepth depth).withRecord record = (state.withRecord record).setDepth depth := by
  obtain ⟨workspace, context, events⟩ := state
  cases context <;> rfl

/-- Only the record of the context is another one. -/
theorem withRecord_context {state : State} {context : Context}
    (current : state.context = some context) (record : Record) :
    (state.withRecord record).context = some { context with record := record } := by
  simp only [withRecord, restoreRecord, current, Option.map_some]

/-- Within a parse, what is saved after a change of the record is the new record. -/
theorem withRecord_saveRecord {state : State} (current : state.setting.isSome) (record : Record) :
    (state.withRecord record).saveRecord = some record := by
  rw [setting, Option.isSome_map, Option.isSome_iff_exists] at current
  obtain ⟨context, current⟩ := current
  rw [saveRecord, withRecord_context current, Option.map_some]

/-- The tracer is told the same, whatever is on record. -/
theorem emit_withRecord (state : State) (record : Record) (kind : EventKind) (name : String)
    (depth : Nat) (rest value : Value) :
    (state.withRecord record).emit kind name depth rest value
      = (state.emit kind name depth rest value).map (·.withRecord record) := by
  cases watched : state.tracer? with
  | none =>
    rw [emit_of_unwatched watched, emit_of_unwatched (by rw [withRecord_tracer?, watched])]
    rfl
  | some tracer =>
    obtain ⟨context, current, watched⟩ := Option.bind_eq_some_iff.1 watched
    rw [emit_of_watched current watched,
      emit_of_watched (withRecord_context current record) watched]
    cases Failure.positionIn context.source rest with
    | error fault => rfl
    | ok position =>
      have seen : (state.withRecord record).events = state.events := rfl
      simp only [Except.bind, seen]
      cases tracer state.events ⟨kind, name, depth, position, value⟩ <;> rfl

/-- On a sequence a failure is noted in any record. -/
theorem failOn_withRecord {state : State} (current : state.setting.isSome) {input : Value}
    (sequence : input.isSequence) (payload : Value) (record : Record) :
    (state.withRecord record).failOn payload input
      = (state.failOn payload input).withRecord (record.note payload input) := by
  rw [setting, Option.isSome_map, Option.isSome_iff_exists] at current
  obtain ⟨context, current⟩ := current
  rw [failOn, failOn, note_of_isSequence current sequence payload,
    note_of_isSequence (withRecord_context current record) sequence payload]
  simp only [Ending.withRecord, withRecord, restoreRecord, current, Option.map_some]

end State

/-- The exit from a labelled parser does not look at the record. -/
theorem Ending.leave_withRecord {label : String} {depth : Nat} {last : Ending} {outcome : Outcome}
    (left : (last.leave label depth).answer = .ok outcome) (record : Record) :
    (last.withRecord record).leave label depth = (last.leave label depth).withRecord record := by
  obtain ⟨answer, state⟩ := last
  cases answer with
  | error fault => cases left
  | ok result =>
    simp only [leave, withRecord] at left ⊢
    rw [← State.withRecord_setDepth, State.emit_withRecord]
    cases told : (state.setDepth depth).emit result.exitKind label depth result.rest
        result.value with
    | error fault =>
      rw [told] at left
      cases left
    | ok told => rfl

/-- The end of a nested parse puts back the context around it, whatever is on record there. -/
theorem Ending.unnest_withRecord {form : NestedForm} {between : State} {rest : Value}
    {last : Ending} {outcome : Outcome}
    (ended : (last.unnest form between.context rest).answer = .ok outcome) (record : Record) :
    last.unnest form (between.withRecord record).context rest
      = (last.unnest form between.context rest).withRecord record := by
  obtain ⟨answer, state⟩ := last
  cases answer with
  | error fault => cases ended
  | ok result =>
    simp only [unnest] at ended ⊢
    cases found : form.value state.context result with
    | error fault =>
      rw [found] at ended
      cases ended
    | ok value => rfl

/-! ## What a job adds to the record -/

/-- Whatever is on record, the job ends as in the given state and adds the same notes, which are
about rests of its input. -/
structure Job.Adds (job : Job) (state : State) (last : Ending) (notes : List (Value × Value)) :
    Prop where
  /-- The notes are about rests of the input. -/
  rests : ∀ note ∈ notes, note.2.IsRestOf job.input
  /-- They are added to any record. -/
  evaluates : ∀ record,
    Evaluates job (state.withRecord record) (last.withRecord (record.noteAll notes))

/-- The job adds some notes to any record. -/
def Job.AddsNotes (job : Job) (state : State) (last : Ending) : Prop :=
  ∃ notes, job.Adds state last notes

namespace Job.Adds

variable {job : Job} {state : State} {last : Ending} {notes : List (Value × Value)}

/-- Without a tracer a label changes nothing. -/
theorem unwatched (adds : job.Adds state last notes) (quiet : state.tracer? = none)
    (label : String) : (Job.under label job).Adds state last notes where
  rests := adds.rests
  evaluates record := by
    refine .unwatched ?_ (adds.evaluates record)
    rw [State.withRecord_tracer?, quiet]

/-- With a tracer the entry and the exit are reported, and the notes stay the same. -/
theorem watched {label : String} {entered : State} {context : Context} {outcome : Outcome}
    (current : state.context = some context) (watched : context.tracer.isSome)
    (entry : state.emit .enter label context.depth job.input .null = .ok entered)
    (adds : job.Adds (entered.setDepth (context.depth + 1)) last notes)
    (ended : (last.leave label context.depth).answer = .ok outcome) :
    (Job.under label job).Adds state (last.leave label context.depth) notes where
  rests := adds.rests
  evaluates record := by
    have again : (state.withRecord record).emit .enter label context.depth job.input .null
        = .ok (entered.withRecord record) := by
      rw [State.emit_withRecord, entry]
      rfl
    have inside := adds.evaluates record
    rw [State.withRecord_setDepth] at inside
    have whole := Evaluates.watched (State.withRecord_context current record) watched again inside
    rw [Ending.leave_withRecord ended] at whole
    exact whole

/-- A negative look ahead whose body fails adds nothing. -/
theorem notAhead_of_fail {body : Parser} {input payload rest : Value} {after : State}
    (adds : (Job.call body input).Adds state ⟨.ok (.fail payload rest), after⟩ notes)
    (current : state.setting.isSome) :
    (Job.bare (.notAhead body) input).Adds state
      ⟨.ok (.ok payload input), after.restoreRecord state.saveRecord⟩ [] where
  rests := List.forall_mem_nil _
  evaluates record := by
    have restored := Evaluates.notAheadOk (adds.evaluates record)
    rw [State.withRecord_saveRecord current] at restored
    simp only [Record.noteAll_nil, Ending.withRecord, State.restoreRecord_withRecord]
    rw [← State.restoreRecord_withRecord after (some (record.noteAll notes))]
    exact restored

/-- A negative look ahead whose body matches adds the notes of the body and one of its own. -/
theorem notAhead_of_match {body : Parser} {input value rest : Value} {after : State}
    (adds : (Job.call body input).Adds state ⟨.ok (.ok value rest), after⟩ notes)
    (current : after.setting.isSome) (sequence : input.isSequence) :
    (Job.bare (.notAhead body) input).Adds state (after.failOn value input)
      (notes ++ [(value, input)]) where
  rests := List.forall_mem_append.2 ⟨adds.rests, List.forall_mem_singleton.2 (.refl input)⟩
  evaluates record := by
    rw [Record.noteAll_append, Record.noteAll_singleton,
      ← State.failOn_withRecord current sequence]
    exact .notAheadFail (adds.evaluates record)

end Job.Adds

namespace Job.AddsNotes

variable {job first later : Job} {state between after : State}
  {one two three : Except Fault Outcome}

/-- A job that does nothing but another one adds the notes of that one. -/
theorem of_first (head : first.AddsNotes state ⟨one, after⟩) (start : first.input = job.input)
    (whole : ∀ {s e : State}, Evaluates first s ⟨one, e⟩ → Evaluates job s ⟨two, e⟩) :
    job.AddsNotes state ⟨two, after⟩ := by
  obtain ⟨notes, rests, evaluates⟩ := head
  rw [start] at rests
  exact ⟨notes, rests, fun record => whole (evaluates record)⟩

/-- A job that does two others in turn adds the notes of both. -/
theorem append (head : first.AddsNotes state ⟨one, between⟩)
    (tail : later.AddsNotes between ⟨two, after⟩) (start : first.input = job.input)
    (isRest : later.input.IsRestOf job.input)
    (whole : ∀ {s m e : State}, Evaluates first s ⟨one, m⟩ → Evaluates later m ⟨two, e⟩ →
      Evaluates job s ⟨three, e⟩) : job.AddsNotes state ⟨three, after⟩ := by
  obtain ⟨early, near, evaluates⟩ := head
  obtain ⟨late, far, goesOn⟩ := tail
  refine ⟨early ++ late, ?_, fun record => ?_⟩
  · intro note member
    rcases List.mem_append.1 member with old | new
    · rw [← start]
      exact near note old
    · exact (far note new).trans isRest
  · rw [Record.noteAll_append]
    exact whole (evaluates record) (goesOn (record.noteAll early))

/-- A job that goes on where a match has ended adds the notes of the match and those that follow. -/
theorem append_match {parser : Parser} {input value middle : Value}
    (usual : (Job.call parser input).Usual state)
    (head : Evaluates (.call parser input) state ⟨.ok (.ok value middle), between⟩)
    (adds : (Job.call parser input).AddsNotes state ⟨.ok (.ok value middle), between⟩)
    (tail : later.Usual between → later.AddsNotes between ⟨two, after⟩)
    (builtIn : later.BuiltIn) (same : later.input = middle) (start : input = job.input)
    (whole : ∀ {s m e : State}, Evaluates (.call parser input) s ⟨.ok (.ok value middle), m⟩ →
      Evaluates later m ⟨two, e⟩ → Evaluates job s ⟨three, e⟩) :
    job.AddsNotes state ⟨three, after⟩ := by
  obtain ⟨isRest, next⟩ := usual.after_match head
  refine adds.append (tail (next later builtIn same)) start ?_ whole
  rw [same, ← start]
  exact isRest

end Job.AddsNotes

/-- **A job adds notes to the record and does nothing else with it.** By induction on the
evaluation: failing terminals and failing negative look aheads note something, parts add their notes
one after the other, and a negative look ahead that matches adds nothing. -/
theorem Evaluates.addsNotes {job : Job} {state : State} {last : Ending}
    (evaluates : Evaluates job state last) (usual : job.Usual state) {outcome : Outcome}
    (ended : last.answer = .ok outcome) : job.AddsNotes state last := by
  induction evaluates generalizing outcome with
  | unlabelled label _ body =>
    exact (body (usual.part usual.builtIn usual.sequence) ended).of_first rfl (.unlabelled label)
  | labelled found _ body =>
    exact (body (usual.part usual.builtIn usual.sequence) ended).of_first rfl (.labelled found)
  | unwatched quiet _ body =>
    obtain ⟨notes, adds⟩ := body (usual.part usual.builtIn usual.sequence) ended
    exact ⟨notes, adds.unwatched quiet _⟩
  | refused => cases ended
  | watched current watched entry _ body =>
    obtain ⟨notes, adds⟩ := body (usual.inside entry _) (Ending.answer_of_leave ended)
    exact ⟨notes, adds.watched current watched entry ended⟩
  | @terminal leaf input state =>
    obtain ⟨value, rest, found, same⟩ | ⟨payload, found, same⟩ | ⟨fault, same⟩ :=
      leaf.read_cases input state
    · refine ⟨[], List.forall_mem_nil _, fun record => ?_⟩
      have read : leaf.read input (state.withRecord record)
          = (leaf.read input state).withRecord record := by
        rw [same, Terminal.read, found]
        rfl
      rw [Record.noteAll_nil, ← read]
      exact .terminal
    · refine ⟨[(payload, input)], List.forall_mem_singleton.2 (.refl input), fun record => ?_⟩
      have read : leaf.read input (state.withRecord record)
          = (leaf.read input state).withRecord (record.note payload input) := by
        rw [same, Terminal.read, found]
        exact State.failOn_withRecord usual.current usual.sequence payload record
      rw [Record.noteAll_singleton, ← read]
      exact .terminal
    · rw [same] at ended
      cases ended
  | foreign =>
    -- a terminal written by hand notes nothing, but it is not built in
    cases usual.builtIn
  | sequence _ parts =>
    cases usual.builtIn with
    | sequence head tail =>
      have inside := List.forall_mem_cons.2 ⟨head, tail⟩
      exact (parts (usual.part inside usual.sequence) ended).of_first rfl .sequence
  | allNil => exact ⟨[], List.forall_mem_nil _, fun record => .allNil⟩
  | allCons head _ first rest =>
    obtain ⟨builtIn, others⟩ := List.forall_mem_cons.1 usual.builtIn
    have part := usual.call builtIn
    exact .append_match part head (first part rfl) (rest · rfl) others rfl rfl .allCons
  | allFail _ first =>
    obtain ⟨builtIn, -⟩ := List.forall_mem_cons.1 usual.builtIn
    exact (first (usual.call builtIn) rfl).of_first rfl .allFail
  | allFailLater head _ first rest =>
    obtain ⟨builtIn, others⟩ := List.forall_mem_cons.1 usual.builtIn
    have part := usual.call builtIn
    exact .append_match part head (first part rfl) (rest · rfl) others rfl rfl .allFailLater
  | allRaiseLater => cases ended
  | choice _ alternatives =>
    cases usual.builtIn with
    | choice head tail =>
      exact (alternatives (usual.part ⟨head, tail⟩ usual.sequence) ended).of_first rfl .choice
  | anyOk _ first =>
    exact (first (usual.call usual.builtIn.1) rfl).of_first rfl .anyOk
  | anyLast _ first =>
    exact (first (usual.call usual.builtIn.1) rfl).of_first rfl .anyLast
  | @anyNext first second others input payload rest state between last head _ one two =>
    have part := usual.call usual.builtIn.1
    have next : Job.Usual (.any second others input) between :=
      part.next head (List.forall_mem_cons.1 usual.builtIn.2) usual.sequence
    exact (one part rfl).append (two next ended) rfl (.refl input) .anyNext
  | star _ rounds =>
    cases usual.builtIn with
    | star inside => exact (rounds (usual.part inside usual.sequence) ended).of_first rfl .star
  | loopStop _ round =>
    exact (round (usual.call usual.builtIn) rfl).of_first rfl .loopStop
  | loopMore head _ round more =>
    have part := usual.call usual.builtIn
    exact .append_match part head (round part rfl) (more · rfl) usual.builtIn rfl rfl .loopMore
  | loopRaiseLater => cases ended
  | plusFail _ round =>
    cases usual.builtIn with
    | plus inside => exact (round (usual.call inside) rfl).of_first rfl .plusFail
  | plusMore head _ round more =>
    cases usual.builtIn with
    | plus inside =>
      have part := usual.call inside
      exact .append_match part head (round part rfl) (more · rfl) inside rfl rfl .plusMore
  | plusRaiseLater => cases ended
  | present _ head =>
    cases usual.builtIn with
    | optional inside => exact (head (usual.call inside) rfl).of_first rfl .present
  | absent _ head =>
    cases usual.builtIn with
    | optional inside => exact (head (usual.call inside) rfl).of_first rfl .absent
  | aheadOk _ head =>
    cases usual.builtIn with
    | ahead inside => exact (head (usual.call inside) rfl).of_first rfl .aheadOk
  | aheadFail _ head =>
    cases usual.builtIn with
    | ahead inside => exact (head (usual.call inside) rfl).of_first rfl .aheadFail
  | notAheadFail first head =>
    cases usual.builtIn with
    | notAhead inside =>
      obtain ⟨notes, adds⟩ := head (usual.call inside) rfl
      refine ⟨_, adds.notAhead_of_match ?_ usual.sequence⟩
      rw [first.setting_eq rfl]
      exact usual.current
  | notAheadOk _ head =>
    cases usual.builtIn with
    | notAhead inside =>
      obtain ⟨notes, adds⟩ := head (usual.call inside) rfl
      exact ⟨[], adds.notAhead_of_fail usual.current⟩
  | transformOk _ head =>
    cases usual.builtIn with
    | transform inside =>
      exact (head (usual.call inside) rfl).of_first rfl .transformOk
  | transformFail _ head =>
    cases usual.builtIn with
    | transform inside =>
      exact (head (usual.call inside) rfl).of_first rfl .transformFail
  | @nestedOk body inner form input value rest state between last _ nested head _ =>
    cases usual.builtIn with
    | nested inside second =>
      -- the inner parse starts with a record of its own
      obtain ⟨notes, rests, evaluates⟩ := head (usual.call inside) rfl
      refine ⟨notes, rests, fun record => ?_⟩
      rw [← Ending.unnest_withRecord ended]
      exact .nestedOk (evaluates record) nested
  | nestedFail _ head =>
    cases usual.builtIn with
    | nested inside second =>
      exact (head (usual.call inside) rfl).of_first rfl .nestedFail
  | traced _ inside =>
    cases usual.builtIn with
    | traced name body =>
      exact (inside (usual.call body) ended).of_first rfl .traced
  | unresolved => cases ended
  | resolved found _ inside =>
    obtain ⟨notes, rests, evaluates⟩ := inside (usual.resolved found _) ended
    exact ⟨notes, rests, fun record => .resolved found (evaluates record)⟩
  | constant => cases ended
  | raise => cases ended

/-! ## Negative look ahead -/

/-- What a negative look ahead on an input makes of the outcome of its body. -/
def Outcome.inverted (input : Value) : Outcome → Outcome
  | .ok value _ => .fail value input
  | .fail payload _ => .ok payload input

/-- What a negative look ahead on an input leaves of the notes of its body. -/
def Outcome.notesLeft (input : Value) (notes : List (Value × Value)) :
    Outcome → List (Value × Value)
  | .ok value _ => notes ++ [(value, input)]
  | .fail _ _ => []

/-- A job inverts an outcome of the body of a negative look ahead, which was called with what was on
record at the start of the job. -/
def Job.Inverts (job : Job) (body : Parser) (input : Value) (state : State) (last : Ending) :
    Prop :=
  ∃ entered left result notes, entered.workspace = state.workspace
    ∧ entered.saveRecord = state.saveRecord
    ∧ (Job.call body input).Adds entered ⟨.ok result, left⟩ notes
    ∧ last.answer = .ok (result.inverted input)
    ∧ job.Adds state last (result.notesLeft input notes)

/-- A negative look ahead that ends has called its body, and inverts the outcome. -/
theorem Evaluates.bare_inverts {body : Parser} {input : Value} {state : State} {last : Ending}
    (evaluates : Evaluates (.bare (.notAhead body) input) state last)
    (usual : (Job.bare (.notAhead body) input).Usual state) {outcome : Outcome}
    (ended : last.answer = .ok outcome) :
    (Job.bare (.notAhead body) input).Inverts body input state last := by
  cases usual.builtIn with
  | notAhead inside =>
    have part := usual.call inside
    cases evaluates with
    | @notAheadFail _ _ value _ _ after head =>
      obtain ⟨notes, adds⟩ := head.addsNotes part rfl
      have current : after.setting.isSome := by
        rw [head.setting_eq rfl]
        exact usual.current
      refine ⟨state, after, _, notes, rfl, rfl, adds, ?_,
        adds.notAhead_of_match current usual.sequence⟩
      obtain ⟨noted, -, same⟩ | ⟨fault, same⟩ := after.failOn_cases value input
      · rw [same]
        rfl
      · rw [same] at ended
        cases ended
    | notAheadOk head =>
      obtain ⟨notes, adds⟩ := head.addsNotes part rfl
      exact ⟨state, _, _, notes, rfl, rfl, adds, rfl, adds.notAhead_of_fail usual.current⟩
    | raise => cases ended

/-- Calling a negative look ahead inverts the outcome of its body, with a tracer and without one. -/
theorem Evaluates.call_inverts {body : Parser} {input : Value} {state after : State}
    {outcome : Outcome}
    (evaluates : Evaluates (.call (.notAhead body) input) state ⟨.ok outcome, after⟩)
    (usual : (Job.call (.notAhead body) input).Usual state) :
    (Job.call (.notAhead body) input).Inverts body input state ⟨.ok outcome, after⟩ := by
  cases evaluates with
  | unlabelled label _ => cases label
  | @labelled _ _ label _ _ found under =>
    generalize same : (⟨.ok outcome, after⟩ : Ending) = last at under ⊢
    cases under with
    | unwatched quiet bare =>
      subst same
      obtain ⟨entered, left, result, notes, rules, record, adds, answer, whole⟩ :=
        bare.bare_inverts (usual.part usual.builtIn usual.sequence) rfl
      exact ⟨entered, left, result, notes, rules, record, adds, answer,
        whole.rests, fun record => .labelled found ((whole.unwatched quiet _).evaluates record)⟩
    | refused => cases same
    | raise start => cases start
    | @watched _ _ _ told context inner current watched entry bare =>
      have ended : (inner.leave label context.depth).answer = .ok outcome := by rw [← same]
      have start : (Job.under label (.bare (.notAhead body) input)).Usual state :=
        usual.part usual.builtIn usual.sequence
      obtain ⟨entered, left, result, notes, rules, record, adds, answer, whole⟩ :=
        bare.bare_inverts (start.inside entry _) (Ending.answer_of_leave ended)
      refine ⟨entered, left, result, notes, ?_, ?_, adds, ?_, whole.rests, fun record =>
        .labelled found ((whole.watched current watched entry ended).evaluates record)⟩
      · rw [rules, State.setDepth_workspace, State.emit_workspace entry]
      · rw [record, State.setDepth_saveRecord, State.saveRecord, State.emit_context entry,
          State.saveRecord]
      · rw [ended, ← Ending.answer_of_leave ended, answer]

/-- **What a negative look ahead leaves on record.** Let a negative look ahead with a built-in body
end on a sequence without a fault, in a parse with built-in rules. Its body ran with the same rules
and the same record, and it adds certain notes about rests of the input to any record. Then,
whatever is on record,

* if the body fails, the look ahead matches without reading and leaves the record as it was;
* if the body matches, the look ahead fails with the value of the match and leaves the record with
  the notes of the body and, after them, a note of that value. -/
theorem lookAhead_record_eq (body : Parser) (input : Value) (state : State)
    (builtIn : body.BuiltIn) (rules : state.workspace.BuiltIn) (current : state.context.isSome)
    (sequence : input.isSequence) (fuel : Nat) (outcome : Outcome) (after : State)
    (ended : run fuel (.call (.notAhead body) input) [] state = some ⟨.ok outcome, after⟩) :
    ∃ (entered left : State) (result : Outcome) (notes : List (Value × Value)),
      entered.workspace = state.workspace ∧ entered.saveRecord = state.saveRecord
      ∧ (∀ note ∈ notes, note.2.IsRestOf input)
      ∧ (∀ record, ∃ steps, run steps (.call body input) [] (entered.withRecord record)
          = some ⟨.ok result, left.withRecord (record.noteAll notes)⟩)
      ∧ (∀ payload rest, result = .fail payload rest → outcome = .ok payload input
        ∧ ∀ record, ∃ steps, run steps (.call (.notAhead body) input) [] (state.withRecord record)
          = some ⟨.ok (.ok payload input), after.withRecord record⟩)
      ∧ (∀ value rest, result = .ok value rest → outcome = .fail value input
        ∧ ∀ record, ∃ steps, run steps (.call (.notAhead body) input) [] (state.withRecord record)
          = some ⟨.ok (.fail value input),
              after.withRecord ((record.noteAll notes).note value input)⟩) := by
  have usual : (Job.call (.notAhead body) input).Usual state := by
    refine ⟨.notAhead builtIn, rules, ?_, sequence⟩
    rw [State.setting, Option.isSome_map]
    exact current
  obtain ⟨entered, left, result, notes, same, saved, inside, answer, whole⟩ :=
    (exists_run_iff.1 ⟨fuel, ended⟩).call_inverts usual
  have answer : outcome = result.inverted input := Except.ok.inj answer
  refine ⟨entered, left, result, notes, same, saved, inside.rests,
    fun record => exists_run_iff.2 (inside.evaluates record), ?_, ?_⟩
  · rintro payload rest rfl
    -- the body has failed, and the saved record is brought back
    subst answer
    exact ⟨rfl, fun record => exists_run_iff.2 (whole.evaluates record)⟩
  · rintro value rest rfl
    -- the body has matched, so its notes stay, and the note of the look ahead comes after them
    subst answer
    refine ⟨rfl, fun record => exists_run_iff.2 ?_⟩
    have noted := whole.evaluates record
    rw [Outcome.notesLeft, Record.noteAll_append, Record.noteAll_singleton] at noted
    exact noted

/-- The second alternative of the body matches, so the look ahead fails on the whole input. What the
first alternative expected farther on stays on record, and the parse reports only that. -/
theorem matched_lookAhead_leaks :
    ∃ after failure notes,
      run 30 (.call (.notAhead (.choice (.sequence (.terminal (.item (.ofString "x")))
          [.terminal (.item (.ofString "q"))]) [.terminal (.item (.ofString "x"))]))
          (.ofString "xy")) [] (.initial {} (.ofString "xy") none)
        = some ⟨.ok (.fail (.ofString "x") (.ofString "xy")), after⟩
      ∧ (parse 30 {} (.notAhead (.choice (.sequence (.terminal (.item (.ofString "x")))
          [.terminal (.item (.ofString "q"))]) [.terminal (.item (.ofString "x"))]))
          (.ofString "xy") none).map (·.answer) = some (.error (.parse failure))
      ∧ failure.alternatives = [.ofString "q"] ∧ failure.position = some 1
      ∧ after.saveRecord = some (some (.single (.ofString "q") (.ofString "y")))
      ∧ after.saveRecord
        = some ((Record.noteAll none notes).note (.ofString "x") (.ofString "xy"))
      ∧ Record.note none (.ofString "x") (.ofString "xy")
        = some (.single (.ofString "x") (.ofString "xy")) := by
  have first : (Parser.sequence (.terminal (.item (.ofString "x")))
      [.terminal (.item (.ofString "q"))]).BuiltIn :=
    .sequence (.terminal _) (List.forall_mem_singleton.2 (.terminal _))
  have builtIn := Parser.BuiltIn.choice first
    (List.forall_mem_singleton.2 (.terminal (.item (.ofString "x"))))
  have rules : Workspace.BuiltIn {} := ⟨by simp, by simp⟩
  obtain ⟨entered, left, result, notes, -, -, -, -, failed, matched⟩ :=
    lookAhead_record_eq _ (.ofString "xy") (.initial {} (.ofString "xy") none) builtIn rules rfl
      rfl 30 _ _ rfl
  cases result with
  | fail payload rest => cases (failed payload rest rfl).1
  | ok value rest =>
    obtain ⟨same, matched⟩ := matched value rest rfl
    cases same
    -- with the record that a parse starts with, the run is the one above
    have noted := (exists_run_iff.1 (matched none)).unique (exists_run_iff.1 ⟨30, rfl⟩)
    refine ⟨_, _, notes, rfl, rfl, rfl, rfl, rfl, ?_, rfl⟩
    exact congrArg (fun last => last.state.saveRecord) noted.symm

end Peg
