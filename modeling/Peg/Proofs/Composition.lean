import Peg.Proofs.CallTree
import Peg.Proofs.QuietParse
import Peg.Proofs.RecordMerge

/-! # Diagnostics compose

What a parser does, and what it adds to the record, does not depend on what was on record before.

* **`State.Alike`** relates two states of one course of a parse, seen from different places: with
  other failures on record before, and without a tracer also with another whole input.
* **`Evaluates.alike`**: from states that are alike a job ends with the same answer in states that
  are alike again. By induction on the evaluation; a negative look ahead saves and restores the
  whole record, with what was there before in front of it.
* **`diagnostics_compose`**: merging describes what a run leaves on record, and so the diagnosis of
  two parsers in a row is merged from those of the parts. -/

namespace Peg

/-! ## States that are alike -/

/-- Where a parse is seen from: the whole input, and what was on record before. -/
structure Vantage where
  /-- The whole input. -/
  source : Value
  /-- What was on record before. -/
  prior : Record

/-- What a parse has come to, apart from the place it is seen from. -/
structure Course where
  /-- The rules and what terminals remember. -/
  workspace : Workspace
  /-- The tracer, if there is one. -/
  tracer : Option Tracer
  /-- How many traced parsers are open. -/
  depth : Nat
  /-- What has been recorded since. -/
  since : Record
  /-- The events reported so far. -/
  events : List Event

/-- The state of a course, seen from a place. -/
def Course.seenFrom (course : Course) (vantage : Vantage) : State where
  workspace := course.workspace
  context := some
    { source := vantage.source
      tracer := course.tracer
      depth := course.depth
      record := vantage.prior.merge course.since }
  events := course.events

/-- Two states of one course. A tracer is told offsets, so with one the whole input is the same. -/
inductive State.Alike (here there : Vantage) : State → State → Prop
  /-- The course, seen from both places. -/
  | seen (course : Course) (agree : course.tracer.isSome → there.source = here.source) :
      Alike here there (course.seenFrom here) (course.seenFrom there)

namespace State.Alike

variable {here there : Vantage} {one two after other : State}

/-- States that are alike are so the other way round. -/
theorem symm (alike : one.Alike here there two) : two.Alike there here one := by
  obtain ⟨course, agree⟩ := alike
  exact .seen course fun watched => (agree watched).symm

/-- States that are alike have the same rules. -/
theorem workspace_eq (alike : one.Alike here there two) : two.workspace = one.workspace := by
  obtain ⟨course, agree⟩ := alike
  rfl

/-- States that are alike have the same tracer. -/
theorem tracer?_eq (alike : one.Alike here there two) : two.tracer? = one.tracer? := by
  obtain ⟨course, agree⟩ := alike
  rfl

/-- Where one state has a context, so has the other one, with the same tracer and depth. -/
theorem exists_context (alike : one.Alike here there two) {context : Context}
    (current : one.context = some context) :
    ∃ other, two.context = some other ∧ other.tracer = context.tracer
      ∧ other.depth = context.depth := by
  obtain ⟨course, agree⟩ := alike
  cases current
  exact ⟨_, rfl, rfl, rfl⟩

/-- States that are alike stay so with another workspace in both. -/
theorem withWorkspace (alike : one.Alike here there two) (workspace : Workspace) :
    State.Alike here there { one with workspace := workspace }
      { two with workspace := workspace } := by
  obtain ⟨course, agree⟩ := alike
  exact .seen { course with workspace := workspace } agree

/-- States that are alike stay so with another depth in both. -/
theorem setDepth (alike : one.Alike here there two) (depth : Nat) :
    (one.setDepth depth).Alike here there (two.setDepth depth) := by
  obtain ⟨course, agree⟩ := alike
  exact .seen { course with depth := depth } agree

/-- A tracer is told the same. -/
theorem emit (alike : one.Alike here there two) (kind : EventKind) (name : String) (depth : Nat)
    (rest value : Value) :
    (∃ told other, one.emit kind name depth rest value = .ok told
      ∧ two.emit kind name depth rest value = .ok other ∧ told.Alike here there other)
    ∨ ∃ fault, one.emit kind name depth rest value = .error fault
      ∧ two.emit kind name depth rest value = .error fault := by
  obtain ⟨course, agree⟩ := alike
  cases watched : course.tracer with
  | none =>
    have quiet (vantage : Vantage) : (course.seenFrom vantage).tracer? = none := watched
    rw [emit_of_unwatched (quiet here), emit_of_unwatched (quiet there)]
    exact .inl ⟨_, _, rfl, rfl, .seen course agree⟩
  | some tracer =>
    have sources : there.source = here.source := agree (by rw [watched]; rfl)
    rw [emit_of_watched rfl watched, emit_of_watched rfl watched]
    simp only [sources]
    cases Failure.positionIn here.source rest with
    | error fault => exact .inr ⟨fault, rfl, rfl⟩
    | ok position =>
      have told : (course.seenFrom there).events = (course.seenFrom here).events := rfl
      simp only [Except.bind, told]
      cases tracer (course.seenFrom here).events ⟨kind, name, depth, position, value⟩ with
      | some fault => exact .inr ⟨fault, rfl, rfl⟩
      | none =>
        exact .inl ⟨_, _, rfl, rfl, .seen { course with
          events := ⟨kind, name, depth, position, value⟩ :: course.events } agree⟩

/-- On a sequence a failure is noted in both records. -/
theorem note (alike : one.Alike here there two) {rest : Value} (sequence : rest.isSequence)
    (payload : Value) :
    ∃ noted other, one.note payload rest = .ok noted ∧ two.note payload rest = .ok other
      ∧ noted.Alike here there other := by
  obtain ⟨course, agree⟩ := alike
  refine ⟨_, _, note_of_isSequence rfl sequence payload, note_of_isSequence rfl sequence payload,
    ?_⟩
  -- noting a failure adds to what came since, whatever is in front of it
  simp only [Record.merge_note]
  exact .seen { course with since := course.since.note payload rest } agree

/-- What a negative look ahead has saved is brought back on both sides. -/
theorem restoreRecord (entry : one.Alike here there two) (alike : after.Alike here there other) :
    (after.restoreRecord one.saveRecord).Alike here there
      (other.restoreRecord two.saveRecord) := by
  obtain ⟨course, -⟩ := entry
  obtain ⟨later, agree⟩ := alike
  exact .seen { later with since := course.since } agree

/-- A nested parse starts with nothing on record and without a tracer, so it is the same one. -/
theorem nest_eq (alike : one.Alike here there two) (value : Value) :
    { two with context := some { source := value } }
      = { one with context := some { source := value } } := by
  obtain ⟨course, agree⟩ := alike
  rfl

/-- After a nested parse the context around it comes back. -/
theorem unnest (alike : one.Alike here there two) (inner : State) :
    State.Alike here there { inner with context := one.context }
      { inner with context := two.context } := by
  obtain ⟨course, agree⟩ := alike
  exact .seen { course with workspace := inner.workspace, events := inner.events } agree

end State.Alike

/-! ## Jobs that go alike -/

/-- Both end with the same answer and, unless it is a fault, in states that are alike. -/
structure Ending.Alike (here there : Vantage) (last other : Ending) : Prop where
  /-- The answers are the same. -/
  answer_eq : other.answer = last.answer
  /-- The states are alike. -/
  states : last.answer.isOk → last.state.Alike here there other.state

namespace Ending.Alike

variable {here there : Vantage} {last other : Ending}

/-- After a fault the states do not matter. -/
theorem of_fault (fault : Fault) (one two : State) :
    Ending.Alike here there ⟨.error fault, one⟩ ⟨.error fault, two⟩ where
  answer_eq := rfl
  states := by
    intro ok
    cases ok

/-- The exit from a labelled parser is reported alike. -/
theorem leave (alike : last.Alike here there other) (label : String) (depth : Nat) :
    (last.leave label depth).Alike here there (other.leave label depth) := by
  obtain ⟨answer, state⟩ := last
  obtain ⟨answerToo, another⟩ := other
  obtain ⟨same, states⟩ := alike
  obtain rfl : answerToo = answer := same
  cases answerToo with
  | error fault => exact of_fault fault state another
  | ok outcome =>
    simp only [Ending.leave]
    obtain ⟨told, toldToo, done, doneToo, alike⟩ | ⟨fault, raised, raisedToo⟩ :=
      ((states rfl).setDepth depth).emit outcome.exitKind label depth outcome.rest outcome.value
    · rw [done, doneToo]
      exact ⟨rfl, fun _ => alike⟩
    · rw [raised, raisedToo]
      exact of_fault fault _ _

/-- On a sequence a failure is noted alike. -/
theorem failOn {one two : State} (alike : one.Alike here there two) {input : Value}
    (sequence : input.isSequence) (payload : Value) :
    (one.failOn payload input).Alike here there (two.failOn payload input) := by
  obtain ⟨noted, notedToo, done, doneToo, alike⟩ := alike.note sequence payload
  simp only [State.failOn, done, doneToo]
  exact ⟨rfl, fun _ => alike⟩

/-- A terminal finds the same. -/
theorem read {one two : State} (alike : one.Alike here there two) (leaf : Terminal) {input : Value}
    (sequence : input.isSequence) :
    (leaf.read input one).Alike here there (leaf.read input two) := by
  simp only [Terminal.read]
  cases leaf.verdict input with
  | error fault => exact of_fault fault one two
  | ok verdict =>
    cases verdict with
    | matched value rest => exact ⟨rfl, fun _ => alike⟩
    | missed payload => exact failOn alike sequence payload

/-- A nested parse ends the same, and what is around it goes on alike. -/
theorem unnest {one two : State} (alike : one.Alike here there two) (last : Ending)
    (form : NestedForm) (rest : Value) :
    (last.unnest form one.context rest).Alike here there (last.unnest form two.context rest) := by
  obtain ⟨answer, state⟩ := last
  cases answer with
  | error fault => exact of_fault fault state state
  | ok outcome =>
    simp only [Ending.unnest]
    cases form.value state.context outcome with
    | error fault => exact of_fault fault state state
    | ok value => exact ⟨rfl, fun _ => alike.unnest state⟩

end Ending.Alike

/-- From every state that is alike, the job ends alike. -/
def Job.GoesAlike (here there : Vantage) (job : Job) (state : State) (last : Ending) : Prop :=
  ∀ other, state.Alike here there other →
    ∃ ending, Evaluates job other ending ∧ last.Alike here there ending

namespace Job.GoesAlike

variable {here there : Vantage} {job first later : Job} {state between after : State}
  {one two three : Except Fault Outcome}

/-- A job that does nothing but another one goes alike if that does. -/
theorem of_first (head : first.GoesAlike here there state ⟨one, after⟩)
    (fine : two.isOk → one.isOk)
    (whole : ∀ {s e : State}, Evaluates first s ⟨one, e⟩ → Evaluates job s ⟨two, e⟩) :
    job.GoesAlike here there state ⟨two, after⟩ := by
  intro other alike
  obtain ⟨⟨answer, ended⟩, evaluates, same, states⟩ := head other alike
  obtain rfl : answer = one := same
  exact ⟨⟨two, ended⟩, whole evaluates, rfl, fun ok => states (fine ok)⟩

/-- A job that does two others in turn goes alike if both do. -/
theorem append {outcome : Outcome}
    (head : first.GoesAlike here there state ⟨.ok outcome, between⟩)
    (tail : later.GoesAlike here there between ⟨two, after⟩) (fine : three.isOk → two.isOk)
    (whole : ∀ {s m e : State}, Evaluates first s ⟨.ok outcome, m⟩ → Evaluates later m ⟨two, e⟩ →
      Evaluates job s ⟨three, e⟩) :
    job.GoesAlike here there state ⟨three, after⟩ := by
  intro other alike
  obtain ⟨⟨answer, middle⟩, evaluates, same, states⟩ := head other alike
  obtain rfl : answer = .ok outcome := same
  obtain ⟨⟨answer, ended⟩, goesOn, same, statesAfter⟩ := tail middle (states rfl)
  obtain rfl : answer = two := same
  exact ⟨⟨three, ended⟩, whole evaluates goesOn, rfl, fun ok => statesAfter (fine ok)⟩

/-- A job that goes on where a match has ended goes alike if both parts do. -/
theorem append_match {parser : Parser} {input value middle : Value}
    (usual : (Job.call parser input).Usual state)
    (head : Evaluates (.call parser input) state ⟨.ok (.ok value middle), between⟩)
    (alike : (Job.call parser input).GoesAlike here there state ⟨.ok (.ok value middle), between⟩)
    (tail : later.Usual between → later.GoesAlike here there between ⟨two, after⟩)
    (builtIn : later.BuiltIn) (same : later.input = middle) (fine : three.isOk → two.isOk)
    (whole : ∀ {s m e : State}, Evaluates (.call parser input) s ⟨.ok (.ok value middle), m⟩ →
      Evaluates later m ⟨two, e⟩ → Evaluates job s ⟨three, e⟩) :
    job.GoesAlike here there state ⟨three, after⟩ :=
  alike.append (tail ((usual.after_match head).2 later builtIn same)) fine whole

end Job.GoesAlike

/-- **A job goes alike** in a usual state. -/
theorem Evaluates.alike {job : Job} {state : State} {last : Ending}
    (evaluates : Evaluates job state last) (usual : job.Usual state) (here there : Vantage) :
    job.GoesAlike here there state last := by
  induction evaluates with
  | unlabelled label _ body =>
    exact (body (usual.part usual.builtIn usual.sequence)).of_first id (.unlabelled label)
  | labelled found _ body =>
    exact (body (usual.part usual.builtIn usual.sequence)).of_first id (.labelled found)
  | unwatched quiet _ body =>
    intro other alike
    obtain ⟨ending, evaluates, same⟩ := body (usual.part usual.builtIn usual.sequence) other alike
    exact ⟨ending, .unwatched (alike.tracer?_eq.trans quiet) evaluates, same⟩
  | refused current watched entry =>
    intro other alike
    obtain ⟨context, currentToo, tracer, depth⟩ := alike.exists_context current
    rw [← depth] at entry
    obtain ⟨told, toldToo, done, -⟩ | ⟨fault, raised, raisedToo⟩ := alike.emit _ _ _ _ _
    · cases done.symm.trans entry
    · cases raised.symm.trans entry
      exact ⟨_, .refused currentToo (tracer ▸ watched) raisedToo, .of_fault _ _ _⟩
  | watched current watched entry _ body =>
    intro other alike
    obtain ⟨context, currentToo, tracer, depth⟩ := alike.exists_context current
    -- the body runs one level deeper than the entry that was reported
    have inside := body (usual.inside entry _)
    rw [← depth] at entry inside ⊢
    obtain ⟨told, toldToo, done, doneToo, entered⟩ | ⟨fault, raised, -⟩ := alike.emit _ _ _ _ _
    · cases done.symm.trans entry
      obtain ⟨ending, evaluates, same⟩ := inside _ (entered.setDepth _)
      exact ⟨_, .watched currentToo (tracer ▸ watched) doneToo evaluates, same.leave _ _⟩
    · cases raised.symm.trans entry
  | @terminal leaf input state =>
    intro other alike
    exact ⟨_, .terminal, .read alike leaf usual.sequence⟩
  | foreign =>
    -- a terminal written by hand may hand back anything, but it is not built in
    cases usual.builtIn
  | sequence _ parts =>
    cases usual.builtIn with
    | sequence head tail =>
      have inside := List.forall_mem_cons.2 ⟨head, tail⟩
      exact (parts (usual.part inside usual.sequence)).of_first id .sequence
  | allNil => exact fun other alike => ⟨_, .allNil, rfl, fun _ => alike⟩
  | allCons head _ first rest =>
    obtain ⟨builtIn, others⟩ := List.forall_mem_cons.1 usual.builtIn
    have part := usual.call builtIn
    exact .append_match part head (first part) rest others rfl (fun _ => rfl) .allCons
  | allFail _ first =>
    obtain ⟨builtIn, -⟩ := List.forall_mem_cons.1 usual.builtIn
    exact (first (usual.call builtIn)).of_first (fun _ => rfl) .allFail
  | allFailLater head _ first rest =>
    obtain ⟨builtIn, others⟩ := List.forall_mem_cons.1 usual.builtIn
    have part := usual.call builtIn
    exact .append_match part head (first part) rest others rfl id .allFailLater
  | allRaiseLater head _ first rest =>
    obtain ⟨builtIn, others⟩ := List.forall_mem_cons.1 usual.builtIn
    have part := usual.call builtIn
    exact .append_match part head (first part) rest others rfl id .allRaiseLater
  | choice _ alternatives =>
    cases usual.builtIn with
    | choice head tail =>
      exact (alternatives (usual.part ⟨head, tail⟩ usual.sequence)).of_first id .choice
  | anyOk _ first => exact (first (usual.call usual.builtIn.1)).of_first id .anyOk
  | anyLast _ first => exact (first (usual.call usual.builtIn.1)).of_first (fun _ => rfl) .anyLast
  | @anyNext first second others input payload rest state between last head _ one two =>
    have part := usual.call usual.builtIn.1
    have next : Job.Usual (.any second others input) between :=
      part.next head (List.forall_mem_cons.1 usual.builtIn.2) usual.sequence
    exact (one part).append (two next) id .anyNext
  | star _ rounds =>
    cases usual.builtIn with
    | star inside => exact (rounds (usual.part inside usual.sequence)).of_first id .star
  | loopStop _ round =>
    exact (round (usual.call usual.builtIn)).of_first (fun _ => rfl) .loopStop
  | loopMore head _ round more =>
    have part := usual.call usual.builtIn
    exact .append_match part head (round part) more usual.builtIn rfl (fun _ => rfl) .loopMore
  | loopRaiseLater head _ round more =>
    have part := usual.call usual.builtIn
    exact .append_match part head (round part) more usual.builtIn rfl id .loopRaiseLater
  | plusFail _ round =>
    cases usual.builtIn with
    | plus inside => exact (round (usual.call inside)).of_first (fun _ => rfl) .plusFail
  | plusMore head _ round more =>
    cases usual.builtIn with
    | plus inside =>
      have part := usual.call inside
      exact .append_match part head (round part) more inside rfl (fun _ => rfl) .plusMore
  | plusRaiseLater head _ round more =>
    cases usual.builtIn with
    | plus inside =>
      have part := usual.call inside
      exact .append_match part head (round part) more inside rfl id .plusRaiseLater
  | present _ head =>
    cases usual.builtIn with
    | optional inside => exact (head (usual.call inside)).of_first id .present
  | absent _ head =>
    cases usual.builtIn with
    | optional inside => exact (head (usual.call inside)).of_first (fun _ => rfl) .absent
  | aheadOk _ head =>
    cases usual.builtIn with
    | ahead inside => exact (head (usual.call inside)).of_first (fun _ => rfl) .aheadOk
  | aheadFail _ head =>
    cases usual.builtIn with
    | ahead inside => exact (head (usual.call inside)).of_first (fun _ => rfl) .aheadFail
  | notAheadFail _ head =>
    cases usual.builtIn with
    | notAhead inside =>
      intro other alike
      obtain ⟨⟨answer, after⟩, evaluates, same, states⟩ := head (usual.call inside) other alike
      obtain rfl : answer = .ok (.ok _ _) := same
      exact ⟨_, .notAheadFail evaluates, .failOn (states rfl) usual.sequence _⟩
  | notAheadOk _ head =>
    cases usual.builtIn with
    | notAhead inside =>
      intro other alike
      obtain ⟨⟨answer, after⟩, evaluates, same, states⟩ := head (usual.call inside) other alike
      obtain rfl : answer = .ok (.fail _ _) := same
      -- the record of the entry comes back, with what was before it on either side
      exact ⟨_, .notAheadOk evaluates, rfl, fun _ => alike.restoreRecord (states rfl)⟩
  | transformOk _ head =>
    cases usual.builtIn with
    | transform inside => exact (head (usual.call inside)).of_first (fun _ => rfl) .transformOk
  | transformFail _ head =>
    cases usual.builtIn with
    | transform inside => exact (head (usual.call inside)).of_first id .transformFail
  | nestedOk _ nested head _ =>
    cases usual.builtIn with
    | nested inside second =>
      intro other alike
      obtain ⟨⟨answer, between⟩, evaluates, same, states⟩ := head (usual.call inside) other alike
      obtain rfl : answer = .ok (.ok _ _) := same
      -- the parse within has a context of its own, so nothing is to be shown of it
      rw [← (states rfl).nest_eq] at nested
      exact ⟨_, .nestedOk evaluates nested, .unnest (states rfl) _ _ _⟩
  | nestedFail _ head =>
    cases usual.builtIn with
    | nested inside second => exact (head (usual.call inside)).of_first id .nestedFail
  | traced _ inside =>
    cases usual.builtIn with
    | traced name body => exact (inside (usual.call body)).of_first id .traced
  | unresolved found =>
    intro other alike
    rw [← alike.workspace_eq] at found
    exact ⟨_, .unresolved found, .of_fault _ _ _⟩
  | resolved found _ inside =>
    intro other alike
    obtain ⟨ending, evaluates, same⟩ :=
      inside (usual.resolved found _) _ (alike.withWorkspace _)
    rw [← alike.workspace_eq] at found
    exact ⟨ending, .resolved found evaluates, same⟩
  | constant => exact fun other alike => ⟨_, .constant, .of_fault _ _ _⟩
  | raise start _ first =>
    obtain ⟨parser, rfl⟩ := Job.exists_call_of_first? start
    exact (first (usual.call (usual.builtIn.first? start))).of_first id (.raise start)

/-! ## One parser with something on record -/

/-- With one record or another, a state is alike. -/
theorem State.withRecord_alike {state : State} {context : Context}
    (current : state.context = some context) (first second : Record) :
    (state.withRecord first).Alike ⟨context.source, first⟩ ⟨context.source, second⟩
      (state.withRecord second) := by
  obtain ⟨workspace, _, events⟩ := state
  cases current
  have alike : State.Alike ⟨context.source, first⟩ ⟨context.source, second⟩ _ _ :=
    .seen ⟨workspace, context.tracer, context.depth, none, events⟩ fun _ => rfl
  simp only [Course.seenFrom, Record.merge_none] at alike
  exact alike

section OneParser

variable {parser : Parser} {input : Value} {state : State}

/-- A call that is well-formed is so with anything on record. -/
theorem usual_withRecord (builtIn : parser.BuiltIn) (rules : state.workspace.BuiltIn)
    (current : state.context.isSome) (sequence : input.isSequence) (record : Record) :
    (Job.call parser input).Usual (state.withRecord record) := by
  refine ⟨builtIn, rules, ?_, sequence⟩
  rw [State.withRecord, State.restoreRecord_setting, State.setting, Option.isSome_map]
  exact current

/-- Whatever is on record, a run ends with the same answer. -/
theorem exists_run_withRecord (builtIn : parser.BuiltIn) (rules : state.workspace.BuiltIn)
    (current : state.context.isSome) (sequence : input.isSequence) (first second : Record)
    {answer : Except Fault Outcome}
    (ended : ∃ fuel after, run fuel (.call parser input) [] (state.withRecord first)
      = some ⟨answer, after⟩) :
    ∃ fuel after, run fuel (.call parser input) [] (state.withRecord second)
      = some ⟨answer, after⟩ := by
  obtain ⟨fuel, after, ended⟩ := ended
  obtain ⟨context, found⟩ := Option.isSome_iff_exists.1 current
  obtain ⟨⟨other, later⟩, evaluates, same, -⟩ := (exists_run_iff.1 ⟨fuel, ended⟩).alike
    (usual_withRecord builtIn rules current sequence first) _ _ _
    (State.withRecord_alike found first second)
  obtain rfl : other = answer := same
  obtain ⟨steps, ended⟩ := exists_run_iff.2 evaluates
  exact ⟨steps, later, ended⟩

/-- What a run leaves on record is merged with what was there before. -/
theorem exists_run_merge (builtIn : parser.BuiltIn) (rules : state.workspace.BuiltIn)
    (current : state.context.isSome) (sequence : input.isSequence) (prior : Record) {fuel : Nat}
    {outcome : Outcome} {after : State}
    (ended : run fuel (.call parser input) [] (state.withRecord none) = some ⟨.ok outcome, after⟩) :
    ∃ record steps, after.saveRecord = some record
      ∧ run steps (.call parser input) [] (state.withRecord prior)
        = some ⟨.ok outcome, after.withRecord (prior.merge record)⟩ := by
  obtain ⟨context, found⟩ := Option.isSome_iff_exists.1 current
  obtain ⟨⟨answer, later⟩, evaluates, same, states⟩ := (exists_run_iff.1 ⟨fuel, ended⟩).alike
    (usual_withRecord builtIn rules current sequence none) _ _ _
    (State.withRecord_alike found none prior)
  obtain rfl : answer = .ok outcome := same
  obtain ⟨steps, ended⟩ := exists_run_iff.2 evaluates
  have alike : after.Alike _ _ later := states rfl
  obtain ⟨course, agree⟩ := alike
  exact ⟨course.since, steps, by simp [Course.seenFrom, State.saveRecord], ended⟩

end OneParser

/-! ## Two parsers in a row -/

section TwoParsers

variable {workspace : Workspace} {source input : Value} {record : Record} {after : State}

/-- In a parse without a tracer nothing changes but the rules and the record. -/
theorem eq_quiet_of_evaluates {parser : Parser} (builtIn : parser.BuiltIn)
    (rules : workspace.BuiltIn) {outcome : Outcome}
    (evaluates : Evaluates (.call parser input) (.quiet workspace source record)
      ⟨.ok outcome, after⟩) :
    ∃ later, after = .quiet after.workspace source later := by
  have tells : (State.quiet workspace source record).Tells input after :=
    evaluates.tells ⟨builtIn, rules, trivial⟩
  obtain ⟨context, current, sources, tracers, depths⟩ :=
    State.exists_context_of_eq tells.setting_eq tells.depth_eq rfl
  obtain ⟨word, reports⟩ := tells.whole
  have silent : after.events = [] := by
    rw [reports.events_eq, reports.silent rfl]
    rfl
  obtain ⟨rulesAfter, _, events⟩ := after
  obtain ⟨sourceAfter, tracer, depth, later⟩ := context
  cases current
  cases silent
  cases sources
  cases tracers
  cases depths
  exact ⟨later, rfl⟩

/-- Without a tracer it does not matter which part of the input a parser is given. -/
theorem quiet_alike (workspace : Workspace) (source input : Value) (record : Record) :
    (State.quiet workspace source record).Alike ⟨source, record⟩ ⟨input, none⟩
      (State.quiet workspace input none) := by
  have alike : State.Alike ⟨source, record⟩ ⟨input, none⟩ _ _ :=
    .seen ⟨workspace, none, 0, none, []⟩ fun watched => by cases watched
  simp only [Course.seenFrom, Record.merge_none] at alike
  exact alike

/-- Without a tracer, what a call ends with the parser without its label ends with. -/
theorem Evaluates.bare_of_quiet {parser : Parser} {state : State} {last : Ending}
    (evaluates : Evaluates (.call parser input) state last) (quiet : state.tracer? = none) :
    Evaluates (.bare parser input) state last := by
  cases evaluates with
  | unlabelled label bare => exact bare
  | labelled found under =>
    cases under with
    | unwatched _ bare => exact bare
    | refused current watched _ =>
      rw [State.tracer?, current] at quiet
      exact absurd watched (by simpa using quiet)
    | watched current watched _ _ =>
      rw [State.tracer?, current] at quiet
      exact absurd watched (by simpa using quiet)
    | raise start => cases start
  | raise start => cases start

section Pair

variable {first second : Parser} {value middle : Value} {between : Workspace} {early : Record}

/-- A second parser goes on where the first one has matched, and fails on the whole input. -/
theorem evaluates_pair_of_ok
    (head : Evaluates (.call first input) (.quiet workspace source record)
      ⟨.ok (.ok value middle), .quiet between source early⟩)
    {other rest : Value}
    (tail : Evaluates (.call second middle) (.quiet between source early)
      ⟨.ok (.ok other rest), after⟩) :
    Evaluates (.call (.sequence first [second]) input) (.quiet workspace source record)
      ⟨.ok (.ok (.list [value, other]) rest), after⟩ :=
  .call_of_bare rfl (.sequence (.allCons head (.allCons tail .allNil)))

/-- If the second of two parsers fails, the pair fails on the whole input with the payload of the
second. -/
theorem evaluates_pair_of_fail
    (head : Evaluates (.call first input) (.quiet workspace source record)
      ⟨.ok (.ok value middle), .quiet between source early⟩)
    {payload rest : Value}
    (tail : Evaluates (.call second middle) (.quiet between source early)
      ⟨.ok (.fail payload rest), after⟩) :
    Evaluates (.call (.sequence first [second]) input) (.quiet workspace source record)
      ⟨.ok (.fail payload input), after⟩ :=
  .call_of_bare rfl (.sequence (.allFailLater head (.allFail tail)))

/-- Two parsers match in a row only if the second one matches where the first one has matched. -/
theorem evaluates_of_pair
    (head : Evaluates (.call first input) (.quiet workspace source record)
      ⟨.ok (.ok value middle), .quiet between source early⟩)
    {other rest : Value}
    (both : Evaluates (.call (.sequence first [second]) input) (.quiet workspace source record)
      ⟨.ok (.ok (.list [value, other]) rest), after⟩) :
    Evaluates (.call second middle) (.quiet between source early)
      ⟨.ok (.ok other rest), after⟩ := by
  cases both.bare_of_quiet rfl with
  | sequence parts =>
    cases parts with
    | allCons headToo parts =>
      cases head.unique headToo
      cases parts with
      | allCons tail parts =>
        cases parts with
        | allNil => exact tail

end Pair

/-- What is on record after a parse that fails: a place in the input. -/
theorem exists_farthest_of_fail {parser : Parser} (builtIn : parser.BuiltIn)
    (rules : workspace.BuiltIn) (sequence : input.isSequence) {payload rest : Value}
    (failed : Evaluates (.call parser input) (.initial workspace input none)
      ⟨.ok (.fail payload rest), after⟩) (saved : after.saveRecord = some record) :
    ∃ expected place first others, record = some ⟨expected, place, first :: others⟩
      ∧ place.IsRestOf input := by
  obtain ⟨fuel, ended⟩ := exists_run_iff.2 failed
  obtain ⟨-, farthest, found⟩ := exists_record_of_run builtIn rules sequence ended
  obtain ⟨notes, -, context, current, holds⟩ := exists_notes_of_run builtIn rules ended
  have recorded : Record.ofNotesBy distinct input notes = some farthest := by
    rw [← holds.record_eq sequence]
    rw [State.saveRecord, current] at found
    exact Option.some.inj found
  obtain ⟨first, others, -, rfl, -⟩ := Record.exists_of_ofNotesBy_distinct recorded
  cases saved.symm.trans found
  exact ⟨first, _, first, others, rfl, .drop input _⟩

/-- A parse without a tracer that fails raises what is on record, unless it cannot be written. -/
theorem exists_report_of_fail {parser : Parser} (builtIn : parser.BuiltIn)
    (rules : workspace.BuiltIn) (sequence : input.isSequence) {payload : Value}
    {later : Workspace}
    (failed : Evaluates (.call parser input) (.initial workspace input none)
      ⟨.ok (.fail payload input), .quiet later input record⟩) :
    ∃ farthest enough report, record = some farthest
      ∧ (∀ fuel ≥ enough, parse fuel workspace parser input none = some report)
      ∧ (Value.areWritable farthest.alternatives →
        ∃ failure, report.answer = .error (.parse failure) ∧ failure.result = payload
          ∧ failure.rewound = input
          ∧ failure.position = some ((input.length : Int) - farthest.rest.length)
          ∧ failure.alternatives = farthest.alternatives)
      ∧ (¬ Value.areWritable farthest.alternatives →
        report.answer = .error .integerUnwritable) := by
  obtain ⟨expected, place, first, others, rfl, isRest⟩ :=
    exists_farthest_of_fail builtIn rules sequence failed rfl
  obtain ⟨enough, ended⟩ := exists_run_iff.2 failed
  have reported : parse enough workspace parser input none
      = some ⟨(State.quiet later input (some ⟨expected, place, first :: others⟩)).conclude
          (.fail payload input), [], later⟩ := by
    rw [parse, ended]
    rfl
  -- the farthest place is in the input, so the failure is built from the record
  have made : Context.failure { source := input, record := some ⟨expected, place, first :: others⟩ }
      payload input = _ := Context.failure_of_record rfl isRest sequence
  obtain ⟨writes, refuses⟩ :=
    Failure.report_of_isRestOf sequence isRest payload expected first others
  refine ⟨_, enough, _, rfl, fun fuel le => parse_mono le reported, fun writable => ?_,
    fun unwritable => ?_⟩
  · obtain ⟨failure, built, lies⟩ := writes writable
    obtain ⟨result, -, listed, -⟩ := Failure.parts_of_report built
    refine ⟨failure, ?_, result, lies.rewound_eq, ?_, (Except.ok.inj listed).symm⟩
    · simp only [State.conclude, State.quiet, made, built]
      rfl
    · rw [lies.position_eq]
      have := isRest.length_le
      simp only [Option.some.injEq]
      omega
  · simp only [State.conclude, State.quiet, made, refuses unwritable]
    rfl

/-- A parse without a tracer that matches succeeds. -/
theorem exists_success_of_match {parser : Parser} (builtIn : parser.BuiltIn)
    (rules : workspace.BuiltIn) (sequence : input.isSequence) {value rest : Value}
    (matched : Evaluates (.call parser input) (.initial workspace input none)
      ⟨.ok (.ok value rest), after⟩) :
    ∃ fuel report success, parse fuel workspace parser input none = some report
      ∧ report.answer = .ok success ∧ success.result = value ∧ success.unconsumed = rest := by
  have isRest : rest.IsRestOf input := (matched.fits builtIn rules).1
  obtain ⟨later, same⟩ := eq_quiet_of_evaluates builtIn rules matched
  obtain ⟨fuel, ended⟩ := exists_run_iff.2 matched
  have reported : parse fuel workspace parser input none
      = some ⟨after.conclude (.ok value rest), after.events.reverse, after.workspace⟩ := by
    rw [parse, ended]
    rfl
  refine ⟨fuel, _, ⟨value, rest, (input.length - rest.length : Nat)⟩, reported, ?_, rfl, rfl⟩
  rw [same]
  simp only [State.conclude, State.quiet, Failure.positionIn_of_isRestOf sequence isRest]
  rfl

section RoundTrip

variable {first second : Parser} {value middle : Value} {between : State} {early : Record}

/-- **Two parsers in a row match** exactly if the second one matches what the first one left. -/
theorem pair_matches_iff (firstBuiltIn : first.BuiltIn) (secondBuiltIn : second.BuiltIn)
    (rules : workspace.BuiltIn) (sequence : input.isSequence)
    (head : Evaluates (.call first input) (.initial workspace input none)
      ⟨.ok (.ok value middle), between⟩) {other rest : Value} :
    (∃ fuel report success, parse fuel workspace (.sequence first [second]) input none = some report
      ∧ report.answer = .ok success ∧ success.result = .list [value, other]
      ∧ success.unconsumed = rest)
    ↔ ∃ after, Evaluates (.call second middle) (.initial between.workspace middle none)
      ⟨.ok (.ok other rest), after⟩ := by
  obtain ⟨isRest, rulesToo⟩ := head.fits firstBuiltIn rules
  obtain ⟨early, same⟩ := eq_quiet_of_evaluates firstBuiltIn rules head
  rw [same] at head
  have usual {source : Value} {record : Record} :
      (Job.call second middle).Usual (.quiet between.workspace source record) :=
    ⟨secondBuiltIn, rulesToo, rfl, isRest.isSequence_eq.trans sequence⟩
  have alike := quiet_alike between.workspace input middle early
  have pair : (Parser.sequence first [second]).BuiltIn :=
    .sequence firstBuiltIn (List.forall_mem_singleton.2 secondBuiltIn)
  constructor
  · rintro ⟨fuel, report, success, parsed, answered, result, rfl⟩
    -- a list of two values can only come of two matches
    obtain ⟨⟨after, both⟩, -⟩ := match_of_parse parsed answered
    rw [result] at both
    obtain ⟨⟨answer, later⟩, evaluates, same, -⟩ :=
      (evaluates_of_pair head both).alike usual _ _ _ alike
    obtain rfl : answer = .ok (.ok _ _) := same
    exact ⟨later, evaluates⟩
  · rintro ⟨after, tail⟩
    -- seen from the first parser the second one ends in the same way, with more on record
    obtain ⟨⟨answer, later⟩, evaluates, same, -⟩ := tail.alike usual _ _ _ alike.symm
    obtain rfl : answer = .ok (.ok _ _) := same
    exact exists_success_of_match pair rules sequence (evaluates_pair_of_ok head evaluates)

/-- **Two parsers in a row fail** as the second one does on what the first one left, and the record
is merged from those of both. -/
theorem pair_fails (firstBuiltIn : first.BuiltIn) (secondBuiltIn : second.BuiltIn)
    (rules : workspace.BuiltIn) (sequence : input.isSequence)
    (head : Evaluates (.call first input) (.initial workspace input none)
      ⟨.ok (.ok value middle), between⟩) (noted : between.saveRecord = some early)
    {payload rest : Value} {late : Record}
    (tail : Evaluates (.call second middle) (.initial between.workspace middle none)
      ⟨.ok (.fail payload rest), after⟩) (notedToo : after.saveRecord = some late) :
    ∃ later, Evaluates (.call (.sequence first [second]) input) (.initial workspace input none)
      ⟨.ok (.fail payload input), .quiet later input (early.merge late)⟩ := by
  obtain ⟨isRest, rulesToo⟩ := head.fits firstBuiltIn rules
  obtain ⟨recorded, same⟩ := eq_quiet_of_evaluates firstBuiltIn rules head
  rw [same] at head noted
  obtain rfl : recorded = early := Option.some.inj noted
  have usual : (Job.call second middle).Usual (.quiet between.workspace middle none) :=
    ⟨secondBuiltIn, rulesToo, rfl, isRest.isSequence_eq.trans sequence⟩
  obtain ⟨⟨answer, later⟩, evaluates, same, states⟩ :=
    tail.alike usual _ _ _ (quiet_alike between.workspace input middle recorded).symm
  obtain rfl : answer = .ok (.fail _ _) := same
  have alike : after.Alike _ _ later := states rfl
  obtain ⟨course, -⟩ := alike
  have both := evaluates_pair_of_fail head evaluates
  obtain ⟨whole, same⟩ := eq_quiet_of_evaluates (.sequence firstBuiltIn
    (List.forall_mem_singleton.2 secondBuiltIn)) rules both
  have merged : some whole = some (recorded.merge course.since) :=
    congrArg State.saveRecord same.symm
  -- from the empty record, the second parser leaves what came since
  have since : course.since = late := by
    have : some (Record.merge none course.since) = some late := notedToo
    simpa using this
  cases merged
  rw [same, since] at both
  exact ⟨_, both⟩

end RoundTrip

end TwoParsers

/-- **Diagnostics compose.** Take built-in parsers and rules and a sequence.

* Merging records is associative, and the empty record is its unit.
* In whatever parse the first parser runs, and whatever is on record before, it ends with the same
  answer, and it leaves the prior record merged with what it leaves from the empty one.
* If a parse with the first parser matches, a parse with both in a row succeeds exactly if a parse
  of the rest with the second one matches, with both values and the same rest. If that fails, the
  parse with both fails with its payload, gives the whole input back, and reports the merged record.
  Only where an alternative on record cannot be written, another fault is raised in its place. -/
theorem diagnostics_compose (first second : Parser) (workspace : Workspace) (input : Value)
    (firstBuiltIn : first.BuiltIn) (secondBuiltIn : second.BuiltIn) (rules : workspace.BuiltIn)
    (sequence : input.isSequence) :
    ((∀ one two three : Record, (one.merge two).merge three = one.merge (two.merge three))
      ∧ ∀ record : Record, Record.merge none record = record ∧ record.merge none = record)
    ∧ (∀ (state : State) (prior : Record), state.workspace = workspace → state.context.isSome →
      (∀ answer, (∃ fuel after, run fuel (.call first input) [] (state.withRecord prior)
            = some ⟨answer, after⟩)
          ↔ ∃ fuel after, run fuel (.call first input) [] (state.withRecord none)
            = some ⟨answer, after⟩)
      ∧ ∀ fuel outcome after, run fuel (.call first input) [] (state.withRecord none)
          = some ⟨.ok outcome, after⟩ →
        ∃ record steps, after.saveRecord = some record
          ∧ run steps (.call first input) [] (state.withRecord prior)
            = some ⟨.ok outcome, after.withRecord (prior.merge record)⟩)
    ∧ ∀ fuel value middle between early,
      run fuel (.call first input) [] (.initial workspace input none)
        = some ⟨.ok (.ok value middle), between⟩ → between.saveRecord = some early →
      (∀ other rest,
        (∃ fuel report success,
          parse fuel workspace (.sequence first [second]) input none = some report
            ∧ report.answer = .ok success ∧ success.result = .list [value, other]
            ∧ success.unconsumed = rest)
        ↔ ∃ fuel after, run fuel (.call second middle) []
          (.initial between.workspace middle none) = some ⟨.ok (.ok other rest), after⟩)
      ∧ ∀ fuel payload rest after late,
        run fuel (.call second middle) [] (.initial between.workspace middle none)
          = some ⟨.ok (.fail payload rest), after⟩ → after.saveRecord = some late →
        ∃ farthest enough report, early.merge late = some farthest
          ∧ (∀ fuel ≥ enough,
            parse fuel workspace (.sequence first [second]) input none = some report)
          ∧ (Value.areWritable farthest.alternatives →
            ∃ failure, report.answer = .error (.parse failure) ∧ failure.result = payload
              ∧ failure.rewound = input
              ∧ failure.position = some ((input.length : Int) - farthest.rest.length)
              ∧ failure.alternatives = farthest.alternatives)
          ∧ (¬ Value.areWritable farthest.alternatives →
            report.answer = .error .integerUnwritable) := by
  refine ⟨⟨Record.merge_assoc, fun record => ⟨record.none_merge, record.merge_none⟩⟩, ?_, ?_⟩
  · -- what is on record changes no answer, and is merged with what a run adds
    rintro state prior rfl current
    refine ⟨fun answer => ⟨?_, ?_⟩, fun fuel outcome after ended => ?_⟩
    · exact exists_run_withRecord firstBuiltIn rules current sequence prior none
    · exact exists_run_withRecord firstBuiltIn rules current sequence none prior
    · exact exists_run_merge firstBuiltIn rules current sequence prior ended
  · intro fuel value middle between early ended noted
    have head := exists_run_iff.1 ⟨fuel, ended⟩
    constructor
    · intro other rest
      -- the second parser goes on in the record of the first, and matches as it would in its own
      rw [pair_matches_iff firstBuiltIn secondBuiltIn rules sequence head, exists_comm]
      exact exists_congr fun after => exists_run_iff.symm
    · intro fuel payload rest after late endedToo notedToo
      obtain ⟨later, failed⟩ := pair_fails firstBuiltIn secondBuiltIn rules sequence head noted
        (exists_run_iff.1 ⟨fuel, endedToo⟩) notedToo
      exact exists_report_of_fail (.sequence firstBuiltIn
        (List.forall_mem_singleton.2 secondBuiltIn)) rules sequence failed

/-- The repetition stops at the second character, where the second parser fails, so that both are
alternatives there. As one of them has too many digits to be written, there is no failure to report
and another fault is raised. -/
theorem unwritable_alternative_spoils_failure :
    ∃ between after farthest report enough,
      run 30 (.call (.star (.terminal (.literal (.ofString "a")))) (.ofString "ab")) []
          (.initial {} (.ofString "ab") none)
        = some ⟨.ok (.ok (.list [.ofString "a"]) (.ofString "b")), between⟩
      ∧ run 30 (.call (.terminal (.fail (.int (Nat.pow 10 Number.digitLimit : Nat))))
          (.ofString "b")) [] (.initial between.workspace (.ofString "b") none)
        = some ⟨.ok (.fail (.int (Nat.pow 10 Number.digitLimit : Nat)) (.ofString "b")), after⟩
      ∧ between.saveRecord = some (some (.single (.ofString "a") (.ofString "b")))
      ∧ Record.merge (some (.single (.ofString "a") (.ofString "b"))) (some (.single
          (.int (Nat.pow 10 Number.digitLimit : Nat)) (.ofString "b"))) = some farthest
      ∧ farthest.alternatives = [.ofString "a", .int (Nat.pow 10 Number.digitLimit : Nat)]
      ∧ (∀ fuel ≥ enough, parse fuel {} (.sequence (.star (.terminal (.literal (.ofString "a"))))
          [.terminal (.fail (.int (Nat.pow 10 Number.digitLimit : Nat)))]) (.ofString "ab") none
            = some report)
      ∧ report.answer = .error .integerUnwritable := by
  obtain ⟨-, -, rows⟩ := diagnostics_compose (.star (.terminal (.literal (.ofString "a"))))
    (.terminal (.fail (.int (Nat.pow 10 Number.digitLimit : Nat)))) {} (.ofString "ab")
    (.star (.terminal _)) (.terminal _) ⟨by simp, by simp⟩ rfl
  obtain ⟨-, fails⟩ := rows 30 _ _ _ _ rfl rfl
  obtain ⟨farthest, enough, report, merged, reported, -, refused⟩ := fails 30 _ _ _ _ rfl rfl
  have listed : farthest.alternatives
      = [.ofString "a", .int (Nat.pow 10 Number.digitLimit : Nat)] := by
    cases merged
    rfl
  refine ⟨_, _, farthest, report, enough, rfl, rfl, rfl, merged, listed, reported, refused ?_⟩
  rw [listed, Value.areWritable, Value.areWritable, isWritable_of_limit_le (Nat.le_refl _)]
  simp only [Bool.false_and, Bool.and_false, Bool.false_eq_true, not_false_eq_true]

end Peg
