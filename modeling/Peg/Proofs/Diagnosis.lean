import Peg.Proofs.Ledger

/-! # What a failed parse reports

A built-in parser that fails leaves something on record, at its input or beyond
(`Evaluates.covers`), whatever look aheads have struck out on the way. So the failure that a parse
raises carries the record: `failure_carries_record`. What was expected first is the exception, since
a null payload counts there as one that is not given. -/

namespace Peg

/-! ## A failure leaves a record -/

/-- Something is on record at the input or beyond it. -/
def State.Covers (state : State) (input : Value) : Prop :=
  ∃ farthest, state.saveRecord = some (some farthest) ∧ farthest.rest.length ≤ input.length

/-- What is on record beyond a rest is beyond the whole. -/
theorem State.Covers.of_rest {state : State} {rest input : Value} (covers : state.Covers rest)
    (isRest : rest.IsRestOf input) : state.Covers input := by
  obtain ⟨farthest, found, bound⟩ := covers
  exact ⟨farthest, found, bound.trans isRest.length_le⟩

/-- A new note is on record, or something as far. -/
theorem Record.exists_note (record : Record) (payload rest : Value) :
    ∃ farthest, record.note payload rest = some farthest
      ∧ farthest.rest.length ≤ rest.length := by
  cases record with
  | none => exact ⟨.single payload rest, rfl, Nat.le_refl _⟩
  | some farthest =>
    simp only [Record.note]
    split
    · exact ⟨.single payload rest, rfl, Nat.le_refl _⟩
    · rename_i far
      split
      · exact ⟨_, rfl, Nat.not_lt.1 far⟩
      · exact ⟨_, rfl, Nat.not_lt.1 far⟩

/-- A failure that is noted is on record. -/
theorem State.covers_of_note {state noted : State} (current : state.setting.isSome)
    {payload input : Value} (sequence : input.isSequence)
    (done : state.note payload input = .ok noted) : noted.Covers input := by
  rw [State.setting, Option.isSome_map, Option.isSome_iff_exists] at current
  obtain ⟨context, current⟩ := current
  rw [State.note_of_isSequence current sequence payload] at done
  cases done
  obtain ⟨farthest, found, bound⟩ := context.record.exists_note payload input
  exact ⟨farthest, congrArg some found, bound⟩

theorem State.covers_of_failOn {state : State} (current : state.setting.isSome)
    {payload input : Value} (sequence : input.isSequence) {outcome : Outcome}
    (ended : (state.failOn payload input).answer = .ok outcome) :
    (state.failOn payload input).state.Covers input := by
  obtain ⟨noted, done, same⟩ | ⟨fault, same⟩ := state.failOn_cases payload input
  · rw [same]
    exact covers_of_note current sequence done
  · rw [same] at ended
    cases ended

/-- The exit from a labelled parser leaves the record alone. -/
theorem State.Covers.leave {last : Ending} {input : Value} (covers : last.state.Covers input)
    (label : String) (depth : Nat) : (last.leave label depth).state.Covers input := by
  have deeper : (last.state.setDepth depth).Covers input := by
    rw [State.Covers, State.setDepth_saveRecord]
    exact covers
  obtain ⟨events, same⟩ | ⟨fault, -, same⟩ | ⟨fault, same⟩ := last.leave_cases label depth
  · rw [same]
    exact deeper
  · rw [same]
    exact covers
  · rw [same]
    exact deeper

/-- A job with built-in parsers on a sequence, in a parse with built-in rules. -/
structure Job.Usual (job : Job) (state : State) : Prop where
  /-- The parsers are built in. -/
  builtIn : job.BuiltIn
  /-- The rules are built in. -/
  rules : state.workspace.BuiltIn
  /-- There is a parse. -/
  current : state.setting.isSome
  /-- The input has a length. -/
  sequence : job.input.isSequence

/-- A part of a usual job is usual, on a sequence and with built-in parsers. -/
theorem Job.Usual.part {job first : Job} {state : State} (usual : job.Usual state)
    (builtIn : first.BuiltIn) (sequence : first.input.isSequence) : first.Usual state :=
  ⟨builtIn, usual.rules, usual.current, sequence⟩

/-- A built-in parser on the input of a usual job is usual. -/
theorem Job.Usual.call {job : Job} {state : State} (usual : job.Usual state) {parser : Parser}
    (builtIn : parser.BuiltIn) : (Job.call parser job.input).Usual state :=
  usual.part builtIn usual.sequence

/-- So is what comes after a usual job. -/
theorem Job.Usual.next {job later : Job} {state between : State} {outcome : Outcome}
    (usual : job.Usual state) (head : Evaluates job state ⟨.ok outcome, between⟩)
    (builtIn : later.BuiltIn) (sequence : later.input.isSequence) : later.Usual between where
  builtIn := builtIn
  rules := (head.fits usual.builtIn usual.rules).2
  current := by
    rw [head.setting_eq rfl]
    exact usual.current
  sequence := sequence

/-- What a match leaves is a rest of the input, and what goes on there is usual. -/
theorem Job.Usual.after_match {parser : Parser} {input value middle : Value}
    {state between : State} (usual : (Job.call parser input).Usual state)
    (head : Evaluates (.call parser input) state ⟨.ok (.ok value middle), between⟩) :
    middle.IsRestOf input ∧
      ∀ later : Job, later.BuiltIn → later.input = middle → later.Usual between := by
  have isRest : middle.IsRestOf input := (head.fits usual.builtIn usual.rules).1
  refine ⟨isRest, fun later builtIn same => usual.next head builtIn ?_⟩
  rw [same, isRest.isSequence_eq]
  exact usual.sequence

/-- What stands under a label is usual after the entry has been reported. -/
theorem Job.Usual.inside {label : String} {job : Job} {state entered : State}
    (usual : (Job.under label job).Usual state) {kind : EventKind} {name : String} {depth : Nat}
    {rest value : Value} (entry : state.emit kind name depth rest value = .ok entered)
    (deeper : Nat) : job.Usual (entered.setDepth deeper) where
  builtIn := usual.builtIn
  rules := by
    rw [State.setDepth_workspace, State.emit_workspace entry]
    exact usual.rules
  current := by
    rw [State.setDepth_setting, State.setting, State.emit_context entry]
    exact usual.current
  sequence := usual.sequence

/-- The parser of a rule is usual once the rule is resolved. -/
theorem Job.Usual.resolved {cell : Nat} {body : Parser} {input : Value} {state : State}
    {workspace : Workspace} (usual : (Job.bare (.rule cell) input).Usual state)
    (found : (Workspace.resolve cell).run.run state.workspace = (.ok body, workspace))
    (name : String) :
    (Job.under name (.call body input)).Usual { state with workspace := workspace } := by
  obtain ⟨builtIn, rules⟩ := usual.rules.resolve found
  exact ⟨builtIn, rules, usual.current, usual.sequence⟩

/-- **A failure leaves a record.** By induction on the evaluation: a failing terminal and a failing
negative look ahead note something, and no other failing parser does anything to the record after
the failure of its part. -/
theorem Evaluates.covers {job : Job} {state : State} {last : Ending}
    (evaluates : Evaluates job state last) (usual : job.Usual state) {payload rest : Value}
    (failed : last.answer = .ok (.fail payload rest)) : last.state.Covers job.input := by
  induction evaluates generalizing payload rest with
  | unlabelled _ _ body => exact body (usual.part usual.builtIn usual.sequence) failed
  | labelled _ _ body => exact body (usual.part usual.builtIn usual.sequence) failed
  | unwatched _ _ body => exact body (usual.part usual.builtIn usual.sequence) failed
  | refused => cases failed
  | @watched label job state entered context last current watched entry _ body =>
    exact State.Covers.leave (body (usual.inside entry _) (Ending.answer_of_leave failed)) label
      context.depth
  | @terminal leaf input state =>
    obtain ⟨value, rest, -, same⟩ | ⟨payload, -, same⟩ | ⟨fault, same⟩ :=
      leaf.read_cases input state
    · rw [same] at failed
      cases failed
    · rw [same] at failed ⊢
      exact State.covers_of_failOn usual.current usual.sequence failed
    · rw [same] at failed
      cases failed
  | foreign =>
    -- a terminal written by hand notes nothing, but it is not built in
    cases usual.builtIn
  | sequence _ parts =>
    cases usual.builtIn with
    | sequence head tail =>
      exact parts (usual.part (List.forall_mem_cons.2 ⟨head, tail⟩) usual.sequence) failed
  | allNil => cases failed
  | allCons => cases failed
  | allFail _ head =>
    exact head (usual.part (usual.builtIn _ List.mem_cons_self) usual.sequence) rfl
  | @allFailLater parser others entry input value middle payload rest state between after
      head _ _ tail =>
    obtain ⟨first, others⟩ := List.forall_mem_cons.1 usual.builtIn
    have early : Job.Usual (.call parser input) state := usual.part first usual.sequence
    -- what the later part has noted lies behind what the first one has read
    have isRest : middle.IsRestOf input := (head.fits first usual.rules).1
    have sequence : middle.isSequence := isRest.isSequence_eq.trans usual.sequence
    exact State.Covers.of_rest (tail (early.next head others sequence) failed) isRest
  | allRaiseLater => cases failed
  | choice _ alternatives =>
    cases usual.builtIn with
    | choice head tail => exact alternatives (usual.part ⟨head, tail⟩ usual.sequence) failed
  | anyOk => cases failed
  | anyLast _ head => exact head (usual.part usual.builtIn.1 usual.sequence) rfl
  | @anyNext first second others input payload rest state between last head _ _ tail =>
    have early : Job.Usual (.call first input) state := usual.part usual.builtIn.1 usual.sequence
    exact tail (early.next head (List.forall_mem_cons.1 usual.builtIn.2) usual.sequence) failed
  | star _ rounds =>
    cases usual.builtIn with
    | star inside => exact rounds (usual.part inside usual.sequence) failed
  | loopStop => cases failed
  | loopMore => cases failed
  | loopRaiseLater => cases failed
  | plusFail _ round =>
    cases usual.builtIn with
    | plus inside => exact round (usual.part inside usual.sequence) rfl
  | plusMore => cases failed
  | plusRaiseLater => cases failed
  | present => cases failed
  | absent => cases failed
  | aheadOk => cases failed
  | aheadFail _ head =>
    cases usual.builtIn with
    | ahead inside => exact head (usual.part inside usual.sequence) rfl
  | notAheadFail head _ =>
    -- the note is made after the body, so nothing that the body did can take it away
    refine State.covers_of_failOn ?_ usual.sequence failed
    rw [head.setting_eq rfl]
    exact usual.current
  | notAheadOk => cases failed
  | @transformOk body name function input value rest state after _ _ =>
    cases applied : function value with
    | error fault => simp [applied, Except.map] at failed
    | ok result => simp [applied, Except.map] at failed
  | transformFail _ head =>
    cases usual.builtIn with
    | transform inside => exact head (usual.part inside usual.sequence) failed
  | @nestedOk body inner form input value left state between last _ _ _ _ =>
    -- the failure of a nested parse is a fault or a match of the parse around it
    obtain ⟨value, same⟩ | ⟨fault, same⟩ := last.unnest_cases form between.context left <;>
      rw [same] at failed <;> cases failed
  | nestedFail _ head =>
    cases usual.builtIn with
    | nested inside second => exact head (usual.part inside usual.sequence) failed
  | traced _ inside =>
    cases usual.builtIn with
    | traced name body => exact inside (usual.part body usual.sequence) failed
  | unresolved => cases failed
  | resolved found _ inside => exact inside (usual.resolved found _) failed
  | constant => cases failed
  | raise => cases failed

/-! ## The failure that is raised -/

/-- The parts of a failure. A null expectation counts as one that is not given. -/
theorem Failure.parts_of_report {result unconsumed source expected rewound alternatives : Value}
    {failure : Failure}
    (made : report result unconsumed source expected rewound alternatives = .ok failure) :
    failure.result = result ∧ failure.unconsumed = unconsumed
      ∧ alternativesOr failure.expected alternatives = .ok failure.alternatives
      ∧ (expected ≠ .null → failure.expected = expected)
      ∧ (expected = .null → failure.expected = result) := by
  simp only [report] at made
  obtain ⟨options, found, made⟩ := exists_of_bind_eq_ok made
  -- with or without a position, the other parts are the same
  split at made <;> obtain ⟨position, -, made⟩ := exists_of_bind_eq_ok made <;>
    split at made <;> cases made
  all_goals
    refine ⟨rfl, rfl, found, fun given => ?_, fun missing => ?_⟩
    · dsimp only
      split
      · exact absurd rfl given
      · rfl
    · dsimp only
      rw [missing]

/-- A parse that fails where something is on record reports that. -/
theorem Context.failure_of_record {context : Context} {farthest : Farthest} {payload rest : Value}
    (found : context.record = some farthest) (far : farthest.rest.IsRestOf rest)
    (sequence : rest.isSequence) :
    context.failure payload rest = Failure.report payload farthest.rest context.source
      farthest.payload rest (.list farthest.alternatives) := by
  have sequences : (farthest.rest.isSequence && rest.isSequence) = true := by
    rw [far.isSequence_eq, sequence, Bool.and_self]
  have bound := far.length_le
  rw [Context.failure, found]
  simp only [sequences, if_true]
  rw [if_neg (by omega)]

/-- Whatever is on record, the failure carries the payload that reached the end of the parse. -/
theorem Context.result_of_failure {context : Context} {payload rest : Value} {failure : Failure}
    (made : context.failure payload rest = .ok failure) : failure.result = payload := by
  simp only [Context.failure] at made
  split at made
  · exact (Failure.parts_of_report made).1
  · split at made
    · split at made
      · exact (Failure.parts_of_report made).1
      · exact (Failure.parts_of_report made).1
    · cases made

/-- Putting a failure together may raise a fault, but not another failure. -/
theorem Context.failure_ne_parse (context : Context) (payload rest : Value) (failure : Failure) :
    context.failure payload rest ≠ .error (.parse failure) := by
  intro raised
  obtain impossible | impossible := fault_of_failure raised <;> cases impossible

/-- The failure that the end of a parse raises is that of its context. -/
theorem State.failure_of_conclude {state : State} {context : Context}
    (current : state.context = some context) {payload rest : Value} {failure : Failure}
    (raised : state.conclude (.fail payload rest) = .error (.parse failure)) :
    context.failure payload rest = .ok failure := by
  simp only [State.conclude, current] at raised
  rcases of_bind_eq_error raised with early | ⟨made, found, late⟩
  · exact absurd early (context.failure_ne_parse payload rest failure)
  · cases late
    exact found

/-- A parse that fails has something on record. -/
theorem exists_record_of_run {workspace : Workspace} {parser : Parser} {input : Value}
    {tracer : Option Tracer} (builtIn : parser.BuiltIn) (rules : workspace.BuiltIn)
    (sequence : input.isSequence) {fuel : Nat} {payload rest : Value} {after : State}
    (ended : run fuel (.call parser input) [] (.initial workspace input tracer)
      = some ⟨.ok (.fail payload rest), after⟩) :
    rest = input ∧ ∃ farthest, after.saveRecord = some (some farthest) := by
  have evaluates := exists_run_iff.1 ⟨fuel, ended⟩
  obtain ⟨farthest, found, -⟩ := evaluates.covers ⟨builtIn, rules, rfl, sequence⟩ rfl
  exact ⟨(evaluates.fits builtIn rules).1, farthest, found⟩

/-- **The failure that a parse raises carries the record.** Let a parse of a sequence with built-in
parsers end with the failure of its parser and raise that. Then the record has a first payload at
the deepest place of the ledger, and

* the result is the payload of the failure, and the alternatives are the payloads on record, in
  order and no two the same; the first one is the first payload noted at the deepest place;
* what was expected first is that first payload exactly if the payload is not null or the payload
  of the failure is null as well. Otherwise it is the payload of the failure. -/
theorem failure_carries_record (workspace : Workspace) (parser : Parser) (input : Value)
    (tracer : Option Tracer) (builtIn : parser.BuiltIn) (rules : workspace.BuiltIn)
    (sequence : input.isSequence) (fuel : Nat) (payload rest : Value) (after : State)
    (failure : Failure)
    (ended : run fuel (.call parser input) [] (.initial workspace input tracer)
      = some ⟨.ok (.fail payload rest), after⟩)
    (raised : (parse fuel workspace parser input tracer).map (·.answer)
      = some (.error (.parse failure))) :
    ∃ context notes first others, after.context = some context
      ∧ followParse fuel workspace parser input tracer
        = (.finished (.fail payload rest) after, ⟨input, notes, []⟩)
      ∧ (Note.payloadsAt (Note.deepest notes) notes).head? = some first
      ∧ context.record = some ⟨first, input.drop (Note.deepest notes), first :: others⟩
      ∧ failure.result = payload
      ∧ failure.unconsumed = input.drop (Note.deepest notes)
      ∧ failure.alternatives = first :: others
      ∧ failure.alternatives.Pairwise (fun known later => ¬ known.same later)
      ∧ (failure.expected = first ↔ first ≠ .null ∨ payload = .null)
      ∧ (first = .null → failure.expected = payload) := by
  obtain ⟨notes, followed, context, current, holds⟩ := exists_notes_of_run builtIn rules ended
  obtain ⟨rfl, farthest, saved⟩ := exists_record_of_run builtIn rules sequence ended
  have recorded : context.record = some farthest := by
    rw [State.saveRecord, current] at saved
    exact Option.some.inj saved
  -- the record is not empty, so the notes say what is in it
  obtain ⟨first, others, head, rfl, apart⟩ :=
    Record.exists_of_ofNotesBy_distinct ((holds.record_eq sequence).symm.trans recorded)
  have made : context.failure payload rest = .ok failure := by
    rw [parse, ended] at raised
    exact State.failure_of_conclude current (Option.some.inj raised)
  rw [Context.failure_of_record recorded (.drop rest _) sequence] at made
  obtain ⟨result, unconsumed, alternatives, given, missing⟩ := Failure.parts_of_report made
  have listed : failure.alternatives = first :: others := (Except.ok.inj alternatives).symm
  refine ⟨context, notes, first, others, current, followed, head, recorded, result, unconsumed,
    listed, by rw [listed]; exact apart, ?_, missing⟩
  by_cases null : first = .null
  · rw [missing null, null]
    simp
  · simp [given null, null]

/-- The first payload at the deepest place is null here, and what counts as expected first is the
payload of the last alternative, which failed at an earlier place. -/
theorem null_expectation_gives_way :
    ∃ after failure, run 30 (.call (.choice (.sequence (.terminal (.item (.ofString "a")))
        [.terminal (.fail .null)]) [.terminal (.literal (.ofString "b"))]) (.ofString "ac")) []
          (.initial {} (.ofString "ac") none)
        = some ⟨.ok (.fail (.ofString "b") (.ofString "ac")), after⟩
      ∧ (parse 30 {} (.choice (.sequence (.terminal (.item (.ofString "a")))
          [.terminal (.fail .null)]) [.terminal (.literal (.ofString "b"))])
          (.ofString "ac") none).map (·.answer) = some (.error (.parse failure))
      ∧ failure.alternatives = [.null] ∧ failure.expected = .ofString "b" := by
  have first : (Parser.sequence (.terminal (.item (.ofString "a")))
      [.terminal (.fail .null)]).BuiltIn :=
    .sequence (.terminal _) (List.forall_mem_singleton.2 (.terminal _))
  have builtIn := Parser.BuiltIn.choice first
    (List.forall_mem_singleton.2 (.terminal (.literal (.ofString "b"))))
  obtain ⟨context, notes, first, others, -, -, -, -, -, -, listed, -, -, missing⟩ :=
    failure_carries_record {} _ (.ofString "ac") none builtIn ⟨by simp, by simp⟩ rfl 30 _ _ _ _
      rfl rfl
  obtain ⟨rfl, rfl⟩ : Value.null = first ∧ [] = others := List.cons.inj listed
  exact ⟨_, _, rfl, rfl, rfl, missing rfl⟩

end Peg
