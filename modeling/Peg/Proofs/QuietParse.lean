import Peg.Proofs.FailurePlace
import Peg.Proofs.LookAhead

/-! # Parses without a tracer

In a parse without a tracer, with rules that are all bound, nothing changes but the record. So what
a job does there is its answer and the notes that it adds: `Leads`. The notes are those of its parts
one after the other, whatever the rules of evaluation make of the answers.

* **`Leads.exists_report`**: what a parser leads to on the whole input is what a parse reports,
  given enough steps.
* **`exists_failure`**: a parse that fails reports the deepest notes. -/

namespace Peg

/-! ## What a job leads to -/

/-- The state of a parse without a tracer. -/
def State.quiet (workspace : Workspace) (source : Value) (record : Record) : State where
  workspace := workspace
  context := some { source := source, record := record }

/-- The note as it is made: its payload with the input that is left. -/
def Note.made (source : Value) (note : Note) : Value × Value :=
  (note.payload, source.drop note.position)

/-- In a parse without a tracer the job ends with the answer and adds the notes to the record,
whatever that held before. -/
def Leads (workspace : Workspace) (source : Value) (job : Job) (answer : Except Fault Outcome)
    (notes : List Note) : Prop :=
  ∀ record, Evaluates job (.quiet workspace source record)
    ⟨answer, .quiet workspace source (record.noteAll (notes.map (Note.made source)))⟩

namespace Leads

variable {workspace : Workspace} {source : Value} {job first later : Job}
  {one two three : Except Fault Outcome} {notes more : List Note}

/-- A job that does nothing but another one adds the notes of that one. -/
theorem of_first (head : Leads workspace source first one notes)
    (whole : ∀ {s e : State}, Evaluates first s ⟨one, e⟩ → Evaluates job s ⟨two, e⟩) :
    Leads workspace source job two notes :=
  fun record => whole (head record)

/-- A job that does two others in turn adds the notes of both. -/
theorem append (head : Leads workspace source first one notes)
    (tail : Leads workspace source later two more)
    (whole : ∀ {s m e : State}, Evaluates first s ⟨one, m⟩ → Evaluates later m ⟨two, e⟩ →
      Evaluates job s ⟨three, e⟩) :
    Leads workspace source job three (notes ++ more) := by
  intro record
  rw [List.map_append, Record.noteAll_append]
  exact whole (head record) (tail _)

/-- A label means nothing. -/
theorem call {parser : Parser} {input : Value}
    (bare : Leads workspace source (.bare parser input) one notes) :
    Leads workspace source (.call parser input) one notes :=
  fun record => .call_of_bare rfl (bare record)

/-- A rule that is bound is its body. -/
theorem rule {cell : Nat} {body : Parser} {input : Value}
    (found : (Workspace.resolve cell).run.run workspace = (.ok body, workspace))
    (inside : Leads workspace source (.call body input) one notes) :
    Leads workspace source (.call (.rule cell) input) one notes :=
  call fun record => .resolved found (.unwatched rfl (inside record))

/-- A terminal that matches notes nothing. -/
theorem matched {leaf : Terminal} {input value rest : Value}
    (found : leaf.verdict input = .ok (.matched value rest)) :
    Leads workspace source (.call (.terminal leaf) input) (.ok (.ok value rest)) [] := by
  refine call fun record => ?_
  have read : leaf.read input (.quiet workspace source record)
      = ⟨.ok (.ok value rest), .quiet workspace source record⟩ := by rw [Terminal.read, found]
  exact read ▸ .terminal

/-- A terminal that misses notes what it expects. -/
theorem missed {leaf : Terminal} {payload : Value} {position : Nat} (sequence : source.isSequence)
    (found : leaf.verdict (source.drop position) = .ok (.missed payload)) :
    Leads workspace source (.call (.terminal leaf) (source.drop position))
      (.ok (.fail payload (source.drop position))) [⟨payload, position⟩] := by
  refine call fun record => ?_
  have noted : (State.quiet workspace source record).note payload (source.drop position)
      = .ok (.quiet workspace source (record.note payload (source.drop position))) :=
    @State.note_of_isSequence (.quiet workspace source record) _ rfl _
      ((Value.isSequence_drop position source).trans sequence) payload
  have read : leaf.read (source.drop position) (.quiet workspace source record)
      = ⟨.ok (.fail payload (source.drop position)),
          .quiet workspace source (record.note payload (source.drop position))⟩ := by
    rw [Terminal.read, found]
    simp only [State.failOn, noted]
  exact read ▸ .terminal

/-- The parts of a sequence, a choice and a repetition, without their label. -/
theorem sequence {parser : Parser} {others : List Parser} {input : Value}
    (parts : Leads workspace source (.all input (parser :: others) input) one notes) :
    Leads workspace source (.call (.sequence parser others) input) one notes :=
  call (parts.of_first .sequence)

/-- A choice leads where its alternatives do. -/
theorem choice {parser : Parser} {others : List Parser} {input : Value}
    (alternatives : Leads workspace source (.any parser others input) one notes) :
    Leads workspace source (.call (.choice parser others) input) one notes :=
  call (alternatives.of_first .choice)

/-- A repetition leads where its rounds do. -/
theorem star {body : Parser} {input : Value}
    (rounds : Leads workspace source (.loop body input) one notes) :
    Leads workspace source (.call (.star body) input) one notes :=
  call (rounds.of_first .star)

/-- Without parsers a row matches nothing, and notes nothing. -/
theorem allNil {entry input : Value} :
    Leads workspace source (.all entry [] input) (.ok (.ok (.list []) input)) [] :=
  fun _ => .allNil

/-- A function is applied to the value of a match. -/
theorem transform {body : Parser} {name : String} {function : Value → Except Fault Value}
    {input value rest : Value}
    (head : Leads workspace source (.call body input) (.ok (.ok value rest)) notes) :
    Leads workspace source (.call (.transform body name function) input)
      ((function value).map fun result => .ok result rest) notes :=
  call (head.of_first .transformOk)

/-- Failures pass by a function. -/
theorem transformFail {body : Parser} {name : String} {function : Value → Except Fault Value}
    {input payload rest : Value}
    (head : Leads workspace source (.call body input) (.ok (.fail payload rest)) notes) :
    Leads workspace source (.call (.transform body name function) input)
      (.ok (.fail payload rest)) notes :=
  call (head.of_first .transformFail)

/-- A fault of what a parser starts with stops the parser. -/
theorem raise {job first : Job} {fault : Fault} (start : job.first? = some first)
    (head : Leads workspace source first (.error fault) notes) :
    Leads workspace source job (.error fault) notes :=
  head.of_first (.raise start)

end Leads

/-! ## What a parse reports -/

/-- The record that a parse without a tracer ends with. -/
def Record.ofMade (source : Value) (notes : List Note) : Record :=
  Record.noteAll none (notes.map (Note.made source))

/-- It is the record of the notes. -/
theorem Record.ofMade_eq {source : Value} {notes : List Note}
    (within : ∀ note ∈ notes, note.position ≤ source.length) :
    ofMade source notes = ofNotesBy distinct source notes := by
  induction notes using List.reverseRecOn with
  | nil => rfl
  | append_singleton notes note inductionHypothesis =>
    obtain ⟨withinToo, last⟩ := List.forall_mem_append.1 within
    rw [ofMade, List.map_append, noteAll_append, ← ofMade, inductionHypothesis withinToo]
    exact note_ofNotesBy_distinct withinToo note.payload (last note List.mem_cons_self)

/-- With more steps a parse reports the same. -/
theorem parse_mono {fuel more : Nat} (le : fuel ≤ more) {workspace : Workspace} {parser : Parser}
    {input : Value} {tracer : Option Tracer} {report : Report Success}
    (reported : parse fuel workspace parser input tracer = some report) :
    parse more workspace parser input tracer = some report := by
  obtain ⟨ending, ended, rfl⟩ := Option.map_eq_some_iff.1 reported
  exact congrArg (Option.map (·.report State.conclude))
    (@Progress.run_mono fuel more le (.next (.call parser input) [] _) _ ended)

/-- **What a parser leads to on the whole input** is what a parse reports, given enough steps. -/
theorem Leads.exists_report {workspace : Workspace} {source : Value} {parser : Parser}
    {answer : Except Fault Outcome} {notes : List Note}
    (leads : Leads workspace source (.call parser source) answer notes) :
    ∃ enough, ∀ fuel ≥ enough, parse fuel workspace parser source none
      = some ⟨answer.bind (State.quiet workspace source (.ofMade source notes)).conclude, [],
          workspace⟩ := by
  obtain ⟨enough, ended⟩ := exists_run_iff.2 (leads none)
  have reported : run enough (.call parser source) [] (.initial workspace source none) = some _ :=
    ended
  refine ⟨enough, fun fuel le => parse_mono le ?_⟩
  rw [parse, reported]
  rfl

/-- The deepest of several notes, if those before and behind them are less deep. -/
theorem Note.payloadsAt_deepest_of_peak {early late : List Note} {payloads : List Value}
    {position : Nat} (some : payloads ≠ []) (before : ∀ note ∈ early, note.position < position)
    (after : ∀ note ∈ late, note.position < position) :
    deepest (early ++ payloads.map (⟨·, position⟩) ++ late) = position
      ∧ payloadsAt position (early ++ payloads.map (⟨·, position⟩) ++ late) = payloads := by
  have there : payloadsAt position (payloads.map (⟨·, position⟩)) = payloads := by
    rw [payloadsAt, List.filter_eq_self.2 (by simp), List.map_map]
    exact List.map_id payloads
  have nothing {notes : List Note} (less : ∀ note ∈ notes, note.position < position) :
      payloadsAt position notes = [] := by
    rw [payloadsAt, List.map_eq_nil_iff, List.filter_eq_nil_iff]
    intro note member same
    exact Nat.lt_irrefl _ (beq_iff_eq.1 same ▸ less note member)
  constructor
  · apply Nat.le_antisymm
    · refine deepest_le ?_
      simp only [List.forall_mem_append, List.forall_mem_map]
      exact ⟨⟨fun note member => Nat.le_of_lt (before note member), fun _ _ => Nat.le_refl _⟩,
        fun note member => Nat.le_of_lt (after note member)⟩
    · obtain ⟨payload, member⟩ := List.exists_mem_of_ne_nil payloads some
      have noted : (⟨payload, position⟩ : Note)
          ∈ early ++ payloads.map (⟨·, position⟩) ++ late := by simp [member]
      exact position_le_deepest noted
  · rw [payloadsAt_append, payloadsAt_append, nothing before, nothing after, there,
      List.nil_append, List.append_nil]

/-- Values can be written if each of them can. -/
theorem areWritable_of_forall {values : List Value} (all : ∀ value ∈ values, value.isWritable) :
    Value.areWritable values := by
  induction values with
  | nil => rfl
  | cons value values inductionHypothesis =>
    obtain ⟨first, others⟩ := List.forall_mem_cons.1 all
    rw [Value.areWritable, first, inductionHypothesis others]
    rfl

/-- Nothing is kept that was not there. -/
theorem mem_of_mem_distinct {payload : Value} {payloads : List Value}
    (member : payload ∈ distinct payloads) : payload ∈ payloads := by
  induction payloads using List.reverseRecOn with
  | nil => exact member
  | append_singleton payloads last inductionHypothesis =>
    rw [distinct_append_singleton, addNew] at member
    split at member
    · exact List.mem_append_left _ (inductionHypothesis member)
    · rcases List.mem_append.1 member with old | new
      · exact List.mem_append_left _ (inductionHypothesis old)
      · exact List.mem_append_right _ new

/-- **A parse that fails reports the deepest notes**: their place, and their payloads without
repeats. -/
theorem exists_failure (workspace : Workspace) {source : Value} (payload : Value)
    (sequence : source.isSequence) {early late : List Note} {payloads : List Value}
    {position : Nat} (some : payloads ≠ []) (bound : position ≤ source.length)
    (before : ∀ note ∈ early, note.position < position)
    (after : ∀ note ∈ late, note.position < position)
    (writable : ∀ payload ∈ payloads, payload.isWritable) :
    ∃ failure, (State.quiet workspace source (.ofMade source
          (early ++ payloads.map (⟨·, position⟩) ++ late))).conclude (.fail payload source)
        = .error (.parse failure)
      ∧ failure.LiesAt source position ∧ failure.alternatives = distinct payloads := by
  obtain ⟨deep, there⟩ := Note.payloadsAt_deepest_of_peak some before after
  have within : ∀ note ∈ early ++ payloads.map (⟨·, position⟩) ++ late,
      note.position ≤ source.length := by
    intro note member
    have le := Note.position_le_deepest member
    rw [deep] at le
    exact Nat.le_trans le bound
  have writable : Value.areWritable (distinct payloads) :=
    areWritable_of_forall fun payload member => writable payload (mem_of_mem_distinct member)
  obtain ⟨first, others, rfl⟩ := List.exists_cons_of_ne_nil some
  obtain ⟨kept, listed⟩ := exists_distinct_cons first others
  -- the record keeps the first of the deepest payloads as the one expected
  have recorded : Record.ofMade source (early ++ (first :: others).map (⟨·, position⟩) ++ late)
      = .some ⟨first, source.drop position, distinct (first :: others)⟩ := by
    rw [Record.ofMade_eq within, Record.ofNotesBy, deep, there]
  rw [listed] at writable recorded ⊢
  have isRest : (source.drop position).IsRestOf source := ⟨position, bound, rfl⟩
  obtain ⟨failure, made, lies⟩ :=
    (Failure.report_of_isRestOf sequence isRest payload first first kept).1 writable
  rw [Value.length_drop, Nat.sub_sub_self bound] at lies
  refine ⟨failure, ?_, lies, ?_⟩
  · rw [recorded]
    simp only [State.conclude, State.quiet]
    rw [Context.failure_of_record rfl isRest sequence, made]
    rfl
  · exact (Except.ok.inj (Failure.parts_of_report made).2.2.1).symm

end Peg
