import Peg.Proofs.Notes
import Peg.Proofs.Rest

/-! # The record of failures explained

A ledger is kept beside a run. It knows nothing of the record: it gets a note when a terminal misses
and when the body of a negative look ahead matches, and when such a body fails it strikes out all
notes made since the look ahead was entered. A nested parse has notes of its own.

* **`Tracked.step`**: one step keeps the record of the current parse, and every record that a frame
  has saved, explained by the ledger.
* **`Progress.follow_tracked`**: so does any number of steps.
* **`record_eq_ofNotes`**: at every point of a run the record is that of the notes in the ledger. -/

namespace Peg

/-! ## Ledgers -/

/-- What has to be known when an open look ahead or an open nested parse ends. -/
inductive Mark where
  /-- A negative look ahead, and how many notes there were before it. -/
  | lookAhead (count : Nat)
  /-- A nested parse, and the whole input and the notes of the parse around it. -/
  | nested (source : Value) (notes : List Note)

/-- A mark is that of a negative look ahead. -/
def Mark.isLookAhead : Mark → Bool
  | .lookAhead _ => true
  | .nested _ _ => false

/-- The failures of a parse that count. -/
structure Ledger where
  /-- The whole input. -/
  source : Value
  /-- The notes, in the order in which they were made. -/
  notes : List Note := []
  /-- The look aheads and nested parses that are open, the innermost one first. -/
  marks : List Mark := []

namespace Ledger

/-- Makes a note of a failure on a rest of the whole input. -/
def add (ledger : Ledger) (payload rest : Value) : Ledger :=
  { ledger with notes := ledger.notes ++ [⟨payload, ledger.source.length - rest.length⟩] }

/-- Opens a negative look ahead. -/
def look (ledger : Ledger) : Ledger :=
  { ledger with marks := .lookAhead ledger.notes.length :: ledger.marks }

/-- Closes a negative look ahead whose body matched: the notes stay. -/
def keep (ledger : Ledger) : Ledger := { ledger with marks := ledger.marks.tail }

/-- Closes a negative look ahead whose body failed: the notes made since its entry go. -/
def strike (ledger : Ledger) : Ledger :=
  match ledger.marks with
  | .lookAhead count :: marks => ⟨ledger.source, ledger.notes.take count, marks⟩
  | _ => ledger

/-- Opens a nested parse. -/
def nest (ledger : Ledger) (source : Value) : Ledger :=
  ⟨source, [], .nested ledger.source ledger.notes :: ledger.marks⟩

/-- Closes a nested parse. -/
def unnest (ledger : Ledger) : Ledger :=
  match ledger.marks with
  | .nested source notes :: marks => ⟨source, notes, marks⟩
  | _ => ledger

/-- The ledger after a call. -/
def afterCall (ledger : Ledger) (parser : Parser) (input : Value) : Ledger :=
  match parser with
  | .terminal leaf =>
    match leaf.verdict input with
    | .ok (.missed payload) => ledger.add payload input
    | _ => ledger
  | .notAhead _ => ledger.look
  | _ => ledger

/-- The ledger after an outcome has been handed to a frame. -/
def afterAnswer (ledger : Ledger) (frame : Frame) (outcome : Outcome) : Ledger :=
  match frame, outcome with
  | .notAhead entry _, .ok value _ => ledger.keep.add value entry
  | .notAhead _ _, .fail _ _ => ledger.strike
  | .nest _ _, .ok value _ => ledger.nest value
  | .unnest _ _ _, _ => ledger.unnest
  | _, _ => ledger

/-- The ledger after a step. -/
def after (ledger : Ledger) : Control → List Frame → Ledger
  | .call parser input, _ => ledger.afterCall parser input
  | .answer outcome, frame :: _ => ledger.afterAnswer frame outcome
  | .answer _, [] => ledger

end Ledger

namespace Progress

/-- The state at a point of a run. -/
def state : Progress → State
  | .next _ _ state => state
  | .finished _ state => state
  | .raised _ state => state

/-- One step from a point of a run, with a ledger kept along. A step that stops the run enters
nothing. -/
def advance : Progress × Ledger → Progress × Ledger
  | (.next control stack state, ledger) =>
    match step control stack state with
    | .next control' stack' state' => (.next control' stack' state', ledger.after control stack)
    | stopped => (stopped, ledger)
  | stopped => stopped

/-- Several steps from a point of a run, with a ledger kept along. -/
def follow : Nat → Progress × Ledger → Progress × Ledger
  | 0, point => point
  | steps + 1, point => follow steps (advance point)

end Progress

/-- A parse after some steps, with the ledger kept from its start on. -/
def followParse (steps : Nat) (workspace : Workspace) (parser : Parser) (input : Value)
    (tracer : Option Tracer) : Progress × Ledger :=
  Progress.follow steps
    (.call parser input [] (.initial workspace input tracer), { source := input })

/-! ## The invariant -/

/-- A context is about the given input, and its record is that of the notes. -/
structure Context.Explained (context : Context) (source : Value) (notes : List Note) : Prop where
  /-- The input. -/
  source_eq : context.source = source
  /-- The offsets of the notes lie in the input. -/
  within : ∀ note ∈ notes, note.position ≤ source.length
  /-- The record, where there are offsets at all. -/
  record_eq : source.isSequence → context.record = Record.ofNotesBy distinct source notes

/-- There is a current context, and it is explained. -/
def Explained (context : Option Context) (source : Value) (notes : List Note) : Prop :=
  ∃ current, context = some current ∧ current.Explained source notes

/-- What a frame holds comes from the whole input, and the parsers in it are built in. The two kinds
of frames that hold records are left out. -/
def Frame.Fits (source : Value) : Frame → Prop
  | .sequence entry _ others => entry.IsRestOf source ∧ ∀ parser ∈ others, parser.BuiltIn
  | .choice entry others => entry.IsRestOf source ∧ ∀ parser ∈ others, parser.BuiltIn
  | .loop body _ rest => rest.IsRestOf source ∧ body.BuiltIn
  | .plus body entry => entry.IsRestOf source ∧ body.BuiltIn
  | .optional _ entry => entry.IsRestOf source
  | .ahead entry => entry.IsRestOf source
  | .transform _ => True
  | .nest inner _ => inner.BuiltIn
  | .exit _ _ => True
  | .notAhead _ _ => False
  | .unnest _ _ _ => False

/-- What is called or handed on comes from the whole input, and the parser called is built in. -/
def Control.Fits (source : Value) : Control → Prop
  | .call parser input => input.IsRestOf source ∧ parser.BuiltIn
  | .answer outcome => outcome.rest.IsRestOf source

/-- The frames of a stack belong to the marks of a ledger, and every record in them is that of the
notes up to its mark. The outermost parse is about `root`. -/
inductive Accounted (root : Value) : List Frame → Ledger → Prop
  /-- No frames, no marks. -/
  | nil {notes : List Note} : Accounted root [] ⟨root, notes, []⟩
  /-- Most frames have no mark. -/
  | frame {frame : Frame} {stack : List Frame} {ledger : Ledger} (fits : frame.Fits ledger.source)
      (tail : Accounted root stack ledger) : Accounted root (frame :: stack) ledger
  /-- A negative look ahead has saved the record of the notes before it. -/
  | lookAhead {entry : Value} {record : Record} {stack : List Frame} {source : Value}
      {early notes : List Note} {marks : List Mark} (isRest : entry.IsRestOf source)
      (saved : source.isSequence → record = Record.ofNotesBy distinct source early)
      (before : early <+: notes) (tail : Accounted root stack ⟨source, early, marks⟩) :
      Accounted root (.notAhead entry (some record) :: stack)
        ⟨source, notes, .lookAhead early.length :: marks⟩
  /-- A nested parse has put the context around it away. -/
  | nested {form : NestedForm} {outer : Option Context} {rest : Value} {stack : List Frame}
      {ledger : Ledger} {source : Value} {notes : List Note} (isRest : rest.IsRestOf ledger.source)
      (explained : Explained outer ledger.source ledger.notes)
      (tail : Accounted root stack ledger) :
      Accounted root (.unnest form outer rest :: stack)
        ⟨source, notes, .nested ledger.source ledger.notes :: ledger.marks⟩

/-- **The invariant**: the ledger explains the current record and those that are saved, and the
rules are built in. -/
structure Tracked (root : Value) (stack : List Frame) (state : State) (ledger : Ledger) : Prop where
  /-- The rules are built in. -/
  rules : state.workspace.BuiltIn
  /-- The current record is explained. -/
  explained : Explained state.context ledger.source ledger.notes
  /-- The saved records are explained. -/
  frames : Accounted root stack ledger

/-- A ledger in which no nested parse is open is about the outermost one. -/
def Ledger.Rooted (root : Value) (ledger : Ledger) : Prop :=
  (∀ mark ∈ ledger.marks, mark.isLookAhead) → ledger.source = root

/-- The invariant after a step. A step that stops the run leaves the record as it was. -/
def Progress.Tracked (root : Value) (old new : Ledger) : Progress → Prop
  | .next control stack state => Peg.Tracked root stack state new ∧ control.Fits new.source
  | .finished _ state =>
    Explained state.context old.source old.notes ∧ old.source = root ∧ old.marks = []
  | .raised _ state => Explained state.context old.source old.notes ∧ old.Rooted root

/-! ## What the operations on the state do to an explanation -/

namespace Explained

variable {state : State} {source : Value} {notes : List Note}

/-- An explanation is about the record, so it holds at any depth. -/
theorem setDepth (explained : Explained state.context source notes) (depth : Nat) :
    Explained (state.setDepth depth).context source notes := by
  obtain ⟨current, found, holds⟩ := explained
  refine ⟨{ current with depth := depth }, ?_, holds.source_eq, holds.within, holds.record_eq⟩
  rw [State.setDepth, found, Option.map_some]

/-- A failure that is noted is a note in the ledger. -/
theorem note {ledger : Ledger} (explained : Explained state.context ledger.source ledger.notes)
    {payload rest : Value} (isRest : rest.IsRestOf ledger.source) {noted : State}
    (done : state.note payload rest = .ok noted) :
    Explained noted.context (ledger.add payload rest).source (ledger.add payload rest).notes := by
  obtain ⟨current, found, holds⟩ := explained
  have bound : ledger.source.length - rest.length ≤ ledger.source.length := Nat.sub_le _ _
  have within : ∀ note ∈ (ledger.add payload rest).notes,
      note.position ≤ ledger.source.length := by
    intro note member
    rcases List.mem_append.1 member with before | last
    · exact holds.within note before
    · rw [List.mem_singleton.1 last]
      exact bound
  by_cases sequence : ledger.source.isSequence
  · have isSequence : rest.isSequence := by
      rw [isRest.isSequence_eq]
      exact sequence
    rw [State.note_of_isSequence found isSequence payload] at done
    cases done
    refine ⟨_, rfl, holds.source_eq, within, fun _ => ?_⟩
    calc current.record.note payload rest
      _ = (Record.ofNotesBy distinct ledger.source ledger.notes).note payload
            (ledger.source.drop (ledger.source.length - rest.length)) := by
          rw [holds.record_eq sequence, ← isRest.eq_drop]
      _ = Record.ofNotesBy distinct ledger.source (ledger.add payload rest).notes :=
          Record.note_ofNotesBy_distinct holds.within payload bound
  · -- where there are no offsets, there is nothing to say about the record
    obtain rfl | ⟨context, same, rfl⟩ := State.note_cases done
    · exact ⟨current, found, holds.source_eq, within, fun yes => absurd yes sequence⟩
    · obtain rfl : current = context := Option.some.inj (found.symm.trans same)
      exact ⟨_, rfl, holds.source_eq, within, fun yes => absurd yes sequence⟩

/-- The saved record is explained like the current one. -/
theorem exists_saved (explained : Explained state.context source notes) :
    ∃ record, state.saveRecord = some record
      ∧ (source.isSequence → record = Record.ofNotesBy distinct source notes) := by
  obtain ⟨current, found, holds⟩ := explained
  refine ⟨current.record, ?_, holds.record_eq⟩
  rw [State.saveRecord, found, Option.map_some]

/-- A record of earlier notes that is brought back is explained by those. -/
theorem restore (explained : Explained state.context source notes) {early : List Note}
    (before : early <+: notes) {record : Record}
    (saved : source.isSequence → record = Record.ofNotesBy distinct source early) :
    Explained (state.restoreRecord (some record)).context source early := by
  obtain ⟨current, found, holds⟩ := explained
  refine ⟨{ current with record := record }, ?_, holds.source_eq, ?_, saved⟩
  · rw [State.restoreRecord, found, Option.map_some]
  · intro note member
    exact holds.within note (before.subset member)

end Explained

/-- A nested parse starts with an empty record and no notes. -/
theorem explained_nested (value : Value) : Explained (some { source := value }) value [] := by
  refine ⟨_, rfl, rfl, ?_, fun _ => rfl⟩
  intro note member
  cases member

section Step

variable {root : Value} {stack : List Frame} {state : State} {ledger old new : Ledger}

/-- Saved records are about earlier notes, so new ones do not concern them. -/
theorem Accounted.more (accounted : Accounted root stack ledger) {notes : List Note}
    (before : ledger.notes <+: notes) : Accounted root stack { ledger with notes := notes } := by
  induction accounted with
  | nil => exact .nil
  | frame fits _ inductionHypothesis => exact .frame fits (inductionHypothesis before)
  | lookAhead isRest saved earlier tail _ =>
    exact .lookAhead isRest saved (earlier.trans before) tail
  | nested isRest explained tail _ =>
    -- the notes of the parse around it wait in the mark and do not grow
    exact .nested isRest explained tail

/-- Only the start of a nested parse changes what the current parse is about. -/
theorem Accounted.rooted (accounted : Accounted root stack ledger) : ledger.Rooted root := by
  induction accounted with
  | nil => exact fun _ => rfl
  | frame _ _ inductionHypothesis => exact inductionHypothesis
  | lookAhead _ _ _ _ inductionHypothesis =>
    intro only
    exact inductionHypothesis fun mark member => only mark (List.mem_cons_of_mem _ member)
  | nested _ _ _ _ =>
    intro only
    cases only _ List.mem_cons_self

/-! ## One step -/

/-- A frame without a record goes on top. -/
theorem Tracked.push (tracked : Tracked root stack state ledger) {frame : Frame}
    (fits : frame.Fits ledger.source) : Tracked root (frame :: stack) state ledger :=
  ⟨tracked.rules, tracked.explained, .frame fits tracked.frames⟩

/-- Setting the depth keeps the ledger true. -/
theorem Tracked.setDepth (tracked : Tracked root stack state ledger) (depth : Nat) :
    Tracked root stack (state.setDepth depth) ledger :=
  ⟨tracked.rules, tracked.explained.setDepth depth, tracked.frames⟩

/-- Telling the tracer of an event keeps the ledger true. -/
theorem Tracked.emit (tracked : Tracked root stack state ledger) {told : State} {kind : EventKind}
    {name : String} {depth : Nat} {rest value : Value}
    (done : state.emit kind name depth rest value = .ok told) : Tracked root stack told ledger := by
  obtain ⟨events, rfl⟩ := State.emit_eq done
  exact ⟨tracked.rules, tracked.explained, tracked.frames⟩

/-- A failure that is noted is a note in the ledger. -/
theorem Tracked.note (tracked : Tracked root stack state ledger) {payload rest : Value}
    (isRest : rest.IsRestOf ledger.source) {noted : State}
    (done : state.note payload rest = .ok noted) :
    Tracked root stack noted (ledger.add payload rest) where
  rules := by
    rw [State.note_workspace done]
    exact tracked.rules
  explained := tracked.explained.note isRest done
  frames := tracked.frames.more (List.prefix_append _ _)

/-- A fault stops the run in an explained state. -/
theorem Tracked.raise (tracked : Tracked root stack state old) (fault : Fault) :
    (Progress.raised fault state).Tracked root old new :=
  ⟨tracked.explained, tracked.frames.rooted⟩

/-- What may raise a fault is done with once what follows a result is. -/
theorem Tracked.after (tracked : Tracked root stack state old) {result : Except Fault α}
    {next : α → Progress} (goes : ∀ value, result = .ok value → (next value).Tracked root old new) :
    (Progress.after state result next).Tracked root old new := by
  cases result with
  | error fault => exact tracked.raise fault
  | ok value => exact goes value rfl

/-- Entering a labelled parser concerns the tracer only. -/
theorem Tracked.enter (tracked : Tracked root stack state old) {label : String} {input : Value}
    {next : List Frame → State → Progress}
    (goes : ∀ stack state, Tracked root stack state old → (next stack state).Tracked root old new) :
    (state.enter label input stack next).Tracked root old new := by
  rw [State.enter]
  split
  · refine tracked.after fun entered told => goes _ _ ?_
    exact ((tracked.emit told).setDepth _).push trivial
  · exact goes stack state tracked

variable {input : Value} {parser : Parser}

/-- A terminal that misses gets its note, one that matches none. -/
theorem Tracked.terminal (tracked : Tracked root stack state ledger)
    (isRest : input.IsRestOf ledger.source) (leaf : Terminal) :
    (leaf.run input stack state).Tracked root ledger (ledger.afterCall (.terminal leaf) input) := by
  refine tracked.after fun verdict found => ?_
  rw [Ledger.afterCall, found]
  cases verdict with
  | matched value rest => exact ⟨tracked, (Terminal.isRestOf_of_verdict found).trans isRest⟩
  | missed payload =>
    exact tracked.after fun noted done => ⟨tracked.note isRest done, isRest⟩

/-- Calling a rule concerns the workspace and the tracer only. -/
theorem Tracked.rule (tracked : Tracked root stack state ledger)
    (isRest : input.IsRestOf ledger.source) (cell : Nat) :
    (callRule cell input stack state).Tracked root ledger ledger := by
  obtain ⟨keeps, has⟩ := Workspace.resolve_keepsBuiltIn cell state.workspace tracked.rules
  simp only [Edit.outcome] at keeps has
  rw [callRule]
  split
  · rename_i body workspace found
    rw [found] at keeps has
    have resolved : Tracked root stack { state with workspace := workspace } ledger :=
      ⟨keeps, tracked.explained, tracked.frames⟩
    exact resolved.enter fun _ _ tracked => ⟨tracked, isRest, has body rfl⟩
  · exact ⟨tracked.explained, tracked.frames.rooted⟩

/-- What a parser does first is entered in the ledger. -/
theorem Tracked.start (tracked : Tracked root stack state ledger)
    (isRest : input.IsRestOf ledger.source) (builtIn : parser.BuiltIn) :
    (parser.start input stack state).Tracked root ledger (ledger.afterCall parser input) := by
  cases builtIn with
  | terminal leaf => exact tracked.terminal isRest leaf
  | sequence head tail => exact ⟨tracked.push ⟨isRest, tail⟩, isRest, head⟩
  | choice head tail => exact ⟨tracked.push ⟨isRest, tail⟩, isRest, head⟩
  | star inside => exact ⟨tracked.push ⟨isRest, inside⟩, isRest, inside⟩
  | plus inside => exact ⟨tracked.push ⟨isRest, inside⟩, isRest, inside⟩
  | optional inside absent => exact ⟨tracked.push isRest, isRest, inside⟩
  | ahead inside => exact ⟨tracked.push isRest, isRest, inside⟩
  | notAhead inside =>
    -- the record saved at the entry is that of the notes made so far
    obtain ⟨record, found, saved⟩ := tracked.explained.exists_saved
    rw [Parser.start, found]
    refine ⟨⟨tracked.rules, tracked.explained, ?_⟩, isRest, inside⟩
    exact .lookAhead isRest saved List.prefix_rfl tracked.frames
  | transform inside name function => exact ⟨tracked.push trivial, isRest, inside⟩
  | nested inside second form => exact ⟨tracked.push second, isRest, inside⟩
  | traced name inside => exact ⟨tracked, isRest, inside⟩
  | rule cell => exact tracked.rule isRest cell
  | constant value => exact tracked.raise .wrongKind

/-- The call of a parser keeps the ledger true. -/
theorem Tracked.call (tracked : Tracked root stack state ledger)
    (isRest : input.IsRestOf ledger.source) (builtIn : parser.BuiltIn) :
    (parser.call input stack state).Tracked root ledger (ledger.afterCall parser input) := by
  rw [Parser.call]
  split
  · exact tracked.enter fun _ _ tracked => tracked.start isRest builtIn
  · exact tracked.start isRest builtIn

variable {outcome : Outcome} {frame : Frame}

/-- The exit from a labelled parser concerns the tracer only. -/
theorem Tracked.exit (tracked : Tracked root stack state ledger)
    (isRest : outcome.rest.IsRestOf ledger.source) (label : String) (depth : Nat) :
    ((Frame.exit label depth).receive outcome stack state).Tracked root ledger ledger := by
  have left := tracked.setDepth depth
  cases outcome with
  | ok value rest => exact left.after fun told done => ⟨left.emit done, isRest⟩
  | fail payload rest => exact left.after fun told done => ⟨left.emit done, isRest⟩

/-- A frame without a mark hands on what comes from the whole input. The ledger changes only when
a nested parse starts. -/
theorem Tracked.receive_of_fits (tracked : Tracked root stack state ledger)
    (fits : frame.Fits ledger.source) (isRest : outcome.rest.IsRestOf ledger.source) :
    (frame.receive outcome stack state).Tracked root ledger (ledger.afterAnswer frame outcome) := by
  cases frame with
  | sequence entry done others =>
    obtain ⟨start, builtIn⟩ := fits
    cases outcome with
    | fail payload rest =>
      rw [receive_sequence_fail]
      exact ⟨tracked, start⟩
    | ok value rest =>
      cases others with
      | nil => exact ⟨tracked, isRest⟩
      | cons parser others =>
        obtain ⟨head, tail⟩ := List.forall_mem_cons.1 builtIn
        exact ⟨tracked.push ⟨start, tail⟩, isRest, head⟩
  | choice entry others =>
    obtain ⟨start, builtIn⟩ := fits
    cases outcome with
    | ok value rest => exact ⟨tracked, isRest⟩
    | fail payload rest =>
      cases others with
      | nil => exact ⟨tracked, start⟩
      | cons parser others =>
        obtain ⟨head, tail⟩ := List.forall_mem_cons.1 builtIn
        exact ⟨tracked.push ⟨start, tail⟩, start, head⟩
  | loop body done rest =>
    cases outcome with
    | ok value rest => exact ⟨tracked.push ⟨isRest, fits.2⟩, isRest, fits.2⟩
    | fail payload rest => exact ⟨tracked, fits.1⟩
  | plus body entry =>
    cases outcome with
    | ok value rest => exact ⟨tracked.push ⟨isRest, fits.2⟩, isRest, fits.2⟩
    | fail payload rest => exact ⟨tracked, fits.1⟩
  | optional absent entry =>
    cases outcome with
    | ok value rest => exact ⟨tracked, isRest⟩
    | fail payload rest => exact ⟨tracked, fits⟩
  | ahead entry => cases outcome <;> exact ⟨tracked, fits⟩
  | notAhead entry saved => exact fits.elim
  | transform function =>
    cases outcome with
    | ok value rest =>
      exact tracked.after fun result _ => ⟨tracked, isRest⟩
    | fail payload rest => exact ⟨tracked, isRest⟩
  | nest inner form =>
    cases outcome with
    | ok value rest =>
      -- the inner parse is about the value, with a record and notes of its own
      refine ⟨⟨tracked.rules, explained_nested value, ?_⟩, .refl value, fits⟩
      exact .nested isRest tracked.explained tracked.frames
    | fail payload rest => exact ⟨tracked, isRest⟩
  | unnest form outer rest => exact fits.elim
  | exit label depth => cases outcome <;> exact tracked.exit isRest label depth

/-- What a frame does with an outcome is entered in the ledger. -/
theorem Tracked.receive (tracked : Tracked root (frame :: stack) state ledger)
    (isRest : outcome.rest.IsRestOf ledger.source) :
    (frame.receive outcome stack state).Tracked root ledger (ledger.afterAnswer frame outcome) := by
  have ⟨rules, explained, frames⟩ := tracked
  cases frames with
  | frame fits tail =>
    have below : Tracked root stack state ledger := ⟨rules, explained, tail⟩
    exact below.receive_of_fits fits isRest
  | @lookAhead entry record _ source early notes marks start saved before tail =>
    cases outcome with
    | ok value rest =>
      -- the mark goes and the notes stay, then the look ahead gets a note of its own
      have closed : Tracked root stack state ⟨source, notes, marks⟩ :=
        ⟨rules, explained, tail.more before⟩
      exact tracked.after fun noted done => ⟨closed.note start done, start⟩
    | fail payload rest =>
      -- the notes up to the mark are those whose record was saved
      have kept : notes.take early.length = early := (List.prefix_iff_eq_take.1 before).symm
      simp only [Ledger.afterAnswer, Ledger.strike, kept]
      refine ⟨⟨?_, explained.restore before saved, tail⟩, start⟩
      rw [State.restoreRecord_workspace]
      exact rules
  | nested start around tail =>
    -- the context around comes back, and with it the notes that the mark has kept
    exact tracked.after fun result _ => ⟨⟨rules, around, tail⟩, start⟩

/-- **One step keeps the ledger true.** -/
theorem Tracked.step {control : Control} (tracked : Tracked root stack state ledger)
    (fits : control.Fits ledger.source) :
    (Peg.step control stack state).Tracked root ledger (ledger.after control stack) := by
  cases control with
  | call parser input => exact tracked.call fits.1 fits.2
  | answer outcome =>
    cases stack with
    | nil =>
      have explained := tracked.explained
      -- without frames there are no marks, so the ledger is about the outermost parse
      cases tracked.frames with
      | nil => exact ⟨explained, rfl, rfl⟩
    | cons frame stack => exact tracked.receive fits

end Step

/-! ## Any number of steps -/

namespace Progress

/-- A step, and what the ledger enters for it, keeps the ledger true. -/
theorem advance_tracked {root : Value} {progress : Progress} {ledger : Ledger}
    (tracked : progress.Tracked root ledger ledger) :
    (advance (progress, ledger)).1.Tracked root (advance (progress, ledger)).2
      (advance (progress, ledger)).2 := by
  cases progress with
  | next control stack state =>
    have after := tracked.1.step tracked.2
    rw [advance]
    cases stepped : step control stack state with
    | next control' stack' state' =>
      rw [stepped] at after
      exact after
    | finished outcome state' =>
      rw [stepped] at after
      exact after
    | raised fault state' =>
      rw [stepped] at after
      exact after
  | finished outcome state => exact tracked
  | raised fault state => exact tracked

/-- **Any number of steps keeps the ledger true.** -/
theorem follow_tracked {root : Value} {progress : Progress} {ledger : Ledger} (steps : Nat)
    (tracked : progress.Tracked root ledger ledger) :
    (follow steps (progress, ledger)).1.Tracked root (follow steps (progress, ledger)).2
      (follow steps (progress, ledger)).2 := by
  induction steps generalizing progress ledger with
  | zero => exact tracked
  | succ steps inductionHypothesis => exact inductionHypothesis (advance_tracked tracked)

/-- A run that has finished adds nothing to the ledger. -/
theorem follow_finished (steps : Nat) (outcome : Outcome) (state : State) (ledger : Ledger) :
    follow steps (.finished outcome state, ledger) = (.finished outcome state, ledger) := by
  induction steps with
  | zero => rfl
  | succ steps inductionHypothesis => exact inductionHypothesis

/-- The steps that a run takes lead to its end. -/
theorem follow_of_run {fuel : Nat} {progress : Progress} {outcome : Outcome} {after : State}
    (ended : progress.run fuel = some ⟨.ok outcome, after⟩) (ledger : Ledger) :
    (follow fuel (progress, ledger)).1 = .finished outcome after := by
  induction fuel generalizing progress ledger with
  | zero =>
    cases progress with
    | next control stack state => cases ended
    | finished outcome state => cases ended; rfl
    | raised fault state => cases ended
  | succ fuel inductionHypothesis =>
    cases progress with
    | next control stack state =>
      rw [run_succ_next] at ended
      rw [follow, advance]
      cases stepped : step control stack state with
      | next control' stack' state' =>
        rw [stepped] at ended
        exact inductionHypothesis ended _
      | finished outcome' state' =>
        rw [stepped] at ended
        exact inductionHypothesis ended _
      | raised fault state' =>
        rw [stepped] at ended
        cases ended
    | finished outcome' state' => cases ended; rw [follow_finished]
    | raised fault state => cases ended

end Progress

/-! ## Parses -/

/-- The start of a parse is explained by an empty ledger. -/
theorem tracked_initial {workspace : Workspace} {parser : Parser} (builtIn : parser.BuiltIn)
    (rules : workspace.BuiltIn) (input : Value) (tracer : Option Tracer) :
    (Progress.call parser input [] (.initial workspace input tracer)).Tracked input
      { source := input } { source := input } := by
  refine ⟨⟨rules, ⟨_, rfl, rfl, ?_, fun _ => rfl⟩, .nil⟩, .refl input, builtIn⟩
  intro note member
  cases member

/-- At any point the current context is explained by the ledger, and with no nested parse open it
belongs to the whole parse. -/
theorem Progress.Tracked.explained {root : Value} {ledger : Ledger} {progress : Progress}
    (tracked : progress.Tracked root ledger ledger) :
    Explained progress.state.context ledger.source ledger.notes ∧ ledger.Rooted root := by
  cases progress with
  | next control stack state => exact ⟨tracked.1.explained, tracked.1.frames.rooted⟩
  | finished outcome state => exact ⟨tracked.1, fun _ => tracked.2.1⟩
  | raised fault state => exact tracked

/-- A parse that comes to an outcome ends in an explained state, and in its ledger nothing is
open. -/
theorem exists_notes_of_run {workspace : Workspace} {parser : Parser} {input : Value}
    {tracer : Option Tracer} (builtIn : parser.BuiltIn) (rules : workspace.BuiltIn) {fuel : Nat}
    {outcome : Outcome} {after : State}
    (ended : run fuel (.call parser input) [] (.initial workspace input tracer)
      = some ⟨.ok outcome, after⟩) :
    ∃ notes, followParse fuel workspace parser input tracer
        = (.finished outcome after, ⟨input, notes, []⟩)
      ∧ Explained after.context input notes := by
  have started : (Progress.call parser input [] (.initial workspace input tracer)).run fuel
      = some ⟨.ok outcome, after⟩ := ended
  have finished := Progress.follow_of_run started { source := input }
  have there := Progress.follow_tracked fuel (tracked_initial builtIn rules input tracer)
  rw [← followParse] at there finished
  generalize followParse fuel workspace parser input tracer = point at there finished ⊢
  obtain ⟨progress, source, notes, marks⟩ := point
  obtain rfl : progress = .finished outcome after := finished
  obtain ⟨explained, atRoot, closed⟩ := there
  obtain rfl : source = input := atRoot
  obtain rfl : marks = [] := closed
  exact ⟨notes, rfl, explained⟩

/-- **The record is that of the notes.** For a parse of a sequence with built-in parsers:

* At every point of the parse the record of the current context is empty exactly if there are no
  notes in the ledger kept so far. If equality of the payloads noted is transitive, it is the record
  of these notes. The context is that of the whole parse unless a nested one is open.
* A parse that comes to an outcome ends with the record of the notes in its ledger, in which nothing
  is open. -/
theorem record_eq_ofNotes (workspace : Workspace) (parser : Parser) (input : Value)
    (tracer : Option Tracer) (builtIn : parser.BuiltIn) (rules : workspace.BuiltIn)
    (sequence : input.isSequence) :
    (∀ steps progress ledger,
      followParse steps workspace parser input tracer = (progress, ledger) →
      ∃ context, progress.state.context = some context ∧ context.source = ledger.source
        ∧ ((∀ mark ∈ ledger.marks, mark.isLookAhead) → ledger.source = input)
        ∧ (ledger.source.isSequence →
          (context.record = none ↔ ledger.notes = [])
            ∧ (SameTransitive (ledger.notes.map (·.payload)) →
              context.record = Record.ofNotes ledger.source ledger.notes))) ∧
    (∀ fuel outcome after,
      run fuel (.call parser input) [] (.initial workspace input tracer)
        = some ⟨.ok outcome, after⟩ →
      ∃ context notes, after.context = some context ∧ context.source = input
        ∧ followParse fuel workspace parser input tracer
          = (.finished outcome after, ⟨input, notes, []⟩)
        ∧ (context.record = none ↔ notes = [])
        ∧ (SameTransitive (notes.map (·.payload)) →
          context.record = Record.ofNotes input notes)) := by
  constructor
  · intro steps progress ledger followed
    -- the invariant is kept from the start on, so it holds at this point
    have there := Progress.follow_tracked steps (tracked_initial builtIn rules input tracer)
    rw [← followParse, followed] at there
    obtain ⟨⟨context, current, holds⟩, rooted⟩ := there.explained
    refine ⟨context, current, holds.source_eq, rooted, fun sequence => ?_⟩
    rw [holds.record_eq sequence]
    exact ⟨Record.ofNotesBy_eq_none_iff, fun transitive => Record.ofNotesBy_distinct_eq transitive⟩
  · intro fuel outcome after ended
    -- at the end no look ahead is open, and the ledger is that of the outermost parse
    obtain ⟨notes, followed, context, current, holds⟩ := exists_notes_of_run builtIn rules ended
    refine ⟨context, notes, current, holds.source_eq, followed, ?_⟩
    rw [holds.record_eq sequence]
    exact ⟨Record.ofNotesBy_eq_none_iff, fun transitive => Record.ofNotesBy_distinct_eq transitive⟩

/-- A note that is struck out, a tie and a repeated payload. -/
theorem record_of_struck_note :
    ∃ after context, run 20 (.call (.sequence (.notAhead (.terminal (.fail (.int 0))))
        [.choice (.terminal (.fail (.int 1)))
          [.terminal (.fail (.int 2)), .terminal (.fail (.int 1))]]) (.ofString "a")) []
          (.initial {} (.ofString "a") none)
        = some ⟨.ok (.fail (.int 1) (.ofString "a")), after⟩
      ∧ after.context = some context
      ∧ context.record = some ⟨.int 1, .ofString "a", [.int 1, .int 2]⟩ := by
  have inner : (Parser.choice (.terminal (.fail (.int 1)))
      [.terminal (.fail (.int 2)), .terminal (.fail (.int 1))]).BuiltIn := by
    refine .choice (.terminal _) (List.forall_mem_cons.2 ⟨.terminal _, ?_⟩)
    exact List.forall_mem_singleton.2 (.terminal _)
  have builtIn := Parser.BuiltIn.sequence (.notAhead (.terminal (.fail (.int 0))))
    (List.forall_mem_singleton.2 inner)
  obtain ⟨context, notes, current, -, followed, -, same⟩ :=
    (record_eq_ofNotes {} _ (.ofString "a") none builtIn ⟨by simp, by simp⟩ rfl).2 20 _ _ rfl
  obtain rfl : [⟨.int 1, 0⟩, ⟨.int 2, 0⟩, ⟨.int 1, 0⟩] = notes :=
    congrArg (fun point => point.2.notes) followed
  exact ⟨_, context, rfl, current, same (by unfold SameTransitive; decide)⟩

end Peg
