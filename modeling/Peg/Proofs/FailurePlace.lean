import Peg.Proofs.Diagnosis
import Peg.Proofs.Position

/-! # The place of a failed parse

What makes a parse fail is noted last and never struck out: when a failure is handed on, its payload
is that of the last note in the ledger (`Progress.follow_blames`). A look ahead that strikes notes
out goes on with a match, so it comes before the failure and not after it. The record of a failed
parse is therefore about a place in the input, and the failure that is raised lies there
(`failed_parse_has_place`). -/

namespace Peg

/-! ## The last note -/

/-- The last note has a certain payload. -/
def Ledger.EndsWith (ledger : Ledger) (payload : Value) : Prop :=
  ∃ early position, ledger.notes = early ++ [⟨payload, position⟩]

/-- If the outcome is a failure, its payload is the one noted last. -/
def Outcome.IsNotedIn (ledger : Ledger) : Outcome → Prop
  | .ok _ _ => True
  | .fail payload _ => ledger.EndsWith payload

/-- If a failure is handed on, its payload is the one noted last. -/
def Control.IsNotedIn (ledger : Ledger) : Control → Prop
  | .call _ _ => True
  | .answer outcome => outcome.IsNotedIn ledger

/-- A failure that is handed on after a step is the one noted last. A step that ends the run enters
nothing in the ledger. -/
def Progress.Blames (old new : Ledger) : Progress → Prop
  | .next control _ _ => control.IsNotedIn new
  | .finished outcome _ => outcome.IsNotedIn old
  | .raised _ _ => True

/-- A note that was just entered is the last one. -/
theorem Ledger.endsWith_add (ledger : Ledger) (payload rest : Value) :
    (ledger.add payload rest).EndsWith payload :=
  ⟨ledger.notes, _, rfl⟩

section Step

variable {stack : List Frame} {state : State} {ledger old new : Ledger}

/-- A fault hands no failure on. -/
theorem Progress.blames_after {result : Except Fault α} {next : α → Progress}
    (goes : ∀ value, result = .ok value → (next value).Blames old new) :
    (Progress.after state result next).Blames old new := by
  cases result with
  | error fault => trivial
  | ok value => exact goes value rfl

/-- Neither does the entry of a labelled parser. -/
theorem Progress.blames_enter {label : String} {input : Value}
    {next : List Frame → State → Progress}
    (goes : ∀ stack state, (next stack state).Blames old new) :
    (state.enter label input stack next).Blames old new := by
  rw [State.enter]
  split
  · exact blames_after fun entered _ => goes _ _
  · exact goes stack state

/-- Of the built-in parsers only terminals fail at once, and they note it. -/
theorem Parser.BuiltIn.start_blames {parser : Parser} (builtIn : parser.BuiltIn) (input : Value)
    (stack : List Frame) (state : State) :
    (parser.start input stack state).Blames ledger (ledger.afterCall parser input) := by
  cases builtIn with
  | terminal leaf =>
    refine Progress.blames_after fun verdict found => ?_
    rw [Ledger.afterCall, found]
    cases verdict with
    | matched value rest => trivial
    | missed payload => exact Progress.blames_after fun _ _ => ledger.endsWith_add payload input
  | rule cell =>
    rw [Parser.start, callRule]
    split
    · exact Progress.blames_enter fun _ _ => trivial
    · trivial
  | _ => trivial

/-- The call of a parser fails at once only with a failure that it has noted. -/
theorem Parser.BuiltIn.call_blames {parser : Parser} (builtIn : parser.BuiltIn) (input : Value)
    (stack : List Frame) (state : State) :
    (parser.call input stack state).Blames ledger (ledger.afterCall parser input) := by
  rw [Parser.call]
  split
  · exact Progress.blames_enter (builtIn.start_blames input)
  · exact builtIn.start_blames input stack state

/-- A frame that passes a failure on does not touch the notes, and the failure of a negative look
ahead is noted when it comes about. -/
theorem Frame.receive_blames (frame : Frame) {outcome : Outcome}
    (noted : outcome.IsNotedIn ledger) :
    (frame.receive outcome stack state).Blames ledger (ledger.afterAnswer frame outcome) := by
  cases outcome with
  | ok value rest =>
    cases frame with
    | sequence entry done others => cases others <;> trivial
    | notAhead entry saved =>
      -- the match of the body is a failure of the look ahead, which notes it
      exact Progress.blames_after fun _ _ => ledger.keep.endsWith_add value entry
    | transform function => exact Progress.blames_after fun result _ => trivial
    | unnest form outer rest => exact Progress.blames_after fun result _ => trivial
    | exit label depth => exact Progress.blames_after fun told _ => trivial
    | _ => trivial
  | fail payload rest =>
    cases frame with
    | sequence entry done others =>
      rw [receive_sequence_fail]
      exact noted
    | choice entry others =>
      cases others with
      | nil => exact noted
      | cons parser others => trivial
    | unnest form outer rest => exact Progress.blames_after fun result _ => trivial
    | exit label depth => exact Progress.blames_after fun told _ => noted
    | plus body entry => exact noted
    | ahead entry => exact noted
    | transform function => exact noted
    | nest inner form => exact noted
    | _ => trivial

/-- **A step hands on no failure but the one noted last.** -/
theorem step_blames {control : Control} {source : Value} (fits : control.Fits source)
    (noted : control.IsNotedIn ledger) (stack : List Frame) (state : State) :
    (step control stack state).Blames ledger (ledger.after control stack) := by
  cases control with
  | call parser input => exact fits.2.call_blames input stack state
  | answer outcome =>
    cases stack with
    | nil => exact noted
    | cons frame stack => exact frame.receive_blames noted

end Step

namespace Progress

/-- A step hands on only the failure noted last, and so the next point does as well. -/
theorem advance_blames {root : Value} {progress : Progress} {ledger : Ledger}
    (tracked : progress.Tracked root ledger ledger) (blames : progress.Blames ledger ledger) :
    (advance (progress, ledger)).1.Blames (advance (progress, ledger)).2
      (advance (progress, ledger)).2 := by
  cases progress with
  | next control stack state =>
    have after := step_blames tracked.2 blames stack state
    rw [advance]
    cases stepped : step control stack state with
    | next control' stack' state' =>
      rw [stepped] at after
      exact after
    | finished outcome state' =>
      rw [stepped] at after
      exact after
    | raised fault state' => trivial
  | finished outcome state => exact blames
  | raised fault state => trivial

/-- **At every point of a run** a failure that is handed on is the one noted last. -/
theorem follow_blames {root : Value} {progress : Progress} {ledger : Ledger} (steps : Nat)
    (tracked : progress.Tracked root ledger ledger) (blames : progress.Blames ledger ledger) :
    (follow steps (progress, ledger)).1.Blames (follow steps (progress, ledger)).2
      (follow steps (progress, ledger)).2 := by
  induction steps generalizing progress ledger with
  | zero => exact blames
  | succ steps inductionHypothesis =>
    exact inductionHypothesis (advance_tracked tracked) (advance_blames tracked blames)

end Progress

/-- The notes of a failed parse end with the failure that made it fail. -/
theorem endsWith_of_run {workspace : Workspace} {parser : Parser} {input : Value}
    {tracer : Option Tracer} (builtIn : parser.BuiltIn) (rules : workspace.BuiltIn) {fuel : Nat}
    {payload rest : Value} {after : State} {ledger : Ledger}
    (followed : followParse fuel workspace parser input tracer
      = (.finished (.fail payload rest) after, ledger)) : ledger.EndsWith payload := by
  have blames := Progress.follow_blames fuel (tracked_initial builtIn rules input tracer) trivial
  rw [← followParse, followed] at blames
  exact blames

/-! ## The failure that is raised -/

/-- A failure lies at an offset of the input of its parse. -/
structure Failure.LiesAt (failure : Failure) (input : Value) (offset : Nat) : Prop where
  /-- The input is given back as a whole. -/
  rewound_eq : failure.rewound = input
  /-- The offset is one of the input. -/
  within : offset ≤ input.length
  /-- It is the position of the failure. -/
  position_eq : failure.position = some (offset : Int)
  /-- From there on the input is unconsumed. -/
  unconsumed_eq : failure.unconsumed = input.drop offset
  /-- In a text it has a line and a column, and a caret can be put under it. -/
  caret : ∀ text, input = .str text →
    failure.lineColumn = some (Text.lineColumn text offset)
      ∧ ∃ blanks : Nat, (Text.lineColumn text offset).2 = blanks + 1
        ∧ Text.caretSnippet text offset
          = Text.lineAt text offset ++ '\n' :: List.replicate blanks ' ' ++ ['^']

/-- The position of a rest is how much of the input comes before it. -/
theorem Failure.positionIn_of_isRestOf {source rest : Value} (sequence : source.isSequence)
    (isRest : rest.IsRestOf source) :
    positionIn source rest = .ok ((source.length - rest.length : Nat) : Int) := by
  have bound := isRest.length_le
  simp only [positionIn, sequence, isRest.isSequence_eq, Bool.and_self, if_true, Except.ok.injEq]
  omega

/-- With the whole input and a list of alternatives at hand, a failure is put together unless one of
the alternatives cannot be written. -/
theorem Failure.report_eq {source rest : Value} {position : Int} (given : source ≠ .null)
    (place : positionIn source rest = .ok position) (result expected first : Value)
    (others : List Value) :
    report result rest source expected source (.list (first :: others))
      = if Value.areWritable (first :: others) then
          .ok {
            result := result
            unconsumed := rest
            expected := match expected with
              | .null => result
              | value => value
            alternatives := first :: others
            rewound := source
            source := source
            position := some position
            lineColumn := match source with
              | .str text => some (Text.lineColumn text position)
              | _ => none }
        else .error .integerUnwritable := by
  have listed (value : Value) : alternativesOr value (.list (first :: others))
      = .ok (first :: others) := rfl
  cases source with
  | null => exact absurd rfl given
  | _ =>
    simp only [report, place, listed, bind, Except.bind, pure, Except.pure, Functor.map,
      Except.map, Option.isSome_some, Bool.true_or, Bool.and_true]
    rfl

/-- A failure with a rest of its input lies there. Only a payload that cannot be written keeps it
from being raised. -/
theorem Failure.report_of_isRestOf {source rest : Value} (sequence : source.isSequence)
    (isRest : rest.IsRestOf source) (result expected first : Value) (others : List Value) :
    (Value.areWritable (first :: others) →
      ∃ failure, report result rest source expected source (.list (first :: others)) = .ok failure
        ∧ failure.LiesAt source (source.length - rest.length)) ∧
    (¬ Value.areWritable (first :: others) →
      report result rest source expected source (.list (first :: others))
        = .error .integerUnwritable) := by
  have given : source ≠ .null := by
    rintro rfl
    cases sequence
  rw [report_eq given (positionIn_of_isRestOf sequence isRest)]
  constructor
  · intro writable
    rw [if_pos writable]
    refine ⟨_, rfl, rfl, Nat.sub_le _ _, rfl, isRest.eq_drop, ?_⟩
    rintro text rfl
    exact ⟨rfl, Text.exists_caret (Nat.sub_le _ _)⟩
  · intro unwritable
    rw [if_neg unwritable]

/-- **A parse that fails has a place to report.** Let a parse of a sequence with built-in parsers
end with the failure of its parser, whatever its tracer. Then

* the failure hands the input back, and its payload is that of the last note in the ledger, so that
  no look ahead has struck it out;
* something is on record, at a rest of the input, so that the failure to raise is made from the
  record and not from the payload alone;
* the failure that is raised lies at the offset of that rest. Only where a payload on record cannot
  be written another fault is raised in its place. -/
theorem failed_parse_has_place (workspace : Workspace) (parser : Parser) (input : Value)
    (tracer : Option Tracer) (builtIn : parser.BuiltIn) (rules : workspace.BuiltIn)
    (sequence : input.isSequence) (fuel : Nat) (payload rest : Value) (after : State)
    (ended : run fuel (.call parser input) [] (.initial workspace input tracer)
      = some ⟨.ok (.fail payload rest), after⟩) :
    ∃ context farthest early position, after.context = some context
      ∧ followParse fuel workspace parser input tracer
        = (.finished (.fail payload rest) after, ⟨input, early ++ [⟨payload, position⟩], []⟩)
      ∧ rest = input
      ∧ context.record = some farthest
      ∧ (∃ offset ≤ input.length, farthest.rest = input.drop offset)
      ∧ farthest.rest.length ≤ rest.length
      ∧ position ≤ input.length - farthest.rest.length
      ∧ context.failure payload rest = Failure.report payload farthest.rest input farthest.payload
        input (.list farthest.alternatives)
      ∧ (Value.areWritable farthest.alternatives →
        ∃ failure, (parse fuel workspace parser input tracer).map (·.answer)
            = some (.error (.parse failure))
          ∧ failure.LiesAt input (input.length - farthest.rest.length))
      ∧ (¬ Value.areWritable farthest.alternatives →
        (parse fuel workspace parser input tracer).map (·.answer)
          = some (.error .integerUnwritable)) := by
  obtain ⟨notes, followed, context, current, holds⟩ := exists_notes_of_run builtIn rules ended
  obtain ⟨early, position, rfl⟩ :
      ∃ early position, notes = early ++ [(⟨payload, position⟩ : Note)] :=
    endsWith_of_run builtIn rules followed
  obtain ⟨rfl, farthest, saved⟩ := exists_record_of_run builtIn rules sequence ended
  have recorded : context.record = some farthest := by
    rw [State.saveRecord, current] at saved
    exact Option.some.inj saved
  -- the record is not empty, so it is that of the notes
  obtain ⟨first, others, -, rfl, -⟩ :=
    Record.exists_of_ofNotesBy_distinct ((holds.record_eq sequence).symm.trans recorded)
  have deep := Note.deepest_le holds.within
  have isRest := Value.IsRestOf.drop rest (Note.deepest (early ++ [⟨payload, position⟩]))
  have made : context.failure payload rest = _ :=
    Context.failure_of_record recorded isRest sequence
  rw [holds.source_eq] at made
  have answer : (parse fuel workspace parser rest tracer).map (·.answer)
      = some (after.conclude (.fail payload rest)) := by
    rw [parse, ended]
    rfl
  obtain ⟨writes, refuses⟩ :=
    Failure.report_of_isRestOf sequence isRest payload first first others
  refine ⟨context, _, early, position, current, followed, rfl, recorded, ⟨_, deep, rfl⟩,
    isRest.length_le, ?_, made, ?_, ?_⟩
  · have last : position ≤ Note.deepest (early ++ [⟨payload, position⟩]) := by
      rw [Note.deepest_append]
      exact (Nat.le_max_left _ _).trans (Nat.le_max_right _ _)
    rw [Value.length_drop]
    omega
  · intro writable
    obtain ⟨failure, reported, lies⟩ := writes writable
    refine ⟨failure, ?_, lies⟩
    rw [answer, State.conclude, current]
    simp only [made, reported]
    rfl
  · intro unwritable
    rw [answer, State.conclude, current]
    simp only [made, refuses unwritable]
    rfl

/-- An integer with more digits than the limit cannot be written. -/
theorem isWritable_of_limit_le {number : Nat} (long : Nat.pow 10 Number.digitLimit ≤ number) :
    (Value.int number).isWritable = false := by
  rw [Value.isWritable, Value.fitsDigitLimit]
  exact decide_eq_false (Nat.not_lt_of_le long)

/-- The look ahead strikes out a failure at the third character, and the failure of the first one,
which makes the parse fail, is what is reported. A parse that fails with an integer of too many
digits has a place on record, too, but there is no failure to report and another fault is raised. -/
theorem place_after_struck_note :
    (∃ failure, (parse 30 {} (.sequence (.notAhead (.sequence (.terminal (.literal (.ofString "x")))
        [.terminal (.literal (.ofString "y")), .terminal (.literal (.ofString "q"))]))
        [.terminal (.literal (.ofString "a"))]) (.ofString "xyz") none).map (·.answer)
          = some (.error (.parse failure))
      ∧ failure.LiesAt (.ofString "xyz") 0)
    ∧ (parse 9 {} (.terminal (.fail (.int (Nat.pow 10 Number.digitLimit : Nat)))) (.ofString "a")
        none).map (·.answer) = some (.error .integerUnwritable) := by
  constructor
  · have body : (Parser.sequence (.terminal (.literal (.ofString "x")))
        [.terminal (.literal (.ofString "y")), .terminal (.literal (.ofString "q"))]).BuiltIn := by
      refine .sequence (.terminal _) (List.forall_mem_cons.2 ⟨.terminal _, ?_⟩)
      exact List.forall_mem_singleton.2 (.terminal _)
    have builtIn := Parser.BuiltIn.sequence (.notAhead body)
      (List.forall_mem_singleton.2 (.terminal (.literal (.ofString "a"))))
    obtain ⟨context, farthest, early, position, current, -, -, recorded, -, -, -, -, raises, -⟩ :=
      failed_parse_has_place {} _ (.ofString "xyz") none builtIn ⟨by simp, by simp⟩ rfl 30 _ _ _ rfl
    cases current
    cases recorded
    exact raises (by decide)
  · obtain ⟨context, farthest, early, position, current, -, -, recorded, -, -, -, -, -, refuses⟩ :=
      failed_parse_has_place {} (.terminal (.fail (.int (Nat.pow 10 Number.digitLimit : Nat))))
        (.ofString "a") none (.terminal _) ⟨by simp, by simp⟩ rfl 9 _ _ _ rfl
    have listed : farthest.alternatives = [.int (Nat.pow 10 Number.digitLimit : Nat)] := by
      cases current
      cases recorded
      rfl
    refine refuses ?_
    rw [listed, Value.areWritable, isWritable_of_limit_le (Nat.le_refl _), Bool.false_and]
    exact Bool.false_ne_true

end Peg
