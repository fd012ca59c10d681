import Peg.Proofs.Likeness
import Peg.Value.Conversion

/-! # Derived forms

Some combinators can be made of others. Each such form is the same as what it stands for, to anyone
who watches the calls of its body and the end of the run: the body is called on the same inputs in
the same order, and the run ends with the same outcome or fault and in the same state, the record of
failures included, or does not end at all. The body may be any parser, one that raises a fault or
goes on for ever too. Only a tracer could tell the forms apart, since it is told their names; there
is none here.

* **`Progress.sightings`**: what is seen of a run that way.
* **`derived_forms_agree`**: optional parsers, repetitions and double negation. -/

namespace Peg

open Progress

/-! ## Watching the calls of a parser -/

open Classical in
/-- The inputs of the calls of a parser, in order. -/
noncomputable def inputsOf (parser : Parser) (calls : List Visit) : List Value :=
  (calls.filter fun visit => visit.1 = parser).map Prod.snd

/-- All that is seen of a run at any time by one who watches the calls of a parser: their inputs
and, once the run has ended, what is viewed of its end. -/
def Progress.sightings (parser : Parser) (view : Ending → α) (progress : Progress) :
    Set (List Value × Option α) :=
  Set.range fun steps => (inputsOf parser (progress.visits steps), (progress.run steps).map view)

theorem inputsOf_append (parser : Parser) (early late : List Visit) :
    inputsOf parser (early ++ late) = inputsOf parser early ++ inputsOf parser late := by
  rw [inputsOf, List.filter_append, List.map_append]
  rfl

/-- Calls of other parsers are not seen. -/
theorem inputsOf_of_ne {parser other : Parser} (different : other ≠ parser) (input : Value) :
    inputsOf parser [(other, input)] = [] := by
  simp [inputsOf, different]

/-- Runs are compared by the calls of a parser and by what is viewed of the end. -/
def Comparison.watching (parser : Parser) (view : Ending → α) : Comparison where
  calls one two := inputsOf parser one = inputsOf parser two
  ends one two := view one = view two
  nil := rfl
  front made _ _ alike := by rw [inputsOf_append, inputsOf_append, alike]
  fault _ _ := rfl

namespace Comparison

variable {parser other : Parser} {view : Ending → α}

/-- Calls that are not told apart make no difference. -/
theorem watching_refines {early late : List Visit}
    (same : inputsOf parser early = inputsOf parser late) :
    (watching parser view).Refines (watching parser view) early late where
  calls {more others} alike := by
    have alike : inputsOf parser more = inputsOf parser others := alike
    change inputsOf parser (early ++ more) = inputsOf parser (late ++ others)
    rw [inputsOf_append, inputsOf_append, same, alike]
  ends := id

theorem map_eq_of_rel {one two : Option Ending}
    (alike : Option.Rel (watching parser view).ends one two) : one.map view = two.map view := by
  cases alike with
  | none => rfl
  | some same => exact congrArg some same

/-- Runs that resemble each other for any number of steps look the same. -/
theorem sightings_eq {one two : Progress}
    (alike : ∀ bound, (watching parser view).Resembles bound one two) :
    one.sightings parser view = two.sightings parser view := by
  apply Set.Subset.antisymm
  · rintro _ ⟨steps, rfl⟩
    obtain ⟨others, calls, ends⟩ := (alike steps).forth steps (Nat.le_refl steps)
    exact ⟨others, Prod.ext calls.symm (map_eq_of_rel ends).symm⟩
  · rintro _ ⟨steps, rfl⟩
    obtain ⟨others, calls, ends⟩ := (alike steps).back steps (Nat.le_refl steps)
    exact ⟨others, Prod.ext calls (map_eq_of_rel (rel_of_symm ends))⟩

end Comparison

/-- A part of a parser is another parser. -/
theorem Parser.ne_of_sizeOf_lt {part whole : Parser} (smaller : sizeOf part < sizeOf whole) :
    whole ≠ part := by
  rintro rfl
  exact Nat.lt_irrefl _ smaller

/-- What has failed is not a terminal that always matches. -/
theorem Evaluates.ne_succeed {parser : Parser} {input payload rest : Value} {state after : State}
    (failed : Evaluates (.call parser input) state ⟨.ok (.fail payload rest), after⟩)
    (value : Value) : Parser.terminal (.succeed value) ≠ parser := by
  rintro rfl
  obtain ⟨entered, left, -, bare⟩ := failed.bare_of_call
  cases bare

/-! ## The forms -/

section Forms

open Comparison Resembles

variable {body : Parser} {input : Value} {stack : List Frame} {state : State} {bound : Nat}

/-- A parser that is not the watched one is called by the first run. -/
theorem watching_call_left {parser : Parser} {view : Ending → α} (quiet : state.tracer? = none)
    (different : parser ≠ body) {control : Control} {stack' : List Frame} {state' : State}
    (alike : (watching body view).Resembles bound (parser.start input stack state)
      (.next control stack' state')) :
    (watching body view).Resembles bound (.call parser input stack state)
      (.next control stack' state') :=
  alike.call_left quiet (watching_refines (inputsOf_of_ne different input))

/-- A parser that is not the watched one is called by the second run. -/
theorem watching_call_right {parser : Parser} {view : Ending → α} (quiet : state.tracer? = none)
    (different : parser ≠ body) {control : Control} {stack' : List Frame} {state' : State}
    (alike : (watching body view).Resembles bound (.next control stack' state')
      (parser.start input stack state)) :
    (watching body view).Resembles bound (.next control stack' state')
      (.call parser input stack state) :=
  alike.call_right quiet (watching_refines (inputsOf_of_ne different input).symm)

/-- An optional parser is a choice between the parser and a fixed value. -/
theorem optional_resembles_choice (quiet : state.tracer? = none) (absent : Value) :
    (watching body id).Resembles bound (.call (.optional body absent) input stack state)
      (.call (.choice body [.terminal (.succeed absent)]) input stack state) := by
  refine watching_call_left quiet (Parser.ne_of_sizeOf_lt (by simp; omega)) ?_
  refine watching_call_right quiet (Parser.ne_of_sizeOf_lt (by simp; omega)) ?_
  refine .call fun outcome after evaluates => .receive ?_
  cases outcome with
  | ok value rest => exact .refl (fun _ => rfl) bound _
  | fail payload rest =>
    -- the second alternative is called, and it is not the body, which has failed
    refine watching_call_right (evaluates.quiet quiet) (evaluates.ne_succeed absent) ?_
    exact .receive_right (.refl (fun _ => rfl) bound _)

/-- Puts the first of two values in front of the second, a list. -/
def prependFirst (value : Value) : Except Fault Value := do
  let first ← value.elementAt 0
  let others ← value.elementAt 1
  Value.add (.list [first]) others

/-- A repetition with at least one round is the first round, then a repetition. -/
theorem plus_resembles_sequence (quiet : state.tracer? = none) (name : String) :
    (watching body id).Resembles bound (.call (.plus body) input stack state)
      (.call (.transform (.sequence body [.star body]) name prependFirst) input stack state) := by
  refine watching_call_left quiet (Parser.ne_of_sizeOf_lt (by simp)) ?_
  refine watching_call_right quiet (Parser.ne_of_sizeOf_lt (by simp; omega)) ?_
  refine watching_call_right quiet (Parser.ne_of_sizeOf_lt (by simp; omega)) ?_
  refine .call fun outcome after evaluates => .receive ?_
  have quiet := evaluates.quiet quiet
  cases outcome with
  | fail payload rest => exact .receive_right (.refl (fun _ => rfl) bound _)
  | ok value rest =>
    refine watching_call_right quiet (Parser.ne_of_sizeOf_lt (by simp)) ?_
    refine .loop quiet (fun values place after _ bound => ?_) bound
    -- the list of the later rounds goes through the sequence and then through the function
    exact .receive_right (.receive_right (.refl (fun _ => rfl) bound _))

/-- A repetition is one with at least one round, or no round at all. -/
theorem star_resembles_choice (quiet : state.tracer? = none) :
    (watching body id).Resembles bound (.call (.star body) input stack state)
      (.call (.choice (.plus body) [.terminal (.succeed (.list []))]) input stack state) := by
  refine watching_call_left quiet (Parser.ne_of_sizeOf_lt (by simp)) ?_
  refine watching_call_right quiet (Parser.ne_of_sizeOf_lt (by simp; omega)) ?_
  refine watching_call_right quiet (Parser.ne_of_sizeOf_lt (by simp)) ?_
  refine .call fun outcome after evaluates => .receive ?_
  have quiet := evaluates.quiet quiet
  cases outcome with
  | fail payload rest =>
    refine .receive_right ?_
    refine watching_call_right quiet (evaluates.ne_succeed _) ?_
    exact .receive_right (.refl (fun _ => rfl) bound _)
  | ok value rest =>
    refine .loop quiet (fun values place after _ bound => ?_) bound
    exact .receive_right (.refl (fun _ => rfl) bound _)

/-! ### Double negation -/

/-- A negative look ahead whose body matches fails with what was matched. -/
theorem receive_notAhead_ok {noted : State} {value rest : Value}
    (done : state.note value input = .ok noted) (saved : Option Record) :
    (Frame.notAhead input saved).receive (.ok value rest) stack state
      = .answer (.fail value input) stack noted := by
  simp only [Frame.receive, done, Progress.after]

/-- Looking ahead for what is not absent is looking ahead, apart from the record of failures. -/
theorem notAhead_notAhead_resembles_ahead (quiet : state.tracer? = none)
    (fit : state.setting = none ∨ input.isSequence) :
    (watching body Ending.result).Resembles bound
      (.call (.notAhead (.notAhead body)) input [] state) (.call (.ahead body) input [] state) := by
  refine watching_call_left quiet (Parser.ne_of_sizeOf_lt (by simp; omega)) ?_
  refine watching_call_left quiet (Parser.ne_of_sizeOf_lt (by simp)) ?_
  refine watching_call_right quiet (Parser.ne_of_sizeOf_lt (by simp)) ?_
  refine .call fun outcome after evaluates => .receive ?_
  have fit : after.setting = none ∨ input.isSequence := by rwa [evaluates.setting_eq rfl]
  cases outcome with
  | ok value rest =>
    obtain ⟨noted, done⟩ := State.exists_note fit value
    rw [receive_notAhead_ok done]
    refine .receive_left (.answer_nil ?_ bound)
    change Ending.result _ = Ending.result _
    simp only [Ending.result, State.restoreRecord_workspace, State.note_workspace done]
  | fail payload rest =>
    -- the inner negation has matched, so the outer one notes a failure
    have fit : (after.restoreRecord state.saveRecord).setting = none ∨ input.isSequence := by
      rwa [State.restoreRecord_setting]
    obtain ⟨noted, done⟩ := State.exists_note fit payload
    refine .receive_left ?_
    rw [receive_notAhead_ok done]
    refine .answer_nil ?_ bound
    change Ending.result _ = Ending.result _
    simp only [Ending.result, State.restoreRecord_workspace, State.note_workspace done]

/-- A negative look ahead gives its input back, whatever comes of it. -/
theorem Evaluates.rest_of_notAhead {outcome : Outcome} {after : State}
    (evaluates : Evaluates (.call (.notAhead body) input) state ⟨.ok outcome, after⟩) :
    outcome.rest = input := by
  cases outcome with
  | fail payload rest => exact (Parser.Rewinds.notAhead body).rest_eq evaluates
  | ok value rest =>
    obtain ⟨entered, left, -, bare⟩ := evaluates.bare_of_call
    generalize ended : (⟨.ok (.ok value rest), left⟩ : Ending) = last at bare
    cases bare with
    | notAheadOk head =>
      cases ended
      rfl
    | @notAheadFail _ _ value _ _ after head =>
      obtain ⟨noted, -, same⟩ | ⟨fault, same⟩ := after.failOn_cases value input <;>
        rw [same] at ended <;> cases ended
    | raise start head => cases ended

end Forms

/-! ## Agreement -/

/-- **Derived forms agree with what they stand for.** Whatever work is pending and whatever the body
does, an optional parser is a choice with a fixed value, a repetition with at least one round is a
sequence of a round and a repetition, and a repetition is a choice between that and the empty list:
the body is called on the same inputs in the same order, and all runs end alike, with the same
outcome or fault and in the same state, or none of them ends. Looking ahead twice for the opposite
gives what looking ahead gives, and hands the input back; this is told of sequences, since elsewhere
the note of a failure may be a fault. -/
theorem derived_forms_agree (body : Parser) (input : Value) (state : State)
    (quiet : state.tracer? = none) :
    (∀ absent stack,
      (Progress.call (.optional body absent) input stack state).sightings body id
        = (Progress.call (.choice body [.terminal (.succeed absent)]) input stack state).sightings
          body id)
    ∧ (∀ name stack,
      (Progress.call (.plus body) input stack state).sightings body id
        = (Progress.call (.transform (.sequence body [.star body]) name prependFirst) input stack
          state).sightings body id)
    ∧ (∀ stack,
      (Progress.call (.star body) input stack state).sightings body id
        = (Progress.call (.choice (.plus body) [.terminal (.succeed (.list []))]) input stack
          state).sightings body id)
    ∧ (state.context = none ∨ input.isSequence →
      (Progress.call (.notAhead (.notAhead body)) input [] state).sightings body Ending.result
        = (Progress.call (.ahead body) input [] state).sightings body Ending.result
      ∧ ∀ fuel outcome after,
        run fuel (.call (.notAhead (.notAhead body)) input) [] state
          = some ⟨.ok outcome, after⟩ → outcome.rest = input) := by
  refine ⟨fun absent stack => ?_, fun name stack => ?_, fun stack => ?_, fun fit => ⟨?_, ?_⟩⟩
  · exact Comparison.sightings_eq fun bound => optional_resembles_choice quiet absent
  · exact Comparison.sightings_eq fun bound => plus_resembles_sequence quiet name
  · exact Comparison.sightings_eq fun bound => star_resembles_choice quiet
  · have fit : state.setting = none ∨ input.isSequence := by
      rwa [State.setting, Option.map_eq_none_iff]
    exact Comparison.sightings_eq fun bound => notAhead_notAhead_resembles_ahead quiet fit
  · -- a look ahead hands back its input whatever its body does
    intro fuel outcome after ended
    exact (exists_run_iff.1 ⟨fuel, ended⟩).rest_of_notAhead

/-- A letter. -/
def letterParser : Parser := .terminal (.literal (.ofString "a"))

/-- The start of a parse of three letters. -/
def lettersState : State := .initial {} (.ofString "aab") none

/-- A row of letters: one form reads it as a repetition and the other as a sequence, with the same
list and the same state in the end. -/
theorem letters_read_alike :
    lettersState.tracer? = none ∧ (Value.ofString "aab").isSequence
    ∧ (∃ last,
      run 30 (.call (.plus letterParser) (.ofString "aab")) [] lettersState = some last
      ∧ run 30 (.call (.transform (.sequence letterParser [.star letterParser]) "f" prependFirst)
        (.ofString "aab")) [] lettersState = some last
      ∧ last.answer = .ok (.ok (.list [.ofString "a", .ofString "a"]) (.ofString "b")))
    ∧ (Progress.call (.plus letterParser) (.ofString "aab") [] lettersState).sightings
        letterParser id
      = (Progress.call (.transform (.sequence letterParser [.star letterParser]) "f" prependFirst)
        (.ofString "aab") [] lettersState).sightings letterParser id
    ∧ (Progress.call (.notAhead (.notAhead letterParser)) (.ofString "aab") []
        lettersState).sightings letterParser Ending.result
      = (Progress.call (.ahead letterParser) (.ofString "aab") [] lettersState).sightings
        letterParser Ending.result := by
  obtain ⟨-, plus, -, twice⟩ := derived_forms_agree letterParser (.ofString "aab") lettersState rfl
  exact ⟨rfl, rfl, ⟨_, rfl, rfl, rfl⟩, plus "f" [], (twice (.inr rfl)).1⟩

end Peg
