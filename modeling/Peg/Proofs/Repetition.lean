import Peg.Proofs.Composition
import Peg.Proofs.Visits

/-! # When a repetition ends

A repetition calls its body again and again, each time on what the call before has left. If the
outcome of the body is told by its input alone, the rounds are told by the input of the repetition:
`Rounds` lists them without any machine. The repetition ends if and only if each round leaves less
than it was given. One that leaves all of it is followed by the same round for ever.

* **`AnswersBy`**: the body ends without a fault, with an outcome that depends on its input alone.
* **`Rounds.leads`**: the machine makes the rounds, and no other calls of the body.
* **`repetition_ends_iff`**: the condition, the result and the calls. -/

namespace Peg

open Progress

/-! ## Parsers that answer by their input -/

/-- The states in which a parser can be called on rests of a source over and over: the first one,
and those that such calls leave. -/
inductive Revisits (body : Parser) (source : Value) (first : State) : State → Prop
  /-- There has been no call. -/
  | refl : Revisits body source first first
  /-- There has been one more call, on any rest. -/
  | call {state after : State} {input : Value} {outcome : Outcome} {fuel : Nat}
      (early : Revisits body source first state) (isRest : input.IsRestOf source)
      (ran : run fuel (.call body input) [] state = some ⟨.ok outcome, after⟩) :
      Revisits body source first after

/-- Calls bring no tracer. -/
theorem Revisits.quiet {body : Parser} {source : Value} {first state : State}
    (revisits : Revisits body source first state) (quiet : first.tracer? = none) :
    state.tracer? = none := by
  induction revisits with
  | refl => exact quiet
  | call _ _ ran inductionHypothesis =>
    exact (exists_run_iff.1 ⟨_, ran⟩).quiet inductionHypothesis

/-- On each rest of a source the parser ends without a fault, with an outcome that depends on the
rest alone, whatever calls there have been. -/
def AnswersBy (body : Parser) (source : Value) (first : State) (answer : Value → Outcome) : Prop :=
  ∀ state, Revisits body source first state → ∀ input, input.IsRestOf source →
    ∃ fuel after, run fuel (.call body input) [] state = some ⟨.ok (answer input), after⟩

/-- The rounds from one place to another, each with the place it starts at and its value: a round
starts where the one before has stopped. -/
inductive Rounds (answer : Value → Outcome) : Value → List (Value × Value) → Value → Prop
  /-- There is no round. -/
  | nil (place : Value) : Rounds answer place [] place
  /-- One matches, and then the others do. -/
  | cons {place value next last : Value} {rounds : List (Value × Value)}
      (found : answer place = .ok value next) (others : Rounds answer next rounds last) :
      Rounds answer place ((place, value) :: rounds) last

/-- A parser runs to its outcome on one place after the other, with these calls. -/
inductive RunsInTurn (body : Parser) : List Value → State → List Visit → State → Prop
  /-- There is no run. -/
  | nil (state : State) : RunsInTurn body [] state [] state
  /-- One runs to its end, and then the others do. -/
  | cons {place : Value} {places : List Value} {state between after : State} {fuel : Nat}
      {outcome : Outcome} {calls : List Visit}
      (ran : run fuel (.call body place) [] state = some ⟨.ok outcome, between⟩)
      (others : RunsInTurn body places between calls after) :
      RunsInTurn body (place :: places) state
        ((Progress.call body place [] state).visits fuel ++ calls) after

namespace Rounds

variable {answer : Value → Outcome} {source place last : Value}
  {rounds others : List (Value × Value)}

/-- Rounds that lead to where no round follows go through each place that rounds lead to. -/
theorem exists_remaining (early : Rounds answer source rounds place)
    (whole : Rounds answer source others last) {payload rest : Value}
    (stops : answer last = .fail payload rest) :
    ∃ remaining, Rounds answer place remaining last := by
  induction early generalizing others with
  | nil => exact ⟨others, whole⟩
  | @cons start value next place rounds found _ inductionHypothesis =>
    cases whole with
    | nil =>
      rw [found] at stops
      cases stops
    | cons again whole =>
      rw [found] at again
      cases again
      exact inductionHypothesis whole

/-- From a round that leaves all of its input no other place is reached. -/
theorem eq_of_stuck {value : Value} (rounds : Rounds answer place others last)
    (stuck : answer place = .ok value place) : last = place := by
  induction rounds with
  | nil => rfl
  | cons found _ inductionHypothesis =>
    rw [stuck] at found
    cases found
    exact inductionHypothesis stuck

end Rounds

/-! ## The body of a repetition -/

/-- The body of a repetition is built in, no tracer watches it, and it answers by its input. -/
structure Repeatable (body : Parser) (source : Value) (first : State) (answer : Value → Outcome) :
    Prop where
  builtIn : body.BuiltIn
  rules : first.workspace.BuiltIn
  quiet : first.tracer? = none
  answers : AnswersBy body source first answer

namespace Repeatable

variable {body : Parser} {source place value next payload rest : Value} {first state : State}
  {answer : Value → Outcome}

/-- The only way that a call of the body ends. -/
theorem eq_answer (repeatable : Repeatable body source first answer)
    (revisits : Revisits body source first state) (isRest : place.IsRestOf source) {last : Ending}
    (evaluates : Evaluates (.call body place) state last) : last.answer = .ok (answer place) := by
  obtain ⟨fuel, after, ran⟩ := repeatable.answers state revisits place isRest
  rw [evaluates.unique (exists_run_iff.1 ⟨fuel, ran⟩)]

/-- A match leaves a rest of what was given. -/
theorem isRestOf (repeatable : Repeatable body source first answer) (isRest : place.IsRestOf source)
    (found : answer place = .ok value next) : next.IsRestOf place := by
  obtain ⟨fuel, after, ran⟩ := repeatable.answers first .refl place isRest
  rw [found] at ran
  exact ((exists_run_iff.1 ⟨fuel, ran⟩).fits repeatable.builtIn repeatable.rules).1

/-- A failure gives back what was given. -/
theorem eq_of_fail (repeatable : Repeatable body source first answer)
    (isRest : place.IsRestOf source) (failed : answer place = .fail payload rest) :
    rest = place := by
  obtain ⟨fuel, after, ran⟩ := repeatable.answers first .refl place isRest
  rw [failed] at ran
  exact ((exists_run_iff.1 ⟨fuel, ran⟩).fits repeatable.builtIn repeatable.rules).1

/-- Rounds lead to rests of the source. -/
theorem isRestOf_of_rounds (repeatable : Repeatable body source first answer)
    {rounds : List (Value × Value)} {last : Value} (isRest : place.IsRestOf source)
    (made : Rounds answer place rounds last) : last.IsRestOf source := by
  induction made with
  | nil => exact isRest
  | cons found _ inductionHypothesis =>
    exact inductionHypothesis ((repeatable.isRestOf isRest found).trans isRest)

/-- After a round that matches, the next one can follow. -/
theorem next_round (repeatable : Repeatable body source first answer)
    (revisits : Revisits body source first state) (isRest : place.IsRestOf source) {after : State}
    (round : Evaluates (.call body place) state ⟨.ok (.ok value next), after⟩) :
    answer place = .ok value next ∧ Revisits body source first after ∧ next.IsRestOf source := by
  have found : answer place = .ok value next :=
    (Except.ok.inj (repeatable.eq_answer revisits isRest round)).symm
  obtain ⟨fuel, ran⟩ := exists_run_iff.2 round
  exact ⟨found, revisits.call isRest ran, (repeatable.isRestOf isRest found).trans isRest⟩

end Repeatable

/-! ## The rounds of the machine -/

/-- A call that runs to its outcome hands it to the frames below, after all calls of its run. -/
theorem exists_later_of_run {parser : Parser} {input : Value} {state after : State} {fuel : Nat}
    {outcome : Outcome} (ran : run fuel (.call parser input) [] state = some ⟨.ok outcome, after⟩)
    (stack : List Frame) :
    ∃ steps, (Progress.call parser input stack state).later steps = .answer outcome stack after
      ∧ (Progress.call parser input stack state).visits steps
        = (Progress.call parser input [] state).visits fuel := by
  obtain ⟨early, less, alone, same⟩ := exists_handOver ran
  obtain ⟨reached, made⟩ := same stack
  refine ⟨early, reached, made.trans ?_⟩
  obtain ⟨more, rfl⟩ := Nat.exists_eq_add_of_le (Nat.le_of_lt less)
  rw [Progress.call, visits_add, alone, visits_answer_nil, List.append_nil]

/-- **The machine makes the rounds.** From rounds up to a place where the body fails the machine
goes on with the list of their values, and it has run the body once on each of the places. -/
theorem Rounds.leads {body : Parser} {source place last payload rest : Value} {first state : State}
    {answer : Value → Outcome} {rounds : List (Value × Value)}
    (repeatable : Repeatable body source first answer)
    (revisits : Revisits body source first state) (isRest : place.IsRestOf source)
    (made : Rounds answer place rounds last) (stops : answer last = .fail payload rest) :
    ∃ calls after, RunsInTurn body (rounds.map Prod.fst ++ [last]) state calls after
      ∧ ∀ done stack, ∃ steps,
        (Progress.call body place (.loop body done place :: stack) state).later steps
          = .answer (.ok (.list (done.reverse ++ rounds.map Prod.snd)) last) stack after
        ∧ (Progress.call body place (.loop body done place :: stack) state).visits steps
          = calls := by
  -- the induction is on the rounds; what is done before the first of them is left open
  induction made generalizing state with
  | nil place =>
    obtain ⟨fuel, after, ran⟩ := repeatable.answers state revisits place isRest
    rw [stops] at ran
    refine ⟨_, after, .cons ran (.nil after), fun done stack => ?_⟩
    obtain ⟨steps, reached, calls⟩ := exists_later_of_run ran (.loop body done place :: stack)
    refine ⟨steps + 1, ?_, ?_⟩
    · rw [later_add, reached]
      simp only [List.map_nil, List.append_nil]
      rfl
    · rw [visits_add, reached, calls]
      rfl
  | @cons place value next last rounds found others inductionHypothesis =>
    obtain ⟨fuel, between, ran⟩ := repeatable.answers state revisits place isRest
    rw [found] at ran
    -- the round leaves the body repeatable, so the other rounds can be made from there
    obtain ⟨calls, after, turn, leads⟩ := inductionHypothesis (revisits.call isRest ran)
      ((repeatable.isRestOf isRest found).trans isRest) stops
    refine ⟨_, after, .cons ran turn, fun done stack => ?_⟩
    obtain ⟨steps, reached, made⟩ := exists_later_of_run ran (.loop body done place :: stack)
    obtain ⟨more, arrived, further⟩ := leads (value :: done) stack
    rw [List.reverse_cons, List.append_assoc, List.singleton_append] at arrived
    refine ⟨steps + (more + 1), ?_, ?_⟩
    · rw [later_add, reached]
      exact arrived
    · rw [visits_add, reached, made, ← further]
      rfl

/-! ## Ends -/

namespace Repeatable

variable {body : Parser} {source place : Value} {first state : State} {answer : Value → Outcome}

/-- Rounds that each leave less than they were given come to a place where the body fails. -/
theorem exists_rounds_of_shorter (repeatable : Repeatable body source first answer)
    (isRest : place.IsRestOf source)
    (shorter : ∀ rounds last value next, Rounds answer place rounds last →
      answer last = .ok value next → next.length < last.length) :
    ∃ rounds last payload, Rounds answer place rounds last ∧ answer last = .fail payload last := by
  -- the induction is on what is left
  induction size : place.length using Nat.strongRecOn generalizing place with
  | ind size inductionHypothesis =>
    cases found : answer place with
    | fail payload rest =>
      obtain rfl := repeatable.eq_of_fail isRest found
      exact ⟨[], rest, payload, .nil rest, found⟩
    | ok value next =>
      have less := shorter [] place value next (.nil place) found
      obtain ⟨rounds, last, payload, made, stops⟩ :=
        inductionHypothesis next.length (size ▸ less)
          ((repeatable.isRestOf isRest found).trans isRest)
          (fun rounds last value next made => shorter _ last value next (.cons found made)) rfl
      exact ⟨_, last, payload, .cons found made, stops⟩

/-- A loop that ends has come to a place where the body fails. -/
theorem exists_rounds_of_loop (repeatable : Repeatable body source first answer) {last : Ending}
    (revisits : Revisits body source first state) (isRest : place.IsRestOf source)
    (evaluates : Evaluates (.loop body place) state last) :
    ∃ rounds last payload, Rounds answer place rounds last ∧ answer last = .fail payload last := by
  generalize same : Job.loop body place = job at evaluates
  induction evaluates generalizing place with
  | @loopStop _ input payload rest _ _ round =>
    cases same
    have failed : answer input = .fail payload rest :=
      (Except.ok.inj (repeatable.eq_answer revisits isRest round)).symm
    obtain rfl := repeatable.eq_of_fail isRest failed
    exact ⟨[], rest, payload, .nil rest, failed⟩
  | loopMore round more _ inductionHypothesis =>
    cases same
    obtain ⟨found, revisits, isRest⟩ := repeatable.next_round revisits isRest round
    obtain ⟨rounds, last, payload, made, stops⟩ := inductionHypothesis revisits isRest rfl
    exact ⟨_, last, payload, .cons found made, stops⟩
  | loopRaiseLater round more _ inductionHypothesis =>
    cases same
    obtain ⟨found, revisits, isRest⟩ := repeatable.next_round revisits isRest round
    obtain ⟨rounds, last, payload, made, stops⟩ := inductionHypothesis revisits isRest rfl
    exact ⟨_, last, payload, .cons found made, stops⟩
  | raise start head =>
    -- the body raises no fault
    cases same
    cases start
    cases repeatable.eq_answer revisits isRest head
  | _ => cases same

/-- Rounds up to a place where the body fails each leave less than they were given. -/
theorem shorter_of_rounds (repeatable : Repeatable body source first answer) {last payload : Value}
    {rounds : List (Value × Value)} (whole : Rounds answer source rounds last)
    (stops : answer last = .fail payload last) {early : List (Value × Value)} {value next : Value}
    (made : Rounds answer source early place) (found : answer place = .ok value next) :
    next.length < place.length := by
  have isRest := repeatable.isRestOf_of_rounds (.refl source) made
  have left := repeatable.isRestOf isRest found
  refine Nat.lt_of_le_of_ne left.length_le fun same => ?_
  -- nothing was consumed, so that the last place is this one, where the body matches
  have stuck : next = place := by rw [left.eq_drop, same, Nat.sub_self, Value.drop_zero]
  subst stuck
  obtain ⟨remaining, more⟩ := made.exists_remaining whole stops
  rw [more.eq_of_stuck found, found] at stops
  cases stops

/-- The run of a repetition whose rounds come to a place where the body fails. -/
theorem run_star (repeatable : Repeatable body source first answer) {last payload : Value}
    {rounds : List (Value × Value)} (whole : Rounds answer source rounds last)
    (stops : answer last = .fail payload last) :
    ∃ calls after fuel, RunsInTurn body (rounds.map Prod.fst ++ [last]) first calls after
      ∧ run fuel (.call (.star body) source) [] first
        = some ⟨.ok (.ok (.list (rounds.map Prod.snd)) last), after⟩
      ∧ (Progress.call (.star body) source [] first).visits fuel
        = (.star body, source) :: calls := by
  obtain ⟨calls, after, turn, leads⟩ := whole.leads repeatable .refl (.refl source) stops
  obtain ⟨steps, reached, made⟩ := leads [] []
  have started := step_call_of_quiet repeatable.quiet (.star body) source []
  refine ⟨calls, after, (steps + 1) + 1, turn, ?_, ?_⟩
  · change (Progress.call (.star body) source [] first).run ((steps + 1) + 1) = _
    rw [Progress.call, run_succ_next, started, Parser.start, run_add, reached]
    rfl
  · rw [Progress.call, visits_succ_next, started, Parser.start, visits_add, reached, made,
      visits_answer_nil, List.append_nil]
    rfl

/-- A repetition that ends has come to a place where the body fails. -/
theorem exists_rounds_of_star (repeatable : Repeatable body source first answer) {last : Ending}
    (evaluates : Evaluates (.call (.star body) source) first last) :
    ∃ rounds last payload, Rounds answer source rounds last ∧ answer last = .fail payload last := by
  cases evaluates.bare_of_quiet repeatable.quiet with
  | star rounds => exact repeatable.exists_rounds_of_loop .refl (.refl source) rounds
  | raise start head => cases start

/-- A repetition that needs a round fails if and only if the body does. -/
theorem plus_fails_iff (repeatable : Repeatable body source first answer) (payload : Value) :
    (∃ after, Evaluates (.call (.plus body) source) first ⟨.ok (.fail payload source), after⟩)
      ↔ answer source = .fail payload source := by
  constructor
  · rintro ⟨after, evaluates⟩
    cases evaluates.bare_of_quiet repeatable.quiet with
    | plusFail round =>
      have failed := (Except.ok.inj (repeatable.eq_answer .refl (.refl source) round)).symm
      rw [failed, repeatable.eq_of_fail (.refl source) failed]
  · intro failed
    obtain ⟨fuel, after, ran⟩ := repeatable.answers first .refl source (.refl source)
    rw [failed] at ran
    exact ⟨after, .call_of_bare repeatable.quiet (.plusFail (exists_run_iff.1 ⟨fuel, ran⟩))⟩

/-- Where the body matches, it makes no difference whether a round is needed. -/
theorem plus_iff_star (repeatable : Repeatable body source first answer) {value next : Value}
    (found : answer source = .ok value next) {last : Ending} :
    Evaluates (.call (.plus body) source) first last
      ↔ Evaluates (.call (.star body) source) first last := by
  have only {other : Ending} (round : Evaluates (.call body source) first other) :
      other.answer = .ok (.ok value next) := by
    rw [repeatable.eq_answer .refl (.refl source) round, found]
  constructor
  · intro evaluates
    refine .call_of_bare repeatable.quiet (.star ?_)
    cases evaluates.bare_of_quiet repeatable.quiet with
    | plusFail round => cases only round
    | plusMore round more => exact .loopMore round more
    | plusRaiseLater round more => exact .loopRaiseLater round more
    | raise start head =>
      cases start
      cases only head
  · intro evaluates
    refine .call_of_bare repeatable.quiet ?_
    cases evaluates.bare_of_quiet repeatable.quiet with
    | raise start head => cases start
    | star rounds =>
      cases rounds with
      | loopStop round => cases only round
      | loopMore round more => exact .plusMore round more
      | loopRaiseLater round more => exact .plusRaiseLater round more
      | raise start head =>
        cases start
        cases only head

end Repeatable

/-- **When a repetition ends.** Let the body of a repetition be built in, and let it end without a
fault on every rest of an input, with an outcome that depends on the rest alone.

* The repetition ends if and only if each of its rounds leaves less than it was given; if one leaves
  all of it, no number of steps suffices.
* If it ends, it matches: its value is the list of the values of its rounds, its rest is the place
  where the body fails first, and the body has been run once for each element and once more.
* A repetition that needs a round fails, with the payload of the body and on the whole input, if and
  only if the body fails there. Otherwise it ends if and only if the one that needs none does, and
  in the same way. -/
theorem repetition_ends_iff {body : Parser} (builtIn : body.BuiltIn) {source : Value}
    {state : State} (rules : state.workspace.BuiltIn) (quiet : state.tracer? = none)
    {answer : Value → Outcome} (answers : AnswersBy body source state answer) :
    ((∃ fuel last, run fuel (.call (.star body) source) [] state = some last)
      ↔ ∀ rounds place value next, Rounds answer source rounds place →
          answer place = .ok value next → next.length < place.length)
    ∧ (∀ rounds place value, Rounds answer source rounds place →
      answer place = .ok value place →
      ∀ fuel, run fuel (.call (.star body) source) [] state = none)
    ∧ (∀ fuel last, run fuel (.call (.star body) source) [] state = some last →
      ∃ rounds place payload calls, Rounds answer source rounds place
        ∧ answer place = .fail payload place
        ∧ last.answer = .ok (.ok (.list (rounds.map Prod.snd)) place)
        ∧ (Progress.call (.star body) source [] state).visits fuel
          = (.star body, source) :: calls
        ∧ RunsInTurn body (rounds.map Prod.fst ++ [place]) state calls last.state)
    ∧ (∀ payload,
      (∃ fuel after, run fuel (.call (.plus body) source) [] state
        = some ⟨.ok (.fail payload source), after⟩) ↔ answer source = .fail payload source)
    ∧ ∀ value next, answer source = .ok value next → ∀ last,
      (∃ fuel, run fuel (.call (.plus body) source) [] state = some last)
        ↔ ∃ fuel, run fuel (.call (.star body) source) [] state = some last := by
  have repeatable : Repeatable body source state answer := ⟨builtIn, rules, quiet, answers⟩
  have ends : (∃ fuel last, run fuel (.call (.star body) source) [] state = some last)
      ↔ ∀ rounds place value next, Rounds answer source rounds place →
        answer place = .ok value next → next.length < place.length := by
    constructor
    · rintro ⟨fuel, last, ran⟩ rounds place value next made found
      obtain ⟨_, _, _, whole, stops⟩ :=
        repeatable.exists_rounds_of_star (exists_run_iff.1 ⟨fuel, ran⟩)
      -- rounds from one place are the same ones, so any of them belongs to the whole
      exact repeatable.shorter_of_rounds whole stops made found
    · intro shorter
      obtain ⟨_, _, _, whole, stops⟩ := repeatable.exists_rounds_of_shorter (.refl source) shorter
      obtain ⟨_, _, fuel, -, ran, -⟩ := repeatable.run_star whole stops
      exact ⟨fuel, _, ran⟩
  refine ⟨ends, ?_, ?_, fun payload => ?_, fun value next found last => ?_⟩
  · intro rounds place value made found fuel
    refine Option.eq_none_iff_forall_ne_some.2 fun last ran => ?_
    -- a round that leaves all of its input would have to leave less of it
    exact Nat.lt_irrefl _ (ends.1 ⟨fuel, last, ran⟩ rounds place value place made found)
  · intro fuel last ran
    have evaluates := exists_run_iff.1 ⟨fuel, ran⟩
    obtain ⟨rounds, place, payload, whole, stops⟩ := repeatable.exists_rounds_of_star evaluates
    obtain ⟨calls, after, enough, turn, ended, made⟩ := repeatable.run_star whole stops
    -- the run has one end, however much fuel it is given
    obtain rfl := evaluates.unique (exists_run_iff.1 ⟨enough, ended⟩)
    have same : (Progress.call (.star body) source [] state).visits fuel
        = (Progress.call (.star body) source [] state).visits enough := visits_eq_of_run ran ended
    exact ⟨rounds, place, payload, calls, whole, stops, rfl, same.trans made, turn⟩
  · rw [← repeatable.plus_fails_iff payload, exists_comm]
    exact exists_congr fun after => exists_run_iff
  · rw [exists_run_iff, exists_run_iff]
    exact repeatable.plus_iff_star found

/-! ## A repetition that does not end -/

/-- A letter, or nothing. -/
def optionalLetter : Parser := .optional (.terminal (.literal (.ofString "a"))) .null

/-- What comes of it: the letter if it is there. -/
def optionalLetterAnswer : Value → Outcome
  | .str ('a' :: rest) => .ok (.ofString "a") (.str rest)
  | input => .ok .null input

/-- The letter is there or not, whatever calls there have been. -/
theorem optionalLetter_answers (state : State) (quiet : state.tracer? = none) :
    AnswersBy optionalLetter (.ofString "ab") state optionalLetterAnswer := by
  intro later revisits input isRest
  have quiet : later.tracer? = none := revisits.quiet quiet
  have answers {outcome : Outcome} {after : State}
      (bare : Evaluates (.bare optionalLetter input) later ⟨.ok outcome, after⟩)
      (same : optionalLetterAnswer input = outcome) :
      ∃ fuel after, run fuel (.call optionalLetter input) [] later
        = some ⟨.ok (optionalLetterAnswer input), after⟩ := by
    obtain ⟨fuel, ran⟩ := exists_run_iff.2 (.call_of_bare quiet bare)
    exact ⟨fuel, after, same ▸ ran⟩
  have absent (sequence : input.isSequence)
      (missed : (Terminal.literal (.ofString "a")).read input later
        = later.failOn (.ofString "a") input) :
      ∃ noted, Evaluates (.bare optionalLetter input) later ⟨.ok (.ok .null input), noted⟩ := by
    obtain ⟨noted, done⟩ := State.exists_note (.inr sequence : later.setting = none ∨ _)
      (.ofString "a")
    have read : Evaluates (.bare (.terminal (.literal (.ofString "a"))) input) later
        ((Terminal.literal (.ofString "a")).read input later) := .terminal
    rw [missed, State.failOn, done] at read
    exact ⟨noted, .absent (.call_of_bare quiet read)⟩
  obtain ⟨count, bound, rfl⟩ := isRest
  have size : count ≤ 2 := bound
  -- the letter stands at the start only; at the other two places the body matches nothing
  obtain rfl | rfl | rfl : count = 0 ∨ count = 1 ∨ count = 2 := by omega
  · exact answers (.present (.call_of_bare quiet .terminal)) rfl
  · obtain ⟨noted, bare⟩ := absent rfl rfl
    exact answers bare rfl
  · obtain ⟨noted, bare⟩ := absent rfl rfl
    exact answers bare rfl

/-- After the letter the body matches nothing for ever, so that a repetition of it does not end. -/
theorem optional_letter_repeats_for_ever :
    optionalLetter.BuiltIn
    ∧ AnswersBy optionalLetter (.ofString "ab") (.initial {} (.ofString "ab") none)
      optionalLetterAnswer
    ∧ Rounds optionalLetterAnswer (.ofString "ab") [(.ofString "ab", .ofString "a")] (.ofString "b")
    ∧ ∀ fuel, run fuel (.call (.star optionalLetter) (.ofString "ab")) []
      (.initial {} (.ofString "ab") none) = none := by
  have builtIn : optionalLetter.BuiltIn := .optional (.terminal _) .null
  have rules : Workspace.BuiltIn {} := ⟨by simp, by simp⟩
  have answers := optionalLetter_answers (.initial {} (.ofString "ab") none) rfl
  have made : Rounds optionalLetterAnswer (.ofString "ab") [(.ofString "ab", .ofString "a")]
      (.ofString "b") := .cons rfl (.nil _)
  refine ⟨builtIn, answers, made, ?_⟩
  exact (repetition_ends_iff builtIn rules rfl answers).2.1 _ _ .null made rfl

end Peg
