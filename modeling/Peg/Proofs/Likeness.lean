import Peg.Proofs.Visits

/-! # Runs that are alike

Two parsers may be the same to everyone outside although they take different steps. A `Comparison`
says what is looked at: the calls of parsers, and the ends. Runs resemble each other when whatever
is seen of one of them after any number of steps is seen of the other one at some time, and the
other way round; so neither ends where the other goes on for ever. To argue by induction,
`Resembles` takes a bound on the numbers of steps.

* **`Resembles.call`**: a parser that is called on two stacks of frames runs alike on both, if what
  the frames do with its outcome is alike.
* **`Resembles.loop`**: the rounds of a repetition, by induction on the bound. -/

namespace Peg

open Progress

/-! ## What is compared -/

/-- What two runs are compared by. -/
structure Comparison where
  /-- How the calls of parsers compare. -/
  calls : List Visit → List Visit → Prop
  /-- How the ends compare. -/
  ends : Ending → Ending → Prop
  /-- Before any call there is nothing to tell the runs apart. -/
  nil : calls [] []
  /-- Calls that both have made before make no difference. -/
  front (made : List Visit) {one two : List Visit} (alike : calls one two) :
      calls (made ++ one) (made ++ two)
  /-- Nothing happens after a fault. -/
  fault (fault : Fault) (state : State) : ends ⟨.error fault, state⟩ ⟨.error fault, state⟩

namespace Comparison

/-- The comparison with the runs the other way round. -/
def symm (way : Comparison) : Comparison where
  calls one two := way.calls two one
  ends one two := way.ends two one
  nil := way.nil
  front made _ _ alike := way.front made alike
  fault := way.fault

/-- Ends that are alike the other way round are alike. -/
theorem rel_of_symm {way : Comparison} {last other : Option Ending}
    (alike : Option.Rel way.symm.ends last other) : Option.Rel way.ends other last := by
  cases alike with
  | none => exact .none
  | some alike => exact .some alike

/-- The same calls are alike in every comparison. -/
theorem calls_refl (way : Comparison) (made : List Visit) : way.calls made made := by
  have alike := way.front made way.nil
  rwa [List.append_nil] at alike

/-- Alike in one way is alike in the other, after calls that the runs have made by themselves. -/
structure Refines (fine coarse : Comparison) (one two : List Visit) : Prop where
  calls {more others : List Visit} (alike : fine.calls more others) :
      coarse.calls (one ++ more) (two ++ others)
  ends {last other : Ending} (alike : fine.ends last other) : coarse.ends last other

/-- A comparison refines itself, if neither run has made a call. -/
theorem Refines.refl (way : Comparison) : way.Refines way [] [] := ⟨id, id⟩

/-- Refinement does not depend on which run comes first. -/
theorem Refines.symm {fine coarse : Comparison} {one two : List Visit}
    (refines : fine.Refines coarse one two) : fine.symm.Refines coarse.symm two one :=
  ⟨refines.calls, refines.ends⟩

/-- Refinement carries over to runs that may not have ended yet. -/
theorem Refines.rel {fine coarse : Comparison} {one two : List Visit}
    (refines : fine.Refines coarse one two) {last other : Option Ending}
    (alike : Option.Rel fine.ends last other) : Option.Rel coarse.ends last other := by
  cases alike with
  | none => exact .none
  | some alike => exact .some (refines.ends alike)

/-- What is seen of the first run after a number of steps is seen of the second one at some time. -/
def Follows (way : Comparison) (steps : Nat) (one two : Progress) : Prop :=
  ∃ others, way.calls (one.visits steps) (two.visits others)
    ∧ Option.Rel way.ends (one.run steps) (two.run others)

/-- What is seen of one run within a number of steps is seen of the other one at some time. -/
structure Resembles (way : Comparison) (bound : Nat) (one two : Progress) : Prop where
  /-- The second run shows what the first one does. -/
  forth : ∀ steps ≤ bound, way.Follows steps one two
  /-- The first run shows what the second one does. -/
  back : ∀ steps ≤ bound, way.symm.Follows steps two one

end Comparison

/-! ## The rules -/

/-- Where a run has no outcome its end is the same on all frames: a fault, or none yet. -/
theorem Progress.Above.run_zero {way : Comparison} {base other : List Frame}
    {alone one two : Progress} (here : Above base alone one) (there : Above other alone two) :
    Option.Rel way.ends (one.run 0) (two.run 0) := by
  cases here with
  | next control stack state =>
    cases there with
    | next => exact .none
  | raised fault state =>
    cases there with
    | raised => exact .some (way.fault fault state)

namespace Comparison.Follows

variable {way fine : Comparison} {steps : Nat}

/-- Before the first step there is nothing to tell two runs apart. -/
theorem zero (control control' : Control) (stack stack' : List Frame) (state state' : State) :
    way.Follows 0 (.next control stack state) (.next control' stack' state') :=
  ⟨0, way.nil, .none⟩

variable {control control' : Control} {stack stack' : List Frame} {state state' : State}
  {one two : Progress}

/-- If the runs are alike after one step each, they were alike before it. -/
theorem step
    (follows : fine.Follows steps (Peg.step control stack state) (Peg.step control' stack' state'))
    (refines : fine.Refines way control.visits control'.visits) :
    way.Follows (steps + 1) (.next control stack state) (.next control' stack' state') := by
  obtain ⟨others, calls, ends⟩ := follows
  refine ⟨others + 1, refines.calls calls, ?_⟩
  rw [run_succ_next, run_succ_next]
  exact refines.rel ends

/-- The first run may take a step by itself, with the calls that the refinement allows. -/
theorem left (follows : fine.Follows steps (Peg.step control stack state) two)
    (refines : fine.Refines way control.visits []) :
    way.Follows (steps + 1) (.next control stack state) two := by
  obtain ⟨others, calls, ends⟩ := follows
  refine ⟨others, refines.calls calls, ?_⟩
  rw [run_succ_next]
  exact refines.rel ends

/-- The second run may take a step by itself, with the calls that the refinement allows. -/
theorem right (follows : fine.Follows steps one (Peg.step control stack state))
    (refines : fine.Refines way [] control.visits) :
    way.Follows steps one (.next control stack state) := by
  obtain ⟨others, calls, ends⟩ := follows
  refine ⟨others + 1, refines.calls calls, ?_⟩
  rw [run_succ_next]
  exact refines.rel ends

/-- A parser runs alike on two stacks, if what is done with its outcome is alike. -/
theorem call {parser : Parser} {input : Value}
    (handed : ∀ outcome after, Evaluates (.call parser input) state ⟨.ok outcome, after⟩ →
      ∀ fewer ≤ steps, way.Follows fewer (.answer outcome stack after)
        (.answer outcome stack' after)) :
    way.Follows steps (.call parser input stack state) (.call parser input stack' state) := by
  by_cases ended : ∃ outcome after,
      (Progress.call parser input [] state).run steps = some ⟨.ok outcome, after⟩
  · obtain ⟨outcome, after, ended⟩ := ended
    obtain ⟨early, less, -, same⟩ := exists_handOver ended
    obtain ⟨here, made⟩ : (Progress.call parser input stack state).later early = _
      ∧ (Progress.call parser input stack state).visits early = _ := same stack
    obtain ⟨there, made'⟩ : (Progress.call parser input stack' state).later early = _
      ∧ (Progress.call parser input stack' state).visits early = _ := same stack'
    obtain ⟨fewer, rfl⟩ := Nat.exists_eq_add_of_le (Nat.le_of_lt less)
    obtain ⟨others, calls, ends⟩ :=
      handed outcome after (exists_run_iff.1 ⟨_, ended⟩) fewer (Nat.le_add_left fewer early)
    refine ⟨early + others, ?_, ?_⟩
    · rw [visits_add, visits_add, here, there, made, made']
      exact way.front _ calls
    · rw [run_add, run_add, here, there]
      exact ends
  · -- no outcome yet: on both stacks the run is where it is on none
    have goesOn : ∀ outcome after,
        (Progress.call parser input [] state).run steps ≠ some ⟨.ok outcome, after⟩ :=
      fun outcome after same => ended ⟨outcome, after, same⟩
    have alone (base : List Frame) :
        Above base ((Progress.call parser input [] state).later steps)
            ((Progress.call parser input base state).later steps)
          ∧ (Progress.call parser input base state).visits steps
            = (Progress.call parser input [] state).visits steps :=
      (Above.next (.call parser input) [] state).later goesOn
    obtain ⟨here, made⟩ := alone stack
    obtain ⟨there, made'⟩ := alone stack'
    refine ⟨steps, ?_, ?_⟩
    · rw [made, made']
      exact way.calls_refl _
    · rw [run_eq_later steps (.call parser input stack state),
        run_eq_later steps (.call parser input stack' state)]
      exact here.run_zero there

end Comparison.Follows

namespace Comparison.Resembles

variable {way fine : Comparison} {bound : Nat} {one two : Progress}

/-- Resemblance is symmetric, if the comparison is turned round with it. -/
theorem symm (alike : way.Resembles bound one two) : way.symm.Resembles bound two one :=
  ⟨alike.back, alike.forth⟩

/-- Runs that resemble each other for long do so for a shorter time. -/
theorem mono (alike : way.Resembles bound one two) {less : Nat} (le : less ≤ bound) :
    way.Resembles less one two :=
  ⟨fun steps few => alike.forth steps (Nat.le_trans few le),
    fun steps few => alike.back steps (Nat.le_trans few le)⟩

/-- Every run resembles itself, if every end is like itself. -/
theorem refl (same : ∀ last, way.ends last last) (bound : Nat) (progress : Progress) :
    way.Resembles bound progress progress := by
  have rel (last : Option Ending) : Option.Rel way.ends last last := by
    cases last with
    | none => exact .none
    | some last => exact .some (same last)
  have rel' (last : Option Ending) : Option.Rel way.symm.ends last last := by
    cases last with
    | none => exact .none
    | some last => exact .some (same last)
  exact ⟨fun steps _ => ⟨steps, way.calls_refl _, rel _⟩,
    fun steps _ => ⟨steps, way.calls_refl _, rel' _⟩⟩

/-- Before the first step all runs that are to go on are alike. -/
theorem zero (control control' : Control) (stack stack' : List Frame) (state state' : State) :
    way.Resembles 0 (.next control stack state) (.next control' stack' state') := by
  refine ⟨fun steps few => ?_, fun steps few => ?_⟩
  · obtain rfl := Nat.le_zero.1 few
    exact .zero ..
  · obtain rfl := Nat.le_zero.1 few
    exact .zero ..

variable {control control' : Control} {stack stack' : List Frame} {state state' : State}

/-- **Both runs take a step.** -/
theorem step (alike : fine.Resembles bound (Peg.step control stack state)
      (Peg.step control' stack' state'))
    (refines : fine.Refines way control.visits control'.visits) :
    way.Resembles (bound + 1) (.next control stack state) (.next control' stack' state') := by
  refine ⟨fun steps few => ?_, fun steps few => ?_⟩
  · cases steps with
    | zero => exact .zero ..
    | succ steps => exact (alike.forth steps (Nat.le_of_succ_le_succ few)).step refines
  · cases steps with
    | zero => exact .zero ..
    | succ steps => exact (alike.back steps (Nat.le_of_succ_le_succ few)).step refines.symm

/-- **The first run takes a step by itself.** -/
theorem left (alike : fine.Resembles bound (Peg.step control stack state)
      (.next control' stack' state'))
    (refines : fine.Refines way control.visits []) :
    way.Resembles bound (.next control stack state) (.next control' stack' state') := by
  refine ⟨fun steps few => ?_, fun steps few => (alike.back steps few).right refines.symm⟩
  cases steps with
  | zero => exact .zero ..
  | succ steps => exact (alike.forth steps (Nat.le_of_succ_le few)).left refines

/-- **The second run takes a step by itself.** -/
theorem right (alike : fine.Resembles bound (.next control stack state)
      (Peg.step control' stack' state'))
    (refines : fine.Refines way [] control'.visits) :
    way.Resembles bound (.next control stack state) (.next control' stack' state') :=
  (alike.symm.left refines.symm).symm

/-- **A parser that is called on two stacks of frames runs alike on both**, if what is done with its
outcome is alike. -/
theorem call {parser : Parser} {input : Value}
    (handed : ∀ outcome after, Evaluates (.call parser input) state ⟨.ok outcome, after⟩ →
      way.Resembles bound (.answer outcome stack after) (.answer outcome stack' after)) :
    way.Resembles bound (.call parser input stack state) (.call parser input stack' state) := by
  refine ⟨fun steps few => .call ?_, fun steps few => .call ?_⟩
  · intro outcome after evaluates fewer le
    exact (handed outcome after evaluates).forth fewer (Nat.le_trans le few)
  · intro outcome after evaluates fewer le
    exact (handed outcome after evaluates).back fewer (Nat.le_trans le few)

/-! ### Frames and loops -/

/-- Finished runs resemble each other if their ends are alike. -/
theorem finished {outcome outcome' : Outcome}
    (alike : way.ends ⟨.ok outcome, state⟩ ⟨.ok outcome', state'⟩) (bound : Nat) :
    way.Resembles bound (.finished outcome state) (.finished outcome' state') := by
  have visits (outcome : Outcome) (state : State) (steps : Nat) :
      (Progress.finished outcome state).visits steps = [] := visits_of_ended rfl steps
  refine ⟨fun steps _ => ⟨0, ?_, .some alike⟩, fun steps _ => ⟨0, ?_, .some alike⟩⟩
  · rw [visits, visits]
    exact way.nil
  · rw [visits, visits]
    exact way.nil

/-- Outcomes that no frame waits for are the ends. -/
theorem answer_nil {outcome outcome' : Outcome}
    (alike : way.ends ⟨.ok outcome, state⟩ ⟨.ok outcome', state'⟩) (bound : Nat) :
    way.Resembles bound (.answer outcome [] state) (.answer outcome' [] state') :=
  ((finished alike bound).step (.refl way)).mono (Nat.le_succ bound)

variable {frame frame' : Frame} {outcome outcome' : Outcome}

/-- Both outcomes are handed to frames, which uses up one step. -/
theorem receive_succ (alike : way.Resembles bound (frame.receive outcome stack state)
      (frame'.receive outcome' stack' state')) :
    way.Resembles (bound + 1) (.answer outcome (frame :: stack) state)
      (.answer outcome' (frame' :: stack') state') :=
  alike.step (.refl way)

/-- Both outcomes are handed to frames. -/
theorem receive (alike : way.Resembles bound (frame.receive outcome stack state)
      (frame'.receive outcome' stack' state')) :
    way.Resembles bound (.answer outcome (frame :: stack) state)
      (.answer outcome' (frame' :: stack') state') :=
  alike.receive_succ.mono (Nat.le_succ bound)

/-- The first outcome is handed to a frame. -/
theorem receive_left (alike : way.Resembles bound (frame.receive outcome stack state)
      (.next control' stack' state')) :
    way.Resembles bound (.answer outcome (frame :: stack) state) (.next control' stack' state') :=
  alike.left (.refl way)

/-- The second outcome is handed to a frame. -/
theorem receive_right (alike : way.Resembles bound (.next control stack state)
      (frame'.receive outcome' stack' state')) :
    way.Resembles bound (.next control stack state) (.answer outcome' (frame' :: stack') state') :=
  alike.right (.refl way)

/-- The first run calls a parser that does not count. -/
theorem call_left {parser : Parser} {input : Value} (quiet : state.tracer? = none)
    (alike : fine.Resembles bound (parser.start input stack state) (.next control' stack' state'))
    (refines : fine.Refines way [(parser, input)] []) :
    way.Resembles bound (.call parser input stack state) (.next control' stack' state') := by
  rw [← step_call_of_quiet quiet] at alike
  exact alike.left refines

/-- The second run calls a parser that does not count. -/
theorem call_right {parser : Parser} {input : Value} (quiet : state'.tracer? = none)
    (alike : fine.Resembles bound (.next control stack state) (parser.start input stack' state'))
    (refines : fine.Refines way [] [(parser, input)]) :
    way.Resembles bound (.next control stack state) (.call parser input stack' state') :=
  (alike.symm.call_left quiet refines.symm).symm

/-- **The rounds of a repetition** run alike on two stacks, if what is done with the list of their
values is. By induction on the bound: a round and the step after it use some of it up. -/
theorem loop {body : Parser} {done done' : List Value} {input : Value}
    (quiet : state.tracer? = none)
    (handed : ∀ values place after, after.tracer? = none → ∀ bound, way.Resembles bound
      (.answer (.ok (.list (done.reverse ++ values)) place) stack after)
      (.answer (.ok (.list (done'.reverse ++ values)) place) stack' after)) (bound : Nat) :
    way.Resembles bound (.call body input (.loop body done input :: stack) state)
      (.call body input (.loop body done' input :: stack') state) := by
  induction bound generalizing done done' input state with
  | zero => exact .zero ..
  | succ bound inductionHypothesis =>
    refine .call fun outcome after evaluates => receive_succ ?_
    have quiet := evaluates.quiet quiet
    cases outcome with
    | fail payload rest =>
      have alike := handed [] input after quiet bound
      rw [List.append_nil, List.append_nil] at alike
      exact alike
    | ok value rest =>
      refine inductionHypothesis quiet fun values place after quiet bound => ?_
      have alike := handed (value :: values) place after quiet bound
      rw [List.reverse_cons, List.reverse_cons, List.append_assoc, List.append_assoc]
      exact alike

end Comparison.Resembles

end Peg
