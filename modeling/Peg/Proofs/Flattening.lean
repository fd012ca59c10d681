import Peg.Proofs.Likeness

/-! # Groups within groups

A choice among the alternatives of a choice and a sequence among the parts of a sequence can be
written out in place. The calls of all parsers stay the same, on the same inputs and in the same
order, but for the one call of the group; and the runs end alike, or neither ends. A sequence gives
one list in the place of a list within a list.

* **`FlattensTo`**: what is compared of a nested parser and a flat one.
* **`nested_groups_flatten`**: choices and sequences of any lengths, with the group anywhere. -/

namespace Peg

open Progress

/-! ## What is compared -/

/-- The first calls are the second ones, with at most one call of the group among them. -/
inductive OneMore (group : Parser) : List Visit → List Visit → Prop
  /-- The group has not been called. -/
  | same (calls : List Visit) : OneMore group calls calls
  /-- The group has been called on an input. -/
  | more (early late : List Visit) (input : Value) :
      OneMore group (early ++ (group, input) :: late) (early ++ late)

theorem OneMore.front {group : Parser} (made : List Visit) {one two : List Visit}
    (alike : OneMore group one two) : OneMore group (made ++ one) (made ++ two) := by
  cases alike with
  | same => exact .same _
  | more early late input =>
    rw [← List.append_assoc, ← List.append_assoc]
    exact .more (made ++ early) late input

/-- Whatever is seen of a nested parser at any time is seen of the flat one at some time, and the
other way round: the ends compare and, after the first call of each, the calls of parsers are the
same but for one call of the group. -/
structure FlattensTo (group : Parser) (ends : Ending → Ending → Prop) (nested flat : Progress) :
    Prop where
  /-- The flat run shows what the nested one does. -/
  forth (steps : Nat) : ∃ others, OneMore group (nested.visits steps).tail (flat.visits others).tail
    ∧ Option.Rel ends (nested.run steps) (flat.run others)
  /-- The nested run shows what the flat one does. -/
  back (others : Nat) : ∃ steps, OneMore group (nested.visits steps).tail (flat.visits others).tail
    ∧ Option.Rel ends (nested.run steps) (flat.run others)

/-- The value of the second end has the elements of a list in the place of that list: the first
`before` elements are followed by the `inside` elements of the list and by `after` more. A failure
has the same payload and hands the entry back, and a fault is the same. Both ends leave the same
state. -/
inductive Ending.Splices (entry : Value) (before inside after : Nat) : Ending → Ending → Prop
  | ok {front inner back : List Value} (rest : Value) (state : State)
      (frontLength : front.length = before) (innerLength : inner.length = inside)
      (backLength : back.length = after) :
      Splices entry before inside after
        ⟨.ok (.ok (.list (front ++ .list inner :: back)) rest), state⟩
        ⟨.ok (.ok (.list (front ++ inner ++ back)) rest), state⟩
  | fail (payload : Value) (state : State) :
      Splices entry before inside after ⟨.ok (.fail payload entry), state⟩
        ⟨.ok (.fail payload entry), state⟩
  | fault (fault : Fault) (state : State) :
      Splices entry before inside after ⟨.error fault, state⟩ ⟨.error fault, state⟩

namespace Comparison

variable {ends : Ending → Ending → Prop}
  {fault : ∀ fault state, ends ⟨.error fault, state⟩ ⟨.error fault, state⟩} {group : Parser}

/-- All calls are the same. -/
def exactly (ends : Ending → Ending → Prop)
    (fault : ∀ fault state, ends ⟨.error fault, state⟩ ⟨.error fault, state⟩) : Comparison where
  calls := Eq
  ends := ends
  nil := rfl
  front made _ _ alike := congrArg (made ++ ·) alike
  fault := fault

/-- All calls are the same but for one call of the group. -/
def butFor (group : Parser) (ends : Ending → Ending → Prop)
    (fault : ∀ fault state, ends ⟨.error fault, state⟩ ⟨.error fault, state⟩) : Comparison where
  calls := OneMore group
  ends := ends
  nil := .same []
  front made _ _ alike := alike.front made
  fault := fault

/-- This is where the group is called. -/
theorem exactly_refines (input : Value) :
    (exactly ends fault).Refines (butFor group ends fault) [(group, input)] [] where
  calls {more others} alike := by
    have same : more = others := alike
    rw [same]
    exact OneMore.more [] others input
  ends := id

/-- Parsers flatten if they go on alike after their own calls. -/
theorem flattensTo (fault : ∀ fault state, ends ⟨.error fault, state⟩ ⟨.error fault, state⟩)
    {nested flat : Parser} {input : Value} {stack : List Frame} {state : State}
    (quiet : state.tracer? = none)
    (alike : ∀ bound, (butFor group ends fault).Resembles bound (nested.start input stack state)
      (flat.start input stack state)) :
    FlattensTo group ends (.call nested input stack state) (.call flat input stack state) := by
  -- both runs begin with their own call, which is the one that is not compared
  have visits (parser : Parser) (steps : Nat) :
      ((Progress.call parser input stack state).visits (steps + 1)).tail
        = (parser.start input stack state).visits steps := by
    rw [Progress.call, visits_succ_next, step_call_of_quiet quiet]
    rfl
  have ran (parser : Parser) (steps : Nat) :
      (Progress.call parser input stack state).run (steps + 1)
        = (parser.start input stack state).run steps := by
    rw [Progress.call, run_succ_next, step_call_of_quiet quiet]
  refine ⟨fun steps => ?_, fun others => ?_⟩
  · cases steps with
    | zero => exact ⟨0, .same [], .none⟩
    | succ steps =>
      obtain ⟨others, calls, alike⟩ := (alike steps).forth steps (Nat.le_refl steps)
      refine ⟨others + 1, ?_, ?_⟩
      · rw [visits, visits]
        exact calls
      · rw [ran, ran]
        exact alike
  · cases others with
    | zero => exact ⟨0, .same [], .none⟩
    | succ others =>
      obtain ⟨steps, calls, alike⟩ := (alike others).back others (Nat.le_refl others)
      refine ⟨steps + 1, ?_, ?_⟩
      · rw [visits, visits]
        exact calls
      · rw [ran, ran]
        exact rel_of_symm alike

end Comparison

/-! ## Choices -/

section Choice

open Comparison

variable {group : Parser} {input : Value} {stack : List Frame} {bound : Nat}

/-- A choice starts as it goes on after an alternative that has failed. -/
theorem choice_start {first : Parser} {others : List Parser} {state : State}
    (payload rest : Value) :
    (Parser.choice first others).start input stack state
      = (Frame.choice input (first :: others)).receive (.fail payload rest) stack state := rfl

/-- The alternatives of a group, and then those after it, run as if they stood in one row. -/
theorem inner_choice_resembles (inner after : List Parser) (payload rest rest' : Value)
    (state : State) :
    (exactly Eq fun _ _ => rfl).Resembles bound
      ((Frame.choice input inner).receive (.fail payload rest) (.choice input after :: stack) state)
      ((Frame.choice input (inner ++ after)).receive (.fail payload rest') stack state) := by
  induction inner generalizing payload rest rest' state with
  | nil =>
    cases after with
    | nil => exact .receive_left (.refl (fun _ => rfl) bound _)
    | cons next after => exact .receive_left (.refl (fun _ => rfl) bound _)
  | cons parser inner inductionHypothesis =>
    refine .call fun outcome left _ => .receive ?_
    cases outcome with
    | ok value rest => exact .receive_left (.refl (fun _ => rfl) bound _)
    | fail payload rest => exact inductionHypothesis payload rest rest left

/-- Alternatives before a group run as they do before its alternatives. -/
theorem choice_resembles {first : Parser} {others : List Parser} (before after : List Parser)
    (payload rest : Value) {state : State} (quiet : state.tracer? = none) :
    (butFor (.choice first others) Eq fun _ _ => rfl).Resembles bound
      ((Frame.choice input (before ++ .choice first others :: after)).receive (.fail payload rest)
        stack state)
      ((Frame.choice input (before ++ (first :: others) ++ after)).receive (.fail payload rest)
        stack state) := by
  induction before generalizing payload rest state with
  | nil =>
    refine .call_left quiet ?_ (exactly_refines input)
    exact inner_choice_resembles (first :: others) after payload rest rest state
  | cons parser before inductionHypothesis =>
    refine .call fun outcome left evaluates => .receive ?_
    cases outcome with
    | ok value rest => exact .refl (fun _ => rfl) bound _
    | fail payload rest => exact inductionHypothesis payload rest (evaluates.quiet quiet)

end Choice

/-! ## Sequences -/

section Sequence

open Comparison

variable {entry : Value} {bound before inside behind : Nat}

/-- The ends of a sequence with a group and of the flat one. -/
abbrev splicing (entry : Value) (before inside behind : Nat) : Comparison :=
  exactly (Ending.Splices entry before inside behind) .fault

/-- A sequence starts as it goes on after no part. -/
theorem sequence_start {first : Parser} {others : List Parser} {input : Value} {stack : List Frame}
    {state : State} :
    (Parser.sequence first others).start input stack state
      = (Job.all input (first :: others) input).point [] stack state := rfl

/-- After the group both sequences go on with the same parts. -/
theorem last_parts_resemble {front inner back done done' : List Value} (after : List Parser)
    (here : done.reverse = front ++ .list inner :: back)
    (there : done'.reverse = front ++ inner ++ back) (frontLength : front.length = before)
    (innerLength : inner.length = inside) (backLength : back.length + after.length = behind)
    (input : Value) (state : State) :
    (splicing entry before inside behind).Resembles bound
      ((Job.all entry after input).point done [] state)
      ((Job.all entry after input).point done' [] state) := by
  -- the induction is on the parts still to come; the parts done are joined on the way
  induction after generalizing done done' back input state with
  | nil =>
    refine .answer_nil ?_ bound
    rw [here, there]
    exact .ok input state frontLength innerLength backLength
  | cons parser after inductionHypothesis =>
    refine .call fun outcome left _ => .receive ?_
    cases outcome with
    | fail payload rest =>
      rw [receive_sequence_fail, receive_sequence_fail]
      exact .answer_nil (Ending.Splices.fail payload left) bound
    | ok value rest =>
      have here : (value :: done).reverse = front ++ .list inner :: (back ++ [value]) := by
        simp [here]
      have there : (value :: done').reverse = front ++ inner ++ (back ++ [value]) := by
        simp [there]
      have backLength : (back ++ [value]).length + after.length = behind := by
        rw [List.length_append, List.length_singleton, ← backLength, List.length_cons]
        omega
      rw [receive_sequence_ok, receive_sequence_ok]
      exact inductionHypothesis here there backLength rest left

/-- The parts of a group, and then those after it, run as if they stood in one row. -/
theorem inner_parts_resemble {start : Value} {found done : List Value} (inner after : List Parser)
    (frontLength : done.length = before) (innerLength : found.length + inner.length = inside)
    (backLength : after.length = behind) (input : Value) (state : State) :
    (splicing entry before inside behind).Resembles bound
      ((Job.all start inner input).point found [.sequence entry done after] state)
      ((Job.all entry (inner ++ after) input).point (found ++ done) [] state) := by
  induction inner generalizing found input state with
  | nil =>
    have alike : (splicing entry before inside behind).Resembles bound
        ((Job.all entry after input).point (.list found.reverse :: done) [] state)
        ((Job.all entry after input).point (found ++ done) [] state) := by
      have here : (Value.list found.reverse :: done).reverse
          = done.reverse ++ .list found.reverse :: [] := List.reverse_cons
      have there : (found ++ done).reverse = done.reverse ++ found.reverse ++ [] := by
        rw [List.reverse_append, List.append_nil]
      refine last_parts_resemble after here there ?_ ?_ ?_ input state
      · rw [List.length_reverse, frontLength]
      · rw [List.length_reverse]
        exact innerLength
      · rw [List.length_nil, Nat.zero_add, backLength]
    rw [← receive_sequence_ok] at alike
    cases after with
    | nil => exact .receive_left alike
    | cons next after => exact .receive_left alike
  | cons parser inner inductionHypothesis =>
    refine .call fun outcome left _ => .receive ?_
    cases outcome with
    | fail payload rest =>
      -- the group fails on its own input, and the sequence around it on the first one
      rw [receive_sequence_fail, receive_sequence_fail]
      refine .receive_left ?_
      rw [receive_sequence_fail]
      exact .answer_nil (Ending.Splices.fail payload left) bound
    | ok value rest =>
      have innerLength : (value :: found).length + inner.length = inside := by
        rw [List.length_cons, ← innerLength, List.length_cons]
        omega
      rw [receive_sequence_ok, receive_sequence_ok]
      exact inductionHypothesis innerLength rest left

/-- Parts before a group run as they do before its parts. -/
theorem parts_resemble {first : Parser} {others : List Parser} {done : List Value}
    (early after : List Parser) (frontLength : done.length + early.length = before)
    (innerLength : (first :: others).length = inside) (backLength : after.length = behind)
    (input : Value) {state : State} (quiet : state.tracer? = none) :
    (butFor (.sequence first others) (Ending.Splices entry before inside behind) .fault).Resembles
      bound ((Job.all entry (early ++ .sequence first others :: after) input).point done [] state)
      ((Job.all entry (early ++ (first :: others) ++ after) input).point done [] state) := by
  induction early generalizing done input state with
  | nil =>
    have innerLength : ([] : List Value).length + (first :: others).length = inside := by
      rw [List.length_nil, Nat.zero_add, innerLength]
    have alike : (splicing entry before inside behind).Resembles bound
        ((Job.all input (first :: others) input).point [] [.sequence entry done after] state)
        ((Job.all entry (first :: others ++ after) input).point ([] ++ done) [] state) :=
      inner_parts_resemble (first :: others) after frontLength innerLength backLength input state
    exact alike.call_left quiet (exactly_refines input)
  | cons parser early inductionHypothesis =>
    refine .call fun outcome left evaluates => .receive ?_
    cases outcome with
    | fail payload rest =>
      rw [receive_sequence_fail, receive_sequence_fail]
      exact .answer_nil (Ending.Splices.fail payload left) bound
    | ok value rest =>
      rw [receive_sequence_ok, receive_sequence_ok]
      refine inductionHypothesis ?_ rest (evaluates.quiet quiet)
      simp only [List.length_cons] at frontLength ⊢
      omega

end Sequence

/-! ## Flattening -/

/-- At least two parsers can be combined. -/
theorem Description.combine_eq_ok {parts : List Parser} (several : 2 ≤ parts.length)
    (combinator : String) (make : Parser → List Parser → Parser) :
    ∃ first others, parts = first :: others
      ∧ combine combinator make parts = .ok (make first others) := by
  match parts, several with
  | first :: second :: others, _ => exact ⟨first, second :: others, rfl, rfl⟩

/-- **Groups within groups can be flattened.** A group of at least two parsers stands among others,
at least one, at any place. As alternatives of a choice, the nested parser runs as the flat one on
any pending work: it ends with the same outcome or fault and in the same state, the record of
failures included, or does not end either. As parts of a sequence the list of the values of the
group stands in the value as one element, and is written out in the flat one; failures have the same
payload and hand back the input of the whole. In both cases all parsers are called on the same
inputs in the same order, but for the call of the group itself. No tracer watches: it would be told
of the group. -/
theorem nested_groups_flatten (before inner after : List Parser) (several : 2 ≤ inner.length)
    (others : 0 < before.length + after.length) (input : Value) (state : State)
    (quiet : state.tracer? = none) :
    (∃ group nested flat,
      Description.combine "choice" .choice inner = .ok group
      ∧ Description.combine "choice" .choice (before ++ group :: after) = .ok nested
      ∧ Description.combine "choice" .choice (before ++ inner ++ after) = .ok flat
      ∧ ∀ stack, FlattensTo group Eq (.call nested input stack state)
          (.call flat input stack state))
    ∧ ∃ group nested flat,
      Description.combine "sequence" .sequence inner = .ok group
      ∧ Description.combine "sequence" .sequence (before ++ group :: after) = .ok nested
      ∧ Description.combine "sequence" .sequence (before ++ inner ++ after) = .ok flat
      ∧ FlattensTo group (Ending.Splices input before.length inner.length after.length)
          (.call nested input [] state) (.call flat input [] state) := by
  have nestedSeveral (group : Parser) : 2 ≤ (before ++ group :: after).length := by
    rw [List.length_append, List.length_cons]
    omega
  have flatSeveral : 2 ≤ (before ++ inner ++ after).length := by
    rw [List.length_append, List.length_append]
    omega
  refine ⟨?_, ?_⟩
  · obtain ⟨first, rest, rfl, made⟩ := Description.combine_eq_ok several "choice" .choice
    obtain ⟨head, tail, nestedParts, nested⟩ :=
      Description.combine_eq_ok (nestedSeveral (.choice first rest)) "choice" .choice
    obtain ⟨head', tail', flatParts, flat⟩ :=
      Description.combine_eq_ok flatSeveral "choice" .choice
    refine ⟨_, _, _, made, nested, flat, fun stack => ?_⟩
    refine Comparison.flattensTo (fun _ _ => rfl) quiet fun bound => ?_
    rw [choice_start .null .null, choice_start .null .null, ← nestedParts, ← flatParts]
    exact choice_resembles before after .null .null quiet
  · obtain ⟨first, rest, rfl, made⟩ := Description.combine_eq_ok several "sequence" .sequence
    obtain ⟨head, tail, nestedParts, nested⟩ :=
      Description.combine_eq_ok (nestedSeveral (.sequence first rest)) "sequence" .sequence
    obtain ⟨head', tail', flatParts, flat⟩ :=
      Description.combine_eq_ok flatSeveral "sequence" .sequence
    refine ⟨_, _, _, made, nested, flat, ?_⟩
    refine Comparison.flattensTo .fault quiet fun bound => ?_
    rw [sequence_start, sequence_start, ← nestedParts, ← flatParts]
    have frontLength : ([] : List Value).length + before.length = before.length :=
      Nat.zero_add before.length
    exact parts_resemble before after frontLength rfl rfl input quiet

/-- A fixed text. -/
def wordParser (text : String) : Parser := .terminal (.literal (.ofString text))

/-- Four letters, of which the two in the middle are a group. -/
def groupedLetters : Parser :=
  .sequence (wordParser "a") [.sequence (wordParser "b") [wordParser "c"], wordParser "d"]

/-- Four letters. -/
def fourLetters : Parser :=
  .sequence (wordParser "a") [wordParser "b", wordParser "c", wordParser "d"]

/-- The values of the group are one element of the nested list and two of the flat one. -/
theorem middle_letters_are_spliced :
    (∃ after,
      run 30 (.call groupedLetters (.ofString "abcd")) [] (.initial {} (.ofString "abcd") none)
        = some ⟨.ok (.ok (.list [.ofString "a", .list [.ofString "b", .ofString "c"],
          .ofString "d"]) (.ofString "")), after⟩
      ∧ run 30 (.call fourLetters (.ofString "abcd")) [] (.initial {} (.ofString "abcd") none)
        = some ⟨.ok (.ok (.list [.ofString "a", .ofString "b", .ofString "c", .ofString "d"])
          (.ofString "")), after⟩)
    ∧ FlattensTo (.sequence (wordParser "b") [wordParser "c"])
      (Ending.Splices (.ofString "abcd") 1 2 1)
      (.call groupedLetters (.ofString "abcd") [] (.initial {} (.ofString "abcd") none))
      (.call fourLetters (.ofString "abcd") [] (.initial {} (.ofString "abcd") none)) := by
  obtain ⟨-, group, nested, flat, made, madeNested, madeFlat, flattens⟩ :=
    nested_groups_flatten [wordParser "a"] [wordParser "b", wordParser "c"] [wordParser "d"]
      (by decide) (by decide) (.ofString "abcd") (.initial {} (.ofString "abcd") none) rfl
  cases made
  cases madeNested
  cases madeFlat
  exact ⟨⟨_, rfl, rfl⟩, flattens⟩

end Peg
