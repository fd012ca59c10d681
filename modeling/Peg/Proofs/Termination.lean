import Peg.Proofs.EmptyMatch
import Peg.Proofs.GrammarFrame

/-! # Well-formed grammars come to an end

A run from a rule of a well-formed grammar ends on every input. Three things can become less from
one call of a rule to the next: what is left of the input; if nothing has been consumed, the number
of rules that are still to be built; and if none has been built, the place of the rule in the order
in which rules call each other before they consume. Between two calls of rules the parser becomes
smaller, or a repetition goes on with less input.

* **`Parser.BuiltIn.ends`**: a parser ends if the rules that it may call do.
* **`rule_ends`**: by induction on the three, every rule ends.
* **`wellFormed_grammar_ends`**: so does every parse from a rule of the grammar. -/

namespace Peg

/-! ## Jobs that end -/

/-- The job comes to an end. -/
def Job.Ends (job : Job) (state : State) : Prop := ∃ last, Evaluates job state last

/-- A job under a label ends if the job does, whatever the tracer has noted. -/
theorem Job.under_ends {label : String} {job : Job} {state : State}
    (ends : ∀ entered : State, entered.workspace = state.workspace → job.Ends entered) :
    (Job.under label job).Ends state := by
  cases quiet : state.tracer? with
  | none =>
    obtain ⟨last, evaluates⟩ := ends state rfl
    exact ⟨last, .unwatched quiet evaluates⟩
  | some tracer =>
    obtain ⟨context, current, watched⟩ := Option.bind_eq_some_iff.1 quiet
    have watched : context.tracer.isSome := by rw [watched]; rfl
    cases entry : state.emit .enter label context.depth job.input .null with
    | error fault => exact ⟨_, .refused current watched entry⟩
    | ok entered =>
      obtain ⟨last, evaluates⟩ := ends (entered.setDepth (context.depth + 1))
        (by rw [State.setDepth_workspace, State.emit_workspace entry])
      exact ⟨_, .watched current watched entry evaluates⟩

/-- A parser ends if it does without its label. -/
theorem Job.call_ends {parser : Parser} {input : Value} {state : State}
    (ends : ∀ entered : State, entered.workspace = state.workspace →
      (Job.bare parser input).Ends entered) : (Job.call parser input).Ends state := by
  cases label : parser.label? with
  | none =>
    obtain ⟨last, evaluates⟩ := ends state rfl
    exact ⟨last, .unlabelled label evaluates⟩
  | some name =>
    obtain ⟨last, evaluates⟩ := Job.under_ends ends
    exact ⟨last, .labelled label evaluates⟩

/-! ## Calls that end -/

section Ready

variable {mayBeEmpty : Array RuleCell → Parser → Bool}

/-- All rules end on an input that is shorter than `length`, and if it is as long, then when less is
to be built. The given ones end on an input of that length as the rules are now. -/
structure Ready (mayBeEmpty : Array RuleCell → Parser → Bool) (calls : List Nat)
    (workspace : Workspace) (length : Nat) : Prop where
  /-- The grammar is well-formed. -/
  wellFormed : workspace.WellFormed mayBeEmpty
  /-- With less input, or with less to be built, all rules end. -/
  below : ∀ (state : State) (input : Value), workspace.Unfolds state.workspace →
    input.length < length ∨ input.length = length ∧ state.workspace.debt < workspace.debt →
    ∀ cell, (Job.call (.rule cell) input).Ends state
  /-- As things are, the given rules end. -/
  here : ∀ (state : State) (input : Value), workspace.Unfolds state.workspace →
    state.workspace.cells = workspace.cells → input.length = length →
    ∀ cell ∈ calls, (Job.call (.rule cell) input).Ends state

namespace Ready

variable {calls : List Nat} {workspace later : Workspace} {length shorter : Nat}

/-- What is known of some rules is known of fewer. -/
theorem mono (ready : Ready mayBeEmpty calls workspace length) {fewer : List Nat}
    (subset : fewer ⊆ calls) : Ready mayBeEmpty fewer workspace length where
  wellFormed := ready.wellFormed
  below := ready.below
  here state input unfolds same long cell member :=
    ready.here state input unfolds same long cell (subset member)

/-- With less input, or with less to be built, any rules may be called. -/
theorem lower (ready : Ready mayBeEmpty calls workspace length)
    (unfolds : workspace.Unfolds later)
    (less : shorter < length ∨ shorter = length ∧ later.debt < workspace.debt)
    (others : List Nat) : Ready mayBeEmpty others later shorter where
  wellFormed := ready.wellFormed.unfolds unfolds
  below state input more lower := by
    refine ready.below state input (unfolds.trans more) ?_
    omega
  here state input more same long cell _ := by
    refine ready.below state input (unfolds.trans more) ?_ cell
    have debt := Workspace.debt_congr same
    omega

/-- What may be called may be called later, with what is then left of the input. The calls that come
next may depend on the rules; they count only if nothing has been consumed and nothing built. -/
theorem next (ready : Ready mayBeEmpty calls workspace length)
    (unfolds : workspace.Unfolds later) (le : shorter ≤ length)
    (others : Array RuleCell → List Nat)
    (subset : shorter = length → others workspace.cells ⊆ calls) :
    Ready mayBeEmpty (others later.cells) later shorter := by
  by_cases less : shorter < length ∨ shorter = length ∧ later.debt < workspace.debt
  · exact ready.lower unfolds less _
  · have same := unfolds.cells_eq_or_debt_lt.resolve_right fun fewer => less (by omega)
    have debt := Workspace.debt_congr same
    obtain rfl : shorter = length := by omega
    rw [same]
    refine ⟨ready.wellFormed.unfolds unfolds, fun state input more lower => ?_,
      fun state input more unchanged long cell member => ?_⟩
    · exact ready.below state input (unfolds.trans more) (by omega)
    · exact ready.here state input (unfolds.trans more) (unchanged.trans same) long cell
        (subset rfl member)

end Ready

/-! ## What a match leaves -/

/-- What a match by a parser leaves of the input and of the rules that are to be built. -/
structure Leaves (mayBeEmpty : Parser → Bool) (parser : Parser) (input : Value)
    (workspace : Workspace) (middle : Value) (later : Workspace) : Prop where
  /-- Rules have been resolved at most. -/
  unfolds : workspace.Unfolds later
  /-- What is left is not longer than the input. -/
  le : middle.length ≤ input.length
  /-- If nothing has been consumed, the parser is known for it. -/
  empty : middle.length = input.length → mayBeEmpty parser

/-- A match leaves a rest of the input, and all of it only if the parser is known to match empty. -/
theorem leaves_of_match {parser : Parser} {input value middle : Value} {state between : State}
    (evaluates : Evaluates (.call parser input) state ⟨.ok (.ok value middle), between⟩)
    (builtIn : parser.BuiltIn) (wellFormed : state.workspace.WellFormed mayBeEmpty) :
    Leaves (mayBeEmpty state.workspace.cells) parser input state.workspace middle
      between.workspace := by
  have isRest : middle.IsRestOf input := (evaluates.fits builtIn wellFormed.builtIn).1
  refine ⟨unfolds_of_evaluates evaluates, isRest.length_le, fun long => ?_⟩
  -- a rest that is as long as the input is the input
  have same : middle = input := by rw [isRest.eq_drop, long, Nat.sub_self, Value.drop_zero]
  subst same
  obtain ⟨fuel, ended⟩ := exists_run_iff.2 evaluates
  exact (wellFormed.rules _ .refl).admits parser middle value state between fuel builtIn rfl ended

/-! ## Parsers that end -/

/-- The parser has no repetition that may go on without consuming, whatever becomes of the rules. -/
def Parser.StaysSteady (mayBeEmpty : Array RuleCell → Parser → Bool) (workspace : Workspace)
    (parser : Parser) : Prop :=
  ∀ later, workspace.Unfolds later → parser.Steady (mayBeEmpty later.cells) later

/-- The parser ends if the rules do that it may call before it has consumed anything. -/
def Parser.EndsWhenReady (mayBeEmpty : Array RuleCell → Parser → Bool) (parser : Parser) : Prop :=
  ∀ (state : State) (input : Value), parser.StaysSteady mayBeEmpty state.workspace →
    Ready mayBeEmpty (parser.leftCalls (mayBeEmpty state.workspace.cells)) state.workspace
      input.length →
    (Job.call parser input).Ends state

/-- What is steady stays so later. -/
theorem Parser.StaysSteady.later {parser : Parser} {workspace later : Workspace}
    (steady : parser.StaysSteady mayBeEmpty workspace) (unfolds : workspace.Unfolds later) :
    parser.StaysSteady mayBeEmpty later :=
  fun last more => steady last (unfolds.trans more)

/-- The parts of a sequence end. -/
theorem all_ends {parsers : List Parser} (builtIn : ∀ parser ∈ parsers, parser.BuiltIn)
    (each : ∀ parser ∈ parsers, parser.EndsWhenReady mayBeEmpty) (entry input : Value)
    (state : State) (steady : ∀ parser ∈ parsers, parser.StaysSteady mayBeEmpty state.workspace)
    (ready : Ready mayBeEmpty
      (Parser.leftCallsOfAll (mayBeEmpty state.workspace.cells) parsers) state.workspace
      input.length) :
    (Job.all entry parsers input).Ends state := by
  induction parsers generalizing state input with
  | nil => exact ⟨_, .allNil⟩
  | cons parser others inductionHypothesis =>
    rw [List.forall_mem_cons] at builtIn each steady
    rw [Parser.leftCallsOfAll] at ready
    obtain ⟨⟨answer, between⟩, head⟩ :=
      each.1 state input steady.1 (ready.mono (List.subset_append_left _ _))
    rcases answer with fault | ⟨value, middle⟩ | ⟨payload, rest⟩
    · exact ⟨_, .raise rfl head⟩
    · obtain ⟨unfolds, le, empty⟩ := leaves_of_match head builtIn.1 ready.wellFormed
      have next := ready.next unfolds le
        (fun cells => Parser.leftCallsOfAll (mayBeEmpty cells) others) fun long => by
          -- the first part has consumed nothing, so what the others call was counted with it
          rw [if_pos (empty long)]
          exact List.subset_append_right _ _
      obtain ⟨last, tail⟩ := inductionHypothesis builtIn.2 each.2 middle between
        (fun parser member => (steady.2 parser member).later unfolds) next
      obtain ⟨own, evaluates, -⟩ := head.all_cons tail
      exact ⟨own, evaluates⟩
    · exact ⟨_, .allFail head⟩

/-- Alternatives end. -/
theorem any_ends {first : Parser} {others : List Parser} (head : first.EndsWhenReady mayBeEmpty)
    (tail : ∀ parser ∈ others, parser.EndsWhenReady mayBeEmpty) (input : Value) (state : State)
    (steady : first.StaysSteady mayBeEmpty state.workspace)
    (steadyTail : ∀ parser ∈ others, parser.StaysSteady mayBeEmpty state.workspace)
    (ready : Ready mayBeEmpty
      (Parser.leftCallsOfAny (mayBeEmpty state.workspace.cells) (first :: others)) state.workspace
      input.length) :
    (Job.any first others input).Ends state := by
  induction others generalizing first state with
  | nil =>
    rw [Parser.leftCallsOfAny] at ready
    obtain ⟨⟨answer, after⟩, tried⟩ :=
      head state input steady (ready.mono (List.subset_append_left _ _))
    rcases answer with fault | ⟨value, rest⟩ | ⟨payload, rest⟩
    · exact ⟨_, .raise rfl tried⟩
    · exact ⟨_, .anyOk tried⟩
    · exact ⟨_, .anyLast tried⟩
  | cons second others inductionHypothesis =>
    rw [List.forall_mem_cons] at tail steadyTail
    rw [Parser.leftCallsOfAny] at ready
    obtain ⟨⟨answer, between⟩, tried⟩ :=
      head state input steady (ready.mono (List.subset_append_left _ _))
    rcases answer with fault | ⟨value, rest⟩ | ⟨payload, rest⟩
    · exact ⟨_, .raise rfl tried⟩
    · exact ⟨_, .anyOk tried⟩
    · -- the next alternative starts on the same input
      have unfolds := unfolds_of_evaluates tried
      have next := ready.next unfolds (Nat.le_refl _)
        (fun cells => Parser.leftCallsOfAny (mayBeEmpty cells) (second :: others))
        fun _ => List.subset_append_right _ _
      obtain ⟨last, evaluates⟩ := inductionHypothesis tail.1 tail.2 between
        (steadyTail.1.later unfolds)
        (fun parser member => (steadyTail.2 parser member).later unfolds) next
      exact ⟨last, .anyNext tried evaluates⟩

/-- A repetition whose body consumes ends, by induction on what is left of the input. -/
theorem loop_ends {body : Parser} (builtIn : body.BuiltIn)
    (ends : body.EndsWhenReady mayBeEmpty) (input : Value) (state : State)
    (steady : body.StaysSteady mayBeEmpty state.workspace)
    (consumes : ∀ later, state.workspace.Unfolds later → mayBeEmpty later.cells body = false)
    (ready : Ready mayBeEmpty (body.leftCalls (mayBeEmpty state.workspace.cells))
      state.workspace input.length) :
    (Job.loop body input).Ends state := by
  induction long : input.length using Nat.strong_induction_on generalizing input state with
  | _ length shorter =>
    subst long
    obtain ⟨⟨answer, between⟩, round⟩ := ends state input steady ready
    rcases answer with fault | ⟨value, middle⟩ | ⟨payload, rest⟩
    · exact ⟨_, .raise rfl round⟩
    · obtain ⟨unfolds, le, empty⟩ := leaves_of_match round builtIn ready.wellFormed
      have less : middle.length < input.length := by
        refine Nat.lt_of_le_of_ne le fun long => ?_
        have mayBe := empty long
        rw [consumes _ .refl] at mayBe
        cases mayBe
      have next := ready.lower unfolds (.inl less)
        (body.leftCalls (mayBeEmpty between.workspace.cells))
      obtain ⟨last, more⟩ := shorter middle.length less middle between (steady.later unfolds)
        (fun later more => consumes later (unfolds.trans more)) next rfl
      obtain ⟨own, evaluates, -⟩ := round.loop_cons more
      exact ⟨own, evaluates⟩
    · exact ⟨_, .loopStop round⟩

/-- What is steady has steady parts. -/
theorem Parser.StaysSteady.part {parser part : Parser} {workspace : Workspace}
    (steady : parser.StaysSteady mayBeEmpty workspace)
    (inside : ∀ later, parser.Steady (mayBeEmpty later.cells) later →
      part.Steady (mayBeEmpty later.cells) later) :
    part.StaysSteady mayBeEmpty workspace :=
  fun later unfolds => inside later (steady later unfolds)

/-- A parser ends when ready if it does without its label. -/
theorem Parser.endsWhenReady_of_bare {parser : Parser}
    (ends : ∀ (state : State) (input : Value), parser.StaysSteady mayBeEmpty state.workspace →
      Ready mayBeEmpty (parser.leftCalls (mayBeEmpty state.workspace.cells)) state.workspace
        input.length →
      (Job.bare parser input).Ends state) : parser.EndsWhenReady mayBeEmpty := by
  intro state input steady ready
  refine Job.call_ends fun entered same => ?_
  rw [← same] at steady ready
  exact ends entered input steady ready

/-- A parser that starts with a body and calls no other rule before ends when ready, if it can go on
from every outcome of the body. -/
theorem Parser.endsWhenReady_of_body {parser body : Parser}
    (ends : body.EndsWhenReady mayBeEmpty)
    (inside : ∀ later, parser.Steady (mayBeEmpty later.cells) later →
      body.Steady (mayBeEmpty later.cells) later)
    (calls : ∀ known, parser.leftCalls known = body.leftCalls known)
    (start : ∀ input, (Job.bare parser input).first? = some (.call body input))
    (goesOn : ∀ (state after : State) (input : Value) (outcome : Outcome),
      parser.StaysSteady mayBeEmpty state.workspace →
      Ready mayBeEmpty (body.leftCalls (mayBeEmpty state.workspace.cells)) state.workspace
        input.length →
      Evaluates (.call body input) state ⟨.ok outcome, after⟩ →
      (Job.bare parser input).Ends state) : parser.EndsWhenReady mayBeEmpty := by
  refine Parser.endsWhenReady_of_bare fun state input steady ready => ?_
  rw [calls] at ready
  obtain ⟨⟨answer, after⟩, tried⟩ := ends state input (steady.part inside) ready
  cases answer with
  | error fault => exact ⟨_, .raise (start input) tried⟩
  | ok outcome => exact goesOn state after input outcome steady ready tried

/-- **A parser ends if the rules do that it may call.** By induction on the parser: only a rule can
lead out of it. -/
theorem Parser.BuiltIn.ends {parser : Parser} (builtIn : parser.BuiltIn) :
    parser.EndsWhenReady mayBeEmpty := by
  induction builtIn with
  | terminal leaf => exact Parser.endsWhenReady_of_bare fun _ _ _ _ => ⟨_, .terminal⟩
  | constant value => exact Parser.endsWhenReady_of_bare fun _ _ _ _ => ⟨_, .constant⟩
  | rule cell =>
    intro state input _ ready
    exact ready.here state input .refl rfl rfl cell List.mem_cons_self
  | @sequence first others head tail ends endsTail =>
    refine Parser.endsWhenReady_of_bare fun state input steady ready => ?_
    have parts := List.forall_mem_cons.2
      ⟨steady.part fun _ whole => by cases whole with | sequence head _ => exact head,
        fun parser member => steady.part fun _ whole => by
          cases whole with | sequence _ tail => exact tail parser member⟩
    obtain ⟨last, evaluates⟩ := all_ends (List.forall_mem_cons.2 ⟨head, tail⟩)
      (List.forall_mem_cons.2 ⟨ends, endsTail⟩) input input state parts ready
    exact ⟨last, .sequence evaluates⟩
  | @choice first others head tail ends endsTail =>
    refine Parser.endsWhenReady_of_bare fun state input steady ready => ?_
    obtain ⟨last, evaluates⟩ := any_ends ends endsTail input state
      (steady.part fun _ whole => by cases whole with | choice head _ => exact head)
      (fun parser member => steady.part fun _ whole => by
        cases whole with | choice _ tail => exact tail parser member) ready
    exact ⟨last, .choice evaluates⟩
  | @star body builtIn ends =>
    refine Parser.endsWhenReady_of_bare fun state input steady ready => ?_
    obtain ⟨last, evaluates⟩ := loop_ends builtIn ends input state
      (steady.part fun _ whole => by cases whole with | star inside _ => exact inside)
      (fun later unfolds => by cases steady later unfolds with | star _ consumes => exact consumes)
      ready
    exact ⟨last, .star evaluates⟩
  | @plus body builtIn ends =>
    have inside (later : Workspace)
        (steady : (Parser.plus body).Steady (mayBeEmpty later.cells) later) :
        body.Steady (mayBeEmpty later.cells) later := by
      cases steady with | plus inside _ => exact inside
    refine Parser.endsWhenReady_of_body ends inside (fun _ => rfl) (fun _ => rfl)
      fun state between input outcome steady ready round => ?_
    cases outcome with
    | fail payload rest => exact ⟨_, .plusFail round⟩
    | ok value middle =>
      -- after the first round it is a loop
      obtain ⟨unfolds, le, -⟩ := leaves_of_match round builtIn ready.wellFormed
      have next := ready.next unfolds le (fun cells => body.leftCalls (mayBeEmpty cells))
        fun _ => List.Subset.refl _
      obtain ⟨last, more⟩ := loop_ends builtIn ends middle between
        ((steady.part inside).later unfolds)
        (fun later more => by
          cases steady later (unfolds.trans more) with | plus _ consumes => exact consumes) next
      obtain ⟨own, -, evaluates, -⟩ := round.loop_cons more
      exact ⟨own, evaluates⟩
  | optional _ absent ends =>
    refine Parser.endsWhenReady_of_body ends
      (fun _ steady => by cases steady with | optional inside _ => exact inside) (fun _ => rfl)
      (fun _ => rfl) fun state after input outcome _ _ tried => ?_
    cases outcome with
    | ok value rest => exact ⟨_, .present tried⟩
    | fail payload rest => exact ⟨_, .absent tried⟩
  | ahead _ ends =>
    refine Parser.endsWhenReady_of_body ends
      (fun _ steady => by cases steady with | ahead inside => exact inside) (fun _ => rfl)
      (fun _ => rfl) fun state after input outcome _ _ tried => ?_
    cases outcome with
    | ok value rest => exact ⟨_, .aheadOk tried⟩
    | fail payload rest => exact ⟨_, .aheadFail tried⟩
  | notAhead _ ends =>
    refine Parser.endsWhenReady_of_body ends
      (fun _ steady => by cases steady with | notAhead inside => exact inside) (fun _ => rfl)
      (fun _ => rfl) fun state after input outcome _ _ tried => ?_
    cases outcome with
    | ok value rest => exact ⟨_, .notAheadFail tried⟩
    | fail payload rest => exact ⟨_, .notAheadOk tried⟩
  | transform _ name function ends =>
    refine Parser.endsWhenReady_of_body ends
      (fun _ steady => by cases steady with | transform inside _ _ => exact inside) (fun _ => rfl)
      (fun _ => rfl) fun state after input outcome _ _ tried => ?_
    cases outcome with
    | ok value rest => exact ⟨_, .transformOk tried⟩
    | fail payload rest => exact ⟨_, .transformFail tried⟩
  | @nested body inner _ _ form ends =>
    refine Parser.endsWhenReady_of_body ends
      (fun _ steady => by cases steady with | nested inside _ _ => exact inside) (fun _ => rfl)
      (fun _ => rfl) fun state between input outcome steady _ tried => ?_
    cases outcome with
    | fail payload rest => exact ⟨_, .nestedFail tried⟩
    | ok value rest =>
      -- the function that parses the value returns
      cases steady between.workspace (unfolds_of_evaluates tried) with
      | nested _ returns _ =>
        obtain ⟨fuel, last, ended⟩ := returns value
          { between with context := some { source := value } } rfl rfl
        exact ⟨_, .nestedOk tried (exists_run_iff.1 ⟨fuel, ended⟩)⟩
  | traced name _ ends =>
    refine Parser.endsWhenReady_of_bare fun state input steady ready => ?_
    obtain ⟨last, evaluates⟩ := ends state input
      (steady.part fun _ whole => by cases whole with | traced _ inside => exact inside) ready
    exact ⟨last, .traced evaluates⟩

/-! ## Rules that end -/

/-- The rules end on inputs of a length, if all rules end on shorter ones and with less to be built.
By induction on the order in which rules call each other before they consume. -/
theorem rule_ends_of_below {base : Workspace} {length : Nat}
    (ready : Ready mayBeEmpty [] base length) (cell : Nat) (state : State) (input : Value)
    (unfolds : base.Unfolds state.workspace) (same : state.workspace.cells = base.cells)
    (long : input.length = length) : (Job.call (.rule cell) input).Ends state := by
  -- at one place of the input the rules called to the left come before the rule
  have ordered := Workspace.wellFounded_of_acyclic (ready.wellFormed.rules base .refl).acyclic
  induction cell using ordered.induction generalizing state input with
  | _ cell callees =>
    cases found : (Workspace.resolve cell).outcome state.workspace with
    | mk answer after =>
      cases answer with
      | error fault => exact ⟨_, .unlabelled rfl (.unresolved found)⟩
      | ok body =>
        have more := unfolds.resolve found
        have wellFormed := ready.wellFormed.unfolds more
        have resolved := Workspace.bindingOf_of_resolve found
        have builtIn : body.BuiltIn := by
          have bound := wellFormed.builtIn.bindingOf cell
          rwa [resolved] at bound
        have steady : body.StaysSteady mayBeEmpty after := fun later yetMore =>
          (wellFormed.rules later yetMore).steady cell body (yetMore.bindingOf_eq resolved)
        have calls : Ready mayBeEmpty (body.leftCalls (mayBeEmpty after.cells)) after
            input.length := by
          obtain unchanged | fewer := more.cells_eq_or_debt_lt
          · -- the rule has had its body before, and the rules that it calls come before it
            have before : base.bindingOf cell = .resolved body := by
              rwa [Workspace.bindingOf, unchanged] at resolved
            have here : Ready mayBeEmpty (body.leftCalls (mayBeEmpty base.cells)) base length :=
              ⟨ready.wellFormed, ready.below, fun state input unfolds same long other member =>
                callees other ⟨body, before, member⟩ state input unfolds same long⟩
            exact here.next more (Nat.le_of_eq long)
              (fun cells => body.leftCalls (mayBeEmpty cells)) fun _ => List.Subset.refl _
          · -- it has been built just now
            exact ready.lower more (.inr ⟨long, fewer⟩) _
        have ends : (Job.under (after.nameOf cell) (.call body input)).Ends
            { state with workspace := after } :=
          Job.under_ends fun entered same =>
            builtIn.ends entered input (by rwa [same]) (by rwa [same])
        obtain ⟨last, evaluates⟩ := ends
        exact ⟨last, .unlabelled rfl (.resolved found evaluates)⟩

/-- **Every rule of a well-formed grammar ends**, by induction on the length of the input and, for
inputs of one length, on what is still to be built. -/
theorem rule_ends (cell : Nat) (state : State) (input : Value)
    (wellFormed : state.workspace.WellFormed mayBeEmpty) :
    (Job.call (.rule cell) input).Ends state := by
  induction long : input.length using Nat.strong_induction_on
    generalizing cell state input with
  | _ length shorter =>
    induction owed : state.workspace.debt using Nat.strong_induction_on
      generalizing cell state input with
    | _ debt fewer =>
      refine rule_ends_of_below ⟨wellFormed, fun later rest unfolds less other => ?_,
        fun _ _ _ _ _ _ member => nomatch member⟩ cell state input .refl rfl long
      have still := wellFormed.unfolds unfolds
      obtain less | ⟨equal, less⟩ := less
      · exact shorter rest.length less other later rest still rfl
      · exact fewer later.workspace.debt (owed ▸ less) other later rest still equal rfl

end Ready

/-! ## Parses that end -/

/-- What ends does so with some fuel. -/
theorem Job.Ends.exists_run {parser : Parser} {input : Value} {state : State}
    (ends : (Job.call parser input).Ends state) :
    ∃ fuel last, run fuel (.call parser input) [] state = some last := by
  obtain ⟨last, evaluates⟩ := ends
  obtain ⟨fuel, ended⟩ := exists_run_iff.2 evaluates
  exact ⟨fuel, last, ended⟩

/-- A parse ends if its parser does. -/
theorem Job.Ends.exists_parse {workspace : Workspace} {parser : Parser} {input : Value}
    {tracer : Option Tracer}
    (ends : (Job.call parser input).Ends (.initial workspace input tracer)) :
    ∃ fuel report, parse fuel workspace parser input tracer = some report := by
  obtain ⟨fuel, last, ended⟩ := ends.exists_run
  exact ⟨fuel, _, Option.map_eq_some_iff.2 ⟨last, ended, rfl⟩⟩

/-- A rule without a definition ends at once. -/
theorem undefined_ends {state : State} {cell : Nat}
    (undefined : state.workspace.bindingOf cell = .undefined) (input : Value) :
    (Job.call (.rule cell) input).Ends state := by
  have raises : (Workspace.resolve cell).outcome state.workspace
      = (.error (.grammar (.undefinedRule (state.workspace.nameOf cell))), state.workspace) := by
    rw [Workspace.outcome_resolve, undefined]
  exact ⟨_, .unlabelled rfl (.unresolved raises)⟩

/-- **Well-formed grammars come to an end on every input.** Let no rule be able to reach itself
before something has been consumed, and let no repetition have a body that may match without
consuming, where what may match without consuming is told by any sound approximation. Then a run
from any rule, on any input and in any state, ends after finitely many steps with an outcome or a
fault, and so does a parse from any start rule. -/
theorem wellFormed_grammar_ends {workspace : Workspace}
    {mayBeEmpty : Array RuleCell → Parser → Bool} (wellFormed : workspace.WellFormed mayBeEmpty) :
    (∀ (cell : Nat) (input : Value) (state : State), state.workspace = workspace →
      ∃ fuel last, run fuel (.call (.rule cell) input) [] state = some last)
    ∧ ∀ (start : Option String) (input : Value) (tracer : Option Tracer),
      ∃ fuel report, parseFrom fuel workspace start input tracer = some report := by
  refine ⟨?_, fun start input tracer => ?_⟩
  · rintro cell input state rfl
    exact (rule_ends cell state input wellFormed).exists_run
  · simp only [parseFrom_eq, Workspace.outcome_startRule]
    cases workspace.check with
    | error fault => exact ⟨0, _, rfl⟩
    | ok _ =>
      cases workspace.startOr start with
      | error fault => exact ⟨0, _, rfl⟩
      | ok name =>
        dsimp only
        cases workspace.grammar.rules.lookup name with
        | some cell => exact (rule_ends cell _ input wellFormed).exists_parse
        | none =>
          -- the name is mentioned for the first time, so that its rule has no definition
          refine (undefined_ends ?_ input).exists_parse
          exact (workspace.withCell_bindingOf ⟨name, .undefined, 0⟩ _).trans (if_pos rfl)

/-! ## Groups within groups -/

/-- A group, or a character that does not close one. -/
def itemParser : Parser :=
  .choice (.rule 1)
    [.sequence (.notAhead (.terminal (.literal (.ofString ")")))) [.terminal .anyItem]]

/-- Items in parentheses, after blanks. -/
def groupParser : Parser :=
  .sequence (.rule 2)
    [.terminal (.literal (.ofString "(")), .star (.rule 0), .terminal (.literal (.ofString ")"))]

/-- Blanks, or none. -/
def blanksParser : Parser := .star (.terminal (.literal (.ofString " ")))

/-- The rules for groups within groups. An item starts with a group and a group with blanks, so that
before something has been consumed the first may call the second, and the second the third. -/
def groupsCells (blanks : Binding) (builds : Nat) : Array RuleCell :=
  #[⟨"item", .resolved itemParser, 0⟩, ⟨"group", .resolved groupParser, 0⟩,
    ⟨"blanks", blanks, builds⟩]

/-- The grammar of groups within groups, in which the rule for blanks is deferred. -/
def groupsWorkspace : Workspace where
  cells := groupsCells (.pending (.star (.literal (.ofString " ")))) 0
  grammar := { rules := [("item", 0), ("group", 1), ("blanks", 2)], start := some "item" }

/-- All that the rules can unfold to is that the one for blanks is built. -/
theorem cells_of_unfolds {later : Workspace} (unfolds : groupsWorkspace.Unfolds later) :
    later.cells = groupsWorkspace.cells
      ∨ later.cells = groupsCells (.resolved blanksParser) 1 := by
  induction unfolds with
  | refl => exact .inl rfl
  | remember _ _ inductionHypothesis => exact inductionHypothesis
  | @resolve second third cell body _ found inductionHypothesis =>
    obtain ⟨cells, grammar, kept, memories⟩ := second
    obtain rfl | rfl := inductionHypothesis
    · match cell, found with
      | 0, rfl => exact .inl rfl
      | 1, rfl => exact .inl rfl
      | 2, rfl => exact .inr rfl
    · match cell, found with
      | 0, rfl => exact .inr rfl
      | 1, rfl => exact .inr rfl
      | 2, rfl => exact .inr rfl

/-- What holds of each of the three bodies holds of every rule, whatever has been built. -/
theorem forall_groups {later : Workspace} (unfolds : groupsWorkspace.Unfolds later)
    {holds : Nat → Parser → Prop} (item : holds 0 itemParser) (group : holds 1 groupParser)
    (blanks : holds 2 blanksParser) (cell : Nat) (body : Parser)
    (resolved : later.bindingOf cell = .resolved body) : holds cell body := by
  rw [Workspace.bindingOf] at resolved
  obtain same | same := cells_of_unfolds unfolds <;> rw [same] at resolved
  · rcases cell with _ | _ | _ | cell <;> cases resolved
    · exact item
    · exact group
  · rcases cell with _ | _ | _ | cell <;> cases resolved
    · exact item
    · exact group
    · exact blanks

/-- Groups within groups are well-formed: only blanks may match without consuming. So a parse of a
text comes to an end. -/
theorem nested_groups_end :
    groupsWorkspace.WellFormed (fun _ => Parser.mayBeEmpty (· == 2))
    ∧ ∃ fuel report, parseFrom fuel groupsWorkspace none (.ofString " ( (a)b") none
      = some report := by
  have builtIn : groupsWorkspace.BuiltIn := by
    refine ⟨?_, fun _ member => nomatch member⟩
    simp only [groupsWorkspace, groupsCells, List.mem_toArray, List.forall_mem_cons]
    refine ⟨.choice (.rule 1) ?_, .sequence (.rule 2) ?_, .star (.literal _),
      fun _ member => nomatch member⟩
    · exact List.forall_mem_singleton.2
        (.sequence (.notAhead (.terminal _)) (List.forall_mem_singleton.2 (.terminal _)))
    · simp only [List.forall_mem_cons]
      exact ⟨.terminal _, .star (.rule 0), .terminal _, fun _ member => nomatch member⟩
  have wellFormed : groupsWorkspace.WellFormed (fun _ => Parser.mayBeEmpty (· == 2)) := by
    refine Workspace.wellFormed_of_rank (fun cell => 2 - cell) builtIn
      (fun later unfolds => forall_groups unfolds nofun nofun fun _ => rfl)
      (fun later unfolds => forall_groups unfolds ?_ ?_ ?_)
      (fun later unfolds => forall_groups unfolds ?_ ?_ ?_)
    · exact .choice (.rule 1) (List.forall_mem_singleton.2
        (.sequence (.notAhead (.terminal _)) (List.forall_mem_singleton.2 (.terminal _))))
    · refine .sequence (.rule 2) ?_
      simp only [List.forall_mem_cons]
      exact ⟨.terminal _, .star (.rule 0) rfl, .terminal _, fun _ member => nomatch member⟩
    · exact .star (.terminal _) rfl
    · exact List.forall_mem_singleton.2 (by decide)
    · exact List.forall_mem_singleton.2 (by decide)
    · exact fun _ member => nomatch member
  exact ⟨wellFormed, (wellFormed_grammar_ends wellFormed).2 none _ none⟩

end Peg
