import Peg.Parse
import Peg.Proofs.BuiltIn
import Peg.Proofs.Simulation
import Peg.Proofs.State

/-! # What parsers hand back

A match hands back a rest of its input and a failure the input itself: `Evaluates.fits`, by
induction on the evaluation, for parsers whose terminals are built in. The combinators that give
their own input back do so whatever their parts report, so for them no assumption is needed; the
same holds for where the next try of a choice, an optional parser or a repetition starts. -/

namespace Peg

open Progress

/-! ## Rests -/

/-- What is left of a value after some of its elements. -/
def Value.IsRestOf (rest source : Value) : Prop :=
  ∃ count ≤ source.length, rest = source.drop count

namespace Value.IsRestOf

/-- A value is a rest of itself, with nothing dropped. -/
theorem refl (source : Value) : source.IsRestOf source :=
  ⟨0, Nat.zero_le _, (Value.drop_zero source).symm⟩

/-- A rest of a rest is a rest. -/
theorem trans {last middle source : Value} (late : last.IsRestOf middle)
    (early : middle.IsRestOf source) : last.IsRestOf source := by
  obtain ⟨first, _, rfl⟩ := early
  obtain ⟨second, bound, rfl⟩ := late
  rw [Value.length_drop] at bound
  exact ⟨first + second, by omega, Value.drop_drop first second source⟩

/-- However many elements are dropped, a rest is left. -/
theorem drop (source : Value) (count : Nat) : (source.drop count).IsRestOf source := by
  rcases Nat.le_total count source.length with short | long
  · exact ⟨count, short, rfl⟩
  · refine ⟨source.length, Nat.le_refl _, ?_⟩
    cases source <;> simp_all [Value.drop, Value.length]

/-- A rest is no longer than its source. -/
theorem length_le {rest source : Value} (isRest : rest.IsRestOf source) :
    rest.length ≤ source.length := by
  obtain ⟨count, -, rfl⟩ := isRest
  rw [Value.length_drop]
  omega

/-- A rest is a sequence exactly if its source is one. -/
theorem isSequence_eq {rest source : Value} (isRest : rest.IsRestOf source) :
    rest.isSequence = source.isSequence := by
  obtain ⟨count, -, rfl⟩ := isRest
  exact Value.isSequence_drop count source

/-- A rest is found by its length alone. -/
theorem eq_drop {rest source : Value} (isRest : rest.IsRestOf source) :
    rest = source.drop (source.length - rest.length) := by
  obtain ⟨count, bound, rfl⟩ := isRest
  rw [Value.length_drop, Nat.sub_sub_self bound]

end Value.IsRestOf

namespace Terminal

/-- What a pattern leaves after a match is a rest of its input. -/
theorem isRestOf_of_matchPattern {pattern : Pattern} {input value rest : Value}
    (found : matchPattern pattern input = .ok (.matched value rest)) : rest.IsRestOf input := by
  unfold matchPattern at found
  split at found
  · split at found
    · cases found
      exact .drop (.str _) _
    · cases found
  · split at found
    · cases found
      exact .drop (.bytes _) _
    · cases found
  · cases found

/-- What the test of a single element leaves after a match is a rest of its input. -/
theorem isRestOf_of_matchElement {test : Value → Except Fault Bool}
    {expected input value rest : Value}
    (found : matchElement test expected input = .ok (.matched value rest)) :
    rest.IsRestOf input := by
  unfold matchElement at found
  split at found
  · split at found
    · cases found
    · rename_i element _
      cases passed : test element with
      | error fault => simp [passed, bind, Except.bind] at found
      | ok truth =>
        cases truth with
        | false => simp [passed, bind, Except.bind, pure, Except.pure] at found
        | true =>
          simp only [passed, bind, Except.bind, pure, Except.pure, if_true, Except.ok.injEq,
            Verdict.matched.injEq] at found
          rw [← found.2]
          exact .drop input 1
  · cases found

/-- A terminal that matches reads from the front of its input. -/
theorem isRestOf_of_verdict {leaf : Terminal} {input value rest : Value}
    (found : leaf.verdict input = .ok (.matched value rest)) : rest.IsRestOf input := by
  cases leaf with
  | token pattern => exact isRestOf_of_matchPattern found
  | literal text =>
    simp only [verdict] at found
    split at found
    · split at found
      · cases found
        exact .drop input text.length
      · cases found
    · cases found
  | satisfy test expected => exact isRestOf_of_matchElement found
  | endOfInput =>
    simp only [verdict] at found
    split at found
    · split at found
      · cases found
        exact .refl input
      · cases found
    · cases found
  | succeed value =>
    cases found
    exact .refl input
  | fail payload => cases found
  | lexical label kind => exact isRestOf_of_matchElement found

end Terminal

/-! ## Built-in parsers -/

/-- All parsers that a job is about are built in. -/
def Job.BuiltIn : Job → Prop
  | .call parser _ => parser.BuiltIn
  | .bare parser _ => parser.BuiltIn
  | .under _ job => job.BuiltIn
  | .all _ parsers _ => ∀ parser ∈ parsers, parser.BuiltIn
  | .any first others _ => first.BuiltIn ∧ ∀ parser ∈ others, parser.BuiltIn
  | .loop body _ => body.BuiltIn

/-- The input that a job hands back when it fails. -/
def Job.entry : Job → Value
  | .all entry _ _ => entry
  | .under _ job => job.entry
  | job => job.input

/-- A match hands back a rest of the input of the job, a failure the input that the job has to hand
back. -/
def Ending.Fits (job : Job) (last : Ending) : Prop :=
  match last.answer with
  | .ok (.ok _ rest) => rest.IsRestOf job.input
  | .ok (.fail _ rest) => rest = job.entry
  | .error _ => True

/-- What a job starts with is built in when the job is. -/
theorem Job.BuiltIn.first? {job first : Job} (builtIn : job.BuiltIn)
    (start : job.first? = some first) : first.BuiltIn := by
  revert start
  fun_cases Job.first? job with
  | case1 body input => intro start; cases start; cases builtIn with | plus inside => exact inside
  | case2 body absent input =>
    intro start; cases start; cases builtIn with | optional inside => exact inside
  | case3 body input => intro start; cases start; cases builtIn with | ahead inside => exact inside
  | case4 body input =>
    intro start; cases start; cases builtIn with | notAhead inside => exact inside
  | case5 body input =>
    intro start; cases start; cases builtIn with | transform inside => exact inside
  | case6 body input =>
    intro start; cases start; cases builtIn with | nested inside => exact inside
  | case7 => intro start; cases start; exact builtIn _ List.mem_cons_self
  | case8 => intro start; cases start; exact builtIn.1
  | case9 => intro start; cases start; exact builtIn
  | case10 => simp

/-- **What built-in parsers hand back.** By induction on the evaluation: rests of rests are rests,
the combinators that must give their input back do, and the workspace stays built in, so that the
rules met on the way are covered too. -/
theorem Evaluates.fits {job : Job} {state : State} {last : Ending}
    (evaluates : Evaluates job state last) (builtIn : job.BuiltIn)
    (workspace : state.workspace.BuiltIn) :
    last.Fits job ∧ last.state.workspace.BuiltIn := by
  induction evaluates with
  | unlabelled _ _ body => exact body builtIn workspace
  | labelled _ _ body => exact body builtIn workspace
  | unwatched _ _ body => exact body builtIn workspace
  | refused => exact ⟨trivial, workspace⟩
  | @watched label job state entered context last current watched entry _ body =>
    have workspace : (entered.setDepth (context.depth + 1)).workspace.BuiltIn := by
      rw [State.setDepth_workspace, State.emit_workspace entry]
      exact workspace
    obtain ⟨fits, workspace⟩ := body builtIn workspace
    refine ⟨?_, by rw [Ending.leave_workspace]; exact workspace⟩
    obtain ⟨events, same⟩ | ⟨fault, raised, same⟩ | ⟨fault, same⟩ :=
      last.leave_cases label context.depth
    · rw [same]
      exact fits
    · rw [same]
      simp only [Ending.Fits, raised]
    · rw [same]
      trivial
  | @terminal leaf input state =>
    obtain ⟨value, rest, found, same⟩ | ⟨payload, -, same⟩ | ⟨fault, same⟩ :=
      leaf.read_cases input state
    · rw [same]
      exact ⟨Terminal.isRestOf_of_verdict found, workspace⟩
    · rw [same]
      refine ⟨?_, by rw [State.failOn_workspace]; exact workspace⟩
      obtain ⟨noted, -, same⟩ | ⟨fault, same⟩ := state.failOn_cases payload input <;> rw [same] <;>
        trivial
    · rw [same]
      exact ⟨trivial, workspace⟩
  | foreign =>
    -- a terminal written by hand may hand back anything, but it is not built in
    cases builtIn
  | sequence _ parts =>
    cases builtIn with
    | sequence head tail => exact parts (List.forall_mem_cons.2 ⟨head, tail⟩) workspace
  | @allNil entry input state => exact ⟨Value.IsRestOf.refl input, workspace⟩
  | allCons _ _ head tail =>
    obtain ⟨first, others⟩ := List.forall_mem_cons.1 builtIn
    obtain ⟨early, workspace⟩ := head first workspace
    obtain ⟨late, workspace⟩ := tail others workspace
    exact ⟨Value.IsRestOf.trans late early, workspace⟩
  | allFail _ head =>
    obtain ⟨-, workspace⟩ := head (builtIn _ List.mem_cons_self) workspace
    exact ⟨rfl, workspace⟩
  | allFailLater _ _ head tail =>
    obtain ⟨first, others⟩ := List.forall_mem_cons.1 builtIn
    obtain ⟨-, workspace⟩ := head first workspace
    exact tail others workspace
  | allRaiseLater _ _ head tail =>
    obtain ⟨first, others⟩ := List.forall_mem_cons.1 builtIn
    obtain ⟨-, workspace⟩ := head first workspace
    exact ⟨trivial, (tail others workspace).2⟩
  | choice _ alternatives =>
    cases builtIn with
    | choice head tail => exact alternatives ⟨head, tail⟩ workspace
  | anyOk _ head => exact head builtIn.1 workspace
  | anyLast _ head => exact ⟨rfl, (head builtIn.1 workspace).2⟩
  | anyNext _ _ head tail =>
    obtain ⟨second, others⟩ := List.forall_mem_cons.1 builtIn.2
    exact tail ⟨second, others⟩ (head builtIn.1 workspace).2
  | star _ rounds =>
    cases builtIn with
    | star inside => exact rounds inside workspace
  | @loopStop body input payload rest state after _ round =>
    exact ⟨Value.IsRestOf.refl input, (round builtIn workspace).2⟩
  | loopMore _ _ round more =>
    obtain ⟨early, workspace⟩ := round builtIn workspace
    obtain ⟨late, workspace⟩ := more builtIn workspace
    exact ⟨Value.IsRestOf.trans late early, workspace⟩
  | loopRaiseLater _ _ round more =>
    obtain ⟨-, workspace⟩ := round builtIn workspace
    exact ⟨trivial, (more builtIn workspace).2⟩
  | plusFail _ round =>
    cases builtIn with
    | plus inside => exact ⟨rfl, (round inside workspace).2⟩
  | plusMore _ _ round more =>
    cases builtIn with
    | plus inside =>
      obtain ⟨early, workspace⟩ := round inside workspace
      obtain ⟨late, workspace⟩ := more inside workspace
      exact ⟨Value.IsRestOf.trans late early, workspace⟩
  | plusRaiseLater _ _ round more =>
    cases builtIn with
    | plus inside =>
      obtain ⟨-, workspace⟩ := round inside workspace
      exact ⟨trivial, (more inside workspace).2⟩
  | present _ head =>
    cases builtIn with
    | optional inside => exact head inside workspace
  | @absent body input absent payload rest state after _ head =>
    cases builtIn with
    | optional inside => exact ⟨Value.IsRestOf.refl input, (head inside workspace).2⟩
  | @aheadOk body input value rest state after _ head =>
    cases builtIn with
    | ahead inside => exact ⟨Value.IsRestOf.refl input, (head inside workspace).2⟩
  | aheadFail _ head =>
    cases builtIn with
    | ahead inside => exact ⟨rfl, (head inside workspace).2⟩
  | @notAheadFail body input value rest state after _ head =>
    cases builtIn with
    | notAhead inside =>
      refine ⟨?_, by rw [State.failOn_workspace]; exact (head inside workspace).2⟩
      obtain ⟨noted, -, same⟩ | ⟨fault, same⟩ := after.failOn_cases value input <;> rw [same] <;>
        trivial
  | @notAheadOk body input payload rest state after _ head =>
    cases builtIn with
    | notAhead inside =>
      -- the record goes back to what it was, the workspace does not
      refine ⟨Value.IsRestOf.refl input, ?_⟩
      rw [State.restoreRecord_workspace]
      exact (head inside workspace).2
  | @transformOk body name function input value rest state after _ head =>
    cases builtIn with
    | transform inside =>
      obtain ⟨fits, workspace⟩ := head inside workspace
      refine ⟨?_, workspace⟩
      cases applied : function value with
      | error fault => trivial
      | ok result => exact fits
  | transformFail _ head =>
    cases builtIn with
    | transform inside => exact head inside workspace
  | @nestedOk body inner form input value rest state between last _ _ head nested =>
    -- what is left of the value does not matter: the rest is that of the body
    cases builtIn with
    | nested inside second =>
      obtain ⟨fits, workspace⟩ := head inside workspace
      obtain ⟨-, workspace⟩ := nested second workspace
      refine ⟨?_, by rw [Ending.unnest_workspace]; exact workspace⟩
      obtain ⟨value, same⟩ | ⟨fault, same⟩ := last.unnest_cases form between.context rest
      · rw [same]
        exact fits
      · rw [same]
        trivial
  | nestedFail _ head =>
    cases builtIn with
    | nested inside second => exact head inside workspace
  | traced _ inside =>
    cases builtIn with
    | traced name body => exact inside body workspace
  | @unresolved cell input fault state after found =>
    -- a rule whose building fails may have built others before
    have keeps := (Workspace.resolve_keepsBuiltIn cell state.workspace workspace).1
    simp only [Edit.outcome, found] at keeps
    exact ⟨trivial, keeps⟩
  | @resolved cell body input state after last found _ inside =>
    -- the parser may have been built just now, from a description that is built in
    obtain ⟨keeps, has⟩ := Workspace.resolve_keepsBuiltIn cell state.workspace workspace
    simp only [Edit.outcome, found] at keeps has
    exact inside (has body rfl) keeps
  | constant => exact ⟨trivial, workspace⟩
  | raise start _ head => exact ⟨trivial, (head (builtIn.first? start) workspace).2⟩

/-! ## Combinators that give their own input back -/

/-- What a job under a label comes to, the job has come to. -/
theorem Evaluates.inside_of_under {label : String} {job : Job} {state after : State}
    {outcome : Outcome} (evaluates : Evaluates (.under label job) state ⟨.ok outcome, after⟩) :
    ∃ entered left, entered.workspace = state.workspace
      ∧ Evaluates job entered ⟨.ok outcome, left⟩ := by
  generalize ended : (⟨.ok outcome, after⟩ : Ending) = last at evaluates
  cases evaluates with
  | unwatched quiet inside =>
    subst ended
    exact ⟨state, after, rfl, inside⟩
  | refused => cases ended
  | raise start head => cases ended
  | @watched _ _ _ entered context inner current watched entry inside =>
    have answer : inner.answer = .ok outcome := by
      apply Ending.answer_of_leave
      rw [← ended]
    obtain ⟨_, left⟩ := inner
    cases answer
    refine ⟨entered.setDepth (context.depth + 1), left, ?_, inside⟩
    rw [State.setDepth_workspace, State.emit_workspace entry]

/-- What a call comes to, the parser without its label has come to. -/
theorem Evaluates.bare_of_call {parser : Parser} {input : Value} {state after : State}
    {outcome : Outcome} (evaluates : Evaluates (.call parser input) state ⟨.ok outcome, after⟩) :
    ∃ entered left, entered.workspace = state.workspace
      ∧ Evaluates (.bare parser input) entered ⟨.ok outcome, left⟩ := by
  cases evaluates with
  | unlabelled label body => exact ⟨state, after, rfl, body⟩
  | labelled found body => exact body.inside_of_under

/-- Parsers in a row fail with the input of the row, wherever in it they failed. -/
theorem Evaluates.rest_of_all {entry input payload rest : Value} {parsers : List Parser}
    {state after : State}
    (evaluates : Evaluates (.all entry parsers input) state ⟨.ok (.fail payload rest), after⟩) :
    rest = entry := by
  induction parsers generalizing input state with
  | nil => cases evaluates
  | cons parser others inductionHypothesis =>
    cases evaluates with
    | allFail head => rfl
    | allFailLater head tail => exact inductionHypothesis tail

/-- Alternatives fail with the input that all of them were given. -/
theorem Evaluates.rest_of_any {first : Parser} {others : List Parser} {input payload rest : Value}
    {state after : State}
    (evaluates : Evaluates (.any first others input) state ⟨.ok (.fail payload rest), after⟩) :
    rest = input := by
  induction others generalizing first state with
  | nil =>
    cases evaluates with
    | anyLast head => rfl
  | cons second others inductionHypothesis =>
    cases evaluates with
    | anyNext head tail => exact inductionHypothesis tail

/-- The parsers that hand their own input back when they fail, whatever their parts report. -/
inductive Parser.Rewinds : Parser → Prop
  | sequence (first : Parser) (others : List Parser) : Rewinds (.sequence first others)
  | choice (first : Parser) (others : List Parser) : Rewinds (.choice first others)
  | plus (body : Parser) : Rewinds (.plus body)
  | ahead (body : Parser) : Rewinds (.ahead body)
  | notAhead (body : Parser) : Rewinds (.notAhead body)

/-- A parser of this kind hands its own input back when it fails. -/
theorem Parser.Rewinds.rest_eq {parser : Parser} (rewinds : parser.Rewinds)
    {input payload rest : Value} {state after : State}
    (evaluates : Evaluates (.call parser input) state ⟨.ok (.fail payload rest), after⟩) :
    rest = input := by
  obtain ⟨entered, left, -, bare⟩ := evaluates.bare_of_call
  -- the end is named, since the fault rule applies to every job and has to be ruled out each time
  generalize ended : (⟨.ok (.fail payload rest), left⟩ : Ending) = last at bare
  cases rewinds with
  | sequence first others =>
    cases bare with
    | sequence parts =>
      subst ended
      exact parts.rest_of_all
    | raise start head => cases ended
  | choice first others =>
    cases bare with
    | choice alternatives =>
      subst ended
      exact alternatives.rest_of_any
    | raise start head => cases ended
  | plus body =>
    cases bare with
    | plusFail round =>
      cases ended
      rfl
    | plusMore round more => cases ended
    | plusRaiseLater round more => cases ended
    | raise start head => cases ended
  | ahead body =>
    cases bare with
    | aheadOk head => cases ended
    | aheadFail head =>
      cases ended
      rfl
    | raise start head => cases ended
  | notAhead body =>
    cases bare with
    | @notAheadFail _ _ value _ _ after head =>
      obtain ⟨noted, -, same⟩ | ⟨fault, same⟩ := after.failOn_cases value input
      · rw [same] at ended
        cases ended
        rfl
      · rw [same] at ended
        cases ended
    | notAheadOk head => cases ended
    | raise start head => cases ended

/-- The parsers that never fail. -/
inductive Parser.Unfailing : Parser → Prop
  | star (body : Parser) : Unfailing (.star body)
  | optional (body : Parser) (absent : Value) : Unfailing (.optional body absent)

/-- A parser of this kind never fails, although it may raise a fault or go on for ever. -/
theorem Parser.Unfailing.not_fail {parser : Parser} (unfailing : parser.Unfailing)
    {input payload rest : Value} {state after : State} :
    ¬ Evaluates (.call parser input) state ⟨.ok (.fail payload rest), after⟩ := by
  intro evaluates
  obtain ⟨entered, left, -, bare⟩ := evaluates.bare_of_call
  cases unfailing with
  | star body =>
    cases bare with
    | star rounds =>
      obtain ⟨values, rest, same⟩ := rounds.loop_eq_list
      cases same
  | optional body absent => cases bare

/-! ## Where the next try starts -/

/-- Several parsers fail on the same input one after the other. Nothing is said about the rests that
they report. -/
inductive FailInTurn (input : Value) : List Parser → State → State → Prop
  /-- No parser has been tried. -/
  | nil (state : State) : FailInTurn input [] state state
  /-- One fails, and then the others do. -/
  | cons {parser : Parser} {others : List Parser} {payload rest : Value}
      {state between after : State}
      (head : Evaluates (.call parser input) state ⟨.ok (.fail payload rest), between⟩)
      (tail : FailInTurn input others between after) :
      FailInTurn input (parser :: others) state after

/-- Several rounds match one after the other, each on what the one before has left. -/
inductive MatchInTurn (body : Parser) : Value → State → List Value → Value → State → Prop
  /-- No round has been made. -/
  | nil (input : Value) (state : State) : MatchInTurn body input state [] input state
  /-- One matches, and then the others do. -/
  | cons {input value middle rest : Value} {values : List Value} {state between after : State}
      (head : Evaluates (.call body input) state ⟨.ok (.ok value middle), between⟩)
      (tail : MatchInTurn body middle between values rest after) :
      MatchInTurn body input state (value :: values) rest after

/-- After alternatives that fail, the next one is called on the input of the choice. -/
theorem FailInTurn.reaches {input : Value} {failed : List Parser} {state after : State}
    (turn : FailInTurn input failed state after) {first next : Parser}
    {others left : List Parser} (split : first :: others = failed ++ next :: left)
    (stack : List Frame) :
    Reaches ((Parser.choice first others).start input stack state)
      (.call next input (.choice input left :: stack) after) := by
  induction turn generalizing first others with
  | nil state =>
    cases split
    exact .refl _
  | @cons parser remaining payload rest state between after head tail inductionHypothesis =>
    obtain ⟨rfl, rfl⟩ := List.cons.inj split
    -- the frame of the choice passes the failure on to an alternative that is still there
    cases remaining with
    | nil =>
      cases tail
      exact (head.reaches [] (.choice input (next :: left) :: stack)).receive
    | cons second remaining =>
      have start :=
        (head.reaches [] (.choice input (second :: remaining ++ next :: left) :: stack)).receive
      exact start.trans (inductionHypothesis rfl)

/-- After rounds that match, the next one is called on what the last one has left. -/
theorem MatchInTurn.reaches {body : Parser} {input rest : Value} {values : List Value}
    {state after : State} (turn : MatchInTurn body input state values rest after)
    (done : List Value) (stack : List Frame) :
    Reaches ((Job.loop body input).point done stack state)
      ((Job.loop body rest).point (values.reverse ++ done) stack after) := by
  induction turn generalizing done with
  | nil input state => exact .refl _
  | @cons input value middle rest values state between after head tail inductionHypothesis =>
    have start := (head.reaches [] (.loop body done input :: stack)).receive
    have finish := inductionHypothesis (value :: done)
    rw [List.reverse_cons, List.append_assoc, List.singleton_append]
    exact start.trans finish

/-- A parser that passes the failures of another one on as they are, and the state in which it calls
that one. -/
inductive Parser.PassesOn (state : State) : Parser → Parser → State → Prop
  | transform (body : Parser) (name : String) (function : Value → Except Fault Value) :
      PassesOn state (.transform body name function) body state
  | nested (body inner : Parser) (form : NestedForm) :
      PassesOn state (.nested body inner form) body state
  | traced (name : String) (body : Parser) : PassesOn state (.traced name body) body state
  | rule {cell : Nat} {body : Parser} {workspace : Workspace}
      (found : (Workspace.resolve cell).run.run state.workspace = (.ok body, workspace)) :
      PassesOn state (.rule cell) body { state with workspace := workspace }

/-- Without a tracer a parser is called as it is without its label. -/
theorem Evaluates.call_of_bare {parser : Parser} {input : Value} {state : State} {last : Ending}
    (quiet : state.tracer? = none) (bare : Evaluates (.bare parser input) state last) :
    Evaluates (.call parser input) state last := by
  cases label : parser.label? with
  | none => exact .unlabelled label bare
  | some name => exact .labelled label (.unwatched quiet bare)

/-- A failure of the inner parser is handed on with its payload and its rest unchanged. -/
theorem Parser.PassesOn.fail {state start after : State} {parser body : Parser}
    (passesOn : parser.PassesOn state body start) (quiet : state.tracer? = none)
    {input payload rest : Value}
    (inside : Evaluates (.call body input) start ⟨.ok (.fail payload rest), after⟩) :
    Evaluates (.call parser input) state ⟨.ok (.fail payload rest), after⟩ := by
  refine .call_of_bare quiet ?_
  cases passesOn with
  | transform => exact .transformFail inside
  | nested => exact .nestedFail inside
  | traced => exact .traced inside
  | rule found => exact .resolved found (.unwatched quiet inside)

/-- A failure that is passed on is the one that the other parser reported. -/
theorem Parser.PassesOn.inside {state start after : State} {parser body : Parser}
    (passesOn : parser.PassesOn state body start) {input payload rest : Value}
    (evaluates : Evaluates (.call parser input) state ⟨.ok (.fail payload rest), after⟩) :
    ∃ entered left, entered.workspace = start.workspace
      ∧ Evaluates (.call body input) entered ⟨.ok (.fail payload rest), left⟩ := by
  obtain ⟨entered, left, same, bare⟩ := evaluates.bare_of_call
  generalize ended : (⟨.ok (.fail payload rest), left⟩ : Ending) = last at bare
  cases passesOn with
  | transform body name function =>
    cases bare with
    | @transformOk _ _ _ _ value _ _ _ head =>
      cases applied : function value <;> simp [applied, Except.map] at ended
    | transformFail head =>
      cases ended
      exact ⟨entered, left, same, head⟩
    | raise start head => cases ended
  | nested body inner form =>
    cases bare with
    | @nestedOk _ _ _ _ _ rest _ between last head nested =>
      obtain ⟨value, same⟩ | ⟨fault, same⟩ := last.unnest_cases form between.context rest <;>
        rw [same] at ended <;> cases ended
    | nestedFail head =>
      cases ended
      exact ⟨entered, left, same, head⟩
    | raise start head => cases ended
  | traced name body =>
    cases bare with
    | traced inside =>
      subst ended
      exact ⟨entered, left, same, inside⟩
    | raise start head => cases ended
  | rule found =>
    cases bare with
    | unresolved missing => cases ended
    | resolved again inside =>
      subst ended
      -- the rule is resolved as it was found to be, since the tracer does not change the workspace
      rw [same, found] at again
      cases again
      exact inside.inside_of_under
    | raise start head => cases ended

/-! ## Successful parses -/

/-- A position exists only in a sequence, and is the number of elements before the rest. -/
theorem Failure.positionIn_eq {source unconsumed : Value} {position : Int}
    (found : positionIn source unconsumed = .ok position) :
    source.isSequence ∧ unconsumed.isSequence
      ∧ position = (source.length : Int) - unconsumed.length := by
  unfold positionIn at found
  split at found
  · rename_i sequences
    cases found
    rw [Bool.and_eq_true] at sequences
    exact ⟨sequences.1, sequences.2, rfl⟩
  · cases found

/-- A parse ends as the run of its parser does. -/
theorem exists_evaluates_of_parse {fuel : Nat} {workspace : Workspace} {parser : Parser}
    {input : Value} {tracer : Option Tracer} {report : Report Success}
    (parsed : parse fuel workspace parser input tracer = some report) :
    ∃ last, Evaluates (.call parser input) (.initial workspace input tracer) last
      ∧ report.answer = last.answer.bind last.state.conclude := by
  obtain ⟨last, ended, rfl⟩ := Option.map_eq_some_iff.1 parsed
  exact ⟨last, exists_run_iff.1 ⟨fuel, ended⟩, rfl⟩

/-- A context that evaluation leaves behind has the input of the parse as its source. -/
theorem source_eq_of_evaluates {workspace : Workspace} {parser : Parser} {input : Value}
    {tracer : Option Tracer} {outcome : Outcome} {after : State} {context : Context}
    (evaluates : Evaluates (.call parser input) (.initial workspace input tracer)
      ⟨.ok outcome, after⟩) (current : after.context = some context) : context.source = input := by
  have same := evaluates.setting_eq rfl
  simp only [State.setting, current, State.initial, Option.map_some, Option.some.injEq,
    Prod.mk.injEq] at same
  exact same.1

/-- A successful parse reports a match of its parser, with the offset of what is left. -/
theorem match_of_parse {fuel : Nat} {workspace : Workspace} {parser : Parser} {input : Value}
    {tracer : Option Tracer} {report : Report Success} {success : Success}
    (parsed : parse fuel workspace parser input tracer = some report)
    (succeeded : report.answer = .ok success) :
    (∃ after, Evaluates (.call parser input) (.initial workspace input tracer)
      ⟨.ok (.ok success.result success.unconsumed), after⟩)
      ∧ success.position = (input.length : Int) - success.unconsumed.length := by
  obtain ⟨⟨answer, after⟩, evaluates, same⟩ := exists_evaluates_of_parse parsed
  rw [same] at succeeded
  cases answer with
  | error fault => cases succeeded
  | ok outcome =>
    simp only [Except.bind] at succeeded
    cases outcome with
    | fail payload rest =>
      simp only [State.conclude] at succeeded
      split at succeeded
      · obtain ⟨failure, -, raised⟩ := exists_of_bind_eq_ok succeeded
        cases raised
      · cases succeeded
    | ok value rest =>
      simp only [State.conclude] at succeeded
      split at succeeded
      · rename_i context current
        obtain ⟨position, found, made⟩ := exists_of_bind_eq_ok succeeded
        cases made
        rw [source_eq_of_evaluates evaluates current] at found
        exact ⟨⟨after, evaluates⟩, (Failure.positionIn_eq found).2.2⟩
      · cases succeeded

/-- The place of a successful parse with built-in parsers. -/
theorem place_of_success {fuel : Nat} {workspace : Workspace} {parser : Parser} {input : Value}
    {tracer : Option Tracer} {report : Report Success} {success : Success}
    (builtIn : parser.BuiltIn) (rules : workspace.BuiltIn)
    (parsed : parse fuel workspace parser input tracer = some report)
    (succeeded : report.answer = .ok success) :
    0 ≤ success.position ∧ success.position ≤ input.length
      ∧ input.drop success.position.toNat = success.unconsumed
      ∧ (success.isComplete ↔ success.position = input.length) := by
  obtain ⟨⟨after, evaluates⟩, position⟩ := match_of_parse parsed succeeded
  have isRest : success.unconsumed.IsRestOf input := (evaluates.fits builtIn rules).1
  have bound := isRest.length_le
  have offset : success.position.toNat = input.length - success.unconsumed.length := by
    rw [position]
    omega
  refine ⟨by omega, by omega, ?_, ?_⟩
  · rw [offset]
    exact isRest.eq_drop.symm
  · rw [Success.isComplete, beq_iff_eq, position]
    omega

/-- **What parsers hand back.**

* A run of a built-in parser with built-in rules, in any state, that matches hands back a rest of
  the input; one that fails hands back the input.
* So a successful parse is at an offset of the input, what it has not consumed is the input from
  there on, and it is complete when the offset is the end.
* Sequences, choices, repetitions that need a round and both kinds of look ahead hand back their
  own input when they fail, repetitions that need no round and optional parsers never fail: this
  holds of all parsers, whatever the terminals written by hand in them report.
* Neither does the next try depend on a reported rest: after failed alternatives the next one
  starts on the input of the choice, after matched rounds the next one starts on what they left and
  a failing one ends the repetition there, and a failing optional parser gives its input back.
* Transformed, traced and named parsers pass the rest that a failure reports on as it is: without a
  tracer they fail as their body does, and a failure of theirs is always one of their body. -/
theorem parsers_hand_back_rests :
    (∀ (parser : Parser) (input : Value) (state : State) (fuel : Nat) (last : Ending),
      parser.BuiltIn → state.workspace.BuiltIn →
      run fuel (.call parser input) [] state = some last →
      (∀ value rest, last.answer = .ok (.ok value rest) →
        ∃ count ≤ input.length, rest = input.drop count) ∧
      (∀ payload rest, last.answer = .ok (.fail payload rest) → rest = input)) ∧
    (∀ (fuel : Nat) (workspace : Workspace) (parser : Parser) (input : Value)
      (tracer : Option Tracer) (report : Report Success) (success : Success),
      parser.BuiltIn → workspace.BuiltIn →
      parse fuel workspace parser input tracer = some report → report.answer = .ok success →
      0 ≤ success.position ∧ success.position ≤ input.length
        ∧ input.drop success.position.toNat = success.unconsumed
        ∧ (success.isComplete ↔ success.position = input.length)) ∧
    (∀ (parser : Parser) (input : Value) (state : State) (fuel : Nat) (last : Ending)
      (payload rest : Value), run fuel (.call parser input) [] state = some last →
      last.answer = .ok (.fail payload rest) →
      (parser.Rewinds → rest = input) ∧ ¬ parser.Unfailing) ∧
    (∀ (first next : Parser) (others failed left : List Parser) (input : Value)
      (stack : List Frame) (state after : State), first :: others = failed ++ next :: left →
      FailInTurn input failed state after →
      Reaches ((Parser.choice first others).start input stack state)
        (.call next input (.choice input left :: stack) after)) ∧
    (∀ (body : Parser) (input rest : Value) (values : List Value) (stack : List Frame)
      (state after : State), MatchInTurn body input state values rest after →
      Reaches ((Parser.star body).start input stack state)
        (.call body rest (.loop body values.reverse rest :: stack) after) ∧
      ∀ payload reported ended,
        Evaluates (.call body rest) after ⟨.ok (.fail payload reported), ended⟩ →
        Reaches ((Parser.star body).start input stack state)
          (.answer (.ok (.list values) rest) stack ended)) ∧
    (∀ (body : Parser) (input absent payload reported : Value) (stack : List Frame)
      (state after : State),
      Evaluates (.call body input) state ⟨.ok (.fail payload reported), after⟩ →
      Reaches ((Parser.optional body absent).start input stack state)
        (.answer (.ok absent input) stack after)) ∧
    (∀ (parser body : Parser) (input payload reported : Value) (state start after : State),
      parser.PassesOn state body start →
      (state.tracer? = none →
        Evaluates (.call body input) start ⟨.ok (.fail payload reported), after⟩ →
        ∃ fuel, run fuel (.call parser input) [] state
          = some ⟨.ok (.fail payload reported), after⟩) ∧
      ∀ fuel, run fuel (.call parser input) [] state
          = some ⟨.ok (.fail payload reported), after⟩ →
        ∃ entered left, entered.workspace = start.workspace
          ∧ Evaluates (.call body input) entered ⟨.ok (.fail payload reported), left⟩) := by
  refine ⟨?_, ?_, ?_, ?_, ?_, ?_, ?_⟩
  · intro parser input state fuel last builtIn rules ended
    obtain ⟨fits, -⟩ := (exists_run_iff.1 ⟨fuel, ended⟩).fits builtIn rules
    constructor
    · intro value rest answer
      rw [Ending.Fits, answer] at fits
      exact fits
    · intro payload rest answer
      rw [Ending.Fits, answer] at fits
      exact fits
  · intro fuel workspace parser input tracer report success builtIn rules parsed succeeded
    exact place_of_success builtIn rules parsed succeeded
  · rintro parser input state fuel ⟨_, after⟩ payload rest ended rfl
    have evaluates := exists_run_iff.1 ⟨fuel, ended⟩
    exact ⟨fun rewinds => rewinds.rest_eq evaluates, fun unfailing => unfailing.not_fail evaluates⟩
  · -- whatever the failed alternatives reported, the next one is called on the input of the choice
    intro first next others failed left input stack state after split turn
    exact turn.reaches split stack
  · intro body input rest values stack state after turn
    have rounds := turn.reaches [] stack
    rw [List.append_nil] at rounds
    refine ⟨rounds, fun payload reported ended round => ?_⟩
    -- the loop answers with its own place, not with the rest that the failed round reported
    have stop := (round.reaches [] (.loop body values.reverse rest :: stack)).receive
    simp only [Frame.receive, List.reverse_reverse] at stop
    exact rounds.trans stop
  · -- the same holds of the input that an optional parser hands on
    intro body input absent payload reported stack state after inside
    exact (inside.reaches [] (.optional absent input :: stack)).receive
  · intro parser body input payload reported state start after passesOn
    constructor
    · intro quiet inside
      exact exists_run_iff.2 (passesOn.fail quiet inside)
    · intro fuel ended
      exact passesOn.inside (exists_run_iff.1 ⟨fuel, ended⟩)

/-- A terminal written by hand that matches the first of two elements. On any other input it fails
and reports the input after its first element, which is not the input that it was given. -/
def hastyLeaf : Parser :=
  .foreign {
    memory := none
    respond := fun _ input =>
      .ok (if input.length = 2 then .ok (input.take 1) (input.drop 1)
        else .fail (.ofString "x") (input.drop 1)) }

/-- Built-in parsers on two letters: the match leaves a rest, with its place, and the failure gives
the letter back. The hasty terminal reports a wrong rest; a sequence, a choice, a repetition and an
optional parser are not misled by it, and a named parser passes it on. -/
theorem hasty_rest_is_repaired :
    (∃ last, run 9 (.call (.star (.terminal (.literal (.ofString "a")))) (.ofString "ab")) []
        (.initial {} (.ofString "ab") none) = some last
      ∧ last.answer = .ok (.ok (.list [.ofString "a"]) (.ofString "b"))
      ∧ ∃ count ≤ 2, .ofString "b" = (Value.ofString "ab").drop count)
    ∧ (∃ last rest, run 9 (.call (.terminal (.literal (.ofString "a"))) (.ofString "b")) []
        (.initial {} (.ofString "b") none) = some last
      ∧ last.answer = .ok (.fail (.ofString "a") rest) ∧ rest = .ofString "b")
    ∧ (∃ report success, parse 9 {} (.star (.terminal (.literal (.ofString "a"))))
        (.ofString "ab") none = some report
      ∧ report.answer = .ok success ∧ 0 ≤ success.position ∧ success.position ≤ 2
      ∧ (Value.ofString "ab").drop success.position.toNat = success.unconsumed
      ∧ (success.isComplete ↔ success.position = 2))
    ∧ (∃ last rest, run 9 (.call (.sequence hastyLeaf [hastyLeaf]) (.ofString "abc")) []
        (.initial {} (.ofString "abc") none) = some last
      ∧ last.answer = .ok (.fail (.ofString "x") rest) ∧ rest = .ofString "abc")
    ∧ Reaches ((Parser.choice hastyLeaf [.terminal .endOfInput]).start (.ofString "abc") []
        (.initial {} (.ofString "abc") none))
      (.call (.terminal .endOfInput) (.ofString "abc") [.choice (.ofString "abc") []]
        (.initial {} (.ofString "abc") none))
    ∧ Reaches ((Parser.star hastyLeaf).start (.ofString "ab") []
        (.initial {} (.ofString "ab") none))
      (.answer (.ok (.list [.ofString "a"]) (.ofString "b")) [] (.initial {} (.ofString "ab") none))
    ∧ Reaches ((Parser.optional hastyLeaf .null).start (.ofString "abc") []
        (.initial {} (.ofString "abc") none))
      (.answer (.ok .null (.ofString "abc")) [] (.initial {} (.ofString "abc") none))
    ∧ ∃ fuel, run fuel (.call (.traced "word" hastyLeaf) (.ofString "abc")) []
        (.initial {} (.ofString "abc") none)
      = some ⟨.ok (.fail (.ofString "x") (.ofString "bc")),
        .initial {} (.ofString "abc") none⟩ := by
  obtain ⟨suffixes, places, rewinds, alternatives, rounds, optionals, passes⟩ :=
    parsers_hand_back_rests
  have letter : (Parser.terminal (.literal (.ofString "a"))).BuiltIn := .terminal _
  have empty : ({} : Workspace).BuiltIn := ⟨by simp, by simp⟩
  have misses (state : State) : Evaluates (.call hastyLeaf (.ofString "abc")) state
      ⟨.ok (.fail (.ofString "x") (.ofString "bc")), state⟩ := .unlabelled rfl .foreign
  refine ⟨?_, ?_, ?_, ?_, ?_, ?_, ?_, ?_⟩
  · obtain ⟨last, ended, answer⟩ : ∃ last, run 9
        (.call (.star (.terminal (.literal (.ofString "a")))) (.ofString "ab")) []
        (.initial {} (.ofString "ab") none) = some last
      ∧ last.answer = .ok (.ok (.list [.ofString "a"]) (.ofString "b")) := ⟨_, rfl, rfl⟩
    exact ⟨last, ended, answer, (suffixes _ _ _ _ _ (.star letter) empty ended).1 _ _ answer⟩
  · obtain ⟨last, rest, ended, answer⟩ : ∃ last rest, run 9
        (.call (.terminal (.literal (.ofString "a"))) (.ofString "b")) []
        (.initial {} (.ofString "b") none) = some last
      ∧ last.answer = .ok (.fail (.ofString "a") rest) := ⟨_, _, rfl, rfl⟩
    exact ⟨last, rest, ended, answer, (suffixes _ _ _ _ _ letter empty ended).2 _ _ answer⟩
  · -- the position counts the one letter that was read
    obtain ⟨report, success, parsed, answer⟩ : ∃ report success, parse 9 {}
        (.star (.terminal (.literal (.ofString "a")))) (.ofString "ab") none = some report
      ∧ report.answer = .ok success := ⟨_, _, rfl, rfl⟩
    exact ⟨report, success, parsed, answer, places _ _ _ _ _ _ _ (.star letter) empty parsed answer⟩
  · obtain ⟨last, rest, ended, answer⟩ : ∃ last rest, run 9
        (.call (.sequence hastyLeaf [hastyLeaf]) (.ofString "abc")) []
        (.initial {} (.ofString "abc") none) = some last
      ∧ last.answer = .ok (.fail (.ofString "x") rest) := ⟨_, _, rfl, rfl⟩
    exact ⟨last, rest, ended, answer, (rewinds _ _ _ _ _ _ _ ended answer).1 (.sequence _ _)⟩
  · exact alternatives _ _ _ [hastyLeaf] _ _ _ _ _ rfl (.cons (misses _) (.nil _))
  · -- one round matches, and the next one reports a rest that the loop does not take over
    have matched : MatchInTurn hastyLeaf (.ofString "ab") (.initial {} (.ofString "ab") none)
        [.ofString "a"] (.ofString "b") (.initial {} (.ofString "ab") none) :=
      .cons (.unlabelled rfl .foreign) (.nil _ _)
    exact (rounds _ _ _ _ _ _ _ matched).2 (.ofString "x") (.ofString "") _
      (.unlabelled rfl .foreign)
  · exact optionals _ _ _ _ _ _ _ _ (misses _)
  · -- the traced leaf fails with the wrong rest that it reports itself
    exact (passes _ _ _ _ _ _ _ _ (.traced "word" hastyLeaf)).1 rfl (misses _)

end Peg
