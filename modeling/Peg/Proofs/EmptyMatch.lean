import Peg.Proofs.WellFormed

/-! # Which parsers may match without consuming

What can match without consuming is not decidable, but a little is told by the parser itself: a
literal of some length consumes, and so does any single element; a sequence consumes if one of its
parts does. Rules are looked up in a table, which must be closed: a rule whose body may match
without consuming is in it.

* **`Parser.mayBeEmpty`**: the parsers that may match without consuming, given those rules.
* **`Evaluates.mayBeEmpty`**: no others do, by induction on the evaluation.
* **`Workspace.wellFormed_of_rank`**: a grammar is well-formed if its rules can be given ranks that
  become smaller from a rule to those that it calls before it consumes. -/

namespace Peg

/-! ## Terminals -/

theorem Value.length_eq_of_sameItems {first second : List Value}
    (same : Value.sameItems first second) : first.length = second.length := by
  induction first generalizing second with
  | nil =>
    cases second with
    | nil => rfl
    | cons other rest => simp [Value.sameItems] at same
  | cons one others inductionHypothesis =>
    cases second with
    | nil => simp [Value.sameItems] at same
    | cons other rest =>
      simp only [Value.sameItems, Bool.and_eq_true] at same
      rw [List.length_cons, List.length_cons, inductionHypothesis same.2]

/-- Values that are the same are as long. -/
theorem Value.length_eq_of_same {first second : Value} (same : first.same second) :
    first.length = second.length := by
  cases first <;> cases second <;> simp_all [Value.same, Value.length, Value.num?]
  -- rows are left, of both kinds
  all_goals exact Value.length_eq_of_sameItems same

namespace Terminal

/-- The terminal may match without consuming. Of a pattern this is not known. -/
def mayBeEmpty : Terminal → Bool
  | .token _ => true
  | .literal text => text.length == 0
  | .satisfy .. => false
  | .endOfInput => true
  | .succeed _ => true
  | .fail _ => false
  | .lexical .. => false

/-- An element that matches is consumed. -/
theorem length_lt_of_matchElement {test : Value → Except Fault Bool}
    {expected input value rest : Value}
    (found : matchElement test expected input = .ok (.matched value rest)) :
    rest.length < input.length := by
  unfold matchElement at found
  split at found
  · split at found
    · cases found
    · rename_i element first
      cases passed : test element with
      | error fault => simp [passed, bind, Except.bind] at found
      | ok truth =>
        cases truth with
        | false => simp [passed, bind, Except.bind, pure, Except.pure] at found
        | true =>
          simp only [passed, bind, Except.bind, pure, Except.pure, if_true, Except.ok.injEq,
            Verdict.matched.injEq] at found
          have nonempty : 0 < input.length := by
            rcases input with _ | _ | _ | _ | _ | (_ | _) | (_ | _) | (_ | _) | (_ | _) | _ | _ <;>
              simp [Value.head?, Value.length] at first ⊢
          rw [← found.2, Value.length_drop]
          omega
  · cases found

/-- **A terminal that may not match without consuming does not.** -/
theorem mayBeEmpty_of_verdict {leaf : Terminal} {input value rest : Value}
    (found : leaf.verdict input = .ok (.matched value rest))
    (still : rest.length = input.length) : leaf.mayBeEmpty := by
  cases leaf with
  | token pattern => rfl
  | endOfInput => rfl
  | succeed value => rfl
  | fail payload => cases found
  | satisfy test expected => exact absurd still (Nat.ne_of_lt (length_lt_of_matchElement found))
  | lexical label kind => exact absurd still (Nat.ne_of_lt (length_lt_of_matchElement found))
  | literal text =>
    simp only [verdict] at found
    split at found
    · split at found
      · rename_i same
        cases found
        -- either nothing was taken off, or there was nothing to take off
        have taken := Value.length_eq_of_same same
        rw [Value.length_drop] at still
        have short : (input.take text.length).length ≤ input.length := by
          cases input <;> simp [Value.take, Value.length]
        rw [mayBeEmpty, beq_iff_eq]
        omega
      · cases found
    · cases found

end Terminal

/-! ## Parsers -/

namespace Parser

variable (rules : Nat → Bool)

mutual

/-- The parser may match without consuming, if the given rules may. -/
def mayBeEmpty : Parser → Bool
  | .terminal leaf => leaf.mayBeEmpty
  | .foreign _ => true
  | .sequence first others => mayBeEmpty first && allMayBeEmpty others
  | .choice first others => mayBeEmpty first || anyMayBeEmpty others
  | .star _ => true
  | .plus body => mayBeEmpty body
  | .optional .. => true
  | .ahead _ => true
  | .notAhead _ => true
  | .transform body _ _ => mayBeEmpty body
  | .nested body _ _ => mayBeEmpty body
  | .traced _ body => mayBeEmpty body
  | .rule cell => rules cell
  | .constant _ => false

/-- All of the parsers may match without consuming. -/
def allMayBeEmpty : List Parser → Bool
  | [] => true
  | parser :: others => mayBeEmpty parser && allMayBeEmpty others

/-- One of the parsers may match without consuming. -/
def anyMayBeEmpty : List Parser → Bool
  | [] => false
  | parser :: others => mayBeEmpty parser || anyMayBeEmpty others

end

end Parser

/-- The job may match without consuming, if the given rules may. -/
def Job.mayBeEmpty (rules : Nat → Bool) : Job → Bool
  | .call parser _ => parser.mayBeEmpty rules
  | .bare parser _ => parser.mayBeEmpty rules
  | .under _ job => job.mayBeEmpty rules
  | .all _ parsers _ => Parser.allMayBeEmpty rules parsers
  | .any first others _ => Parser.anyMayBeEmpty rules (first :: others)
  | .loop _ _ => true

/-- The table has all rules whose bodies may match without consuming, also of those that are built
later. -/
def Workspace.Closes (workspace : Workspace) (rules : Nat → Bool) : Prop :=
  ∀ later, workspace.Unfolds later → ∀ cell body, later.bindingOf cell = .resolved body →
    body.mayBeEmpty rules → rules cell

theorem Workspace.Closes.later {workspace later : Workspace} {rules : Nat → Bool}
    (closes : workspace.Closes rules) (unfolds : workspace.Unfolds later) : later.Closes rules :=
  fun last more => closes last (unfolds.trans more)

/-- A part that matches leaves a grammar of the same kind, and not more than its input. -/
theorem Evaluates.leaves {job : Job} {state between : State} {value middle : Value}
    {rules : Nat → Bool} (evaluates : Evaluates job state ⟨.ok (.ok value middle), between⟩)
    (builtIn : job.BuiltIn) (workspace : state.workspace.BuiltIn)
    (closes : state.workspace.Closes rules) :
    between.workspace.BuiltIn ∧ between.workspace.Closes rules
      ∧ middle.length ≤ job.input.length := by
  obtain ⟨fits, kept⟩ := evaluates.fits builtIn workspace
  exact ⟨kept, closes.later (unfolds_of_evaluates evaluates), Value.IsRestOf.length_le fits⟩

/-- **What may not match without consuming does not.** By induction on the evaluation: if nothing is
consumed in the end, no part has consumed anything. -/
theorem Evaluates.mayBeEmpty {job : Job} {state : State} {last : Ending} {rules : Nat → Bool}
    (evaluates : Evaluates job state last) (builtIn : job.BuiltIn)
    (workspace : state.workspace.BuiltIn) (closes : state.workspace.Closes rules)
    {value rest : Value} (answer : last.answer = .ok (.ok value rest))
    (still : rest.length = job.input.length) : job.mayBeEmpty rules := by
  induction evaluates generalizing value rest with
  | unlabelled _ _ body => exact body builtIn workspace closes answer still
  | labelled _ _ body => exact body builtIn workspace closes answer still
  | unwatched _ _ body => exact body builtIn workspace closes answer still
  | refused => cases answer
  | @watched label job state entered context last current watched entry _ body =>
    have same : (entered.setDepth (context.depth + 1)).workspace = state.workspace := by
      rw [State.setDepth_workspace, State.emit_workspace entry]
    rw [← same] at workspace closes
    obtain ⟨events, left⟩ | ⟨fault, raised, left⟩ | ⟨fault, left⟩ :=
      last.leave_cases label context.depth
    · rw [left] at answer
      exact body builtIn workspace closes answer still
    · rw [left, raised] at answer
      cases answer
    · rw [left] at answer
      cases answer
  | @terminal leaf input state =>
    obtain ⟨_, _, found, same⟩ | ⟨payload, -, same⟩ | ⟨fault, same⟩ := leaf.read_cases input state
    · rw [same] at answer
      cases answer
      exact Terminal.mayBeEmpty_of_verdict found still
    · obtain ⟨noted, -, failed⟩ | ⟨fault, failed⟩ := state.failOn_cases payload input <;>
        rw [same, failed] at answer <;> cases answer
    · rw [same] at answer
      cases answer
  | foreign => cases builtIn
  | sequence _ parts =>
    cases builtIn with
    | sequence head tail =>
      exact parts (List.forall_mem_cons.2 ⟨head, tail⟩) workspace closes answer still
  | allNil => rfl
  | allCons head tail first later =>
    cases answer
    obtain ⟨builtInHead, builtInTail⟩ := List.forall_mem_cons.1 builtIn
    obtain ⟨kept, closed, le⟩ := head.leaves builtInHead workspace closes
    obtain ⟨-, -, leTail⟩ := tail.leaves builtInTail kept closed
    simp only [Job.input] at still le leTail
    rw [Job.mayBeEmpty, Parser.allMayBeEmpty, Bool.and_eq_true]
    exact ⟨first builtInHead workspace closes rfl (by simp only [Job.input]; omega),
      later builtInTail kept closed rfl (by simp only [Job.input]; omega)⟩
  | allFail => cases answer
  | allFailLater => cases answer
  | allRaiseLater => cases answer
  | choice _ alternatives =>
    cases builtIn with
    | choice head tail => exact alternatives ⟨head, tail⟩ workspace closes answer still
  | anyOk _ head =>
    cases answer
    rw [Job.mayBeEmpty, Parser.anyMayBeEmpty, Bool.or_eq_true]
    exact .inl (head builtIn.1 workspace closes rfl still)
  | anyLast => cases answer
  | anyNext tried _ _ tail =>
    obtain ⟨second, others⟩ := List.forall_mem_cons.1 builtIn.2
    have kept := (tried.fits builtIn.1 workspace).2
    have unfolds := unfolds_of_evaluates tried
    rw [Job.mayBeEmpty, Parser.anyMayBeEmpty, Bool.or_eq_true]
    exact .inr (tail ⟨second, others⟩ kept (closes.later unfolds) answer still)
  | star => rfl
  | loopStop => rfl
  | loopMore => rfl
  | loopRaiseLater => rfl
  | plusFail => cases answer
  | plusMore round more first _ =>
    cases answer
    cases builtIn with
    | plus inside =>
      obtain ⟨kept, closed, le⟩ := round.leaves inside workspace closes
      obtain ⟨-, -, leMore⟩ := more.leaves inside kept closed
      simp only [Job.input] at still le leMore
      exact first inside workspace closes rfl (by simp only [Job.input]; omega)
  | plusRaiseLater => cases answer
  | present => rfl
  | absent => rfl
  | aheadOk => rfl
  | aheadFail => rfl
  | notAheadFail => rfl
  | notAheadOk => rfl
  | @transformOk body name function input found left state after _ head =>
    cases builtIn with
    | transform inside =>
      cases applied : function found with
      | error fault =>
        rw [applied] at answer
        cases answer
      | ok result =>
        rw [applied] at answer
        cases answer
        exact head inside workspace closes rfl still
  | transformFail => cases answer
  | @nestedOk body inner form input found left state between last _ _ head =>
    cases builtIn with
    | nested inside second =>
      obtain ⟨result, same⟩ | ⟨fault, same⟩ := last.unnest_cases form between.context left
      · rw [same] at answer
        cases answer
        exact head inside workspace closes rfl still
      · rw [same] at answer
        cases answer
  | nestedFail => cases answer
  | traced _ inside =>
    cases builtIn with
    | traced name body => exact inside body workspace closes answer still
  | unresolved => cases answer
  | @resolved cell body input state after last found _ inside =>
    -- the body may match without consuming, so the rule is in the table
    have unfolds : state.workspace.Unfolds after := .resolve .refl found
    obtain ⟨builtInBody, kept⟩ := workspace.resolve found
    exact closes after unfolds cell body (Workspace.bindingOf_of_resolve found)
      (inside builtInBody kept (closes.later unfolds) answer still)
  | constant => cases answer
  | raise => cases answer

/-! ## Well-formed grammars by ranks -/

/-- **A grammar whose rules can be ranked is well-formed.** The table of the rules that may match
without consuming is closed, no repetition has a body that may, and a rule calls only rules of
smaller rank before it has consumed anything. -/
theorem Workspace.wellFormed_of_rank {workspace : Workspace} {rules : Nat → Bool}
    (rank : Nat → Nat) (builtIn : workspace.BuiltIn) (closes : workspace.Closes rules)
    (steady : ∀ later, workspace.Unfolds later → ∀ cell body,
      later.bindingOf cell = .resolved body → body.Steady (Parser.mayBeEmpty rules) later)
    (ranked : ∀ later, workspace.Unfolds later → ∀ cell body,
      later.bindingOf cell = .resolved body →
      ∀ other ∈ body.leftCalls (Parser.mayBeEmpty rules), rank other < rank cell) :
    workspace.WellFormed fun _ => Parser.mayBeEmpty rules := by
  refine ⟨builtIn, fun later unfolds => ⟨?_, steady later unfolds, fun cell cycle => ?_⟩⟩
  · rintro parser input value state after fuel inside rfl ended
    exact (exists_run_iff.1 ⟨fuel, ended⟩).mayBeEmpty inside (unfolds.builtIn builtIn)
      (closes.later unfolds) rfl rfl
  · have smaller {first second : Nat}
        (calls : later.LeftCalls (Parser.mayBeEmpty rules) first second) :
        rank second < rank first := by
      obtain ⟨body, resolved, member⟩ := calls
      exact ranked later unfolds first body resolved second member
    have descends : ∀ last,
        Relation.TransGen (later.LeftCalls (Parser.mayBeEmpty rules)) cell last →
        rank last < rank cell := by
      intro last path
      induction path with
      | single calls => exact smaller calls
      | tail _ calls inductionHypothesis => exact Nat.lt_trans (smaller calls) inductionHypothesis
    exact Nat.lt_irrefl _ (descends cell cycle)

end Peg
