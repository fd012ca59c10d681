import Peg.Proofs.History

/-! # The start rule of a grammar

A grammar that begins without a start rule takes the first rule that is defined through it. A rule
that is defined through a reference is as good as any other, but it never becomes the start rule: a
grammar that has only such rules still has none, and the next definition through the grammar takes
the place.

* **`History.start_eq`**: the start rule is the first one that was defined through the grammar.
* **`start_is_first_definition`**: what this means for a parse that is not told where to start. -/

namespace Peg

/-- The name that was first defined through the grammar. -/
def firstThroughGrammar? (log : List Definition) : Option String :=
  (log.find? fun definition => definition.route = .grammar).map (·.name)

/-- The first definition through the grammar is that of the earlier ones, or else that of the later
ones. -/
theorem firstThroughGrammar?_append (early late : List Definition) :
    firstThroughGrammar? (early ++ late)
      = (firstThroughGrammar? early).or (firstThroughGrammar? late) := by
  rw [firstThroughGrammar?, List.find?_append, Option.map_or, firstThroughGrammar?,
    firstThroughGrammar?]

/-- Definitions through references are passed over. -/
theorem firstThroughGrammar?_references (rules : List (String × Nat)) :
    firstThroughGrammar? (rules.map fun rule => ⟨.reference, rule.1⟩) = none := by
  rw [firstThroughGrammar?, List.find?_map, Option.map_map, Option.map_eq_none_iff]
  exact List.find?_eq_none.2 fun _ _ => Bool.false_ne_true

/-- A deed that does not set the start rule by hand leaves it alone, unless there was none. -/
theorem Deed.Does.start_eq {deed : Deed} {before after : Workspace} {added : List Definition}
    (does : deed.Does before added after) (byItself : deed.setsStart = false) :
    after.grammar.start = before.grammar.start.or (firstThroughGrammar? added) := by
  cases does with
  | beside _ _ start_eq =>
    rw [start_eq byItself]
    exact Option.or_none.symm
  | grows _ grown =>
    rw [grown.start_eq]
    exact Option.or_none.symm
  | @defines _ name body =>
    rw [← (before.mentioning_grows name).lasts.start_eq]
    exact Option.orElse_eq_or
  | binds =>
    rw [firstThroughGrammar?_references, Option.or_none]
    rfl

/-- **The start rule is the one that the grammar began with, or else the first one that was defined
through the grammar.** -/
theorem History.start_eq {base workspace : Workspace} {start : Option String}
    {log : List Definition}
    (history : History (fun _ deed => deed.setsStart = false) (base.afresh start) log workspace) :
    workspace.grammar.start = start.or (firstThroughGrammar? log) := by
  induction history with
  | begin => exact Option.or_none.symm
  | next _ byItself _ done inductionHypothesis =>
    rw [(Deed.does done).start_eq byItself, inductionHypothesis, firstThroughGrammar?_append,
      Option.or_assoc]

/-- A grammar has a start rule exactly if it holds the name of one. -/
theorem Workspace.startName_eq_ok_iff {workspace : Workspace} {name : String} :
    workspace.startName = .ok name ↔ workspace.grammar.start = some name := by
  rw [startName]
  cases workspace.grammar.start <;> simp

/-- Asking for the start rule fails only in a grammar that has none. -/
theorem Workspace.startName_eq_error_iff {workspace : Workspace} {fault : Fault} :
    workspace.startName = .error fault
      ↔ workspace.grammar.start = none ∧ fault = .grammar .noRules := by
  rw [startName]
  cases workspace.grammar.start <;> simp [eq_comm]

/-- A parse that is not told where to start is refused, or it runs the start rule. -/
theorem parseFrom_none (fuel : Nat) (workspace : Workspace) (input : Value)
    (tracer : Option Tracer) :
    parseFrom fuel workspace none input tracer
      = match workspace.check, workspace.startName with
        | .error fault, _ => some ⟨.error fault, [], workspace⟩
        | .ok (), .error fault => some ⟨.error fault, [], workspace⟩
        | .ok (), .ok name =>
          match workspace.grammar.rules.lookup name with
          | some cell => parse fuel workspace (.rule cell) input tracer
          | none =>
            parse fuel (workspace.mention name) (.rule workspace.cells.size) input tracer := by
  rw [parseFrom_eq, Workspace.outcome_startRule]
  simp only [Workspace.startOr]
  cases workspace.check with
  | error fault => rfl
  | ok _ =>
    cases workspace.startName with
    | error fault => rfl
    | ok name =>
      dsimp only
      cases workspace.grammar.rules.lookup name <;> rfl

/-- **The start rule of a grammar that began without one is the first rule that was defined through
it.** If no rule is bound there is none, and asking for it is a fault. If the first rule that was
bound was bound through the grammar, then it is the start rule. A rule that was bound through a
reference is passed over: as long as there are only such rules, there is no start rule. The start
rule is bound, and a parse that is not told where to start runs it, if the check passes. -/
theorem start_is_first_definition {base workspace : Workspace} {log : List Definition}
    (history : History (fun _ deed => deed.setsStart = false) (base.afresh none) log workspace) :
    (∀ name, name ∈ workspace.definedNames ↔ ∃ definition ∈ log, definition.name = name)
    ∧ (workspace.definedNames = [] → workspace.startName = .error (.grammar .noRules))
    ∧ (∀ first others, log = first :: others → first.route = .grammar →
      workspace.startName = .ok first.name)
    ∧ (∀ name, workspace.startName = .ok name ↔ firstThroughGrammar? log = some name)
    ∧ (∀ name, workspace.startName = .ok name →
      ∃ cell, workspace.grammar.rules.lookup name = some cell
        ∧ (workspace.bindingOf cell).isDefined
        ∧ ∀ fuel input tracer, parseFrom fuel workspace none input tracer
          = match workspace.check with
            | .ok () => parse fuel workspace (.rule cell) input tracer
            | .error fault => some ⟨.error fault, [], workspace⟩)
    ∧ ∀ fault, workspace.startName = .error fault → fault = .grammar .noRules
      ∧ ∀ fuel input tracer, parseFrom fuel workspace none input tracer
        = match workspace.check with
          | .ok () => some ⟨.error (.grammar .noRules), [], workspace⟩
          | .error cause => some ⟨.error cause, [], workspace⟩ := by
  have names := history.mem_definedNames_iff
  have starts : workspace.grammar.start = firstThroughGrammar? log := history.start_eq
  refine ⟨names, fun none => ?_, ?_, fun name => ?_, fun name start => ?_,
    fun fault unstarted => ?_⟩
  · -- every definition that was accepted left a defined name
    have empty : log = [] := by
      refine List.eq_nil_iff_forall_not_mem.2 fun definition member => ?_
      have bound := (names definition.name).2 ⟨definition, member, rfl⟩
      rw [none] at bound
      cases bound
    rw [Workspace.startName_eq_error_iff, starts, empty]
    exact ⟨rfl, rfl⟩
  · rintro first others rfl throughGrammar
    rw [Workspace.startName_eq_ok_iff, starts, firstThroughGrammar?, List.find?_cons_of_pos]
    · rfl
    · rw [throughGrammar]
      rfl
  · rw [Workspace.startName_eq_ok_iff, starts]
  · have first := Workspace.startName_eq_ok_iff.1 start
    rw [starts] at first
    obtain ⟨definition, found, rfl⟩ := Option.map_eq_some_iff.1 first
    -- the name was defined, so it stands for a bound rule from then on
    obtain ⟨cell, known, bound⟩ := history.exists_cell_of_mem_definedNames
      ((names _).2 ⟨definition, List.mem_of_find?_eq_some found, rfl⟩)
    refine ⟨cell, known, bound, fun fuel input tracer => ?_⟩
    rw [parseFrom_none, start]
    cases workspace.check with
    | error fault => rfl
    | ok _ => simp only [known]
  · obtain ⟨-, rfl⟩ := Workspace.startName_eq_error_iff.1 unstarted
    refine ⟨rfl, fun fuel input tracer => ?_⟩
    rw [parseFrom_none, unstarted]
    cases workspace.check <;> rfl

/-- A grammar with the rule `a`, which was defined through a reference to it. -/
def unstartedWorkspace : Workspace where
  cells := #[⟨"a", .resolved (.terminal (.literal (.ofString "a"))), 0⟩]
  grammar := { rules := [("a", 0)] }

/-- A rule that was defined through a reference is bound, and yet the grammar has no start rule; the
rule that is defined after it through the grammar becomes the start rule. -/
theorem reference_claims_no_start :
    unstartedWorkspace.definedNames = ["a"]
    ∧ unstartedWorkspace.startName = .error (.grammar .noRules)
    ∧ parseFrom 9 unstartedWorkspace none (.ofString "a") none
      = some ⟨.error (.grammar .noRules), [], unstartedWorkspace⟩
    ∧ ∃ later, (Workspace.defineBy .dot "b" (.terminal (.literal (.ofString "b")))).outcome
        unstartedWorkspace = (.ok (), later) ∧ later.startName = .ok "b" := by
  have mentioned : (Deed.mention "a").outcome? (({} : Workspace).afresh none)
      = some (.ok (), ⟨#[⟨"a", .undefined, 0⟩], { rules := [("a", 0)] }, [], #[]⟩) := rfl
  have bound : (Deed.bind 0 (.terminal (.literal (.ofString "a")))).outcome?
      ⟨#[⟨"a", .undefined, 0⟩], { rules := [("a", 0)] }, [], #[]⟩
        = some (.ok (), unstartedWorkspace) := rfl
  have history := ((History.begin.next rfl rfl mentioned).next rfl rfl bound :
    History (fun _ deed => deed.setsStart = false) (({} : Workspace).afresh none)
      [⟨.reference, "a"⟩] unstartedWorkspace)
  obtain ⟨-, -, -, starts, -, refused⟩ := start_is_first_definition history
  have unstarted : unstartedWorkspace.startName = .error (.grammar .noRules) := rfl
  have checked : unstartedWorkspace.check = .ok () := by
    have none : unstartedWorkspace.undefinedNames = [] := List.mergeSort_nil
    rw [Workspace.check, none]
    rfl
  refine ⟨rfl, unstarted, ?_, ?_⟩
  · -- the binding through the reference was accepted, but it is not one through the grammar
    rw [(refused _ unstarted).2, checked]
  · have defined : (Deed.define .dot "b" (.terminal (.literal (.ofString "b")))).outcome?
        unstartedWorkspace = some (.ok (), ((unstartedWorkspace.mention "b").withBody 1
          (.terminal (.literal (.ofString "b")))).starting "b") := rfl
    obtain ⟨-, -, -, startsNow, -⟩ := start_is_first_definition (history.next rfl rfl defined)
    exact ⟨_, rfl, (startsNow "b").2 rfl⟩

end Peg
