import Mathlib
import Peg.Proofs.Lockstep
import Peg.Proofs.Reachable

/-! # What a parse leaves of a grammar

A parse checks the grammar, looks the rule up that it starts from and runs it. It leaves the start
rule and the defined rules as they are. What it may add are names: the name that it starts from, if
the grammar does not have it, and those that deferred descriptions mention for the first time. A
name that is added so is undefined, and the check of the next parse stumbles over it.

* **`parse_keeps_grammar`**: a parse keeps the start rule and the defined rules. In a contained
  workspace it keeps the names too, and every parse after it gives what it would have given without
  it, unless the first one was told to start from a name that the grammar did not have. In that case
  every parse after it is refused. -/

namespace Peg

namespace Workspace

/-- The names that the grammar mentions, in the order in which they were first mentioned. -/
def mentionedNames (workspace : Workspace) : List String := workspace.grammar.rules.map (·.1)

/-- The name to start from is one that the grammar does not have, and the check does not see it. -/
structure Strays (workspace : Workspace) (start : Option String) (name : String) : Prop where
  /-- Up to now all is well with the grammar. -/
  checked : workspace.check = .ok ()
  /-- The name is given. -/
  start_eq : start = some name
  /-- An empty name counts as none. -/
  nonempty : name.isEmpty = false
  /-- The grammar does not have the name. -/
  unknown : workspace.grammar.rules.lookup name = none

/-! ## Growth and names -/

section Growth

variable {before after : Workspace}

/-- A rule that was there lasts. -/
theorem Grows.bindingOf_lasts (grows : before.Grows RuleCell.Lasts after) {cell : Nat}
    (bound : cell < before.cells.size) :
    (before.bindingOf cell).Lasts (after.bindingOf cell) := by
  have found := Array.getElem?_eq_getElem bound
  obtain ⟨later, foundLater, lasts⟩ := grows.cells cell _ found
  rw [bindingOf_of_getElem? found, bindingOf_of_getElem? foundLater]
  exact lasts.binding

/-- A name that the grammar had stands for the same rule. -/
theorem Grows.lookup_eq (grows : before.Grows RuleCell.Lasts after) {name : String} {cell : Nat}
    (known : before.grammar.rules.lookup name = some cell) :
    after.grammar.rules.lookup name = some cell := by
  obtain ⟨added, same, -⟩ := grows.grammar_eq
  rw [same, List.lookup_append, known, Option.some_or]

/-- Growing leaves the start rule as it is. -/
theorem Grows.start_eq (grows : before.Grows RuleCell.Lasts after) :
    after.grammar.start = before.grammar.start := by
  obtain ⟨added, same, -⟩ := grows.grammar_eq
  rw [same]

/-- **Growth defines no rule of a grammar.** -/
theorem Grows.definedNames_eq (grows : before.Grows RuleCell.Lasts after)
    (exist : before.HasRules) : after.definedNames = before.definedNames := by
  obtain ⟨added, same, new⟩ := grows.grammar_eq
  have none : added.filter (fun rule => (after.bindingOf rule.2).isDefined) = [] := by
    rw [List.filter_eq_nil_iff]
    intro rule member
    obtain ⟨-, -, -, builds, found⟩ := new rule member
    rw [bindingOf_of_getElem? found]
    exact Bool.false_ne_true
  rw [definedNames, definedNames, same]
  dsimp only
  rw [List.filter_append, none, List.append_nil]
  congr 1
  exact List.filter_congr fun rule member =>
    (grows.bindingOf_lasts (exist rule member)).isDefined_eq

/-- A rule of the grammar that is not defined is listed by its name. -/
theorem mem_undefinedNames {workspace : Workspace} {rule : String × Nat}
    (member : rule ∈ workspace.grammar.rules)
    (undefined : (workspace.bindingOf rule.2).isDefined = false) :
    rule.1 ∈ workspace.undefinedNames := by
  rw [undefinedNames, List.mem_mergeSort]
  exact List.mem_map_of_mem (List.mem_filter.2 ⟨member, by rw [undefined]; rfl⟩)

/-- A name that is looked up in vain is not mentioned. -/
theorem not_mem_mentionedNames {workspace : Workspace} {name : String}
    (unknown : workspace.grammar.rules.lookup name = none) : name ∉ workspace.mentionedNames := by
  intro member
  obtain ⟨rule, known, rfl⟩ := List.mem_map.1 member
  exact absurd (List.lookup_eq_none_iff.1 unknown rule known) (by simp)

/-- The names that growth adds are new and undefined. -/
theorem Grows.mentionedNames_eq (grows : before.Grows RuleCell.Lasts after) :
    ∃ added, after.mentionedNames = before.mentionedNames ++ added
      ∧ ∀ name ∈ added, name ∉ before.mentionedNames ∧ name ∈ after.undefinedNames := by
  obtain ⟨added, same, new⟩ := grows.grammar_eq
  refine ⟨added.map (·.1), by rw [mentionedNames, same, List.map_append]; rfl, ?_⟩
  intro name member
  obtain ⟨rule, isNew, rfl⟩ := List.mem_map.1 member
  obtain ⟨unknown, -, -, builds, found⟩ := new rule isNew
  refine ⟨not_mem_mentionedNames unknown, ?_⟩
  exact mem_undefinedNames (by rw [same]; exact List.mem_append_right _ isNew)
    (by rw [bindingOf_of_getElem? found]; rfl)

end Growth

/-! ## A name that the grammar does not have -/

/-- The rule that a parse starts from. -/
theorem outcome_startRule (start : Option String) (workspace : Workspace) :
    (startRule start).outcome workspace
      = match workspace.check with
        | .error fault => (.error fault, workspace)
        | .ok () =>
          match workspace.startOr start with
          | .error fault => (.error fault, workspace)
          | .ok name =>
            match workspace.grammar.rules.lookup name with
            | some cell => (.ok (.rule cell), workspace)
            | none => (.ok (.rule workspace.cells.size), workspace.mention name) := by
  rw [startRule, Edit.outcome_bind, Edit.outcome_get]
  dsimp only
  rw [Edit.outcome_bind, Edit.outcome_lift]
  cases workspace.check with
  | error fault => rfl
  | ok _ =>
    dsimp only
    rw [Edit.outcome_bind, Edit.outcome_get]
    dsimp only
    rw [Edit.outcome_bind, Edit.outcome_lift]
    cases workspace.startOr start with
    | error fault => rfl
    | ok name =>
      dsimp only
      rw [Edit.outcome_bind, outcome_ruleCell]
      cases workspace.grammar.rules.lookup name <;> rfl

/-- A rule that was only mentioned is undefined. -/
theorem mention_bindingOf_size (workspace : Workspace) (name : String) :
    (workspace.mention name).bindingOf workspace.cells.size = .undefined :=
  (workspace.withCell_bindingOf _ _).trans (if_pos rfl)

/-- The rule that is added last bears the name that was mentioned. -/
theorem mention_nameOf_size (workspace : Workspace) (name : String) :
    (workspace.mention name).nameOf workspace.cells.size = name :=
  (workspace.withCell_nameOf _ _).trans (if_pos rfl)

/-- A rule that was only mentioned cannot run. -/
theorem parse_mention (workspace : Workspace) (name : String) (fuel : Nat) (input : Value)
    (tracer : Option Tracer) :
    parse (fuel + 1) (workspace.mention name) (.rule workspace.cells.size) input tracer
      = some ⟨.error (.grammar (.undefinedRule name)), [], workspace.mention name⟩ := by
  have unresolved := outcome_resolve workspace.cells.size (workspace.mention name)
  rw [mention_bindingOf_size, mention_nameOf_size, Edit.outcome] at unresolved
  simp only [parse, run, step, Parser.call, Parser.label?, Parser.start, callRule, State.initial,
    unresolved]
  rfl

/-- When all is well, nothing is undefined. -/
theorem undefinedNames_of_check {workspace : Workspace} (checked : workspace.check = .ok ()) :
    workspace.undefinedNames = [] := by
  rw [check] at checked
  split at checked
  · assumption
  · cases checked

/-- When all is well, the grammar has its start rule. -/
theorem exists_start_of_check {workspace : Workspace} (checked : workspace.check = .ok ())
    {name : String} (start : workspace.grammar.start = some name) :
    ∃ cell, workspace.grammar.rules.lookup name = some cell := by
  rw [check, undefinedNames_of_check checked, start] at checked
  dsimp only at checked
  cases found : workspace.grammar.rules.lookup name with
  | some cell => exact ⟨cell, rfl⟩
  | none =>
    rw [isDefined, found] at checked
    cases checked

/-- A name that has come in unbound stands in the way of the next parse. -/
theorem check_mention {workspace : Workspace} (checked : workspace.check = .ok ())
    (exist : workspace.HasRules) {name : String}
    (unknown : workspace.grammar.rules.lookup name = none) :
    (workspace.mention name).check = .error (.grammar (.undefinedRules [name])) := by
  have grows := (mention_grows unknown).lasts
  have none : workspace.grammar.rules.filter
      (fun rule => !((workspace.mention name).bindingOf rule.2).isDefined) = [] := by
    have sorted := undefinedNames_of_check checked
    rw [undefinedNames] at sorted
    have empty := ((List.mergeSort_perm _ _).symm.trans (.of_eq sorted)).eq_nil
    rw [← List.map_eq_nil_iff.1 empty]
    exact List.filter_congr fun rule member => by
      rw [(grows.bindingOf_lasts (exist rule member)).isDefined_eq]
  -- all other names are defined, so that this is the only one
  have names : (workspace.mention name).undefinedNames = [name] := by
    rw [undefinedNames]
    show (((workspace.grammar.rules ++ [(name, workspace.cells.size)]).filter _).map
      (·.1)).mergeSort _ = [name]
    rw [List.filter_append, none, List.nil_append, List.filter_singleton, mention_bindingOf_size]
    exact List.mergeSort_singleton name
  rw [check, names]

/-- A parse starts from a rule that the grammar has, or it strays. -/
theorem strays_of_lookup {workspace : Workspace} (checked : workspace.check = .ok ())
    {start : Option String} {name : String} (named : workspace.startOr start = .ok name)
    (unknown : workspace.grammar.rules.lookup name = none) : workspace.Strays start name := by
  -- the start rule is checked before it is looked up
  have notStart : workspace.startName ≠ .ok name := by
    intro found
    rw [startName] at found
    cases start : workspace.grammar.start with
    | none =>
      rw [start] at found
      cases found
    | some other =>
      rw [start] at found
      cases found
      obtain ⟨cell, known⟩ := exists_start_of_check checked start
      rw [known] at unknown
      cases unknown
  cases start with
  | none => exact absurd named notStart
  | some given =>
    rw [startOr] at named
    cases empty : given.isEmpty with
    | true =>
      rw [empty] at named
      exact absurd named notStart
    | false =>
      rw [empty] at named
      cases named
      exact ⟨checked, rfl, empty, unknown⟩

end Workspace

/-! ## Stages of a grammar -/

namespace Stage

variable {source workspace : Workspace} {origins : Nat → Origin}

/-- A rule that was there is defined at a stage if it was. -/
theorem isDefined_eq (stage : Stage source origins workspace) {cell : Nat}
    (bound : cell < source.cells.size) :
    (workspace.bindingOf cell).isDefined = (source.bindingOf cell).isDefined := by
  have bears := stage.bindings cell (Nat.lt_of_lt_of_le bound stage.size_le)
  rw [stage.given_eq cell bound] at bears
  generalize workspace.bindingOf cell = binding at bears
  cases bears with
  | first twin => exact twin.isDefined_eq.symm
  | built pending =>
    have pending : source.bindingOf cell = _ := pending
    rw [pending]
    rfl

/-- A stage has the same undefined names. -/
theorem undefinedNames_eq (stage : Stage source origins workspace) (exist : source.HasRules) :
    workspace.undefinedNames = source.undefinedNames := by
  rw [Workspace.undefinedNames, Workspace.undefinedNames, stage.grammar_eq,
    List.filter_congr fun rule member => by rw [stage.isDefined_eq (exist rule member)]]

/-- A stage passes the check if the source does. -/
theorem check_eq (stage : Stage source origins workspace) (exist : source.HasRules) :
    workspace.check = source.check := by
  have defined (name : String) : workspace.isDefined name = source.isDefined name := by
    rw [Workspace.isDefined, Workspace.isDefined, stage.grammar_eq]
    cases known : source.grammar.rules.lookup name with
    | none => rfl
    | some cell => exact stage.isDefined_eq (exist _ (Workspace.mem_of_lookup_eq_some known))
  simp only [Workspace.check, stage.undefinedNames_eq exist, stage.grammar_eq, defined]

/-- A stage and its source are alike in the rules that were there. -/
theorem alike (stage : Stage source origins workspace) (contained : source.Contained) :
    Workspace.Alike source (Below source.cells.size) workspace source := by
  refine ⟨origins, .given, stage, .initial contained, ?_⟩
  rintro cell other ⟨bound, rfl⟩
  exact ⟨Nat.lt_of_lt_of_le bound stage.size_le, bound, stage.given_eq other bound⟩

end Stage

/-- What the caller sees of a report. -/
def Report.shown (report : Report α) : Except Fault α × List Event := (report.answer, report.events)

/-- Where the report of a parse from a rule comes from. -/
theorem parseFrom_eq (fuel : Nat) (workspace : Workspace) (start : Option String) (input : Value)
    (tracer : Option Tracer) :
    parseFrom fuel workspace start input tracer
      = match (startRule start).outcome workspace with
        | (.error fault, later) => some ⟨.error fault, [], later⟩
        | (.ok parser, later) => parse fuel later parser input tracer := rfl

/-- A grammar with an undefined name does not pass its check. -/
theorem Workspace.check_of_mem_undefinedNames {workspace : Workspace} {name : String}
    (member : name ∈ workspace.undefinedNames) :
    workspace.check = .error (.grammar (.undefinedRules workspace.undefinedNames)) := by
  rw [check]
  split
  · rename_i none
    rw [none] at member
    cases member
  · rfl

/-- A grammar with an undefined name parses nothing. -/
theorem parseFrom_of_mem_undefinedNames {workspace : Workspace} {name : String}
    (member : name ∈ workspace.undefinedNames) (fuel : Nat) (start : Option String)
    (input : Value) (tracer : Option Tracer) :
    parseFrom fuel workspace start input tracer
      = some ⟨.error (.grammar (.undefinedRules workspace.undefinedNames)), [], workspace⟩ := by
  rw [parseFrom_eq, Workspace.outcome_startRule, Workspace.check_of_mem_undefinedNames member]

/-- **At every stage the grammar parses the same.** -/
theorem Stage.parseFrom_eq {source workspace : Workspace} {origins : Nat → Origin}
    (stage : Stage source origins workspace) (contained : source.Contained) (fuel : Nat)
    (start : Option String) (input : Value) (tracer : Option Tracer) :
    (parseFrom fuel workspace start input tracer).map Report.shown
      = (parseFrom fuel source start input tracer).map Report.shown := by
  rw [Peg.parseFrom_eq, Peg.parseFrom_eq, Workspace.outcome_startRule, Workspace.outcome_startRule,
    stage.check_eq contained.rules]
  have sameStart : workspace.startOr start = source.startOr start := by
    cases start <;> simp only [Workspace.startOr, Workspace.startName, stage.grammar_eq]
  cases source.check with
  | error fault => rfl
  | ok _ =>
    dsimp only
    rw [sameStart]
    cases source.startOr start with
    | error fault => rfl
    | ok name =>
      dsimp only
      rw [stage.grammar_eq]
      cases known : source.grammar.rules.lookup name with
      | some cell =>
        have bound := contained.rules _ (Workspace.mem_of_lookup_eq_some known)
        have reported := parse_alike contained (stage.alike contained) (.rule ⟨bound, rfl⟩) fuel
          input tracer
        dsimp only
        revert reported
        generalize parse fuel workspace (.rule cell) input tracer = one,
          parse fuel source (.rule cell) input tracer = other
        rintro (twin | _)
        · rw [Option.map_some, Option.map_some, Report.shown, Report.shown, twin.answer_eq,
            twin.events_eq]
        · rfl
      | none =>
        -- neither of them has the name, and both end the same at once
        cases fuel with
        | zero => rfl
        | succ fuel =>
          dsimp only
          rw [Workspace.parse_mention, Workspace.parse_mention]
          rfl

/-! ## What a parse leaves -/

section Parse

variable {workspace : Workspace} {fuel : Nat} {start : Option String} {input : Value}
  {tracer : Option Tracer} {report : Report Success}

/-- A parse is refused, or it starts from a rule that the grammar has, or it strays. -/
theorem parseFrom_cases (fuel : Nat) (workspace : Workspace) (start : Option String)
    (input : Value) (tracer : Option Tracer) :
    (∃ fault, parseFrom fuel workspace start input tracer = some ⟨.error fault, [], workspace⟩)
    ∨ (∃ name cell, workspace.grammar.rules.lookup name = some cell
      ∧ parseFrom fuel workspace start input tracer
          = parse fuel workspace (.rule cell) input tracer)
    ∨ ∃ name, workspace.Strays start name
      ∧ parseFrom fuel workspace start input tracer
          = parse fuel (workspace.mention name) (.rule workspace.cells.size) input tracer := by
  rw [parseFrom_eq, Workspace.outcome_startRule]
  cases checked : workspace.check with
  | error fault => exact .inl ⟨fault, rfl⟩
  | ok _ =>
    cases named : workspace.startOr start with
    | error fault => exact .inl ⟨fault, rfl⟩
    | ok name =>
      dsimp only
      cases found : workspace.grammar.rules.lookup name with
      | some cell => exact .inr (.inl ⟨name, cell, found, rfl⟩)
      | none => exact .inr (.inr ⟨name, Workspace.strays_of_lookup checked named found, rfl⟩)

/-- A footprint that allows to mention a name holds along a parse from a rule. -/
theorem related_of_parseFrom {related : Workspace → Workspace → Prop}
    (parsed : parseFrom fuel workspace start input tracer = some report)
    (footprint : Workspace.IsFootprint related)
    (mention : ∀ name, workspace.grammar.rules.lookup name = none →
      related workspace (workspace.mention name)) : related workspace report.workspace := by
  obtain ⟨fault, same⟩ | ⟨name, cell, -, same⟩ | ⟨name, strays, same⟩ :=
    parseFrom_cases fuel workspace start input tracer
  · rw [same] at parsed
    cases parsed
    exact footprint.refl workspace
  · exact related_of_parse (same ▸ parsed) footprint
  · exact footprint.trans (mention name strays.unknown)
      (related_of_parse (same ▸ parsed) footprint)

/-- **A parse from a rule makes the workspace grow.** -/
theorem grows_of_parseFrom (parsed : parseFrom fuel workspace start input tracer = some report) :
    workspace.Grows RuleCell.Lasts report.workspace :=
  related_of_parseFrom parsed Workspace.grows_isFootprint fun _ unknown =>
    (Workspace.mention_grows unknown).lasts

/-- A parse is a step of a session, or two if it has to mention the name that it starts from. -/
theorem reachable_of_parseFrom (reachable : workspace.Reachable)
    (parsed : parseFrom fuel workspace start input tracer = some report) :
    report.workspace.Reachable := by
  have ran {ready : Workspace} {cell : Nat} (reachable : ready.Reachable)
      (parsed : parse fuel ready (.rule cell) input tracer = some report) :
      report.workspace.Reachable := by
    have ran : Way.diagnosed.run fuel ready (.rule cell) input tracer
        = some (report.map .success) := by rw [Way.run, parsed, Option.map_some]
    exact reachable.tail (.run ran)
  obtain ⟨fault, same⟩ | ⟨name, cell, -, same⟩ | ⟨name, strays, same⟩ :=
    parseFrom_cases fuel workspace start input tracer
  · rw [same] at parsed
    cases parsed
    exact reachable
  · exact ran reachable (same ▸ parsed)
  · have mentions := Workspace.Step.ruleCell name workspace
    rw [Workspace.outcome_ruleCell, strays.unknown] at mentions
    exact ran (reachable.tail mentions) (same ▸ parsed)

/-- A parse that strays ends at once and leaves the name behind. -/
theorem report_of_strays {name : String} (strays : workspace.Strays start name)
    (parsed : parseFrom fuel workspace start input tracer = some report) :
    report = ⟨.error (.grammar (.undefinedRule name)), [], workspace.mention name⟩ := by
  have named : workspace.startOr start = .ok name := by
    rw [strays.start_eq, Workspace.startOr, strays.nonempty]
    rfl
  rw [parseFrom_eq, Workspace.outcome_startRule, strays.checked, named] at parsed
  dsimp only at parsed
  rw [strays.unknown] at parsed
  cases fuel with
  | zero => cases parsed
  | succ fuel =>
    dsimp only at parsed
    rw [Workspace.parse_mention] at parsed
    exact (Option.some.inj parsed).symm

/-- A parse that does not stray leaves a stage. -/
theorem exists_stage_of_parseFrom (contained : workspace.Contained)
    (known : ∀ name, ¬ workspace.Strays start name)
    (parsed : parseFrom fuel workspace start input tracer = some report) :
    ∃ origins, Stage workspace origins report.workspace := by
  obtain ⟨fault, same⟩ | ⟨name, cell, found, same⟩ | ⟨name, strays, -⟩ :=
    parseFrom_cases fuel workspace start input tracer
  · rw [same] at parsed
    cases parsed
    exact ⟨_, .initial contained⟩
  · have bound := contained.rules _ (Workspace.mem_of_lookup_eq_some found)
    have reported := parse_alike contained ((Stage.initial contained).alike contained)
      (.rule ⟨bound, rfl⟩) fuel input tracer
    rw [← same, parsed] at reported
    cases reported with
    | some twin => exact twin.stage
  · exact absurd strays (known name)

end Parse

/-- **A parse changes nothing of a grammar but the names that it mentions**, in whatever state the
grammar is. It keeps the start rule and the defined rules: each name stands for the rule that it
stood for, and that rule is what it was, or it was pending and has been built. A name that the parse
adds is new and undefined, and on account of it every parse after it is refused. In a contained
workspace it adds none, and every parse after it gives the same answer and the same events as if it
had not been, unless it strays: then it adds the name that it was to start from and no other. -/
theorem parse_keeps_grammar {workspace : Workspace} (reachable : workspace.Reachable)
    {fuel : Nat} {start : Option String} {input : Value} {tracer : Option Tracer}
    {report : Report Success}
    (parsed : parseFrom fuel workspace start input tracer = some report) :
    (report.workspace.Reachable
      ∧ report.workspace.grammar.start = workspace.grammar.start
      ∧ report.workspace.definedNames = workspace.definedNames
      ∧ (∀ name cell, workspace.grammar.rules.lookup name = some cell →
        report.workspace.grammar.rules.lookup name = some cell
          ∧ (workspace.bindingOf cell).Lasts (report.workspace.bindingOf cell))
      ∧ ∃ added, report.workspace.mentionedNames = workspace.mentionedNames ++ added
        ∧ ∀ name ∈ added, name ∉ workspace.mentionedNames
          ∧ name ∈ report.workspace.undefinedNames
          ∧ ∀ fuel start input tracer, parseFrom fuel report.workspace start input tracer
            = some ⟨.error (.grammar (.undefinedRules report.workspace.undefinedNames)), [],
              report.workspace⟩)
    ∧ (workspace.Contained → (∀ name, ¬ workspace.Strays start name) →
      report.workspace.Contained
      ∧ report.workspace.mentionedNames = workspace.mentionedNames
      ∧ report.workspace.undefinedNames = workspace.undefinedNames
      ∧ ∀ fuel start input tracer,
        (parseFrom fuel report.workspace start input tracer).map Report.shown
          = (parseFrom fuel workspace start input tracer).map Report.shown)
    ∧ ∀ name, workspace.Strays start name →
      report.answer = .error (.grammar (.undefinedRule name))
      ∧ report.workspace.mentionedNames = workspace.mentionedNames ++ [name]
      ∧ ∀ fuel start input tracer, parseFrom fuel report.workspace start input tracer
        = some ⟨.error (.grammar (.undefinedRules [name])), [], report.workspace⟩ := by
  have exist := reachable.hasRules
  have grows := grows_of_parseFrom parsed
  refine ⟨⟨reachable_of_parseFrom reachable parsed, grows.start_eq, grows.definedNames_eq exist,
    fun name cell known => ⟨grows.lookup_eq known, ?_⟩, ?_⟩, ?_, ?_⟩
  · exact grows.bindingOf_lasts (exist _ (Workspace.mem_of_lookup_eq_some known))
  · obtain ⟨added, same, new⟩ := grows.mentionedNames_eq
    refine ⟨added, same, fun name member => ?_⟩
    obtain ⟨unknown, undefined⟩ := new name member
    exact ⟨unknown, undefined, parseFrom_of_mem_undefinedNames undefined⟩
  · intro contained known
    -- each rule has an origin in the first grammar, and what is built later repeats what is there
    obtain ⟨origins, stage⟩ := exists_stage_of_parseFrom contained known parsed
    refine ⟨stage.contained contained, ?_, stage.undefinedNames_eq exist,
      fun fuel start input tracer => stage.parseFrom_eq contained fuel start input tracer⟩
    rw [Workspace.mentionedNames, Workspace.mentionedNames, stage.grammar_eq]
  · intro name strays
    -- an unknown start rule is made, and it is undefined from then on
    rw [report_of_strays strays parsed]
    refine ⟨rfl, List.map_append, fun fuel start input tracer => ?_⟩
    rw [parseFrom_eq, Workspace.outcome_startRule,
      Workspace.check_mention strays.checked exist strays.unknown]

/-- A grammar with the rule `a`, which is a letter. -/
def letterWorkspace : Workspace where
  cells := #[⟨"a", .resolved (.terminal (.literal (.ofString "a"))), 0⟩]
  grammar := { rules := [("a", 0)], start := some "a" }

/-- One letter or more. -/
def letters : Description :=
  .sequence [.literal (.ofString "a"), .optional (.reference "a") .null]

/-- A grammar with the rule `a`, which is letters and is built when it is first called. -/
def lettersWorkspace : Workspace where
  cells := #[⟨"letters", .pending letters, 0⟩, ⟨"a", .resolved (.rule 0), 0⟩]
  grammar := { rules := [("a", 1)], start := some "a" }

/-- Every body in this grammar mentions only rules that it has. -/
theorem lettersWorkspace_contained : lettersWorkspace.Contained where
  bindings cell bound := by
    have mentioned : lettersWorkspace.Mentions "a" := ⟨1, rfl⟩
    match cell, bound with
    | 1, _ => exact .resolved (.rule ⟨by decide, rfl⟩)
    | 0, _ =>
      refine .pending (.sequence (List.forall_mem_cons.2 ⟨.literal _, List.forall_mem_cons.2
        ⟨.optional (.reference mentioned) _, List.forall_mem_nil _⟩⟩))
  kept _ member := nomatch member
  rules := List.forall_mem_singleton.2 (by decide)

/-- The grammar with one letter is made by a definition. -/
theorem letterWorkspace_reachable : letterWorkspace.Reachable :=
  .single (.define "a" (.terminal (.literal (.ofString "a"))) {})

/-- The grammar with letters is made by a description and a definition. -/
theorem lettersWorkspace_reachable : lettersWorkspace.Reachable :=
  .tail (.single (.addCell "letters" (.pending letters) {})) (.define "a" (.rule 0) _)

/-- A parse from the name `nope` makes a grammar refuse the text that it parsed before; a parse that
builds a rule changes no answer. -/
theorem stray_name_spoils_grammar :
    (∃ report, parseFrom 1 letterWorkspace (some "nope") (.ofString "a") none = some report
      ∧ report.answer = .error (.grammar (.undefinedRule "nope"))
      ∧ (parseFrom 9 letterWorkspace none (.ofString "a") none).map (·.answer)
        = some (.ok ⟨.ofString "a", .ofString "", 1⟩)
      ∧ (parseFrom 9 report.workspace none (.ofString "a") none).map (·.answer)
        = some (.error (.grammar (.undefinedRules ["nope"]))))
    ∧ ∃ report, parseFrom 40 lettersWorkspace none (.ofString "aa") none = some report
      ∧ (report.workspace.bindingOf 0).isResolved
      ∧ ∀ fuel start input tracer,
        (parseFrom fuel report.workspace start input tracer).map Report.shown
          = (parseFrom fuel lettersWorkspace start input tracer).map Report.shown := by
  constructor
  · have strays : letterWorkspace.Strays (some "nope") "nope" := ⟨by cbv, rfl, by decide, rfl⟩
    have ends : (parseFrom 1 letterWorkspace (some "nope") (.ofString "a") none).isSome := by cbv
    obtain ⟨report, parsed⟩ := Option.isSome_iff_exists.1 ends
    obtain ⟨-, -, strayed⟩ := parse_keeps_grammar letterWorkspace_reachable parsed
    obtain ⟨answer, -, later⟩ := strayed "nope" strays
    have alone : (parseFrom 9 letterWorkspace none (.ofString "a") none).map (·.answer)
        = some (.ok ⟨.ofString "a", .ofString "", 1⟩) := by
      set_option maxRecDepth 4000 in cbv
    exact ⟨report, parsed, answer, alone, by rw [later]; rfl⟩
  · have builds : (parseFrom 40 lettersWorkspace none (.ofString "aa") none).map
        (fun report => (report.workspace.bindingOf 0).isResolved) = some true := by
      set_option maxRecDepth 4000 in cbv
    obtain ⟨report, parsed, resolved⟩ := Option.map_eq_some_iff.1 builds
    obtain ⟨-, kept, -⟩ := parse_keeps_grammar lettersWorkspace_reachable parsed
    obtain ⟨-, -, -, same⟩ := kept lettersWorkspace_contained fun name strays => by
      cases strays.start_eq
    exact ⟨report, parsed, resolved, same⟩

end Peg
