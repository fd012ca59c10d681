import Mathlib.Logic.Relation
import Peg.Proofs.Growth
import Peg.Session

/-! # Workspaces that can be reached

A session starts with an empty workspace. It begins grammars, mentions, makes and binds rules,
builds descriptions, resolves rules, sets and reads attributes, keeps parsers under names and runs
parsers, in any order, and goes on whether a step ends well or in a fault.

* **`Workspace.Reachable.hasRules`**: in a workspace that is reached so, every name that the grammar
  mentions has its rule. -/

namespace Peg

namespace Workspace

/-- One step of a session. -/
inductive Step : Workspace → Workspace → Prop
  /-- A new grammar begins. -/
  | newGrammar (start : Option String) (workspace : Workspace) :
      Step workspace ((newGrammar start).outcome workspace).2
  /-- A name of the grammar is looked up. -/
  | ruleCell (name : String) (workspace : Workspace) :
      Step workspace ((ruleCell name).outcome workspace).2
  /-- A rule is made that belongs to no grammar. -/
  | addCell (name : String) (binding : Binding) (workspace : Workspace) :
      Step workspace ((addCell name binding).outcome workspace).2
  /-- A description is built. -/
  | build (description : Description) (workspace : Workspace) :
      Step workspace (description.build.outcome workspace).2
  /-- A rule of the grammar is bound. -/
  | define (name : String) (body : Parser) (workspace : Workspace) :
      Step workspace ((define name body).outcome workspace).2
  /-- Any rule is bound. -/
  | bind (cell : Nat) (body : Parser) (workspace : Workspace) :
      Step workspace ((bind cell body).outcome workspace).2
  /-- A rule is resolved. -/
  | resolve (cell : Nat) (workspace : Workspace) :
      Step workspace ((resolve cell).outcome workspace).2
  /-- An attribute of the grammar is set, from the outside. -/
  | setAttribute (name : String) (body : Parser) (outside : setsInside name body = false)
      (workspace : Workspace) : Step workspace ((setAttribute name body).outcome workspace).2
  /-- An attribute of the grammar is read. -/
  | getAttribute (name : String) (workspace : Workspace) :
      Step workspace ((getAttribute name).outcome workspace).2
  /-- A parser is kept under a name. -/
  | keep (name : String) (body : Parser) (workspace : Workspace) :
      Step workspace ((keep name body).outcome workspace).2
  /-- A parser is run. -/
  | run {way : Way} {fuel : Nat} {workspace : Workspace} {parser : Parser} {input : Value}
      {tracer : Option Tracer} {report : Report Answer}
      (ran : way.run fuel workspace parser input tracer = some report) :
      Step workspace report.workspace

/-- The workspaces that sessions reach. -/
def Reachable (workspace : Workspace) : Prop := Relation.ReflTransGen Step {} workspace

/-- Every name that the grammar mentions has its rule. -/
def HasRules (workspace : Workspace) : Prop :=
  ∀ rule ∈ workspace.grammar.rules, rule.2 < workspace.cells.size

/-! ## Edits -/

/-- The rules are still there if none is lost and the names are as they were. -/
theorem HasRules.of_size_le {before after : Workspace} (exist : before.HasRules)
    (rules_eq : after.grammar.rules = before.grammar.rules)
    (size_le : before.cells.size ≤ after.cells.size) : after.HasRules := by
  intro rule member
  rw [rules_eq] at member
  exact Nat.lt_of_lt_of_le (exist rule member) size_le

/-- Growth leaves no name without a rule. -/
theorem Grows.hasRules {becomes : RuleCell → RuleCell → Prop} {before after : Workspace}
    (grows : before.Grows becomes after) (exist : before.HasRules) : after.HasRules := by
  obtain ⟨added, same, new⟩ := grows.grammar_eq
  intro rule member
  rw [same] at member
  rcases List.mem_append.1 member with old | isNew
  · exact Nat.lt_of_lt_of_le (exist rule old) grows.size_le
  · obtain ⟨-, -, -, builds, found⟩ := new rule isNew
    exact (Array.getElem?_eq_some_iff.1 found).1

/-- An edit leaves no name without a rule. -/
abbrev KeepsRules (edit : Edit α) : Prop := edit.Keeps HasRules fun _ => True

/-- What only lets the grammar grow leaves no name without a rule. -/
theorem keepsRules_of_grows {edit : Edit α} (grows : edit.Grows) : KeepsRules edit :=
  fun workspace exist => ⟨(grows workspace).hasRules exist, fun _ _ => trivial⟩

/-- Binding a cell leaves no name without a rule. -/
theorem bind_keepsRules (cell : Nat) (body : Parser) : KeepsRules (bind cell body) := by
  intro workspace exist
  refine ⟨?_, fun _ _ => trivial⟩
  rw [outcome_bindCell]
  split
  · exact exist
  · split
    · exact exist
    · exact exist.of_size_le rfl (by simp)

/-- Defining a rule leaves no name without a rule. -/
theorem define_keepsRules (name : String) (body : Parser) : KeepsRules (define name body) := by
  refine Edit.keeps_bind (keepsRules_of_grows (ruleCell_grows name)) fun cell _ => ?_
  refine Edit.keeps_bind (bind_keepsRules cell body) fun _ _ => ?_
  refine Edit.keeps_bind (Edit.keeps_modify fun _ exist => exist) fun _ _ => ?_
  exact Edit.keeps_pure trivial

/-- Keeping a parser under a private name leaves no name without a rule. -/
theorem setPrivate_keepsRules (name : String) (body : Parser) :
    KeepsRules (setPrivate name body) := by
  refine Edit.keeps_bind Edit.keeps_get fun workspace exist => ?_
  have settles {later : Workspace} (exist : later.HasRules) : KeepsRules (set later : Edit Unit) :=
    fun _ _ => ⟨exist, fun _ _ => trivial⟩
  dsimp only
  split
  · exact settles exist
  · exact settles exist
  · exact Edit.keeps_throw _ _
  · exact Edit.keeps_throw _ _
  · exact Edit.keeps_throw _ _
  · exact settles exist

/-- Setting an attribute leaves no name without a rule. -/
theorem setAttribute_keepsRules (name : String) (body : Parser) :
    KeepsRules (setAttribute name body) := by
  rw [setAttribute]
  split
  · exact setPrivate_keepsRules name body
  · split
    · exact Edit.keeps_throw _ _
    · exact Edit.keeps_bind (define_keepsRules name body) fun _ _ => Edit.keeps_pure trivial

/-- Reading an attribute adds the rule of a name that is mentioned for the first time. -/
theorem getAttribute_grows (name : String) : (getAttribute name).Grows := by
  refine Edit.grows_bind Edit.grows_get fun workspace => ?_
  split
  · split
    · exact Edit.grows_pure _
    · exact Edit.grows_pure _
    · exact Edit.grows_pure _
    · split
      · exact Edit.grows_pure _
      · exact Edit.grows_throw _
  · split
    · exact Edit.grows_bind (Edit.grows_lift _) fun _ => Edit.grows_pure _
    · exact Edit.grows_pure _
    · split
      · exact Edit.grows_pure _
      · exact Edit.grows_bind (ruleCell_grows name) fun _ => Edit.grows_pure _

end Workspace

/-! ## Sessions -/

namespace Workspace

/-- No step leaves a name without a rule. -/
theorem Step.hasRules {before after : Workspace} (step : Step before after)
    (exist : before.HasRules) : after.HasRules := by
  cases step with
  -- a new grammar has no names, and all other edits lose no rule
  | newGrammar start => exact fun _ member => nomatch member
  | ruleCell name => exact (ruleCell_grows name before).hasRules exist
  | addCell name binding => exact (addCell_grows name binding before).hasRules exist
  | build description => exact (description.build_grows before).hasRules exist
  | define name body => exact (define_keepsRules name body before exist).1
  | bind cell body => exact (bind_keepsRules cell body before exist).1
  | resolve cell => exact (before.resolve_grows cell).hasRules exist
  | setAttribute name body _ => exact (setAttribute_keepsRules name body before exist).1
  | getAttribute name => exact (getAttribute_grows name before).hasRules exist
  | keep name body => exact exist
  | run ran => exact (Way.run_related ran grows_isFootprint).hasRules exist

/-- **In a reachable workspace every name has its rule.** -/
theorem Reachable.hasRules {workspace : Workspace} (reachable : workspace.Reachable) :
    workspace.HasRules := by
  induction reachable with
  | refl => exact fun _ member => nomatch member
  | tail _ step ih => exact step.hasRules ih

end Workspace

end Peg
