import Peg.Proofs.Rejection

/-! # Histories of a grammar

A grammar begins without rules. Then names are looked up, rules are defined in several ways, through
the grammar or through a reference to the rule, rules are made, built, resolved and invoked, and
inputs are parsed, in any order and whether it ends well or in a fault. A history keeps a log of the
definitions that were accepted, which it reads off the answers and not off the rules.

* **`Workspace.tries_of_defineBy`**: all that a definition can do.
* **`History.advances`**: over a history each rule is bound at most once, and each name stands for
  one rule.
* **`History.mem_definedNames_iff`**: the defined names are those in the log. -/

namespace Peg

/-! ## Deeds -/

/-- One thing that is done to a grammar or to rules. -/
inductive Deed where
  /-- A name is looked up as an item of the grammar. -/
  | mention (name : String)
  /-- A name is looked up as an attribute of the grammar. -/
  | read (name : String)
  /-- A rule is defined through the grammar. -/
  | define (spelling : Spelling) (name : String) (body : Parser)
  /-- A rule is defined through a reference to it. -/
  | bind (cell : Nat) (body : Parser)
  /-- A rule is resolved. -/
  | resolve (cell : Nat)
  /-- A rule is made that belongs to no grammar. -/
  | make (name : String) (binding : Binding)
  /-- A description is built, and the names in it are looked up. -/
  | build (description : Description)
  /-- A parser is kept under a name. -/
  | keep (name : String) (body : Parser)
  /-- A parser is run. A rule is invoked so. -/
  | run (way : Way) (fuel : Nat) (parser : Parser) (input : Value) (tracer : Option Tracer)
  /-- An input is parsed from a rule of the grammar. -/
  | parse (fuel : Nat) (start : Option String) (input : Value) (tracer : Option Tracer)

/-- Forgets the value of an answer. -/
def withoutValue (result : Except Fault α × Workspace) : Except Fault Unit × Workspace :=
  (result.1.map fun _ => (), result.2)

/-- A fault is still there when the value is forgotten. -/
theorem eq_of_withoutValue {result : Except Fault α × Workspace} {fault : Fault}
    {after : Workspace} (raised : withoutValue result = (.error fault, after)) :
    result = (.error fault, after) := by
  obtain ⟨_ | _, later⟩ := result
  · cases raised
    rfl
  · cases raised

namespace Deed

/-- How a deed ends and the workspace after it; `none` if a run has not ended. -/
def outcome? (workspace : Workspace) : Deed → Option (Except Fault Unit × Workspace)
  | .mention name => some (withoutValue ((Workspace.ruleCell name).outcome workspace))
  | .read name => some (withoutValue ((Workspace.getAttribute name).outcome workspace))
  | .define spelling name body => some ((Workspace.defineBy spelling name body).outcome workspace)
  | .bind cell body => some ((Workspace.bind cell body).outcome workspace)
  | .resolve cell => some (withoutValue ((Workspace.resolve cell).outcome workspace))
  | .make name binding => some (withoutValue ((Workspace.addCell name binding).outcome workspace))
  | .build description => some (withoutValue (description.build.outcome workspace))
  | .keep name body => some ((Workspace.keep name body).outcome workspace)
  | .run way fuel parser input tracer =>
    (way.run fuel workspace parser input tracer).map fun report =>
      withoutValue (report.answer, report.workspace)
  | .parse fuel start input tracer =>
    (parseFrom fuel workspace start input tracer).map fun report =>
      withoutValue (report.answer, report.workspace)

/-- A deed that reaches into the grammar: it reads or replaces the table of the rules, or it makes
something else than a text or nothing the start rule. -/
def reachesInside : Deed → Bool
  | .read name => name == "_rules"
  | .define .dot name body => Workspace.setsInside name body
  | _ => false

/-- A deed that runs parsers. -/
def isRun : Deed → Bool
  | .run .. | .parse .. => true
  | _ => false

end Deed

/-! ## Histories -/

/-- How a rule was reached when it was defined. -/
inductive Route where
  /-- By its name in the grammar. -/
  | grammar
  /-- By a reference to it. -/
  | reference
  deriving DecidableEq

/-- A definition that was accepted. -/
structure Definition where
  /-- How the rule was reached. -/
  route : Route
  /-- The name of the rule in the grammar. -/
  name : String

/-- What is written as a definition sets a private attribute. -/
def Spelling.hides : Spelling → String → Bool
  | .dot, name => Workspace.isPrivate name
  | _, _ => false

/-- The definitions of rules of the grammar that a deed adds. An assignment to a private attribute
defines no rule, and a rule that is reached by a reference may belong to no grammar. -/
def Deed.defines (workspace : Workspace) : Deed → Except Fault Unit → List Definition
  | .define spelling name _, .ok () => if spelling.hides name then [] else [⟨.grammar, name⟩]
  | .bind cell _, .ok () =>
    (workspace.grammar.rules.filter fun rule => rule.2 = cell).map fun rule =>
      ⟨.reference, rule.1⟩
  | _, _ => []

/-- What can be done from a workspace on, with the definitions that were accepted on the way, in
order. Only such deeds are done as are permitted, and none reaches into the grammar. -/
inductive History (permits : Workspace → Deed → Prop) (first : Workspace) :
    List Definition → Workspace → Prop
  /-- Nothing was done. -/
  | begin : History permits first [] first
  /-- One more deed was done. -/
  | next {log : List Definition} {before after : Workspace} {deed : Deed}
      {answer : Except Fault Unit} (past : History permits first log before)
      (permitted : permits before deed) (outside : deed.reachesInside = false)
      (done : deed.outcome? before = some (answer, after)) :
      History permits first (log ++ deed.defines before answer) after

/-- The workspace in which a grammar has just begun. -/
def Workspace.afresh (base : Workspace) (start : Option String) : Workspace :=
  ((Workspace.newGrammar start).outcome base).2

/-- A grammar that has just begun has no rules. -/
theorem Workspace.afresh_rules (base : Workspace) (start : Option String) :
    (base.afresh start).grammar.rules = [] := rfl

/-! ## Definitions -/

namespace Workspace

/-- The cell of the rule of a name, which may be about to be added. -/
def cellOf (workspace : Workspace) (name : String) : Nat :=
  (workspace.grammar.rules.lookup name).getD workspace.cells.size

/-- The workspace in which a name has been looked up. -/
def mentioning (workspace : Workspace) (name : String) : Workspace :=
  match workspace.grammar.rules.lookup name with
  | some _ => workspace
  | none => workspace.mention name

/-- The workspace in which a name is the start rule if there was none. -/
def starting (workspace : Workspace) (name : String) : Workspace :=
  { workspace with
    grammar := { workspace.grammar with start := workspace.grammar.start <|> some name } }

/-- Looking a name up always gives its cell. -/
theorem ruleCell_eq (workspace : Workspace) (name : String) :
    (ruleCell name).outcome workspace
      = (.ok (workspace.cellOf name), workspace.mentioning name) := by
  rw [outcome_ruleCell, cellOf, mentioning]
  cases workspace.grammar.rules.lookup name <;> rfl

/-- Looking a name up makes the workspace grow. -/
theorem mentioning_grows (workspace : Workspace) (name : String) :
    workspace.Grows Eq (workspace.mentioning name) := by
  have grows := ruleCell_grows name workspace
  rw [ruleCell_eq] at grows
  exact grows

/-- After a name has been looked up, its entry is there. -/
theorem mem_mentioning (workspace : Workspace) (name : String) :
    (name, workspace.cellOf name) ∈ (workspace.mentioning name).grammar.rules := by
  rw [mentioning, cellOf]
  cases known : workspace.grammar.rules.lookup name with
  | some cell => exact mem_of_lookup_eq_some known
  | none => exact List.mem_append_right _ List.mem_cons_self

/-- The cell of a name that the grammar has is the one that it stands for. -/
theorem cellOf_of_lookup {workspace : Workspace} {name : String} {cell : Nat}
    (known : workspace.grammar.rules.lookup name = some cell) : workspace.cellOf name = cell := by
  rw [cellOf, known, Option.getD_some]

/-- Looking up a name that the grammar has changes nothing. -/
theorem mentioning_of_lookup {workspace : Workspace} {name : String} {cell : Nat}
    (known : workspace.grammar.rules.lookup name = some cell) :
    workspace.mentioning name = workspace := by
  rw [mentioning, known]

/-- All that a definition can do, however it is written. -/
inductive Tries (workspace : Workspace) (spelling : Spelling) (name : String) (body : Parser) :
    Except Fault Unit → Workspace → Prop
  /-- It sets a private attribute, which is no rule, or it cannot be set. -/
  | unruled {answer : Except Fault Unit} {grammar : Grammar} (hidden : spelling.hides name)
      (rules_eq : grammar.rules = workspace.grammar.rules)
      (start_eq : name ≠ "_start" → grammar.start = workspace.grammar.start) :
      Tries workspace spelling name body answer { workspace with grammar := grammar }
  /-- The name is that of a member. -/
  | member : Tries workspace spelling name body (.error (.grammar (.shadowsMember name))) workspace
  /-- The rule is bound already, or the body is no parser. -/
  | refused {fault : GrammarFault}
      (reason : ((workspace.mentioning name).bindingOf (workspace.cellOf name)).isDefined
        ∨ body.constant?.isSome) :
      Tries workspace spelling name body (.error (.grammar fault)) (workspace.mentioning name)
  /-- The rule is bound. -/
  | accepted (shown : spelling.hides name = false)
      (free : ((workspace.mentioning name).bindingOf (workspace.cellOf name)).isDefined = false)
      (parser : body.constant? = none) :
      Tries workspace spelling name body (.ok ())
        (((workspace.mentioning name).withBody (workspace.cellOf name) body).starting name)

section Tries

variable {workspace : Workspace} {spelling : Spelling} {name : String} {body : Parser}

/-- A definition through the grammar looks the rule up and binds it. -/
theorem tries_of_define (shown : spelling.hides name = false) :
    workspace.Tries spelling name body
      ((do let _ ← define name body : Edit Unit).outcome workspace).1
      ((do let _ ← define name body : Edit Unit).outcome workspace).2 := by
  simp only [define, Edit.outcome_bind, ruleCell_eq, outcome_bindCell]
  by_cases bound : ((workspace.mentioning name).bindingOf (workspace.cellOf name)).isDefined
  · rw [if_pos bound]
    exact .refused (.inl bound)
  · rw [if_neg bound]
    cases constant : body.constant? with
    | some value => exact .refused (.inr (by rw [constant]; rfl))
    | none => exact .accepted shown (Bool.eq_false_of_not_eq_true bound) constant

/-- A private attribute is set beside the rules. -/
theorem tries_of_setPrivate (hidden : spelling.hides name) :
    workspace.Tries spelling name body ((setPrivate name body).outcome workspace).1
      ((setPrivate name body).outcome workspace).2 := by
  rw [setPrivate, Edit.outcome_bind, Edit.outcome_get]
  dsimp only
  split
  · exact .unruled hidden rfl fun other => absurd rfl other
  · exact .unruled hidden rfl fun other => absurd rfl other
  · exact .unruled hidden rfl fun _ => rfl
  · exact .unruled hidden rfl fun _ => rfl
  · exact .unruled hidden rfl fun _ => rfl
  · exact .unruled hidden rfl fun _ => rfl

/-- **All that a definition can do.** -/
theorem tries_of_defineBy (workspace : Workspace) (spelling : Spelling) (name : String)
    (body : Parser) :
    workspace.Tries spelling name body ((defineBy spelling name body).outcome workspace).1
      ((defineBy spelling name body).outcome workspace).2 := by
  cases spelling with
  | call => exact tries_of_define rfl
  | item => exact tries_of_define rfl
  | dot =>
    rw [defineBy, setAttribute]
    split
    · rename_i hidden
      exact tries_of_setPrivate hidden
    · rename_i shown
      split
      · exact .member
      · exact tries_of_define (Bool.eq_false_of_not_eq_true shown)

end Tries

end Workspace

/-! ## What becomes of rules -/

/-- What may become of a binding over a history. -/
inductive Binding.Moves : Binding → Binding → Prop
  /-- It is as it was. -/
  | stays (binding : Binding) : Moves binding binding
  /-- There was none, and the rule has been defined. -/
  | defined (body : Parser) : Moves .undefined (.resolved body)
  /-- It was pending and has been built. -/
  | built (description : Description) (body : Parser) :
      Moves (.pending description) (.resolved body)

namespace Binding.Moves

variable {first second third : Binding}

/-- What moves on twice has moved on. -/
theorem trans (early : first.Moves second) (late : second.Moves third) : first.Moves third := by
  cases early with
  | stays => exact late
  | defined body =>
    cases late with
    | stays => exact .defined body
  | built description body =>
    cases late with
    | stays => exact .built description body

/-- A resolved rule stays bound to its parser. -/
theorem eq_resolved {body : Parser} (moves : Moves (.resolved body) second) :
    second = .resolved body := by
  cases moves with
  | stays => rfl

/-- A rule that is defined stays so. -/
theorem isDefined (moves : first.Moves second) (bound : first.isDefined) : second.isDefined := by
  cases moves with
  | stays => exact bound
  | defined => rfl
  | built => rfl

/-- A rule that is not pending never becomes so. -/
theorem ne_pending (moves : first.Moves second)
    (settled : ∀ description, first ≠ .pending description) (description : Description) :
    second ≠ .pending description := by
  cases moves with
  | stays => exact settled description
  | defined => exact fun impossible => nomatch impossible
  | built => exact fun impossible => nomatch impossible

end Binding.Moves

/-- What may become of a rule over a history: its name stays, its binding moves on, and once it is
resolved it is not built again. -/
structure RuleCell.Moves (earlier later : RuleCell) : Prop where
  /-- The name is the same. -/
  name_eq : later.name = earlier.name
  /-- The binding moves on. -/
  binding : earlier.binding.Moves later.binding
  /-- A rule that is resolved is not built again. -/
  builds_eq : earlier.binding.isResolved → later.builds = earlier.builds

namespace RuleCell.Moves

/-- A rule that is left alone has moved on by nothing. -/
theorem refl (content : RuleCell) : content.Moves content := ⟨rfl, .stays _, fun _ => rfl⟩

/-- A rule that moves on twice has moved on. -/
theorem trans {first second third : RuleCell} (early : first.Moves second)
    (late : second.Moves third) : first.Moves third where
  name_eq := late.name_eq.trans early.name_eq
  binding := early.binding.trans late.binding
  builds_eq resolved := by
    have still : second.binding.isResolved := by
      have moves := early.binding
      revert moves resolved
      cases first.binding with
      | resolved body => exact fun _ moves => by rw [moves.eq_resolved]; rfl
      | undefined => exact fun impossible => nomatch impossible
      | pending => exact fun impossible => nomatch impossible
    rw [late.builds_eq still, early.builds_eq resolved]

end RuleCell.Moves

namespace Workspace

/-- An entry of the grammar is what its name stands for, and its rule is there under that name and
is not pending. -/
def Houses (workspace : Workspace) (rule : String × Nat) : Prop :=
  workspace.grammar.rules.lookup rule.1 = some rule.2
    ∧ ∃ content, workspace.cells[rule.2]? = some content ∧ content.name = rule.1
      ∧ ∀ description, content.binding ≠ .pending description

/-- The workspace `after` can come of `before` over a history of the grammar. -/
structure Advances (before after : Workspace) : Prop where
  /-- What becomes of the rules. -/
  cells : ∀ (index : Nat) (content : RuleCell), before.cells[index]? = some content →
    ∃ later, after.cells[index]? = some later ∧ content.Moves later
  /-- The grammar has more entries at most. -/
  rules : ∃ added, after.grammar.rules = before.grammar.rules ++ added
    ∧ ∀ rule ∈ added, after.Houses rule

section Advances

variable {before after : Workspace}

/-- Rules may move on in a grammar that has the same entries. -/
theorem Advances.of_rules_eq
    (cells : ∀ (index : Nat) (content : RuleCell), before.cells[index]? = some content →
      ∃ later, after.cells[index]? = some later ∧ content.Moves later)
    (rules_eq : after.grammar.rules = before.grammar.rules) : before.Advances after :=
  ⟨cells, [], by rw [rules_eq, List.append_nil], List.forall_mem_nil _⟩

/-- A workspace whose rules and names are left alone advances. -/
theorem Advances.of_cells_eq (cells_eq : after.cells = before.cells)
    (rules_eq : after.grammar.rules = before.grammar.rules) : before.Advances after :=
  .of_rules_eq (fun _ content found => ⟨content, cells_eq ▸ found, .refl content⟩) rules_eq

/-- A name that the grammar had stands for the same rule. -/
theorem Advances.lookup_eq (advances : before.Advances after) {name : String} {cell : Nat}
    (known : before.grammar.rules.lookup name = some cell) :
    after.grammar.rules.lookup name = some cell := by
  obtain ⟨added, same, -⟩ := advances.rules
  rw [same, List.lookup_append, known, Option.some_or]

/-- An entry of the grammar still has its rule after an advance. -/
theorem Houses.advances {rule : String × Nat} (houses : before.Houses rule)
    (advances : before.Advances after) : after.Houses rule := by
  obtain ⟨known, content, found, named, settled⟩ := houses
  obtain ⟨later, foundLater, moves⟩ := advances.cells _ _ found
  exact ⟨advances.lookup_eq known, later, foundLater, moves.name_eq.trans named,
    moves.binding.ne_pending settled⟩

/-- Workspaces advance over several steps. -/
theorem Advances.trans {between : Workspace} (early : before.Advances between)
    (late : between.Advances after) : before.Advances after where
  cells index content found := by
    obtain ⟨middle, foundThere, moves⟩ := early.cells index content found
    obtain ⟨later, foundLater, movesOn⟩ := late.cells index middle foundThere
    exact ⟨later, foundLater, moves.trans movesOn⟩
  rules := by
    obtain ⟨old, same, housesOld⟩ := early.rules
    obtain ⟨new, sameToo, housesNew⟩ := late.rules
    refine ⟨old ++ new, by rw [sameToo, same, List.append_assoc], ?_⟩
    exact List.forall_mem_append.2
      ⟨fun rule member => (housesOld rule member).advances late, housesNew⟩

/-- Every entry of the grammar still has its rule, and so do those that are added. -/
theorem Advances.houses (advances : before.Advances after)
    (houses : ∀ rule ∈ before.grammar.rules, before.Houses rule) :
    ∀ rule ∈ after.grammar.rules, after.Houses rule := by
  obtain ⟨added, same, new⟩ := advances.rules
  rw [same]
  exact List.forall_mem_append.2 ⟨fun rule member => (houses rule member).advances advances, new⟩

/-- Of a rule that was there the binding moves on. -/
theorem Advances.bindingOf_moves (advances : before.Advances after) {cell : Nat}
    (bound : cell < before.cells.size) :
    (before.bindingOf cell).Moves (after.bindingOf cell) := by
  have found := Array.getElem?_eq_getElem bound
  obtain ⟨later, foundLater, moves⟩ := advances.cells cell _ found
  rw [bindingOf_of_getElem? found, bindingOf_of_getElem? foundLater]
  exact moves.binding

/-- Growth leaves all rules as they are and adds entries for rules without a definition. -/
theorem Grows.advances (grows : before.Grows Eq after) : before.Advances after where
  cells index content found := by
    obtain ⟨later, foundLater, rfl⟩ := grows.cells index content found
    exact ⟨content, foundLater, .refl content⟩
  rules := by
    obtain ⟨added, same, new⟩ := grows.grammar_eq
    refine ⟨added, by rw [same], fun rule member => ?_⟩
    obtain ⟨-, known, -, builds, found⟩ := new rule member
    exact ⟨known, _, found, rfl, fun _ impossible => nomatch impossible⟩

/-- One rule may move on. -/
theorem advances_modify {workspace : Workspace} {cell : Nat} {change : RuleCell → RuleCell}
    (moves : ∀ content, workspace.cells[cell]? = some content → content.Moves (change content)) :
    workspace.Advances { workspace with cells := workspace.cells.modify cell change } := by
  refine .of_rules_eq (fun index content found => ?_) rfl
  rw [Array.getElem?_modify, found]
  split
  · rename_i here
    subst here
    exact ⟨change content, rfl, moves content found⟩
  · exact ⟨content, rfl, .refl content⟩

/-- A rule without a definition may be bound. -/
theorem withBody_advances {workspace : Workspace} {cell : Nat}
    (free : (workspace.bindingOf cell).isDefined = false) (body : Parser) :
    workspace.Advances (workspace.withBody cell body) := by
  refine advances_modify fun content found => ?_
  rw [bindingOf_of_getElem? found] at free
  obtain ⟨name, binding, builds⟩ := content
  cases binding with
  | undefined => exact ⟨rfl, .defined body, fun _ => rfl⟩
  | pending => cases free
  | resolved => cases free

/-- Resolving a rule builds it at most. -/
theorem resolve_advances (workspace : Workspace) (cell : Nat) :
    workspace.Advances ((resolve cell).outcome workspace).2 := by
  -- a rule that is pending is not resolved, so that it may be counted and built
  have moves {later : Workspace} {content : RuleCell} {description : Description}
      (found : later.cells[cell]? = some content)
      (pending : later.bindingOf cell = .pending description) :
      content.binding = .pending description ∧ content.binding.isResolved = false := by
    rw [← bindingOf_of_getElem? found, pending]
    exact ⟨rfl, rfl⟩
  have builds {description : Description}
      (pending : workspace.bindingOf cell = .pending description) :
      workspace.Advances (description.build.outcome (workspace.counted cell)).2 := by
    have counts : workspace.Advances (workspace.counted cell) :=
      advances_modify fun content found => ⟨rfl, .stays _, fun resolved =>
        absurd resolved (by rw [(moves found pending).2]; exact Bool.false_ne_true)⟩
    exact counts.trans (description.build_grows (workspace.counted cell)).advances
  cases found : (resolve cell).outcome workspace with
  | mk answer later =>
  cases resolves found with
  | known => exact .of_cells_eq rfl rfl
  | undefined => exact .of_cells_eq rfl rfl
  | unbuilt pending => exact builds pending
  | @built description body pending =>
    refine (builds pending).trans (advances_modify fun content found => ?_)
    have still := bindingOf_build_counted (lt_of_isDefined (by rw [pending]; rfl)) cell description
    obtain ⟨same, unresolved⟩ := moves found (still.trans pending)
    refine ⟨rfl, ?_, fun resolved => absurd resolved (by rw [unresolved]; exact Bool.false_ne_true)⟩
    rw [same]
    exact .built description body

/-- **Runs let a workspace advance**, also if they end in a fault. -/
theorem advances_isFootprint : IsFootprint Advances where
  refl _ := .of_cells_eq rfl rfl
  trans := Advances.trans
  resolve {workspace _ cell _} found _ := by
    have advances := workspace.resolve_advances cell
    rw [found] at advances
    exact advances
  remember _ _ := .of_cells_eq rfl rfl

end Advances

end Workspace

/-! ## Histories -/

/-- The deed sets the start rule by hand. -/
def Deed.setsStart : Deed → Bool
  | .define .dot name _ => name == "_start"
  | _ => false

/-- All that a deed can do to the rules and to the grammar, with the definitions that it adds. -/
inductive Deed.Does (deed : Deed) (before : Workspace) : List Definition → Workspace → Prop
  /-- It leaves them alone, apart perhaps from the start rule. -/
  | beside {after : Workspace} (cells_eq : after.cells = before.cells)
      (rules_eq : after.grammar.rules = before.grammar.rules)
      (start_eq : deed.setsStart = false → after.grammar.start = before.grammar.start) :
      Does deed before [] after
  /-- It mentions names, adds rules and builds rules that were pending. -/
  | grows {after : Workspace} (advances : before.Advances after)
      (grown : before.Grows RuleCell.Lasts after) : Does deed before [] after
  /-- It binds a rule through the grammar. -/
  | defines {spelling : Spelling} {name : String} {body : Parser}
      (same : deed = .define spelling name body)
      (free : ((before.mentioning name).bindingOf (before.cellOf name)).isDefined = false) :
      Does deed before [⟨.grammar, name⟩]
        (((before.mentioning name).withBody (before.cellOf name) body).starting name)
  /-- It binds a rule through a reference. -/
  | binds {cell : Nat} {body : Parser} (same : deed = .bind cell body)
      (free : (before.bindingOf cell).isDefined = false) :
      Does deed before
        ((before.grammar.rules.filter fun rule => rule.2 = cell).map fun rule =>
          ⟨.reference, rule.1⟩)
        (before.withBody cell body)

section Deed

variable {deed : Deed} {before after : Workspace} {answer : Except Fault Unit}

/-- Growth that leaves the rules alone is something that a deed can do. -/
theorem Deed.does_of_grows (grows : before.Grows Eq after) : deed.Does before [] after :=
  .grows grows.advances grows.lasts

/-- What a run can do to the workspace, it can do as a deed. -/
theorem Deed.related_of_run {related : Workspace → Workspace → Prop}
    (ran : deed.outcome? before = some (answer, after)) (runs : deed.isRun)
    (footprint : Workspace.IsFootprint related)
    (mention : ∀ name, before.grammar.rules.lookup name = none →
      related before (before.mention name)) : related before after := by
  cases deed with
  | run way fuel parser input tracer =>
    obtain ⟨report, ended, same⟩ := Option.map_eq_some_iff.1 ran
    cases same
    exact Way.run_related ended footprint
  | parse fuel start input tracer =>
    obtain ⟨report, parsed, same⟩ := Option.map_eq_some_iff.1 ran
    cases same
    exact related_of_parseFrom parsed footprint mention
  | _ => cases runs

/-- A run makes the workspace grow, and the rules in it last. -/
theorem Deed.grows_of_run (ran : deed.outcome? before = some (answer, after))
    (runs : deed.isRun) : before.Grows RuleCell.Lasts after :=
  related_of_run ran runs Workspace.grows_isFootprint fun _ unknown =>
    (Workspace.mention_grows unknown).lasts

/-- A run is something that a deed can do, and it defines nothing. -/
theorem Deed.does_of_run (ran : deed.outcome? before = some (answer, after))
    (runs : deed.isRun) : deed.Does before [] after := by
  refine .grows (related_of_run ran runs Workspace.advances_isFootprint ?_) (grows_of_run ran runs)
  exact fun _ unknown => (Workspace.mention_grows unknown).advances

/-- A definition, however it ends, is something that a deed can do. -/
theorem Deed.does_of_tries {spelling : Spelling} {name : String} {body : Parser}
    (tries : before.Tries spelling name body answer after) :
    (Deed.define spelling name body).Does before
      ((Deed.define spelling name body).defines before answer) after := by
  cases tries with
  | @unruled _ grammar hidden rules_eq start_eq =>
    have none : (Deed.define spelling name body).defines before answer = [] := by
      cases answer with
      | ok _ => rw [Deed.defines, if_pos hidden]
      | error _ => rfl
    rw [none]
    refine .beside rfl rules_eq fun other => start_eq ?_
    rintro rfl
    cases spelling with
    | dot => cases other
    | call => cases hidden
    | item => cases hidden
  | member => exact .beside rfl rfl fun _ => rfl
  | refused => exact does_of_grows (before.mentioning_grows name)
  | accepted shown free =>
    rw [Deed.defines, if_neg (by rw [shown]; exact Bool.false_ne_true)]
    exact .defines rfl free

/-- **All that a deed can do.** -/
theorem Deed.does (done : deed.outcome? before = some (answer, after)) :
    deed.Does before (deed.defines before answer) after := by
  cases deed with
  | mention name =>
    cases done
    exact does_of_grows (Workspace.ruleCell_grows name before)
  | read name =>
    cases done
    exact does_of_grows (Workspace.getAttribute_grows name before)
  | define spelling name body =>
    have tries := before.tries_of_defineBy spelling name body
    rw [Option.some.inj done] at tries
    exact does_of_tries tries
  | bind cell body =>
    have binds := Option.some.inj done
    rw [Workspace.outcome_bindCell] at binds
    split at binds
    · cases binds
      exact .beside rfl rfl fun _ => rfl
    · rename_i free
      split at binds
      · cases binds
        exact .beside rfl rfl fun _ => rfl
      · cases binds
        exact .binds rfl (Bool.eq_false_of_not_eq_true free)
  | resolve cell =>
    cases done
    exact .grows (before.resolve_advances cell) (before.resolve_grows cell)
  | make name binding =>
    cases done
    exact does_of_grows (Workspace.addCell_grows name binding before)
  | build description =>
    cases done
    exact does_of_grows (description.build_grows before)
  | keep name body =>
    cases done
    exact .beside rfl rfl fun _ => rfl
  | run => exact does_of_run done rfl
  | parse => exact does_of_run done rfl

/-- **No deed binds a rule a second time or gives a name another rule.** -/
theorem Deed.Does.advances {added : List Definition} (does : deed.Does before added after) :
    before.Advances after := by
  cases does with
  | beside cells_eq rules_eq => exact .of_cells_eq cells_eq rules_eq
  | grows advances => exact advances
  | @defines _ name body _ free =>
    have binds := Workspace.withBody_advances free body
    exact ((before.mentioning_grows name).advances.trans binds).trans (.of_cells_eq rfl rfl)
  | @binds cell body _ free => exact Workspace.withBody_advances free body

end Deed

/-! ## Names -/

namespace Workspace

/-- A name is defined if it stands for a rule that is bound. -/
theorem mem_definedNames_iff {workspace : Workspace} {name : String} :
    name ∈ workspace.definedNames
      ↔ ∃ cell, (name, cell) ∈ workspace.grammar.rules
        ∧ (workspace.bindingOf cell).isDefined := by
  rw [definedNames, List.mem_map]
  constructor
  · rintro ⟨⟨_, cell⟩, member, rfl⟩
    exact ⟨cell, List.mem_filter.1 member⟩
  · rintro ⟨cell, member, bound⟩
    exact ⟨(name, cell), List.mem_filter.2 ⟨member, bound⟩, rfl⟩

/-- The start rule has nothing to do with which names are defined. -/
theorem starting_definedNames (workspace : Workspace) (name : String) :
    (workspace.starting name).definedNames = workspace.definedNames := rfl

/-- The name in the cell of an entry is that of the entry. -/
theorem Houses.nameOf_eq {workspace : Workspace} {rule : String × Nat}
    (houses : workspace.Houses rule) : workspace.nameOf rule.2 = rule.1 := by
  obtain ⟨-, content, found, named, -⟩ := houses
  rw [nameOf, found]
  exact named

/-- An entry of the grammar has a cell of the workspace. -/
theorem Houses.lt {workspace : Workspace} {rule : String × Nat}
    (houses : workspace.Houses rule) : rule.2 < workspace.cells.size := by
  obtain ⟨-, content, found, -⟩ := houses
  exact (Array.getElem?_eq_some_iff.1 found).1

/-- Binding a rule leaves the other rules as they are. -/
theorem withBody_bindingOf_of_ne {cell other : Nat} (elsewhere : other ≠ cell)
    (workspace : Workspace) (body : Parser) :
    (workspace.withBody cell body).bindingOf other = workspace.bindingOf other := by
  rw [bindingOf, withBody, Array.getElem?_modify, if_neg (Ne.symm elsewhere), bindingOf]

/-- Binding a rule defines the names that stand for it. -/
theorem mem_definedNames_withBody {workspace : Workspace}
    (houses : ∀ rule ∈ workspace.grammar.rules, workspace.Houses rule) (cell : Nat) (body : Parser)
    (name : String) :
    name ∈ (workspace.withBody cell body).definedNames
      ↔ name ∈ workspace.definedNames ∨ (name, cell) ∈ workspace.grammar.rules := by
  have binds {name : String} (member : (name, cell) ∈ workspace.grammar.rules) :
      ((workspace.withBody cell body).bindingOf cell).isDefined := by
    rw [withBody_bindingOf (houses _ member).lt, if_pos rfl]
    rfl
  rw [mem_definedNames_iff, mem_definedNames_iff]
  constructor
  · rintro ⟨other, member, bound⟩
    by_cases here : other = cell
    · exact .inr (here ▸ member)
    · rw [withBody_bindingOf_of_ne here] at bound
      exact .inl ⟨other, member, bound⟩
  · rintro (⟨other, member, bound⟩ | member)
    · refine ⟨other, member, ?_⟩
      by_cases here : other = cell
      · subst here
        exact binds member
      · rw [withBody_bindingOf_of_ne here]
        exact bound
    · exact ⟨cell, member, binds member⟩

end Workspace

namespace History

variable {permits : Workspace → Deed → Prop} {base first before after : Workspace}
  {start : Option String} {log : List Definition}

/-- **Over a history each rule is bound at most once, and each name stands for one rule.** -/
theorem advances (history : History permits first log after) : first.Advances after := by
  induction history with
  | begin => exact .of_cells_eq rfl rfl
  | next _ _ _ done inductionHypothesis => exact inductionHypothesis.trans (Deed.does done).advances

/-- Every entry of the grammar has its rule. -/
theorem houses (history : History permits (base.afresh start) log after) :
    ∀ rule ∈ after.grammar.rules, after.Houses rule :=
  history.advances.houses (List.forall_mem_nil _)

/-- A name that is defined stands for a rule that is bound. -/
theorem exists_cell_of_mem_definedNames
    (history : History permits (base.afresh start) log after) {name : String}
    (member : name ∈ after.definedNames) :
    ∃ cell, after.grammar.rules.lookup name = some cell ∧ (after.bindingOf cell).isDefined := by
  obtain ⟨cell, entry, bound⟩ := Workspace.mem_definedNames_iff.1 member
  exact ⟨cell, (history.houses _ entry).1, bound⟩

/-- A history that goes on is one history. -/
theorem append {late : List Definition} (past : History permits first log before)
    (future : History permits before late after) : History permits first (log ++ late) after := by
  induction future with
  | begin => rwa [List.append_nil]
  | next _ permitted outside done inductionHypothesis =>
    rw [← List.append_assoc]
    exact inductionHypothesis.next permitted outside done

end History

/-- **A deed defines the names that it adds to the log**, and no others. -/
theorem Deed.Does.mem_definedNames_iff {deed : Deed} {before after : Workspace}
    {added : List Definition} (does : deed.Does before added after)
    (houses : ∀ rule ∈ before.grammar.rules, before.Houses rule) (name : String) :
    name ∈ after.definedNames
      ↔ name ∈ before.definedNames ∨ ∃ definition ∈ added, definition.name = name := by
  cases does with
  | beside cells_eq rules_eq =>
    simp [Workspace.definedNames, Workspace.bindingOf, cells_eq, rules_eq]
  | grows _ grown =>
    rw [grown.definedNames_eq fun rule member => (houses rule member).lt]
    simp
  | @defines _ other body _ free =>
    -- mentioning the name changes no defined name, and then its cell gets a body
    have mentions := before.mentioning_grows other
    have housesNow := mentions.advances.houses houses
    have names : (name, before.cellOf other) ∈ (before.mentioning other).grammar.rules
        ↔ other = name := by
      have entry := before.mem_mentioning other
      constructor
      · intro member
        exact (housesNow _ entry).nameOf_eq.symm.trans (housesNow _ member).nameOf_eq
      · rintro rfl
        exact entry
    have bound := Workspace.mem_definedNames_withBody housesNow (before.cellOf other) body name
    rw [mentions.lasts.definedNames_eq fun rule member => (houses rule member).lt, names] at bound
    rw [Workspace.starting_definedNames, bound]
    simp
  | @binds cell body _ free =>
    rw [Workspace.mem_definedNames_withBody houses]
    simp

/-- **The defined names are those in the log.** -/
theorem History.mem_definedNames_iff {permits : Workspace → Deed → Prop} {base after : Workspace}
    {start : Option String} {log : List Definition}
    (history : History permits (base.afresh start) log after) (name : String) :
    name ∈ after.definedNames ↔ ∃ definition ∈ log, definition.name = name := by
  induction history with
  | begin => simp [Workspace.definedNames, Workspace.afresh_rules]
  | next past _ _ done inductionHypothesis =>
    rw [(Deed.does done).mem_definedNames_iff past.houses, inductionHypothesis]
    simp only [List.mem_append, or_and_right, exists_or]

end Peg
