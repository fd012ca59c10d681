import Peg.Proofs.Edit

/-! # Parsers without terminals written by hand

A parser is built in when all its terminals are. A workspace is built in when all its rules are,
those that are still to be built included, and the parsers it keeps under names. Building a
description and resolving a rule keep this, so that a parse that starts with built-in parsers only
never meets another one. -/

namespace Peg

/-- All terminals of a parser are built in. -/
inductive Parser.BuiltIn : Parser → Prop
  | terminal (leaf : Terminal) : BuiltIn (.terminal leaf)
  | sequence {first : Parser} {others : List Parser} (head : BuiltIn first)
      (tail : ∀ parser ∈ others, BuiltIn parser) : BuiltIn (.sequence first others)
  | choice {first : Parser} {others : List Parser} (head : BuiltIn first)
      (tail : ∀ parser ∈ others, BuiltIn parser) : BuiltIn (.choice first others)
  | star {body : Parser} (inside : BuiltIn body) : BuiltIn (.star body)
  | plus {body : Parser} (inside : BuiltIn body) : BuiltIn (.plus body)
  | optional {body : Parser} (inside : BuiltIn body) (absent : Value) :
      BuiltIn (.optional body absent)
  | ahead {body : Parser} (inside : BuiltIn body) : BuiltIn (.ahead body)
  | notAhead {body : Parser} (inside : BuiltIn body) : BuiltIn (.notAhead body)
  | transform {body : Parser} (inside : BuiltIn body) (name : String)
      (function : Value → Except Fault Value) : BuiltIn (.transform body name function)
  | nested {body inner : Parser} (inside : BuiltIn body) (second : BuiltIn inner)
      (form : NestedForm) : BuiltIn (.nested body inner form)
  | traced (name : String) {body : Parser} (inside : BuiltIn body) : BuiltIn (.traced name body)
  | rule (cell : Nat) : BuiltIn (.rule cell)
  | constant (value : Value) : BuiltIn (.constant value)

/-- All terminals that a description mentions are built in. -/
inductive Description.BuiltIn : Description → Prop
  | token (origin : PatternOrigin) (flags : String) : BuiltIn (.token origin flags)
  | literal (text : Value) : BuiltIn (.literal text)
  | terminal (leaf : Terminal) : BuiltIn (.terminal leaf)
  | sequence {parts : List Description} (inside : ∀ part ∈ parts, BuiltIn part) :
      BuiltIn (.sequence parts)
  | choice {parts : List Description} (inside : ∀ part ∈ parts, BuiltIn part) :
      BuiltIn (.choice parts)
  | star {body : Description} (inside : BuiltIn body) : BuiltIn (.star body)
  | plus {body : Description} (inside : BuiltIn body) : BuiltIn (.plus body)
  | optional {body : Description} (inside : BuiltIn body) (absent : Value) :
      BuiltIn (.optional body absent)
  | ahead {body : Description} (inside : BuiltIn body) : BuiltIn (.ahead body)
  | notAhead {body : Description} (inside : BuiltIn body) : BuiltIn (.notAhead body)
  | transform {body : Description} (inside : BuiltIn body) (name : String)
      (function : Value → Except Fault Value) : BuiltIn (.transform body name function)
  | nested {body inner : Description} (inside : BuiltIn body) (second : BuiltIn inner)
      (form : NestedForm) : BuiltIn (.nested body inner form)
  | traced (name : String) {body : Description} (inside : BuiltIn body) :
      BuiltIn (.traced name body)
  | reference (name : String) : BuiltIn (.reference name)
  | saved (name : String) : BuiltIn (.saved name)
  | rule (name : String) {body : Description} (inside : BuiltIn body) : BuiltIn (.rule name body)
  | deferred (name : String) {body : Description} (inside : BuiltIn body) :
      BuiltIn (.deferred name body)
  | within {rules : List (String × Description)} (inside : ∀ rule ∈ rules, BuiltIn rule.2)
      (name : String) : BuiltIn (.within rules name)
  | constant (value : Value) : BuiltIn (.constant value)
  | broken {parts : List Description} (inside : ∀ part ∈ parts, BuiltIn part) (fault : Fault) :
      BuiltIn (.broken parts fault)

/-- What a rule is bound to is built in. -/
def Binding.BuiltIn : Binding → Prop
  | .undefined => True
  | .pending body => body.BuiltIn
  | .resolved body => body.BuiltIn

/-- All rules of a workspace and all parsers that it keeps are built in. -/
structure Workspace.BuiltIn (workspace : Workspace) : Prop where
  /-- The rules. -/
  cells : ∀ content ∈ workspace.cells, content.binding.BuiltIn
  /-- The parsers kept under names. -/
  kept : ∀ entry ∈ workspace.kept, entry.2.BuiltIn

/-- An edit keeps a workspace built in. -/
abbrev KeepsBuiltIn (property : α → Prop) (edit : Edit α) : Prop :=
  edit.Keeps Workspace.BuiltIn property

/-! ## The workspace -/

namespace Workspace

/-- In a workspace that is built in every cell has a binding that is, also a cell that does not
exist. -/
theorem BuiltIn.bindingOf {workspace : Workspace} (builtIn : workspace.BuiltIn) (cell : Nat) :
    (workspace.bindingOf cell).BuiltIn := by
  rw [Workspace.bindingOf]
  cases found : workspace.cells[cell]? with
  | none => trivial
  | some content => exact builtIn.cells content (Array.mem_of_getElem? found)

/-- Changing the content of one cell keeps a workspace built in if the new binding is. -/
theorem BuiltIn.modify {workspace : Workspace} (builtIn : workspace.BuiltIn) (cell : Nat)
    {change : RuleCell → RuleCell}
    (keeps : ∀ content, content.binding.BuiltIn → (change content).binding.BuiltIn) :
    ({ workspace with cells := workspace.cells.modify cell change } : Workspace).BuiltIn where
  cells := by
    intro content member
    obtain ⟨index, bound, rfl⟩ := Array.mem_iff_getElem.1 member
    rw [Array.size_modify] at bound
    have before := builtIn.cells workspace.cells[index] (Array.getElem_mem bound)
    rw [Array.getElem_modify]
    split
    · exact keeps _ before
    · exact before
  kept := builtIn.kept

/-- A new cell keeps the workspace built in, if its binding is. -/
theorem addCell_keepsBuiltIn (name : String) {binding : Binding} (builtIn : binding.BuiltIn) :
    KeepsBuiltIn (fun _ => True) (addCell name binding) := by
  refine Edit.keeps_modifyGet (fun workspace holds => ⟨?_, holds.kept⟩) fun _ _ => trivial
  intro content member
  rcases Array.mem_push.1 member with old | rfl
  · exact holds.cells content old
  · exact builtIn

/-- A new binding keeps the workspace built in, if it is so itself. -/
theorem setBinding_keepsBuiltIn (cell : Nat) {binding : Binding} (builtIn : binding.BuiltIn) :
    KeepsBuiltIn (fun _ => True) (setBinding cell binding) :=
  Edit.keeps_modify fun _ holds => holds.modify cell fun _ _ => builtIn

/-- Looking up a rule, and adding it where it is missing, keeps the workspace built in. -/
theorem ruleCell_keepsBuiltIn (name : String) : KeepsBuiltIn (fun _ => True) (ruleCell name) := by
  refine Edit.keeps_bind Edit.keeps_get fun workspace _ => ?_
  split
  · exact Edit.keeps_pure trivial
  · refine Edit.keeps_bind (addCell_keepsBuiltIn name trivial) fun cell _ => ?_
    refine Edit.keeps_bind (Edit.keeps_modify fun _ holds => ⟨holds.cells, holds.kept⟩)
      fun _ _ => ?_
    exact Edit.keeps_pure trivial

/-- Binding a cell to a parser that is built in keeps the workspace so. -/
theorem bind_keepsBuiltIn (cell : Nat) {body : Parser} (builtIn : body.BuiltIn) :
    KeepsBuiltIn (fun _ => True) (bind cell body) := by
  refine Edit.keeps_bind Edit.keeps_get fun workspace _ => ?_
  dsimp only
  split
  · exact Edit.keeps_throw_bind _ _
  · split
    · exact Edit.keeps_throw _ _
    · exact setBinding_keepsBuiltIn cell builtIn

/-- Defining a rule by a parser that is built in keeps the workspace so. -/
theorem define_keepsBuiltIn (name : String) {body : Parser} (builtIn : body.BuiltIn) :
    KeepsBuiltIn (fun _ => True) (define name body) := by
  refine Edit.keeps_bind (ruleCell_keepsBuiltIn name) fun cell _ => ?_
  refine Edit.keeps_bind (bind_keepsBuiltIn cell builtIn) fun _ _ => ?_
  refine Edit.keeps_bind (Edit.keeps_modify fun _ holds => ⟨holds.cells, holds.kept⟩)
    fun _ _ => ?_
  exact Edit.keeps_pure trivial

/-- What keeps the workspace built in does so also in a grammar of its own. -/
theorem inNewGrammar_keepsBuiltIn {property : α → Prop} {edit : Edit α}
    (keeps : KeepsBuiltIn property edit) : KeepsBuiltIn property (inNewGrammar edit) := by
  have setGrammar (grammar : Grammar) : KeepsBuiltIn (fun _ => True)
      (modify fun workspace => { workspace with grammar := grammar } : Edit Unit) :=
    Edit.keeps_modify fun _ holds => ⟨holds.cells, holds.kept⟩
  refine Edit.keeps_bind Edit.keeps_get fun workspace _ => ?_
  -- the grammar around is put back after a result and after a fault
  refine Edit.keeps_bind (setGrammar {}) fun _ _ => Edit.keeps_tryCatch ?_ fun fault => ?_
  · refine Edit.keeps_bind keeps fun result has => ?_
    exact Edit.keeps_bind (setGrammar workspace.grammar) fun _ _ => Edit.keeps_pure has
  · exact Edit.keeps_bind (setGrammar workspace.grammar) fun _ _ => Edit.keeps_throw _ _

end Workspace

/-! ## Building -/

namespace Description

/-- All parsers of a row are built in. -/
abbrev AllBuiltIn (parsers : List Parser) : Prop := ∀ parser ∈ parsers, parser.BuiltIn

/-- A row is built in, if its parts are and the combinator asks for no more. -/
theorem builtIn_of_combine {combinator : String} {make : Parser → List Parser → Parser}
    (makes : ∀ {first others}, first.BuiltIn → AllBuiltIn others → (make first others).BuiltIn)
    {parts : List Parser} (builtIn : AllBuiltIn parts) {whole : Parser}
    (combined : combine combinator make parts = .ok whole) : whole.BuiltIn := by
  match parts with
  | [] => cases combined
  | [only] => cases combined
  | first :: second :: others =>
    cases combined
    exact makes (builtIn first List.mem_cons_self)
      fun parser member => builtIn parser (List.mem_cons_of_mem _ member)

/-- Building parts one after the other keeps the workspace built in, if building each of them
does. -/
theorem buildAll_keepsBuiltIn {parts : List Description}
    (keeps : ∀ part ∈ parts, KeepsBuiltIn Parser.BuiltIn (build part)) :
    KeepsBuiltIn AllBuiltIn (buildAll parts) := by
  induction parts with
  | nil =>
    rw [buildAll]
    exact Edit.keeps_pure fun parser member => nomatch member
  | cons part others inductionHypothesis =>
    rw [buildAll]
    refine Edit.keeps_bind (keeps part List.mem_cons_self) fun parser builtIn => ?_
    refine Edit.keeps_bind
      (inductionHypothesis fun other member => keeps other (List.mem_cons_of_mem _ member))
      fun parsers allBuiltIn => ?_
    exact Edit.keeps_pure (List.forall_mem_cons.2 ⟨builtIn, allBuiltIn⟩)

/-- Building the rules of a grammar keeps the workspace built in, if building each body does. -/
theorem buildRules_keepsBuiltIn {rules : List (String × Description)}
    (keeps : ∀ rule ∈ rules, KeepsBuiltIn Parser.BuiltIn (build rule.2)) :
    KeepsBuiltIn (fun _ => True) (buildRules rules) := by
  induction rules with
  | nil =>
    rw [buildRules]
    exact Edit.keeps_pure trivial
  | cons rule others inductionHypothesis =>
    obtain ⟨name, description⟩ := rule
    rw [buildRules]
    refine Edit.keeps_bind (keeps (name, description) List.mem_cons_self)
      fun parser builtIn => ?_
    refine Edit.keeps_bind (Workspace.define_keepsBuiltIn name builtIn) fun _ _ => ?_
    exact inductionHypothesis fun rule member => keeps rule (List.mem_cons_of_mem _ member)

/-- A parser with one part is built in when the part is. -/
theorem keepsBuiltIn_of_body {body : Description} {make : Parser → Parser}
    (keeps : KeepsBuiltIn Parser.BuiltIn (build body))
    (makes : ∀ {parser}, parser.BuiltIn → (make parser).BuiltIn) :
    KeepsBuiltIn Parser.BuiltIn (do return make (← build body)) :=
  Edit.keeps_bind keeps fun _ builtIn => Edit.keeps_pure (makes builtIn)

/-- **Building keeps a workspace built in**, and what is built is built in. -/
theorem BuiltIn.keepsBuiltIn {description : Description} (builtIn : description.BuiltIn) :
    KeepsBuiltIn Parser.BuiltIn (build description) := by
  induction builtIn with
  | token origin flags =>
    rw [build]
    exact Edit.keeps_bind (Edit.keeps_lift fun _ _ => trivial)
      fun pattern _ => Edit.keeps_pure (.terminal _)
  | literal text =>
    rw [build]
    split
    · exact Edit.keeps_pure (.terminal _)
    · exact Edit.keeps_throw _ _
  | terminal leaf =>
    rw [build]
    exact Edit.keeps_pure (.terminal leaf)
  | sequence _ keeps =>
    rw [build]
    exact Edit.keeps_bind (buildAll_keepsBuiltIn keeps) fun parsers allBuiltIn =>
      Edit.keeps_lift fun whole combined => builtIn_of_combine .sequence allBuiltIn combined
  | choice _ keeps =>
    rw [build]
    exact Edit.keeps_bind (buildAll_keepsBuiltIn keeps) fun parsers allBuiltIn =>
      Edit.keeps_lift fun whole combined => builtIn_of_combine .choice allBuiltIn combined
  | star _ keeps =>
    rw [build]
    exact keepsBuiltIn_of_body keeps .star
  | plus _ keeps =>
    rw [build]
    exact keepsBuiltIn_of_body keeps .plus
  | optional _ absent keeps =>
    rw [build]
    exact keepsBuiltIn_of_body keeps (.optional · absent)
  | ahead _ keeps =>
    rw [build]
    exact keepsBuiltIn_of_body keeps .ahead
  | notAhead _ keeps =>
    rw [build]
    exact keepsBuiltIn_of_body keeps .notAhead
  | transform _ name function keeps =>
    rw [build]
    exact keepsBuiltIn_of_body keeps (.transform · name function)
  | nested _ _ form keeps second =>
    rw [build]
    exact Edit.keeps_bind keeps fun outer builtIn =>
      keepsBuiltIn_of_body second (.nested builtIn · form)
  | traced name _ keeps =>
    rw [build]
    exact keepsBuiltIn_of_body keeps (.traced name)
  | reference name =>
    rw [build]
    exact Edit.keeps_bind (Workspace.ruleCell_keepsBuiltIn name)
      fun cell _ => Edit.keeps_pure (.rule cell)
  | saved name =>
    rw [build]
    -- this is what the invariant says about the parsers kept under names
    refine Edit.keeps_bind Edit.keeps_get fun workspace holds => ?_
    split
    · rename_i parser found
      obtain ⟨before, after, same, -⟩ := List.lookup_eq_some_iff.1 found
      exact Edit.keeps_pure (holds.kept (name, parser) (by rw [same]; simp))
    · exact Edit.keeps_throw _ _
  | rule name _ keeps =>
    rw [build]
    refine Edit.keeps_bind keeps fun parser builtIn => ?_
    refine Edit.keeps_bind (Workspace.addCell_keepsBuiltIn name trivial) fun cell _ => ?_
    exact Edit.keeps_bind (Workspace.bind_keepsBuiltIn cell builtIn)
      fun _ _ => Edit.keeps_pure (.rule cell)
  | deferred name inside _ =>
    rw [build]
    -- nothing is built yet: the new cell holds the description, which is built in
    exact Edit.keeps_bind (Workspace.addCell_keepsBuiltIn name inside)
      fun cell _ => Edit.keeps_pure (.rule cell)
  | within _ name keeps =>
    rw [build]
    refine Workspace.inNewGrammar_keepsBuiltIn ?_
    refine Edit.keeps_bind (buildRules_keepsBuiltIn keeps) fun _ _ => ?_
    exact Edit.keeps_bind (Workspace.ruleCell_keepsBuiltIn name)
      fun cell _ => Edit.keeps_pure (.rule cell)
  | constant value =>
    rw [build]
    exact Edit.keeps_pure (.constant value)
  | broken _ fault keeps =>
    rw [build]
    exact Edit.keeps_bind (buildAll_keepsBuiltIn keeps) fun _ _ => Edit.keeps_throw _ _

end Description

/-- **Resolving a rule keeps a workspace built in**, and the parser of the rule is built in. -/
theorem Workspace.resolve_keepsBuiltIn (cell : Nat) :
    KeepsBuiltIn Parser.BuiltIn (resolve cell) := by
  refine Edit.keeps_bind Edit.keeps_get fun workspace holds => ?_
  have binding := holds.bindingOf cell
  dsimp only
  split
  · rename_i body found
    rw [found] at binding
    exact Edit.keeps_pure binding
  · exact Edit.keeps_throw _ _
  · rename_i description found
    rw [found] at binding
    -- the build is counted first, then the description is built and bound
    refine Edit.keeps_bind (Edit.keeps_modify fun _ holds => holds.modify cell fun _ same => same)
      fun _ _ => ?_
    refine Edit.keeps_bind (Description.BuiltIn.keepsBuiltIn binding) fun body builtIn => ?_
    split
    · exact Edit.keeps_throw _ _
    · exact Edit.keeps_bind (setBinding_keepsBuiltIn cell builtIn)
        fun _ _ => Edit.keeps_pure builtIn

/-- A rule that is resolved in a built-in workspace is a built-in parser, and the workspace stays
built in. -/
theorem Workspace.BuiltIn.resolve {workspace after : Workspace} (builtIn : workspace.BuiltIn)
    {cell : Nat} {body : Parser}
    (found : (Workspace.resolve cell).run.run workspace = (.ok body, after)) :
    body.BuiltIn ∧ after.BuiltIn := by
  obtain ⟨keeps, has⟩ := Workspace.resolve_keepsBuiltIn cell workspace builtIn
  simp only [Edit.outcome, found] at keeps has
  exact ⟨has body rfl, keeps⟩

end Peg
