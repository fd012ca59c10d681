import Peg.Proofs.BuiltIn
import Peg.Proofs.Growth

/-! # Rules that are built on the way

A run that meets a pending rule builds it, and what is built may hold rules that are pending in
their turn. This goes on for a while at most: a description defers only so many rules, and a rule
that has been built is never built again. The debt of a workspace counts the rules that are still to
be built, those inside of others included, and it falls with each rule that is built.

* **`Description.build_owes`**: building adds no more than what the description defers.
* **`Workspace.Unfolds`**: what a workspace can become before there is a fault, the least trail.
* **`Workspace.Unfolds.cells_eq_or_debt_lt`**: it has the same rules, or less is to be built.
* **`unfolds_of_evaluates`**: an evaluation that ends with an outcome has done no more. -/

namespace Peg

/-! ## Debt -/

namespace Description

mutual

/-- The number of rules that a description defers, those that it defers inside of others
included. -/
def deferrals : Description → Nat
  | .sequence parts => deferralsOfAll parts
  | .choice parts => deferralsOfAll parts
  | .star body => deferrals body
  | .plus body => deferrals body
  | .optional body _ => deferrals body
  | .ahead body => deferrals body
  | .notAhead body => deferrals body
  | .transform body _ _ => deferrals body
  | .nested body inner _ => deferrals body + deferrals inner
  | .traced _ body => deferrals body
  | .rule _ body => deferrals body
  | .deferred _ body => deferrals body + 1
  | .within rules _ => deferralsOfRules rules
  | .broken parts _ => deferralsOfAll parts
  | _ => 0

/-- The number of rules that several descriptions defer. -/
def deferralsOfAll : List Description → Nat
  | [] => 0
  | description :: others => deferrals description + deferralsOfAll others

/-- The number of rules that the bodies of rules defer. -/
def deferralsOfRules : List (String × Description) → Nat
  | [] => 0
  | (_, description) :: others => deferrals description + deferralsOfRules others

end

end Description

/-- The number of rules that are to be built before a rule with this binding and all that it defers
are. -/
def Binding.debt : Binding → Nat
  | .pending description => description.deferrals + 1
  | _ => 0

/-- The number of rules that are still to be built. -/
def Workspace.debt (workspace : Workspace) : Nat :=
  (workspace.cells.toList.map fun content => content.binding.debt).sum

/-- Changing one element of a list changes one summand. -/
theorem sum_map_modify (weigh : α → Nat) (change : α → α) (elements : List α) (index : Nat) :
    ((elements.modify index change).map weigh).sum + elements[index]?.elim 0 weigh
      = (elements.map weigh).sum
        + elements[index]?.elim 0 fun element => weigh (change element) := by
  induction elements generalizing index with
  | nil => simp
  | cons first others inductionHypothesis =>
    cases index with
    | zero =>
      simp only [List.modify_zero_cons, List.map_cons, List.sum_cons, List.getElem?_cons_zero,
        Option.elim_some]
      omega
    | succ index =>
      have same := inductionHypothesis index
      simp only [List.modify_succ_cons, List.map_cons, List.sum_cons, List.getElem?_cons_succ]
      omega

namespace Workspace

/-- What is to be built is told by the rules. -/
theorem debt_congr {workspace later : Workspace} (same : later.cells = workspace.cells) :
    later.debt = workspace.debt := by
  rw [debt, debt, same]

/-- A new rule adds what it has to be built. -/
theorem withCell_debt (workspace : Workspace) (content : RuleCell) :
    (workspace.withCell content).debt = workspace.debt + content.binding.debt := by
  simp [debt, withCell]

/-- Changing one rule changes what is owed for it. -/
theorem debt_modify (workspace : Workspace) (cell : Nat) (change : RuleCell → RuleCell) :
    ({ workspace with cells := workspace.cells.modify cell change } : Workspace).debt
        + (workspace.bindingOf cell).debt
      = workspace.debt
        + workspace.cells[cell]?.elim 0 fun content => (change content).binding.debt := by
  have owed : (workspace.bindingOf cell).debt
      = workspace.cells[cell]?.elim 0 fun content => content.binding.debt := by
    rw [bindingOf]
    cases workspace.cells[cell]? <;> rfl
  have same := sum_map_modify (fun content : RuleCell => content.binding.debt) change
    workspace.cells.toList cell
  rw [Array.getElem?_toList, ← Array.toList_modify] at same
  rw [owed]
  exact same

/-- Binding a rule pays what is owed for it. -/
theorem withBody_debt (workspace : Workspace) (cell : Nat) (body : Parser) :
    (workspace.withBody cell body).debt + (workspace.bindingOf cell).debt = workspace.debt := by
  have paid := workspace.debt_modify cell fun content => { content with binding := .resolved body }
  have nothing : workspace.cells[cell]?.elim 0 (fun _ => (Binding.resolved body).debt) = 0 := by
    cases workspace.cells[cell]? <;> rfl
  rw [nothing] at paid
  exact paid

/-- Counting a build does not change what is to be built. -/
@[simp] theorem counted_debt (workspace : Workspace) (cell : Nat) :
    (workspace.counted cell).debt = workspace.debt := by
  have same := workspace.debt_modify cell fun content =>
    { content with builds := content.builds + 1 }
  rw [bindingOf] at same
  cases found : workspace.cells[cell]? with
  | none =>
    rw [found] at same
    exact same
  | some content =>
    rw [found] at same
    exact Nat.add_right_cancel same

end Workspace

/-! ## Building -/

/-- The edit adds at most so much to what is to be built. -/
def Edit.Owes (edit : Edit α) (bound : Nat) : Prop :=
  ∀ workspace : Workspace, (edit.outcome workspace).2.debt ≤ workspace.debt + bound

namespace Edit

variable {edit : Edit α} {next : α → Edit β} {bound more : Nat}

/-- What leaves the rules alone adds nothing. -/
theorem owes_of_cells_eq
    (same : ∀ workspace : Workspace, (edit.outcome workspace).2.cells = workspace.cells) :
    edit.Owes 0 := by
  intro workspace
  exact Nat.le_of_eq (Workspace.debt_congr (same workspace))

/-- Giving a value adds nothing. -/
theorem owes_pure (value : α) : Owes (pure value) 0 := owes_of_cells_eq fun _ => rfl

/-- Raising a fault adds nothing. -/
theorem owes_throw (fault : Fault) : Owes (throw fault : Edit α) 0 := owes_of_cells_eq fun _ => rfl

/-- Looking at the workspace adds nothing. -/
theorem owes_get : Owes (get : Edit Workspace) 0 := owes_of_cells_eq fun _ => rfl

/-- An answer that is there already adds nothing. -/
theorem owes_lift (answer : Except Fault α) : Owes (liftM answer : Edit α) 0 :=
  owes_of_cells_eq fun workspace => by rw [outcome_lift]

/-- Two edits add at most what each of them adds. -/
theorem owes_bind (first : edit.Owes bound) (second : ∀ value, (next value).Owes more) :
    (edit >>= next).Owes (bound + more) := by
  intro workspace
  have early := first workspace
  rw [outcome_bind]
  cases found : edit.outcome workspace with
  | mk answer after =>
    rw [found] at early
    cases answer with
    | error fault =>
      dsimp only at early ⊢
      omega
    | ok value =>
      have late := second value after
      dsimp only at early ⊢
      omega

/-- What comes after may add nothing. -/
theorem owes_bind_free (first : edit.Owes bound) (second : ∀ value, (next value).Owes 0) :
    (edit >>= next).Owes bound :=
  owes_bind first second

end Edit

namespace Workspace

open Edit

/-- A new rule adds what its binding defers. -/
theorem addCell_owes (name : String) (binding : Binding) :
    (addCell name binding).Owes binding.debt := by
  intro workspace
  rw [outcome_addCell, withCell_debt]

/-- Looking a name up adds nothing, since a rule that is mentioned is undefined. -/
theorem ruleCell_owes (name : String) : (ruleCell name).Owes 0 := by
  intro workspace
  rw [outcome_ruleCell]
  cases workspace.grammar.rules.lookup name with
  | some cell => exact Nat.le_refl _
  | none => exact Nat.le_of_eq (workspace.withCell_debt ⟨name, .undefined, 0⟩)

/-- Binding a rule adds nothing, since a parser is not to be built. -/
theorem bind_owes (cell : Nat) (body : Parser) : (bind cell body).Owes 0 := by
  intro workspace
  have paid := workspace.withBody_debt cell body
  rw [outcome_bindCell]
  split
  · exact Nat.le_refl _
  · cases body.constant? with
    | some value => exact Nat.le_refl _
    | none =>
      dsimp only
      omega

/-- Defining a rule adds nothing. -/
theorem define_owes (name : String) (body : Parser) : (define name body).Owes 0 := by
  refine owes_bind_free (ruleCell_owes name) fun cell => ?_
  refine owes_bind_free (bind_owes cell body) fun _ => ?_
  exact owes_bind_free (owes_of_cells_eq fun _ => rfl) fun _ => owes_pure cell

/-- In a grammar of its own an edit adds what it adds. -/
theorem inNewGrammar_owes {edit : Edit α} {bound : Nat} (owes : edit.Owes bound) :
    (inNewGrammar edit).Owes bound := by
  intro workspace
  rw [outcome_inNewGrammar]
  exact owes { workspace with grammar := {} }

end Workspace

namespace Description

open Edit Workspace

mutual

/-- **Building adds no more than what the description defers**, whatever comes of it. -/
theorem build_owes : (description : Description) → (build description).Owes description.deferrals
  | .token origin flags => by
    rw [build]
    exact owes_bind_free (owes_lift _) fun _ => owes_pure _
  | .literal text => by
    rw [build]
    split
    · exact owes_pure _
    · exact owes_throw _
  | .terminal leaf => by
    rw [build]
    exact owes_pure _
  | .sequence parts => by
    rw [build, deferrals]
    exact owes_bind_free (buildAll_owes parts) fun _ => owes_lift _
  | .choice parts => by
    rw [build, deferrals]
    exact owes_bind_free (buildAll_owes parts) fun _ => owes_lift _
  | .star body => by
    rw [build, deferrals]
    exact owes_bind_free (build_owes body) fun _ => owes_pure _
  | .plus body => by
    rw [build, deferrals]
    exact owes_bind_free (build_owes body) fun _ => owes_pure _
  | .optional body absent => by
    rw [build, deferrals]
    exact owes_bind_free (build_owes body) fun _ => owes_pure _
  | .ahead body => by
    rw [build, deferrals]
    exact owes_bind_free (build_owes body) fun _ => owes_pure _
  | .notAhead body => by
    rw [build, deferrals]
    exact owes_bind_free (build_owes body) fun _ => owes_pure _
  | .transform body name function => by
    rw [build, deferrals]
    exact owes_bind_free (build_owes body) fun _ => owes_pure _
  | .nested body inner form => by
    rw [build, deferrals]
    exact owes_bind (build_owes body) fun _ =>
      owes_bind_free (build_owes inner) fun _ => owes_pure _
  | .traced name body => by
    rw [build, deferrals]
    exact owes_bind_free (build_owes body) fun _ => owes_pure _
  | .reference name => by
    rw [build]
    exact owes_bind_free (ruleCell_owes name) fun _ => owes_pure _
  | .saved name => by
    rw [build]
    refine owes_bind_free owes_get fun workspace => ?_
    split
    · exact owes_pure _
    · exact owes_throw _
  | .rule name body => by
    rw [build, deferrals]
    refine owes_bind_free (build_owes body) fun parser => ?_
    refine owes_bind_free (addCell_owes name .undefined) fun cell => ?_
    exact owes_bind_free (bind_owes cell parser) fun _ => owes_pure _
  | .deferred name body => by
    -- the new rule is owed, and with it all that its body defers
    rw [build, deferrals]
    exact owes_bind_free (addCell_owes name (.pending body)) fun _ => owes_pure _
  | .within rules name => by
    rw [build, deferrals]
    refine inNewGrammar_owes (owes_bind_free (buildRules_owes rules) fun _ => ?_)
    exact owes_bind_free (ruleCell_owes name) fun _ => owes_pure _
  | .take count => by
    rw [build]
    exact owes_pure _
  | .failAt payload offset => by
    rw [build]
    exact owes_pure _
  | .tiring limit => by
    rw [build]
    exact owes_bind_free (owes_of_cells_eq fun _ => rfl) fun _ => owes_pure _
  | .constant value => by
    rw [build]
    exact owes_pure _
  | .broken parts fault => by
    rw [build, deferrals]
    exact owes_bind_free (buildAll_owes parts) fun _ => owes_throw _

/-- Building several descriptions adds at most what they defer. -/
theorem buildAll_owes :
    (parts : List Description) → (buildAll parts).Owes (deferralsOfAll parts)
  | [] => by
    rw [buildAll]
    exact owes_pure _
  | part :: others => by
    rw [buildAll, deferralsOfAll]
    exact owes_bind (build_owes part) fun _ =>
      owes_bind_free (buildAll_owes others) fun _ => owes_pure _

/-- Building the rules of a grammar adds at most what their bodies defer. -/
theorem buildRules_owes :
    (rules : List (String × Description)) → (buildRules rules).Owes (deferralsOfRules rules)
  | [] => by
    rw [buildRules]
    exact owes_pure _
  | (name, description) :: others => by
    rw [buildRules, deferralsOfRules]
    refine owes_bind (build_owes description) fun parser => ?_
    -- binding a rule adds nothing, so that only the others are left
    have rest := owes_bind (define_owes name parser) fun _ => buildRules_owes others
    rw [Nat.zero_add] at rest
    exact rest

end

end Description

/-! ## Unfolding -/

namespace Workspace

/-- A rule that is resolved was so before, or less is to be built now. -/
theorem eq_or_debt_lt_of_resolve {workspace after : Workspace} {cell : Nat} {body : Parser}
    (found : (resolve cell).outcome workspace = (.ok body, after)) :
    after = workspace ∨ after.debt < workspace.debt := by
  cases resolves found with
  | known => exact .inl rfl
  | @built description body pending =>
    -- the rule is paid for, and building it has added no more than what it defers
    have still := bindingOf_build_counted (lt_of_isDefined (by rw [pending]; rfl)) cell description
    have paid := withBody_debt (description.build.outcome (workspace.counted cell)).2 cell body
    have added := description.build_owes (workspace.counted cell)
    rw [still, pending, Binding.debt] at paid
    rw [counted_debt] at added
    right
    omega

/-- What a workspace can become before there is a fault: rules are resolved one after the other, and
calls are remembered. -/
inductive Unfolds (first : Workspace) : Workspace → Prop
  /-- Nothing has been done. -/
  | refl : Unfolds first first
  /-- One more rule has been resolved. -/
  | resolve {second third : Workspace} {cell : Nat} {body : Parser} (early : Unfolds first second)
      (found : (resolve cell).outcome second = (.ok body, third)) : Unfolds first third
  /-- One more call has been remembered. -/
  | remember {second : Workspace} (early : Unfolds first second)
      (memories : Array (List Value)) : Unfolds first { second with memories := memories }

namespace Unfolds

variable {first second third : Workspace}

/-- Unfolding goes on from where it has come to. -/
theorem trans (early : first.Unfolds second) (late : second.Unfolds third) :
    first.Unfolds third := by
  induction late with
  | refl => exact early
  | resolve _ found inductionHypothesis => exact inductionHypothesis.resolve found
  | remember _ memories inductionHypothesis => exact inductionHypothesis.remember memories

/-- Unfolding is the least that can be done before there is a fault. -/
theorem related {faulty : Prop} {related : Workspace → Workspace → Prop}
    (unfolds : first.Unfolds second) (trail : IsTrail faulty related) : related first second := by
  induction unfolds with
  | refl => exact trail.refl first
  | resolve _ found inductionHypothesis =>
    exact trail.trans inductionHypothesis (trail.resolve found (.inl rfl))
  | remember _ memories inductionHypothesis =>
    exact trail.trans inductionHypothesis (trail.remember _ memories)

/-- Unfolding keeps all rules built in. -/
theorem builtIn (unfolds : first.Unfolds second) (builtIn : first.BuiltIn) : second.BuiltIn := by
  induction unfolds with
  | refl => exact builtIn
  | resolve _ found inductionHypothesis => exact (inductionHypothesis.resolve found).2
  | remember _ _ inductionHypothesis => exact ⟨inductionHypothesis.cells, inductionHypothesis.kept⟩

/-- A rule that is resolved stays what it is. -/
theorem bindingOf_eq (unfolds : first.Unfolds second) {cell : Nat} {body : Parser}
    (resolved : first.bindingOf cell = .resolved body) :
    second.bindingOf cell = .resolved body := by
  obtain ⟨content, found⟩ := exists_cell_of_isDefined (by rw [resolved]; rfl)
  obtain ⟨later, foundLater, -, lasts⟩ :=
    (unfolds.related grows_isFootprint).cells cell content found
  rw [bindingOf_of_getElem? found] at resolved
  rw [resolved] at lasts
  rw [bindingOf_of_getElem? foundLater]
  generalize later.binding = binding at lasts
  cases lasts with
  | refl => rfl

/-- **Unfolding comes to an end**: the rules are as they were, or less is to be built. -/
theorem cells_eq_or_debt_lt (unfolds : first.Unfolds second) :
    second.cells = first.cells ∨ second.debt < first.debt := by
  induction unfolds with
  | refl => exact .inl rfl
  | remember _ _ inductionHypothesis => exact inductionHypothesis
  | @resolve second third cell body _ found inductionHypothesis =>
    obtain rfl | less := eq_or_debt_lt_of_resolve found
    · exact inductionHypothesis
    · right
      obtain same | lessBefore := inductionHypothesis
      · rwa [debt_congr same] at less
      · exact Nat.lt_trans less lessBefore

end Unfolds

/-- Unfolding is a trail that no fault belongs to. -/
theorem unfolds_isTrail : IsTrail False Unfolds where
  refl _ := .refl
  trans := .trans
  resolve {_ _ _ answer} found allowed := by
    cases answer with
    | ok body => exact .resolve .refl found
    | error fault => simp [Except.isOk, Except.toBool] at allowed
  remember _ memories := .remember .refl memories

end Workspace

/-- **Evaluation unfolds the workspace**, if it ends with an outcome. -/
theorem unfolds_of_evaluates {job : Job} {state after : State} {outcome : Outcome}
    (evaluates : Evaluates job state ⟨.ok outcome, after⟩) :
    state.workspace.Unfolds after.workspace :=
  related_of_evaluates evaluates Workspace.unfolds_isTrail (.inl rfl)

end Peg
