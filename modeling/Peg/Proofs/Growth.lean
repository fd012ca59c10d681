import Peg.Proofs.Footprint

/-! # What building adds

Building a description may add rules to the workspace and mention names that the grammar did not
mention before. It never touches a rule that is there, and it binds no name of the grammar: the
names that it adds are left undefined. Resolving a rule builds its description and binds it; a rule
that is resolved or undefined stays as it is.

* **`Description.build_grows`**: building leaves all rules as they are, also if it ends in a fault.
* **`Workspace.resolve_grows`**: resolving lets all rules last, the names of the grammar included.
* **`Workspace.grows_isFootprint`**: so does every run. -/

namespace Peg

/-! ## Growth -/

/-- What may become of a binding. -/
inductive Binding.Lasts : Binding → Binding → Prop
  /-- It is as it was. -/
  | refl (binding : Binding) : Lasts binding binding
  /-- It was pending and has been built. -/
  | built (description : Description) (body : Parser) :
      Lasts (.pending description) (.resolved body)

namespace Binding.Lasts

variable {first second third : Binding}

/-- What lasts from a first binding to a second and on to a third has lasted throughout. -/
theorem trans (early : first.Lasts second) (late : second.Lasts third) : first.Lasts third := by
  cases early with
  | refl => exact late
  | built description body =>
    cases late with
    | refl => exact .built description body

/-- A binding that lasts is defined exactly if it was. -/
theorem isDefined_eq (lasts : first.Lasts second) : second.isDefined = first.isDefined := by
  cases lasts <;> rfl

/-- A rule that was undefined is still undefined. -/
theorem eq_undefined (lasts : Lasts .undefined second) : second = .undefined := by
  cases lasts with
  | refl => rfl

end Binding.Lasts

/-- What may become of a rule: its name stays, and its binding lasts. -/
structure RuleCell.Lasts (earlier later : RuleCell) : Prop where
  /-- The name is the same. -/
  name_eq : later.name = earlier.name
  /-- The binding lasts. -/
  binding : earlier.binding.Lasts later.binding

/-- Cells that last do so over several steps. -/
theorem RuleCell.Lasts.trans {first second third : RuleCell} (early : first.Lasts second)
    (late : second.Lasts third) : first.Lasts third :=
  ⟨late.name_eq.trans early.name_eq, early.binding.trans late.binding⟩

/-- The workspace `after` has grown from `before`: the rules that were there have become what the
relation allows, and the grammar mentions what it did, and then new names for new rules without a
definition. -/
structure Workspace.Grows (becomes : RuleCell → RuleCell → Prop) (before after : Workspace) :
    Prop where
  /-- What becomes of the rules. -/
  cells : ∀ (index : Nat) (content : RuleCell), before.cells[index]? = some content →
    ∃ later, after.cells[index]? = some later ∧ becomes content later
  /-- None is lost. -/
  size_le : before.cells.size ≤ after.cells.size
  /-- The parsers kept under names are as they were. -/
  kept_eq : after.kept = before.kept
  /-- The grammar has new names at most. -/
  grammar_eq : ∃ added, after.grammar
      = { before.grammar with rules := before.grammar.rules ++ added }
    ∧ ∀ rule ∈ added, before.grammar.rules.lookup rule.1 = none
      ∧ after.grammar.rules.lookup rule.1 = some rule.2 ∧ before.cells.size ≤ rule.2
      ∧ ∃ builds, after.cells[rule.2]? = some ⟨rule.1, .undefined, builds⟩

namespace Workspace

/-- A workspace grows if no name is added. -/
theorem Grows.of_grammar_eq {becomes : RuleCell → RuleCell → Prop} {before after : Workspace}
    (cells : ∀ (index : Nat) (content : RuleCell), before.cells[index]? = some content →
      ∃ later, after.cells[index]? = some later ∧ becomes content later)
    (size_le : before.cells.size ≤ after.cells.size) (kept_eq : after.kept = before.kept)
    (grammar_eq : after.grammar = before.grammar) : before.Grows becomes after :=
  ⟨cells, size_le, kept_eq,
    [], by rw [List.append_nil, grammar_eq], fun _ member => nomatch member⟩

/-- A workspace grows if no rule is changed and no name is added. -/
theorem Grows.of_cells_eq {before after : Workspace}
    (cells_eq : ∀ index < before.cells.size, after.cells[index]? = before.cells[index]?)
    (size_le : before.cells.size ≤ after.cells.size) (kept_eq : after.kept = before.kept)
    (grammar_eq : after.grammar = before.grammar) : before.Grows Eq after :=
  .of_grammar_eq (fun index content found =>
    ⟨content, (cells_eq index (Array.getElem?_eq_some_iff.1 found).1).trans found, rfl⟩)
    size_le kept_eq grammar_eq

/-- A workspace that is left alone has grown by nothing. -/
theorem Grows.refl (workspace : Workspace) : workspace.Grows Eq workspace :=
  .of_cells_eq (fun _ _ => rfl) (Nat.le_refl _) rfl rfl

/-- A rule that stays as it is lasts. -/
theorem Grows.lasts {before after : Workspace} (grows : before.Grows Eq after) :
    before.Grows RuleCell.Lasts after where
  cells index content found := by
    obtain ⟨later, same, rfl⟩ := grows.cells index content found
    exact ⟨content, same, rfl, .refl _⟩
  size_le := grows.size_le
  kept_eq := grows.kept_eq
  grammar_eq := grows.grammar_eq

/-- Growth goes on over two steps if what becomes of the rules in each of them may become of them in
one. -/
theorem Grows.trans_of_lasts {becomes : RuleCell → RuleCell → Prop}
    {first second third : Workspace} (start : first.Grows becomes second)
    (later : second.Grows becomes third) (lasts : second.Grows RuleCell.Lasts third)
    (transitive : ∀ {first second third}, becomes first second → becomes second third →
      becomes first third) : first.Grows becomes third where
  cells index content found := by
    obtain ⟨between, foundThere, early⟩ := start.cells index content found
    obtain ⟨last, foundLast, late⟩ := later.cells index between foundThere
    exact ⟨last, foundLast, transitive early late⟩
  size_le := Nat.le_trans start.size_le later.size_le
  kept_eq := later.kept_eq.trans start.kept_eq
  grammar_eq := by
    obtain ⟨early, same, new⟩ := start.grammar_eq
    obtain ⟨late, sameToo, newToo⟩ := later.grammar_eq
    refine ⟨early ++ late, by rw [sameToo, same, List.append_assoc], fun rule member => ?_⟩
    rcases List.mem_append.1 member with old | fresh
    · -- a rule that came first is one of those that were there before the second edit
      obtain ⟨unknown, known, place, builds, found⟩ := new rule old
      obtain ⟨⟨name, binding, builds⟩, foundLast, sameName, stays⟩ := lasts.cells _ _ found
      dsimp only at sameName
      subst sameName
      cases stays.eq_undefined
      refine ⟨unknown, ?_, place, builds, foundLast⟩
      rw [sameToo, List.lookup_append, known, Option.some_or]
    · obtain ⟨unknown, known, place, undefined⟩ := newToo rule fresh
      rw [same, List.lookup_append, Option.or_eq_none_iff] at unknown
      exact ⟨unknown.1, known, Nat.le_trans start.size_le place, undefined⟩

/-- Growth in which bindings last goes on over two steps. -/
theorem Grows.trans {first second third : Workspace}
    (start : first.Grows RuleCell.Lasts second) (later : second.Grows RuleCell.Lasts third) :
    first.Grows RuleCell.Lasts third :=
  start.trans_of_lasts later later RuleCell.Lasts.trans

/-- What is not changed is found where it was. -/
theorem Grows.cells_eq {before after : Workspace} (grows : before.Grows Eq after) {index : Nat}
    (bound : index < before.cells.size) : after.cells[index]? = before.cells[index]? := by
  obtain ⟨later, found, rfl⟩ := grows.cells index _ (Array.getElem?_eq_getElem bound)
  rw [found, Array.getElem?_eq_getElem bound]

end Workspace

/-- The edit makes every workspace grow and leaves all rules as they are. -/
def Edit.Grows (edit : Edit α) : Prop :=
  ∀ workspace : Workspace, workspace.Grows Eq (edit.outcome workspace).2

namespace Edit

variable {edit : Edit α} {next : α → Edit β}

/-- An edit that only gives a value changes nothing. -/
theorem grows_pure (value : α) : Grows (pure value) := Workspace.Grows.refl

/-- An edit that only raises a fault changes nothing. -/
theorem grows_throw (fault : Fault) : Grows (throw fault : Edit α) := Workspace.Grows.refl

/-- An answer that is there already changes nothing. -/
theorem grows_lift (answer : Except Fault α) : Grows (liftM answer : Edit α) := by
  intro workspace
  rw [outcome_lift]
  exact Workspace.Grows.refl workspace

/-- Looking at the workspace changes nothing. -/
theorem grows_get : Grows (get : Edit Workspace) := Workspace.Grows.refl

/-- Growth goes on from one edit to the next; a fault stops it. -/
theorem grows_bind (first : Grows edit) (second : ∀ value, Grows (next value)) :
    Grows (edit >>= next) := by
  intro workspace
  have grown := first workspace
  rw [outcome_bind]
  cases found : edit.outcome workspace with
  | mk answer after =>
    rw [found] at grown
    cases answer with
    | error fault => exact grown
    | ok value =>
      have later := second value after
      exact grown.trans_of_lasts later later.lasts Eq.trans

end Edit

/-! ## New rules -/

namespace Workspace

/-- The workspace with one more rule. -/
def withCell (workspace : Workspace) (content : RuleCell) : Workspace :=
  { workspace with cells := workspace.cells.push content }

/-- A new cell makes one more. -/
@[simp] theorem withCell_size (workspace : Workspace) (content : RuleCell) :
    (workspace.withCell content).cells.size = workspace.cells.size + 1 := Array.size_push _

/-- The new cell has its binding, and the others have theirs. -/
theorem withCell_bindingOf (workspace : Workspace) (content : RuleCell) (cell : Nat) :
    (workspace.withCell content).bindingOf cell
      = if cell = workspace.cells.size then content.binding else workspace.bindingOf cell := by
  simp only [bindingOf, withCell, Array.getElem?_push]
  by_cases here : cell = workspace.cells.size
  · rw [if_pos here, if_pos here]
  · rw [if_neg here, if_neg here]

/-- The new cell has its name, and the others have theirs. -/
theorem withCell_nameOf (workspace : Workspace) (content : RuleCell) (cell : Nat) :
    (workspace.withCell content).nameOf cell
      = if cell = workspace.cells.size then content.name else workspace.nameOf cell := by
  simp only [nameOf, withCell, Array.getElem?_push]
  by_cases here : cell = workspace.cells.size
  · rw [if_pos here, if_pos here]
  · rw [if_neg here, if_neg here]

/-- Adding a cell gives its number. -/
theorem outcome_addCell (name : String) (binding : Binding) (workspace : Workspace) :
    (addCell name binding).outcome workspace
      = (.ok workspace.cells.size, workspace.withCell ⟨name, binding, 0⟩) := rfl

/-- The workspace in which the grammar has one more name, for a new rule without a definition. -/
def mention (workspace : Workspace) (name : String) : Workspace :=
  { workspace.withCell ⟨name, .undefined, 0⟩ with
    grammar := { workspace.grammar with
      rules := workspace.grammar.rules ++ [(name, workspace.cells.size)] } }

/-- The first mention of a name adds a rule. -/
theorem outcome_ruleCell (name : String) (workspace : Workspace) :
    (ruleCell name).outcome workspace
      = match workspace.grammar.rules.lookup name with
        | some cell => (.ok cell, workspace)
        | none => (.ok workspace.cells.size, workspace.mention name) := by
  rw [ruleCell, Edit.outcome_bind, Edit.outcome_get]
  dsimp only
  cases workspace.grammar.rules.lookup name <;> rfl

/-- The workspace in which the rule in a cell has been bound to a parser. -/
def withBody (workspace : Workspace) (cell : Nat) (body : Parser) : Workspace :=
  { workspace with
    cells := workspace.cells.modify cell fun content =>
      { content with binding := .resolved body } }

/-- Binding a rule adds no cell. -/
@[simp] theorem withBody_size (workspace : Workspace) (cell : Nat) (body : Parser) :
    (workspace.withBody cell body).cells.size = workspace.cells.size := Array.size_modify

/-- Binding a rule renames none. -/
@[simp] theorem withBody_nameOf (workspace : Workspace) (cell : Nat) (body : Parser)
    (other : Nat) : (workspace.withBody cell body).nameOf other = workspace.nameOf other := by
  simp only [nameOf, withBody, Array.getElem?_modify]
  by_cases here : cell = other
  · cases workspace.cells[other]? <;> simp only [if_pos here] <;> rfl
  · rw [if_neg here]

/-- The rule that is bound has the parser, and the others have their bindings. -/
theorem withBody_bindingOf {workspace : Workspace} {cell : Nat}
    (bound : cell < workspace.cells.size) (body : Parser) (other : Nat) :
    (workspace.withBody cell body).bindingOf other
      = if other = cell then .resolved body else workspace.bindingOf other := by
  simp only [bindingOf, withBody, Array.getElem?_modify]
  by_cases here : other = cell
  · subst here
    rw [if_pos rfl, if_pos rfl, Array.getElem?_eq_getElem bound]
    rfl
  · rw [if_neg here, if_neg (Ne.symm here)]

/-- A rule is bound if it was not before and the body is a parser. -/
theorem outcome_bindCell (cell : Nat) (body : Parser) (workspace : Workspace) :
    (bind cell body).outcome workspace
      = if (workspace.bindingOf cell).isDefined then
          (.error (.grammar (.alreadyDefined (workspace.nameOf cell))), workspace)
        else match body.constant? with
          | some value =>
            (.error (.grammar (.boundToNonParser (workspace.nameOf cell) value)), workspace)
          | none => (.ok (), workspace.withBody cell body) := by
  rw [bind, Edit.outcome_bind, Edit.outcome_get]
  dsimp only
  split
  · rfl
  · cases body.constant? <;> rfl

/-- New cells make a workspace grow. -/
theorem grows_of_cells {workspace : Workspace} {cells : Array RuleCell}
    (same : ∀ index < workspace.cells.size, cells[index]? = workspace.cells[index]?)
    (size_le : workspace.cells.size ≤ cells.size) :
    workspace.Grows Eq { workspace with cells := cells } :=
  .of_cells_eq same size_le rfl rfl

/-- A new cell is growth. -/
theorem withCell_grows (workspace : Workspace) (content : RuleCell) :
    workspace.Grows Eq (workspace.withCell content) := by
  refine grows_of_cells (fun index bound => ?_) (by simp)
  rw [Array.getElem?_push_lt bound, Array.getElem?_eq_getElem bound]

/-- Adding a cell is growth. -/
theorem addCell_grows (name : String) (binding : Binding) : Edit.Grows (addCell name binding) :=
  fun workspace => workspace.withCell_grows ⟨name, binding, 0⟩

/-- Adding a memory is growth. -/
theorem addMemory_grows : Edit.Grows addMemory :=
  fun _ => .of_cells_eq (fun _ _ => rfl) (Nat.le_refl _) rfl rfl

/-- Mentioning a name that the grammar does not have is growth. -/
theorem mention_grows {workspace : Workspace} {name : String}
    (unknown : workspace.grammar.rules.lookup name = none) :
    workspace.Grows Eq (workspace.mention name) := by
  have grown := workspace.withCell_grows ⟨name, .undefined, 0⟩
  refine ⟨grown.cells, grown.size_le, rfl, [(name, workspace.cells.size)], rfl, ?_⟩
  intro rule member
  cases List.mem_singleton.1 member
  refine ⟨unknown, ?_, Nat.le_refl _, 0, by rw [mention, withCell, Array.getElem?_push_size]⟩
  rw [mention, List.lookup_append, unknown, Option.none_or, List.lookup_cons_self]

/-- Looking a name up is growth, since it mentions the name at most. -/
theorem ruleCell_grows (name : String) : Edit.Grows (ruleCell name) := by
  intro workspace
  rw [outcome_ruleCell]
  cases unknown : workspace.grammar.rules.lookup name with
  | some cell => exact Grows.refl workspace
  | none => exact mention_grows unknown

/-! ## A grammar of one's own -/

/-- The workspace has come from `outer` in a grammar of its own: it may bind the names of that
grammar, but all of them are for new rules. -/
structure Inside (outer workspace : Workspace) : Prop where
  /-- The rules are as they were. -/
  cells_eq : ∀ index < outer.cells.size, workspace.cells[index]? = outer.cells[index]?
  /-- None is lost. -/
  size_le : outer.cells.size ≤ workspace.cells.size
  /-- The parsers kept under names are as they were. -/
  kept_eq : workspace.kept = outer.kept
  /-- The names are for new rules. -/
  rules_new : ∀ rule ∈ workspace.grammar.rules, outer.cells.size ≤ rule.2

/-- What goes on inside stays inside when the workspace grows. -/
theorem Inside.grows {outer before after : Workspace} (inside : outer.Inside before)
    (grows : before.Grows Eq after) : outer.Inside after where
  cells_eq index bound :=
    (grows.cells_eq (Nat.lt_of_lt_of_le bound inside.size_le)).trans (inside.cells_eq index bound)
  size_le := Nat.le_trans inside.size_le grows.size_le
  kept_eq := grows.kept_eq.trans inside.kept_eq
  rules_new rule member := by
    obtain ⟨added, same, new⟩ := grows.grammar_eq
    rw [same] at member
    rcases List.mem_append.1 member with old | fresh
    · exact inside.rules_new rule old
    · exact Nat.le_trans inside.size_le (new rule fresh).2.2.1

/-- An edit that only makes the workspace grow stays inside. -/
theorem keepsInside_of_grows {outer : Workspace} {edit : Edit α} (grows : edit.Grows) :
    edit.Keeps outer.Inside fun _ => True :=
  fun workspace inside => ⟨inside.grows (grows workspace), fun _ _ => trivial⟩

/-- What is found under a name is one of the entries. -/
theorem mem_of_lookup_eq_some {entries : List (String × α)} {name : String} {value : α}
    (known : entries.lookup name = some value) : (name, value) ∈ entries := by
  obtain ⟨before, after, rfl, -⟩ := List.lookup_eq_some_iff.1 known
  simp

/-- The rule of a name of a grammar that began inside is new. -/
theorem ruleCell_keepsInside (outer : Workspace) (name : String) :
    (ruleCell name).Keeps outer.Inside fun cell => outer.cells.size ≤ cell := by
  intro workspace inside
  refine ⟨inside.grows (ruleCell_grows name workspace), fun cell found => ?_⟩
  rw [outcome_ruleCell] at found
  cases known : workspace.grammar.rules.lookup name with
  | none =>
    rw [known] at found
    cases found
    exact inside.size_le
  | some other =>
    rw [known] at found
    cases found
    exact inside.rules_new _ (mem_of_lookup_eq_some known)

/-- Binding a rule that is new stays inside. -/
theorem bind_keepsInside {outer : Workspace} {cell : Nat} (new : outer.cells.size ≤ cell)
    (body : Parser) : (bind cell body).Keeps outer.Inside fun _ => True := by
  refine Edit.keeps_bind Edit.keeps_get fun workspace _ => ?_
  dsimp only
  split
  · exact Edit.keeps_throw_bind _ _
  · split
    · exact Edit.keeps_throw _ _
    · refine Edit.keeps_modify fun current inside => ⟨?_, ?_, inside.kept_eq, inside.rules_new⟩
      · intro index bound
        rw [Array.getElem?_modify, if_neg (by omega), inside.cells_eq index bound]
      · rw [Array.size_modify]
        exact inside.size_le

/-- Defining a rule of a grammar that began inside stays inside. -/
theorem define_keepsInside (outer : Workspace) (name : String) (body : Parser) :
    (define name body).Keeps outer.Inside fun _ => True := by
  refine Edit.keeps_bind (ruleCell_keepsInside outer name) fun cell new => ?_
  refine Edit.keeps_bind (bind_keepsInside new body) fun _ _ => ?_
  refine Edit.keeps_bind (Edit.keeps_modify fun _ inside =>
    ⟨inside.cells_eq, inside.size_le, inside.kept_eq, inside.rules_new⟩) fun _ _ => ?_
  exact Edit.keeps_pure trivial

/-- An edit in a grammar of its own: the grammar around is brought back whatever comes of it. -/
theorem outcome_inNewGrammar (edit : Edit α) (workspace : Workspace) :
    (inNewGrammar edit).outcome workspace
      = ((edit.outcome { workspace with grammar := {} }).1,
          { (edit.outcome { workspace with grammar := {} }).2 with
            grammar := workspace.grammar }) := by
  rw [inNewGrammar, Edit.outcome_bind, Edit.outcome_get]
  dsimp only
  rw [Edit.outcome_bind, Edit.outcome_modify]
  dsimp only
  rw [Edit.outcome_tryCatch, Edit.outcome_bind]
  cases edit.outcome { workspace with grammar := {} } with
  | mk answer after => cases answer <;> rfl

/-- What is bound in a grammar of its own is new for the grammar around. -/
theorem inNewGrammar_grows {edit : Edit α}
    (keeps : ∀ outer : Workspace, edit.Keeps outer.Inside fun _ => True) :
    Edit.Grows (inNewGrammar edit) := by
  intro workspace
  have start : workspace.Inside { workspace with grammar := {} } :=
    ⟨fun _ _ => rfl, Nat.le_refl _, rfl, fun _ member => nomatch member⟩
  obtain ⟨inside, -⟩ := keeps workspace _ start
  rw [outcome_inNewGrammar]
  exact .of_cells_eq inside.cells_eq inside.size_le inside.kept_eq rfl

end Workspace

/-! ## Building -/

namespace Description

open Edit Workspace

/-- A rule that is new can be bound at once. -/
theorem addCell_bind_grows (name : String) (body : Parser) :
    Edit.Grows (do
      let cell ← addCell name .undefined
      Workspace.bind cell body
      return Parser.rule cell) := by
  intro workspace
  rw [outcome_bind, outcome_addCell]
  dsimp only
  rw [outcome_bind, outcome_bindCell, withCell_bindingOf, if_pos rfl,
    if_neg (by simp [Binding.isDefined])]
  cases body.constant? with
  | some value => exact workspace.withCell_grows ⟨name, .undefined, 0⟩
  | none =>
    refine grows_of_cells (fun index bound => ?_) (by simp)
    rw [Array.getElem?_modify, if_neg (by omega), withCell, Array.getElem?_push_lt bound,
      Array.getElem?_eq_getElem bound]

mutual

/-- **Building makes a workspace grow** and leaves all rules as they are, whatever comes of it. -/
theorem build_grows : (description : Description) → Edit.Grows (build description)
  | .token origin flags => by
    rw [build]
    exact grows_bind (grows_lift _) fun _ => grows_pure _
  | .literal text => by
    rw [build]
    split
    · exact grows_pure _
    · exact grows_throw _
  | .terminal leaf => by
    rw [build]
    exact grows_pure _
  | .sequence parts => by
    rw [build]
    exact grows_bind (buildAll_grows parts) fun _ => grows_lift _
  | .choice parts => by
    rw [build]
    exact grows_bind (buildAll_grows parts) fun _ => grows_lift _
  | .star body => by
    rw [build]
    exact grows_bind (build_grows body) fun _ => grows_pure _
  | .plus body => by
    rw [build]
    exact grows_bind (build_grows body) fun _ => grows_pure _
  | .optional body absent => by
    rw [build]
    exact grows_bind (build_grows body) fun _ => grows_pure _
  | .ahead body => by
    rw [build]
    exact grows_bind (build_grows body) fun _ => grows_pure _
  | .notAhead body => by
    rw [build]
    exact grows_bind (build_grows body) fun _ => grows_pure _
  | .transform body name function => by
    rw [build]
    exact grows_bind (build_grows body) fun _ => grows_pure _
  | .nested body inner form => by
    rw [build]
    exact grows_bind (build_grows body) fun _ =>
      grows_bind (build_grows inner) fun _ => grows_pure _
  | .traced name body => by
    rw [build]
    exact grows_bind (build_grows body) fun _ => grows_pure _
  | .reference name => by
    rw [build]
    exact grows_bind (ruleCell_grows name) fun _ => grows_pure _
  | .saved name => by
    rw [build]
    refine grows_bind grows_get fun workspace => ?_
    split
    · exact grows_pure _
    · exact grows_throw _
  | .rule name body => by
    rw [build]
    exact grows_bind (build_grows body) fun parser => addCell_bind_grows name parser
  | .deferred name body => by
    rw [build]
    exact grows_bind (addCell_grows name _) fun _ => grows_pure _
  | .within rules name => by
    rw [build]
    -- the rules of the inner grammar are given up again, and the outer one has only grown
    refine inNewGrammar_grows fun outer => ?_
    refine keeps_bind (buildRules_keepsInside outer rules) fun _ _ => ?_
    exact keepsInside_of_grows (grows_bind (ruleCell_grows name) fun _ => grows_pure _)
  | .take count => by
    rw [build]
    exact grows_pure _
  | .failAt payload offset => by
    rw [build]
    exact grows_pure _
  | .tiring limit => by
    rw [build]
    exact grows_bind addMemory_grows fun _ => grows_pure _
  | .constant value => by
    rw [build]
    exact grows_pure _
  | .broken parts fault => by
    rw [build]
    exact grows_bind (buildAll_grows parts) fun _ => grows_throw _

/-- Building several descriptions is growth. -/
theorem buildAll_grows : (parts : List Description) → Edit.Grows (buildAll parts)
  | [] => by
    rw [buildAll]
    exact grows_pure _
  | part :: others => by
    rw [buildAll]
    exact grows_bind (build_grows part) fun _ =>
      grows_bind (buildAll_grows others) fun _ => grows_pure _

/-- Building the rules of a grammar that began inside stays inside. -/
theorem buildRules_keepsInside (outer : Workspace) : (rules : List (String × Description)) →
    (buildRules rules).Keeps outer.Inside fun _ => True
  | [] => by
    rw [buildRules]
    exact keeps_pure trivial
  | (name, description) :: others => by
    rw [buildRules]
    refine keeps_bind (keepsInside_of_grows (build_grows description)) fun parser _ => ?_
    refine keeps_bind (define_keepsInside outer name parser) fun _ _ => ?_
    exact buildRules_keepsInside outer others

end

end Description

/-! ## Resolving -/

namespace Workspace

/-- The workspace in which the building of a rule has been counted. -/
def counted (workspace : Workspace) (cell : Nat) : Workspace :=
  { workspace with
    cells := workspace.cells.modify cell fun content =>
      { content with builds := content.builds + 1 } }

/-- The binding in a cell that exists. -/
theorem bindingOf_of_getElem? {workspace : Workspace} {cell : Nat} {content : RuleCell}
    (found : workspace.cells[cell]? = some content) :
    workspace.bindingOf cell = content.binding := by
  rw [bindingOf, found]

/-- A rule that is bound has a cell. -/
theorem exists_cell_of_isDefined {workspace : Workspace} {cell : Nat}
    (bound : (workspace.bindingOf cell).isDefined) :
    ∃ content, workspace.cells[cell]? = some content := by
  cases found : workspace.cells[cell]? with
  | none => simp [bindingOf, found, Binding.isDefined] at bound
  | some content => exact ⟨content, rfl⟩

/-- A rule that is bound has a cell. -/
theorem lt_of_isDefined {workspace : Workspace} {cell : Nat}
    (bound : (workspace.bindingOf cell).isDefined) : cell < workspace.cells.size := by
  obtain ⟨content, found⟩ := exists_cell_of_isDefined bound
  exact (Array.getElem?_eq_some_iff.1 found).1

/-- Growth that leaves the cells alone keeps their bindings. -/
theorem Grows.bindingOf_eq {before after : Workspace} (grows : before.Grows Eq after) {cell : Nat}
    (bound : cell < before.cells.size) : after.bindingOf cell = before.bindingOf cell := by
  rw [bindingOf, bindingOf, grows.cells_eq bound]

/-- Growth that leaves the cells alone keeps their names. -/
theorem Grows.nameOf_eq {before after : Workspace} (grows : before.Grows Eq after) {cell : Nat}
    (bound : cell < before.cells.size) : after.nameOf cell = before.nameOf cell := by
  rw [nameOf, nameOf, grows.cells_eq bound]

/-- Counting a build adds no cell. -/
@[simp] theorem counted_size (workspace : Workspace) (cell : Nat) :
    (workspace.counted cell).cells.size = workspace.cells.size := Array.size_modify

/-- Counting a build binds nothing. -/
@[simp] theorem counted_bindingOf (workspace : Workspace) (cell other : Nat) :
    (workspace.counted cell).bindingOf other = workspace.bindingOf other := by
  simp only [bindingOf, counted, Array.getElem?_modify]
  by_cases here : cell = other
  · cases workspace.cells[other]? <;> simp only [if_pos here] <;> rfl
  · rw [if_neg here]

/-- Counting a build renames nothing. -/
@[simp] theorem counted_nameOf (workspace : Workspace) (cell other : Nat) :
    (workspace.counted cell).nameOf other = workspace.nameOf other := by
  simp only [nameOf, counted, Array.getElem?_modify]
  by_cases here : cell = other
  · cases workspace.cells[other]? <;> simp only [if_pos here] <;> rfl
  · rw [if_neg here]

/-- A rule that is pending is built and bound. -/
theorem outcome_resolve (cell : Nat) (workspace : Workspace) :
    (resolve cell).outcome workspace
      = match workspace.bindingOf cell with
        | .resolved body => (.ok body, workspace)
        | .undefined =>
          (.error (.grammar (.undefinedRule (workspace.nameOf cell))), workspace)
        | .pending description =>
          match description.build.outcome (workspace.counted cell) with
          | (.error fault, later) => (.error fault, later)
          | (.ok body, later) =>
            match body.constant? with
            | some value =>
              (.error (.grammar (.resolvedToNonParser (workspace.nameOf cell) value)), later)
            | none => (.ok body, later.withBody cell body) := by
  rw [resolve, Edit.outcome_bind, Edit.outcome_get]
  dsimp only
  cases workspace.bindingOf cell with
  | resolved body => rfl
  | undefined => rfl
  | pending description =>
    dsimp only
    rw [Edit.outcome_bind, Edit.outcome_modify]
    dsimp only
    rw [Edit.outcome_bind, ← counted]
    -- the number of builds is counted up first, and it stays so if the build fails
    cases description.build.outcome (workspace.counted cell) with
    | mk answer later =>
      cases answer with
      | error fault => rfl
      | ok body =>
        dsimp only
        cases body.constant? <;> rfl

/-- While a rule is built, all rules that were there stay as they are, itself included. -/
theorem bindingOf_build_counted {workspace : Workspace} {other : Nat}
    (bound : other < workspace.cells.size) (cell : Nat) (description : Description) :
    (description.build.outcome (workspace.counted cell)).2.bindingOf other
      = workspace.bindingOf other := by
  have builds := description.build_grows (workspace.counted cell)
  rw [builds.bindingOf_eq (by rwa [counted_size]), counted_bindingOf]

/-- A rule that is resolved is not built. -/
theorem resolve_of_resolved {workspace : Workspace} {cell : Nat} {body : Parser}
    (resolved : workspace.bindingOf cell = .resolved body) :
    (resolve cell).outcome workspace = (.ok body, workspace) := by
  rw [outcome_resolve, resolved]

/-- A change of one rule that lasts makes a workspace grow. -/
theorem grows_modify {workspace : Workspace} {cell : Nat} {change : RuleCell → RuleCell}
    (lasts : ∀ content, workspace.cells[cell]? = some content → content.Lasts (change content)) :
    workspace.Grows RuleCell.Lasts
      { workspace with cells := workspace.cells.modify cell change } := by
  refine .of_grammar_eq (fun index content found => ?_) (by simp) rfl rfl
  rw [Array.getElem?_modify, found]
  split
  · rename_i here
    subst here
    exact ⟨change content, rfl, lasts content found⟩
  · exact ⟨content, rfl, rfl, .refl _⟩

/-- All that resolving a rule can do. -/
inductive Resolves (workspace : Workspace) (cell : Nat) : Except Fault Parser → Workspace → Prop
  /-- It has been resolved before. -/
  | known {body : Parser} (resolved : workspace.bindingOf cell = .resolved body) :
      Resolves workspace cell (.ok body) workspace
  /-- It has no definition. -/
  | undefined (undefined : workspace.bindingOf cell = .undefined) :
      Resolves workspace cell (.error (.grammar (.undefinedRule (workspace.nameOf cell)))) workspace
  /-- It is pending, and what is built is no parser, or a fault comes of it. -/
  | unbuilt {description : Description} {fault : Fault}
      (pending : workspace.bindingOf cell = .pending description) :
      Resolves workspace cell (.error fault)
        (description.build.outcome (workspace.counted cell)).2
  /-- It is pending, and it is built and bound. -/
  | built {description : Description} {body : Parser}
      (pending : workspace.bindingOf cell = .pending description) :
      Resolves workspace cell (.ok body)
        ((description.build.outcome (workspace.counted cell)).2.withBody cell body)

/-- **All that resolving a rule can do.** -/
theorem resolves {workspace later : Workspace} {cell : Nat} {answer : Except Fault Parser}
    (found : (resolve cell).outcome workspace = (answer, later)) :
    workspace.Resolves cell answer later := by
  rw [outcome_resolve] at found
  cases bound : workspace.bindingOf cell with
  | resolved body =>
    rw [bound] at found
    cases found
    exact .known bound
  | undefined =>
    rw [bound] at found
    cases found
    exact .undefined bound
  | pending description =>
    rw [bound] at found
    dsimp only at found
    cases building : description.build.outcome (workspace.counted cell) with
    | mk result between =>
      have between_eq := congrArg Prod.snd building
      dsimp only at between_eq
      subst between_eq
      rw [building] at found
      cases result with
      | error fault =>
        cases found
        exact .unbuilt bound
      | ok body =>
        dsimp only at found
        cases constant : body.constant? with
        | some value =>
          rw [constant] at found
          cases found
          exact .unbuilt bound
        | none =>
          rw [constant] at found
          cases found
          exact .built bound

/-- What is built is bound. -/
theorem bindingOf_of_resolve {workspace later : Workspace} {cell : Nat} {body : Parser}
    (resolved : (resolve cell).outcome workspace = (.ok body, later)) :
    later.bindingOf cell = .resolved body := by
  cases resolves resolved with
  | known bound => exact bound
  | @built description _ pending =>
    have place : cell < workspace.cells.size := lt_of_isDefined (by rw [pending]; rfl)
    have grows := description.build_grows (workspace.counted cell)
    rw [withBody_bindingOf (Nat.lt_of_lt_of_le (by rwa [counted_size]) grows.size_le), if_pos rfl]

/-- **Resolving a rule makes a workspace grow**: it binds a rule that was pending, and all other
rules are as they were. -/
theorem resolve_grows (workspace : Workspace) (cell : Nat) :
    workspace.Grows RuleCell.Lasts ((resolve cell).outcome workspace).2 := by
  have builds (description : Description) : workspace.Grows RuleCell.Lasts
      (description.build.outcome (workspace.counted cell)).2 :=
    (grows_modify fun _ _ => ⟨rfl, .refl _⟩ :
      workspace.Grows RuleCell.Lasts (workspace.counted cell)).trans
      (description.build_grows (workspace.counted cell)).lasts
  cases found : (resolve cell).outcome workspace with
  | mk answer later =>
  cases resolves found with
  | known => exact (Grows.refl workspace).lasts
  | undefined => exact (Grows.refl workspace).lasts
  | @unbuilt description => exact builds description
  | @built description body pending =>
    -- the rule is still pending when it is bound
    refine (builds description).trans (grows_modify fun content found => ⟨rfl, ?_⟩)
    have place : cell < workspace.cells.size := lt_of_isDefined (by rw [pending]; rfl)
    have still := bindingOf_build_counted place cell description
    rw [bindingOf_of_getElem? found, pending] at still
    rw [still]
    exact .built description body

end Workspace

/-! ## Runs -/

/-- **Runs make a workspace grow**, also if they end in a fault. -/
theorem Workspace.grows_isFootprint : IsFootprint (Grows RuleCell.Lasts) where
  refl workspace := (Grows.refl workspace).lasts
  trans := Grows.trans
  resolve {workspace _ cell _} found _ := by
    have grows := workspace.resolve_grows cell
    rw [found] at grows
    exact grows
  remember _ _ := Grows.lasts (.of_cells_eq (fun _ _ => rfl) (Nat.le_refl _) rfl rfl)

/-! ## Calls -/

/-- **A resolved rule is its body under the name of the rule.** -/
theorem call_of_resolved {state : State} {cell : Nat} {body : Parser}
    (resolved : state.workspace.bindingOf cell = .resolved body) (input : Value)
    (stack : List Frame) :
    (Parser.rule cell).call input stack state
      = (Parser.traced (state.workspace.nameOf cell) body).call input stack state := by
  have found := Workspace.resolve_of_resolved resolved
  rw [Edit.outcome] at found
  simp only [Parser.call, Parser.label?, Parser.start, callRule, found]

end Peg
