import Mathlib.Data.List.Forall2
import Peg.Proofs.Growth

/-! # Building again

What comes of building a description depends on the names that the grammar has and on the parsers
kept under names. The rules that are there do not matter, and their number only shifts the cells of
the new ones. So a description that is built twice gives twins: parsers that are the same but for
the cells of their rules, and new rules that are twins in their turn, or the same fault.

* `Parser.Twin`, `Binding.Twin`: the same but for the cells, which a relation pairs.
* `Description.Contained`: the names that a description mentions are known, and no terminal of it
  remembers its calls.
* **`Description.Contained.mirrors`**: two buildings of a contained description go abreast. -/

namespace Peg

/-! ## Twins -/

/-- The parsers are the same but for the cells of rules, which the relation pairs, and none of their
terminals remembers its calls. -/
inductive Parser.Twin (pairs : Nat → Nat → Prop) : Parser → Parser → Prop
  | terminal (leaf : Terminal) : Twin pairs (.terminal leaf) (.terminal leaf)
  | foreign {leaf : Foreign} (forgets : leaf.memory = none) :
      Twin pairs (.foreign leaf) (.foreign leaf)
  | sequence {first copy : Parser} {others copies : List Parser} (head : Twin pairs first copy)
      (length : others.length = copies.length)
      (tail : ∀ {one other}, (one, other) ∈ others.zip copies → Twin pairs one other) :
      Twin pairs (.sequence first others) (.sequence copy copies)
  | choice {first copy : Parser} {others copies : List Parser} (head : Twin pairs first copy)
      (length : others.length = copies.length)
      (tail : ∀ {one other}, (one, other) ∈ others.zip copies → Twin pairs one other) :
      Twin pairs (.choice first others) (.choice copy copies)
  | star {body copy : Parser} (inside : Twin pairs body copy) : Twin pairs (.star body) (.star copy)
  | plus {body copy : Parser} (inside : Twin pairs body copy) : Twin pairs (.plus body) (.plus copy)
  | optional {body copy : Parser} (inside : Twin pairs body copy) (absent : Value) :
      Twin pairs (.optional body absent) (.optional copy absent)
  | ahead {body copy : Parser} (inside : Twin pairs body copy) :
      Twin pairs (.ahead body) (.ahead copy)
  | notAhead {body copy : Parser} (inside : Twin pairs body copy) :
      Twin pairs (.notAhead body) (.notAhead copy)
  | transform {body copy : Parser} (inside : Twin pairs body copy) (name : String)
      (function : Value → Except Fault Value) :
      Twin pairs (.transform body name function) (.transform copy name function)
  | nested {body copy inner second : Parser} (inside : Twin pairs body copy)
      (deep : Twin pairs inner second) (form : NestedForm) :
      Twin pairs (.nested body inner form) (.nested copy second form)
  | traced (name : String) {body copy : Parser} (inside : Twin pairs body copy) :
      Twin pairs (.traced name body) (.traced name copy)
  | rule {cell copy : Nat} (paired : pairs cell copy) : Twin pairs (.rule cell) (.rule copy)
  | constant (value : Value) : Twin pairs (.constant value) (.constant value)

/-- The parsers of two rows are twins one by one. -/
abbrev Parser.AllTwin (pairs : Nat → Nat → Prop) : List Parser → List Parser → Prop :=
  List.Forall₂ (Parser.Twin pairs)

/-- Rows that are compared with one third row one by one are compared with each other. -/
theorem forall₂_of_common {first : α → γ → Prop} {second : β → γ → Prop} {goal : α → β → Prop}
    (join : ∀ {one two three}, first one three → second two three → goal one two)
    {ones : List α} {twos : List β} {threes : List γ} (left : List.Forall₂ first ones threes)
    (right : List.Forall₂ second twos threes) : List.Forall₂ goal ones twos := by
  induction left generalizing twos with
  | nil =>
    cases right
    exact .nil
  | cons head _ inductionHypothesis =>
    cases right with
    | cons headToo tail => exact .cons (join head headToo) (inductionHypothesis tail)

namespace Parser.Twin

variable {pairs more : Nat → Nat → Prop} {parser copy : Parser}

/-- Sequences of twins are twins. -/
theorem sequence_of_all {first : Parser} {others copies : List Parser}
    (head : first.Twin pairs copy) (tail : AllTwin pairs others copies) :
    (Parser.sequence first others).Twin pairs (.sequence copy copies) :=
  .sequence head tail.length_eq (List.forall₂_iff_zip.1 tail).2

/-- Choices of twins are twins. -/
theorem choice_of_all {first : Parser} {others copies : List Parser}
    (head : first.Twin pairs copy) (tail : AllTwin pairs others copies) :
    (Parser.choice first others).Twin pairs (.choice copy copies) :=
  .choice head tail.length_eq (List.forall₂_iff_zip.1 tail).2

/-- Twins are twins if more cells are paired. -/
theorem mono (weaker : ∀ cell copy, pairs cell copy → more cell copy)
    (twin : parser.Twin pairs copy) : parser.Twin more copy := by
  induction twin with
  | terminal leaf => exact .terminal leaf
  | foreign forgets => exact .foreign forgets
  | sequence _ length _ head tail => exact .sequence head length tail
  | choice _ length _ head tail => exact .choice head length tail
  | star _ inside => exact .star inside
  | plus _ inside => exact .plus inside
  | optional _ absent inside => exact .optional inside absent
  | ahead _ inside => exact .ahead inside
  | notAhead _ inside => exact .notAhead inside
  | transform _ name function inside => exact .transform inside name function
  | nested _ _ form inside deep => exact .nested inside deep form
  | traced name _ inside => exact .traced name inside
  | rule paired => exact .rule (weaker _ _ paired)
  | constant value => exact .constant value

/-- Two twins of one parser are twins. -/
theorem of_common {others : Nat → Nat → Prop} {second : Parser} (twin : parser.Twin pairs copy)
    (twinToo : second.Twin others copy) :
    parser.Twin (fun cell other => ∃ common, pairs cell common ∧ others other common) second := by
  -- both twins have the shape of the copy between them, so the cases of one decide the other
  induction twin generalizing second with
  | terminal leaf =>
    cases twinToo
    exact .terminal leaf
  | foreign forgets =>
    cases twinToo
    exact .foreign forgets
  | sequence _ length _ head tail =>
    cases twinToo with
    | sequence headToo lengthToo tailToo =>
      exact sequence_of_all (head headToo)
        (forall₂_of_common (fun left right => left right)
          (List.forall₂_iff_zip.2 ⟨length, fun member => @tail _ _ member⟩)
          (List.forall₂_iff_zip.2 ⟨lengthToo, tailToo⟩))
  | choice _ length _ head tail =>
    cases twinToo with
    | choice headToo lengthToo tailToo =>
      exact choice_of_all (head headToo)
        (forall₂_of_common (fun left right => left right)
          (List.forall₂_iff_zip.2 ⟨length, fun member => @tail _ _ member⟩)
          (List.forall₂_iff_zip.2 ⟨lengthToo, tailToo⟩))
  | star _ inside =>
    cases twinToo with
    | star insideToo => exact .star (inside insideToo)
  | plus _ inside =>
    cases twinToo with
    | plus insideToo => exact .plus (inside insideToo)
  | optional _ absent inside =>
    cases twinToo with
    | optional insideToo _ => exact .optional (inside insideToo) absent
  | ahead _ inside =>
    cases twinToo with
    | ahead insideToo => exact .ahead (inside insideToo)
  | notAhead _ inside =>
    cases twinToo with
    | notAhead insideToo => exact .notAhead (inside insideToo)
  | transform _ name function inside =>
    cases twinToo with
    | transform insideToo _ _ => exact .transform (inside insideToo) name function
  | nested _ _ form inside deep =>
    cases twinToo with
    | nested insideToo deepToo _ => exact .nested (inside insideToo) (deep deepToo) form
  | traced name _ inside =>
    cases twinToo with
    | traced _ insideToo => exact .traced name (inside insideToo)
  | rule paired =>
    cases twinToo with
    -- here the two numberings of the cells are composed
    | rule pairedToo => exact .rule ⟨_, paired, pairedToo⟩
  | constant value =>
    cases twinToo
    exact .constant value

/-- A twin stands for a value exactly if its parser does, and it is the same one. -/
theorem constant?_eq (twin : parser.Twin pairs copy) : copy.constant? = parser.constant? := by
  cases twin <;> rfl

end Parser.Twin

/-- The cell is one of the first ones and paired with itself. -/
abbrev Below (size cell copy : Nat) : Prop := cell < size ∧ copy = cell

/-- All rules that a parser refers to have one of the first cells, and no terminal of it remembers
its calls. -/
def Parser.Contained (size : Nat) (parser : Parser) : Prop := parser.Twin (Below size) parser

/-- What has a twin is contained in the cells that are paired. -/
theorem Parser.Twin.contained {pairs : Nat → Nat → Prop} {size : Nat}
    (inside : ∀ cell copy, pairs cell copy → cell < size) {parser copy : Parser}
    (twin : parser.Twin pairs copy) : parser.Contained size := by
  have row {others copies : List Parser} (length : others.length = copies.length)
      (tail : ∀ {one other}, (one, other) ∈ others.zip copies → one.Contained size) :
      AllTwin (Below size) others others := by
    have both : List.Forall₂ (fun one _ => one.Contained size) others copies :=
      List.forall₂_iff_zip.2 ⟨length, tail⟩
    induction both with
    | nil => exact .nil
    | cons head _ inductionHypothesis =>
      exact .cons head (inductionHypothesis (Nat.succ.inj length) fun member =>
        tail (List.mem_cons_of_mem _ member))
  induction twin with
  | terminal leaf => exact .terminal leaf
  | foreign forgets => exact .foreign forgets
  | sequence _ length _ head tail => exact .sequence_of_all head (row length tail)
  | choice _ length _ head tail => exact .choice_of_all head (row length tail)
  | star _ body => exact .star body
  | plus _ body => exact .plus body
  | optional _ absent body => exact .optional body absent
  | ahead _ body => exact .ahead body
  | notAhead _ body => exact .notAhead body
  | transform _ name function body => exact .transform body name function
  | nested _ _ form body deep => exact .nested body deep form
  | traced name _ body => exact .traced name body
  | rule paired => exact .rule ⟨inside _ _ paired, rfl⟩
  | constant value => exact .constant value

/-- The names that building a description looks up are known, and so are those that its deferred
parts look up later; no terminal of it remembers its calls. In a grammar of its own every name is
known. -/
inductive Description.Contained (later : String → Prop) : (String → Prop) → Description → Prop
  | token {known} (origin : PatternOrigin) (flags : String) :
      Contained later known (.token origin flags)
  | literal {known} (text : Value) : Contained later known (.literal text)
  | terminal {known} (leaf : Terminal) : Contained later known (.terminal leaf)
  | sequence {known} {parts : List Description}
      (inside : ∀ part ∈ parts, Contained later known part) :
      Contained later known (.sequence parts)
  | choice {known} {parts : List Description}
      (inside : ∀ part ∈ parts, Contained later known part) : Contained later known (.choice parts)
  | star {known} {body : Description} (inside : Contained later known body) :
      Contained later known (.star body)
  | plus {known} {body : Description} (inside : Contained later known body) :
      Contained later known (.plus body)
  | optional {known} {body : Description} (inside : Contained later known body) (absent : Value) :
      Contained later known (.optional body absent)
  | ahead {known} {body : Description} (inside : Contained later known body) :
      Contained later known (.ahead body)
  | notAhead {known} {body : Description} (inside : Contained later known body) :
      Contained later known (.notAhead body)
  | transform {known} {body : Description} (inside : Contained later known body) (name : String)
      (function : Value → Except Fault Value) :
      Contained later known (.transform body name function)
  | nested {known} {body inner : Description} (inside : Contained later known body)
      (deep : Contained later known inner) (form : NestedForm) :
      Contained later known (.nested body inner form)
  | traced {known} (name : String) {body : Description} (inside : Contained later known body) :
      Contained later known (.traced name body)
  | reference {known} {name : String} (mentioned : known name) :
      Contained later known (.reference name)
  | saved {known} (name : String) : Contained later known (.saved name)
  | rule {known} (name : String) {body : Description} (inside : Contained later known body) :
      Contained later known (.rule name body)
  | deferred {known} (name : String) {body : Description} (inside : Contained later later body) :
      Contained later known (.deferred name body)
  | within {known} {rules : List (String × Description)}
      (inside : ∀ rule ∈ rules, Contained later (fun _ => True) rule.2) (name : String) :
      Contained later known (.within rules name)
  | take {known} (count : Int) : Contained later known (.take count)
  | failAt {known} (payload : Except Fault Value) (offset : Int) :
      Contained later known (.failAt payload offset)
  | constant {known} (value : Value) : Contained later known (.constant value)
  | broken {known} {parts : List Description}
      (inside : ∀ part ∈ parts, Contained later known part) (fault : Fault) :
      Contained later known (.broken parts fault)

/-- The bindings are the same but for the cells of rules; a description that is still to be built is
contained. -/
inductive Binding.Twin (known : String → Prop) (pairs : Nat → Nat → Prop) :
    Binding → Binding → Prop
  | undefined : Twin known pairs .undefined .undefined
  | pending {body : Description} (contained : body.Contained known known) :
      Twin known pairs (.pending body) (.pending body)
  | resolved {body copy : Parser} (twin : body.Twin pairs copy) :
      Twin known pairs (.resolved body) (.resolved copy)

namespace Binding.Twin

variable {known : String → Prop} {pairs more : Nat → Nat → Prop} {binding copy : Binding}

/-- Bindings are twins if more cells are paired. -/
theorem mono (weaker : ∀ cell copy, pairs cell copy → more cell copy)
    (twin : binding.Twin known pairs copy) : binding.Twin known more copy := by
  cases twin with
  | undefined => exact .undefined
  | pending contained => exact .pending contained
  | resolved twin => exact .resolved (twin.mono weaker)

/-- A binding that has a twin is contained in the cells that are paired. -/
theorem contained {size : Nat} (inside : ∀ cell copy, pairs cell copy → cell < size)
    (twin : binding.Twin known pairs copy) : binding.Twin known (Below size) binding := by
  cases twin with
  | undefined => exact .undefined
  | pending contained => exact .pending contained
  | resolved twin => exact .resolved (twin.contained inside)

/-- A twin is defined exactly if its binding is. -/
theorem isDefined_eq (twin : binding.Twin known pairs copy) :
    copy.isDefined = binding.isDefined := by
  cases twin <;> rfl

end Binding.Twin

/-! ## Two workspaces abreast -/

/-- Where two buildings of one description start: how many rules each workspace has, the parsers
kept under names, and the names that are known later. -/
structure Ground where
  /-- The number of rules in the workspace. -/
  here : Nat
  /-- The number of rules in the copy. -/
  there : Nat
  /-- The parsers kept under names. -/
  kept : List (String × Parser)
  /-- The names that are known later. -/
  known : String → Prop
  /-- The parsers kept under names refer to rules that both have. -/
  contained : ∀ entry ∈ kept, entry.2.Contained there

/-- The grammar in which a description is built. -/
inductive Scope where
  /-- A grammar that stays as it is. -/
  | around (grammar : Grammar)
  /-- A grammar of its own, with new rules only. -/
  | own

namespace Ground

variable (ground : Ground)

/-- The cells are those of rules added at the same time. -/
def New (top cell copy : Nat) : Prop :=
  ground.here ≤ cell ∧ cell < top ∧ copy + ground.here = cell + ground.there

/-- The cells are those of one rule that both have, or of rules added at the same time. -/
def Pairs (top cell copy : Nat) : Prop :=
  Below ground.there cell copy ∨ ground.New top cell copy

/-- The grammars of the two workspaces belong together. -/
def Relates (top : Nat) : Scope → Grammar → Grammar → Prop
  | .around grammar, one, copy => one = grammar ∧ copy = grammar
  | .own, one, copy => ∀ name,
    Option.Rel (ground.New top) (one.rules.lookup name) (copy.rules.lookup name)

/-- The name can be looked up. -/
def Allows : Scope → String → Prop
  | .around grammar, name => ∃ cell < ground.there, grammar.rules.lookup name = some cell
  | .own, _ => True

/-- The two workspaces have added the same rules. -/
structure Abreast (scope : Scope) (workspace copy : Workspace) : Prop where
  /-- No rule is lost. -/
  size_le : ground.here ≤ workspace.cells.size
  /-- Both have added the same number. -/
  size_eq : copy.cells.size + ground.here = workspace.cells.size + ground.there
  /-- The parsers kept under names are as they were. -/
  kept_eq : workspace.kept = ground.kept
  /-- Those of the copy are the same. -/
  copy_kept_eq : copy.kept = ground.kept
  /-- The grammars belong together. -/
  grammars : ground.Relates workspace.cells.size scope workspace.grammar copy.grammar
  /-- Rules added at the same time have the same names. -/
  names : ∀ {cell other}, ground.New workspace.cells.size cell other →
    copy.nameOf other = workspace.nameOf cell
  /-- They are bound to twins. -/
  bindings : ∀ {cell other}, ground.New workspace.cells.size cell other →
    (workspace.bindingOf cell).Twin ground.known (ground.Pairs workspace.cells.size)
      (copy.bindingOf other)

end Ground

/-- Both computations end in the same fault, or their results are alike. -/
inductive Agree (alike : α → β → Prop) : Except Fault α → Except Fault β → Prop
  | ok {one : α} {other : β} (same : alike one other) : Agree alike (.ok one) (.ok other)
  | error (fault : Fault) : Agree alike (.error fault) (.error fault)

/-- Results that are alike are alike in any weaker sense. -/
theorem Agree.mono {alike more : α → β → Prop}
    (weaker : ∀ one other, alike one other → more one other) {one : Except Fault α}
    {other : Except Fault β} (agree : Agree alike one other) : Agree more one other := by
  cases agree with
  | ok same => exact .ok (weaker _ _ same)
  | error fault => exact .error fault

/-- The two edits keep workspaces abreast that have come so far, and what they give is alike in the
workspaces after them. -/
def Ground.Mirrors (ground : Ground) (scope : Scope) (top : Nat) (alike : Nat → α → β → Prop)
    (edit : Edit α) (mirror : Edit β) : Prop :=
  ∀ workspace copy, ground.Abreast scope workspace copy → top ≤ workspace.cells.size →
    ground.Abreast scope (edit.outcome workspace).2 (mirror.outcome copy).2
    ∧ workspace.cells.size ≤ (edit.outcome workspace).2.cells.size
    ∧ Agree (alike (edit.outcome workspace).2.cells.size) (edit.outcome workspace).1
        (mirror.outcome copy).1

namespace Ground

variable {ground : Ground} {scope : Scope} {top more : Nat}

/-- Cells that are new are new later on, too. -/
theorem New.mono (le : top ≤ more) {cell copy : Nat} (new : ground.New top cell copy) :
    ground.New more cell copy :=
  ⟨new.1, Nat.lt_of_lt_of_le new.2.1 le, new.2.2⟩

/-- Cells that are paired are paired later on, too. -/
theorem Pairs.mono (le : top ≤ more) {cell copy : Nat} (paired : ground.Pairs top cell copy) :
    ground.Pairs more cell copy :=
  paired.imp_right (New.mono le)

/-- Grammars that belong together do so later on, too. -/
theorem Relates.mono (le : top ≤ more) {one copy : Grammar}
    (relates : ground.Relates top scope one copy) : ground.Relates more scope one copy := by
  cases scope with
  | around grammar => exact relates
  | own =>
    intro name
    have related := relates name
    revert related
    generalize one.rules.lookup name = found, copy.rules.lookup name = copied
    rintro (new | _)
    · exact .some (new.mono le)
    · exact .none

/-! ## Putting edits together -/

namespace Mirrors

/-- Values that are alike from now on are given alike. -/
theorem pure {alike : Nat → α → β → Prop} {one : α} {other : β}
    (same : ∀ more ≥ top, alike more one other) :
    ground.Mirrors scope top alike (Pure.pure one) (Pure.pure other) :=
  fun _ _ abreast le => ⟨abreast, Nat.le_refl _, .ok (same _ le)⟩

/-- The same fault is raised alike. -/
theorem throw (alike : Nat → α → β → Prop) (fault : Fault) :
    ground.Mirrors scope top alike (throw fault) (throw fault) :=
  fun _ _ abreast _ => ⟨abreast, Nat.le_refl _, .error fault⟩

/-- Answers that agree from now on are given alike. -/
theorem lift {alike : Nat → α → β → Prop} {one : Except Fault α} {other : Except Fault β}
    (same : ∀ more ≥ top, Agree (alike more) one other) :
    ground.Mirrors scope top alike (liftM one) (liftM other) := by
  intro workspace copy abreast le
  rw [Edit.outcome_lift, Edit.outcome_lift]
  exact ⟨abreast, Nat.le_refl _, same _ le⟩

/-- What is computed without the workspace is the same. -/
theorem liftSame (answer : Except Fault α) :
    ground.Mirrors scope top (fun _ => Eq) (liftM answer) (liftM answer) :=
  lift fun _ _ => by
    cases answer with
    | error fault => exact .error fault
    | ok value => exact .ok rfl

/-- Edits in two steps mirror each other if both steps do. -/
theorem bind {alike : Nat → α → β → Prop} {goal : Nat → γ → δ → Prop} {edit : Edit α}
    {mirror : Edit β} {next : α → Edit γ} {copyNext : β → Edit δ}
    (first : ground.Mirrors scope top alike edit mirror)
    (second : ∀ more ≥ top, ∀ one other, alike more one other →
      ground.Mirrors scope more goal (next one) (copyNext other)) :
    ground.Mirrors scope top goal (edit >>= next) (mirror >>= copyNext) := by
  intro workspace copy abreast le
  obtain ⟨abreastThen, grown, agree⟩ := first _ _ abreast le
  rw [Edit.outcome_bind, Edit.outcome_bind]
  generalize edit.outcome workspace = done at abreastThen grown agree
  generalize mirror.outcome copy = copied at abreastThen grown agree
  obtain ⟨answer, after⟩ := done
  obtain ⟨copyAnswer, copyAfter⟩ := copied
  cases agree with
  | error fault => exact ⟨abreastThen, grown, .error fault⟩
  | ok same =>
    obtain ⟨abreastLast, grownMore, agree⟩ :=
      second _ (Nat.le_trans le grown) _ _ same _ _ abreastThen (Nat.le_refl _)
    exact ⟨abreastLast, Nat.le_trans grown grownMore, agree⟩

/-- An edit that only changes the workspaces. -/
theorem modify {change mirror : Workspace → Workspace}
    (keeps : ∀ {workspace copy}, ground.Abreast scope workspace copy →
      top ≤ workspace.cells.size → ground.Abreast scope (change workspace) (mirror copy)
        ∧ workspace.cells.size ≤ (change workspace).cells.size) :
    ground.Mirrors scope top (fun _ _ _ => True) (modify change) (modify mirror) :=
  fun _ _ abreast le => ⟨(keeps abreast le).1, (keeps abreast le).2, .ok trivial⟩

end Mirrors

/-! ## Rules -/

open Workspace

/-- A new cell is the last one or was new before. -/
theorem New.of_succ {workspace copy : Workspace} (abreast : ground.Abreast scope workspace copy)
    {cell other : Nat} (new : ground.New (workspace.cells.size + 1) cell other) :
    cell = workspace.cells.size ∧ other = copy.cells.size
      ∨ cell ≠ workspace.cells.size ∧ other ≠ copy.cells.size
        ∧ ground.New workspace.cells.size cell other := by
  obtain ⟨ge, lt, shift⟩ := new
  have sizes := abreast.size_eq
  by_cases last : cell = workspace.cells.size
  · exact .inl ⟨last, by omega⟩
  · exact .inr ⟨last, by omega, ge, by omega, shift⟩

/-- Two cells that are added abreast belong together. -/
theorem addCell_mirrors (name : String) {binding copy : Binding}
    (twin : binding.Twin ground.known (ground.Pairs top) copy) :
    ground.Mirrors scope top ground.New (addCell name binding) (addCell name copy) := by
  intro workspace other abreast le
  have sizes := abreast.size_eq
  have floor := abreast.size_le
  rw [outcome_addCell, outcome_addCell]
  dsimp only
  rw [withCell_size]
  refine ⟨⟨?_, ?_, abreast.kept_eq, abreast.copy_kept_eq, ?_, ?_, ?_⟩, Nat.le_succ _, .ok ?_⟩
  · rw [withCell_size]
    omega
  · rw [withCell_size, withCell_size]
    omega
  · rw [withCell_size]
    exact Relates.mono (Nat.le_succ _) abreast.grammars
  · intro cell place new
    rw [withCell_size] at new
    rw [withCell_nameOf, withCell_nameOf]
    obtain ⟨rfl, rfl⟩ | ⟨old, copyOld, new⟩ := new.of_succ abreast
    · rw [if_pos rfl, if_pos rfl]
    · rw [if_neg old, if_neg copyOld, abreast.names new]
  · intro cell place new
    rw [withCell_size] at new ⊢
    rw [withCell_bindingOf, withCell_bindingOf]
    obtain ⟨rfl, rfl⟩ | ⟨old, copyOld, new⟩ := new.of_succ abreast
    · rw [if_pos rfl, if_pos rfl]
      exact twin.mono fun _ _ => Pairs.mono (by omega)
    · rw [if_neg old, if_neg copyOld]
      exact (abreast.bindings new).mono fun _ _ => Pairs.mono (Nat.le_succ _)
  · exact ⟨floor, Nat.lt_succ_self _, by omega⟩

/-- In a grammar of its own a name that is new is new for both. -/
theorem ruleCell_mirrors_own (name : String) :
    ground.Mirrors .own top ground.New (ruleCell name) (ruleCell name) := by
  intro workspace copy abreast le
  rw [outcome_ruleCell, outcome_ruleCell]
  have related := abreast.grammars name
  cases found : workspace.grammar.rules.lookup name with
  | some cell =>
    cases copied : copy.grammar.rules.lookup name with
    | none => simp [found, copied] at related
    | some other =>
      rw [found, copied] at related
      cases related with
      | some new => exact ⟨abreast, Nat.le_refl _, .ok new⟩
  | none =>
    cases copied : copy.grammar.rules.lookup name with
    | some other => simp [found, copied] at related
    | none =>
      -- both add a rule, and then both grammars have the name for it
      have twin : Binding.undefined.Twin ground.known (ground.Pairs top) .undefined :=
        .undefined
      obtain ⟨added, grown, new⟩ := addCell_mirrors name twin _ _ abreast le
      rw [outcome_addCell, outcome_addCell] at new
      cases new with
      | ok new =>
      refine ⟨⟨added.size_le, added.size_eq, added.kept_eq, added.copy_kept_eq, fun known => ?_,
        added.names, added.bindings⟩, grown, .ok new⟩
      dsimp only [mention]
      rw [List.lookup_append, List.lookup_append, List.lookup_cons, List.lookup_cons]
      have related := added.grammars known
      rw [outcome_addCell, outcome_addCell] at related
      revert related
      dsimp only [withCell]
      generalize workspace.grammar.rules.lookup known = old,
        copy.grammar.rules.lookup known = copyOld
      rintro (paired | _)
      · exact .some paired
      · cases known == name with
        | false => exact .none
        | true => exact .some new

/-- A name that can be looked up has paired rules. -/
theorem ruleCell_mirrors {name : String} (allowed : ground.Allows scope name) :
    ground.Mirrors scope top ground.Pairs (ruleCell name) (ruleCell name) := by
  cases scope with
  | own =>
    intro workspace copy abreast le
    obtain ⟨abreastThen, grown, agree⟩ := ruleCell_mirrors_own name _ _ abreast le
    exact ⟨abreastThen, grown, agree.mono fun _ _ => .inr⟩
  | around grammar =>
    obtain ⟨cell, bound, known⟩ := allowed
    intro workspace copy abreast le
    obtain ⟨here, there⟩ := abreast.grammars
    rw [outcome_ruleCell, outcome_ruleCell, here, there, known]
    exact ⟨abreast, Nat.le_refl _, .ok (.inl ⟨bound, rfl⟩)⟩

/-- New rules are bound abreast. -/
theorem bindCell_mirrors {cell other : Nat} (new : ground.New top cell other)
    {body copy : Parser} (twin : body.Twin (ground.Pairs top) copy) :
    ground.Mirrors scope top (fun _ _ _ => True) (Workspace.bind cell body)
      (Workspace.bind other copy) := by
  intro workspace mirror abreast le
  have new := new.mono le
  rw [outcome_bindCell, outcome_bindCell, (abreast.bindings new).isDefined_eq, abreast.names new,
    twin.constant?_eq]
  split
  · exact ⟨abreast, Nat.le_refl _, .error _⟩
  · cases body.constant? with
    | some value => exact ⟨abreast, Nat.le_refl _, .error _⟩
    | none =>
      have sizes := abreast.size_eq
      obtain ⟨floor, bound, shift⟩ := new
      have copyBound : other < mirror.cells.size := by omega
      dsimp only
      rw [withBody_size]
      refine ⟨⟨?_, ?_, abreast.kept_eq, abreast.copy_kept_eq, ?_, ?_, ?_⟩, Nat.le_refl _,
        .ok trivial⟩
      · rw [withBody_size]
        exact abreast.size_le
      · rw [withBody_size, withBody_size]
        exact sizes
      · rw [withBody_size]
        exact abreast.grammars
      · intro one another fresh
        rw [withBody_size] at fresh
        rw [withBody_nameOf, withBody_nameOf, abreast.names fresh]
      · intro one another fresh
        rw [withBody_size] at fresh ⊢
        rw [withBody_bindingOf bound, withBody_bindingOf copyBound]
        -- cells that are paired are the cells at hand on both sides or on none
        have together : one = cell ↔ another = other := by
          obtain ⟨-, -, shiftToo⟩ := fresh
          omega
        by_cases here : one = cell
        · rw [if_pos here, if_pos (together.1 here)]
          exact .resolved (twin.mono fun _ _ => Pairs.mono le)
        · rw [if_neg here, if_neg (mt together.2 here)]
          exact abreast.bindings fresh

/-- In grammars of their own two definitions of a name bind rules that belong together. -/
theorem define_mirrors (name : String) {body copy : Parser}
    (twin : body.Twin (ground.Pairs top) copy) :
    ground.Mirrors .own top (fun _ _ _ => True) (define name body) (define name copy) := by
  refine .bind (ruleCell_mirrors_own name) fun more le cell other new => ?_
  refine .bind (bindCell_mirrors new (twin.mono fun _ _ => Pairs.mono le)) fun _ _ _ _ _ => ?_
  refine .bind (.modify fun abreast _ => ?_) fun _ _ _ _ _ => .pure fun _ _ => trivial
  exact ⟨⟨abreast.size_le, abreast.size_eq, abreast.kept_eq, abreast.copy_kept_eq,
    abreast.grammars, abreast.names, abreast.bindings⟩, Nat.le_refl _⟩

/-- In grammars of their own two edits need not know the grammars around. -/
theorem inNewGrammar_mirrors {alike : Nat → α → β → Prop} {edit : Edit α} {mirror : Edit β}
    (inside : ground.Mirrors .own top alike edit mirror) :
    ground.Mirrors scope top alike (inNewGrammar edit) (inNewGrammar mirror) := by
  intro workspace copy abreast le
  have start : ground.Abreast .own { workspace with grammar := {} }
      { copy with grammar := {} } :=
    ⟨abreast.size_le, abreast.size_eq, abreast.kept_eq, abreast.copy_kept_eq, fun _ => .none,
      abreast.names, abreast.bindings⟩
  obtain ⟨last, grown, agree⟩ := inside _ _ start le
  rw [outcome_inNewGrammar, outcome_inNewGrammar]
  exact ⟨⟨last.size_le, last.size_eq, last.kept_eq, last.copy_kept_eq,
    Relates.mono grown abreast.grammars, last.names, last.bindings⟩, grown, agree⟩

end Ground

/-! ## Building -/

namespace Description

open Ground Workspace

variable {ground : Ground} {scope : Scope} {top : Nat}

/-- Two buildings of a description give twins. -/
abbrev BuildsTwins (ground : Ground) (scope : Scope) (description : Description) : Prop :=
  ∀ top, ground.Mirrors scope top (fun top => Parser.Twin (ground.Pairs top)) (build description)
    (build description)

/-- Two rows of twins are combined to twins, or both are too short. -/
theorem agree_combine {combinator : String} {make : Parser → List Parser → Parser}
    {pairs : Nat → Nat → Prop}
    (makes : ∀ {first copy others copies}, first.Twin pairs copy →
      Parser.AllTwin pairs others copies → (make first others).Twin pairs (make copy copies))
    {parts copies : List Parser} (twins : Parser.AllTwin pairs parts copies) :
    Agree (Parser.Twin pairs) (combine combinator make parts)
      (combine combinator make copies) := by
  cases twins with
  | nil => exact .error _
  | cons first rest =>
    cases rest with
    | nil => exact .error _
    | cons second others => exact .ok (makes first (.cons second others))

/-- Two buildings of several descriptions give rows of twins. -/
theorem buildAll_mirrors {parts : List Description}
    (builds : ∀ part ∈ parts, BuildsTwins ground scope part) (top : Nat) :
    ground.Mirrors scope top (fun top => Parser.AllTwin (ground.Pairs top)) (buildAll parts)
      (buildAll parts) := by
  induction parts generalizing top with
  | nil =>
    rw [buildAll]
    exact .pure fun _ _ => .nil
  | cons part others inductionHypothesis =>
    rw [buildAll]
    refine .bind (builds part List.mem_cons_self top) fun more _ parser copy twin => ?_
    refine .bind (inductionHypothesis (fun other member =>
      builds other (List.mem_cons_of_mem _ member)) more) fun last le parsers copies twins => ?_
    exact .pure fun _ leToo => .cons (twin.mono fun _ _ => Pairs.mono (by omega))
      (twins.imp fun _ _ twin => twin.mono fun _ _ => Pairs.mono leToo)

/-- Two buildings of the rules of grammars of their own keep abreast. -/
theorem buildRules_mirrors {rules : List (String × Description)}
    (builds : ∀ rule ∈ rules, BuildsTwins ground .own rule.2) (top : Nat) :
    ground.Mirrors .own top (fun _ _ _ => True) (buildRules rules) (buildRules rules) := by
  induction rules generalizing top with
  | nil =>
    rw [buildRules]
    exact .pure fun _ _ => trivial
  | cons rule others inductionHypothesis =>
    obtain ⟨name, description⟩ := rule
    rw [buildRules]
    refine .bind (builds (name, description) List.mem_cons_self top) fun _ _ parser copy twin => ?_
    refine .bind (define_mirrors name twin) fun last _ _ _ _ => ?_
    exact inductionHypothesis (fun rule member => builds rule (List.mem_cons_of_mem _ member)) last

/-- A parser with one part has a twin if the part has one. -/
theorem buildsTwins_of_body {body : Description} {make : Parser → Parser}
    (builds : BuildsTwins ground scope body)
    (makes : ∀ {pairs parser copy}, Parser.Twin pairs parser copy →
      Parser.Twin pairs (make parser) (make copy)) :
    ground.Mirrors scope top (fun top => Parser.Twin (ground.Pairs top))
      (do return make (← build body)) (do return make (← build body)) :=
  .bind (builds top) fun _ _ _ _ twin =>
    .pure fun _ le => makes (twin.mono fun _ _ => Pairs.mono le)

/-- **Two buildings of a contained description go abreast**: they end in the same fault or give
twins. -/
theorem Contained.mirrors {known : String → Prop} {description : Description}
    (contained : description.Contained ground.known known)
    (allowed : ∀ name, known name → ground.Allows scope name) :
    BuildsTwins ground scope description := by
  induction contained generalizing scope with
  | token origin flags =>
    intro top
    rw [build]
    exact .bind (.liftSame _) fun _ _ pattern copy same => .pure fun _ _ => same ▸ .terminal _
  | literal text =>
    intro top
    rw [build]
    split
    · exact .pure fun _ _ => .terminal _
    · exact .throw _ _
  | terminal leaf =>
    intro top
    rw [build]
    exact .pure fun _ _ => .terminal leaf
  | sequence _ builds =>
    intro top
    rw [build]
    refine .bind (buildAll_mirrors (fun part member => builds part member allowed) top)
      fun more _ parsers copies twins => .lift fun last le => ?_
    exact agree_combine .sequence_of_all
      (twins.imp fun _ _ twin => twin.mono fun _ _ => Pairs.mono le)
  | choice _ builds =>
    intro top
    rw [build]
    refine .bind (buildAll_mirrors (fun part member => builds part member allowed) top)
      fun more _ parsers copies twins => .lift fun last le => ?_
    exact agree_combine .choice_of_all
      (twins.imp fun _ _ twin => twin.mono fun _ _ => Pairs.mono le)
  | star _ builds =>
    intro top
    rw [build]
    exact buildsTwins_of_body (builds allowed) .star
  | plus _ builds =>
    intro top
    rw [build]
    exact buildsTwins_of_body (builds allowed) .plus
  | optional _ absent builds =>
    intro top
    rw [build]
    exact buildsTwins_of_body (builds allowed) (.optional · absent)
  | ahead _ builds =>
    intro top
    rw [build]
    exact buildsTwins_of_body (builds allowed) .ahead
  | notAhead _ builds =>
    intro top
    rw [build]
    exact buildsTwins_of_body (builds allowed) .notAhead
  | transform _ name function builds =>
    intro top
    rw [build]
    exact buildsTwins_of_body (builds allowed) (.transform · name function)
  | nested _ _ form builds second =>
    intro top
    rw [build]
    refine .bind (builds allowed top) fun more _ outer copy twin => ?_
    refine .bind (second allowed more) fun last le inner other deep => ?_
    exact .pure fun _ leToo => .nested (twin.mono fun _ _ => Pairs.mono (by omega))
      (deep.mono fun _ _ => Pairs.mono leToo) form
  | traced name _ builds =>
    intro top
    rw [build]
    exact buildsTwins_of_body (builds allowed) (.traced name)
  | reference mentioned =>
    intro top
    rw [build]
    exact .bind (ruleCell_mirrors (allowed _ mentioned)) fun _ _ _ _ paired =>
      .pure fun _ le => .rule (paired.mono le)
  | saved name =>
    intro top workspace copy abreast le
    rw [build, Edit.outcome_bind, Edit.outcome_bind, Edit.outcome_get, Edit.outcome_get]
    dsimp only
    rw [abreast.kept_eq, abreast.copy_kept_eq]
    cases found : ground.kept.lookup name with
    | none => exact ⟨abreast, Nat.le_refl _, .error _⟩
    | some parser =>
      -- a parser that is kept refers to old rules only, and these are their own twins
      have contained := ground.contained _ (mem_of_lookup_eq_some found)
      exact ⟨abreast, Nat.le_refl _, .ok (contained.mono fun _ _ both => .inl both)⟩
  | rule name _ builds =>
    intro top
    rw [build]
    refine .bind (builds allowed top) fun more _ parser copy twin => ?_
    refine .bind (addCell_mirrors name .undefined) fun last le cell other new => ?_
    refine .bind (bindCell_mirrors new (twin.mono fun _ _ => Pairs.mono le)) fun _ _ _ _ _ => ?_
    exact .pure fun _ le => .rule (.inr (new.mono (by omega)))
  | deferred name inside _ =>
    intro top
    rw [build]
    exact .bind (addCell_mirrors name (.pending inside)) fun _ _ _ _ new =>
      .pure fun _ le => .rule (.inr (new.mono le))
  | within _ name builds =>
    intro top
    rw [build]
    -- inside, all names belong to the new grammar, whatever the one around has
    refine inNewGrammar_mirrors ?_
    refine .bind (buildRules_mirrors (fun rule member => builds rule member fun _ _ => trivial) top)
      fun more _ _ _ _ => ?_
    exact .bind (ruleCell_mirrors_own name) fun _ _ _ _ new =>
      .pure fun _ le => .rule (.inr (new.mono le))
  | take count =>
    intro top
    rw [build]
    exact .pure fun _ _ => .foreign rfl
  | failAt payload offset =>
    intro top
    rw [build]
    exact .pure fun _ _ => .foreign rfl
  | constant value =>
    intro top
    rw [build]
    exact .pure fun _ _ => .constant value
  | broken _ fault builds =>
    intro top
    rw [build]
    exact .bind (buildAll_mirrors (fun part member => builds part member allowed) top)
      fun _ _ _ _ _ => .throw _ _

end Description

end Peg
