import Peg.Proofs.History

/-! # Rules are bound once

Over a whole history of a grammar each name stands for one rule from its first mention on, and each
rule is bound at most once: from undefined or pending it becomes resolved, and so it stays. What
ends in a fault binds nothing, with one exception. A run may build a rule, go on and raise a fault
afterwards; the rule has been built all the same.

* **`bindings_are_single_assignment`**: what holds between any two points of a history.
* **`raising_invocation_resolves`**: an invocation that raises a fault and leaves its rule resolved,
  where it was pending. -/

namespace Peg

namespace Workspace

/-- How often the rule in a cell was built. -/
def buildsOf (workspace : Workspace) (cell : Nat) : Nat :=
  match workspace.cells[cell]? with
  | some content => content.builds
  | none => 0

/-- The number of builds is read from the cell, where there is one. -/
theorem buildsOf_of_getElem? {workspace : Workspace} {cell : Nat} {content : RuleCell}
    (found : workspace.cells[cell]? = some content) :
    workspace.buildsOf cell = content.builds := by
  rw [buildsOf, found]

/-- The name is read from the cell, where there is one. -/
theorem nameOf_of_getElem? {workspace : Workspace} {cell : Nat} {content : RuleCell}
    (found : workspace.cells[cell]? = some content) : workspace.nameOf cell = content.name := by
  rw [nameOf, found]

/-! ## From one point to a later one -/

section Advances

variable {before after : Workspace} {cell : Nat}

/-- A cell keeps its name. -/
theorem Advances.nameOf_eq (advances : before.Advances after)
    (bound : cell < before.cells.size) : after.nameOf cell = before.nameOf cell := by
  have found := Array.getElem?_eq_getElem bound
  obtain ⟨later, foundLater, moves⟩ := advances.cells cell _ found
  rw [nameOf_of_getElem? found, nameOf_of_getElem? foundLater, moves.name_eq]

/-- A rule that is resolved stays bound to its body. -/
theorem Advances.bindingOf_eq (advances : before.Advances after) {body : Parser}
    (resolved : before.bindingOf cell = .resolved body) :
    after.bindingOf cell = .resolved body := by
  have moves := advances.bindingOf_moves (lt_of_isDefined (by rw [resolved]; rfl))
  rw [resolved] at moves
  exact moves.eq_resolved

/-- A rule that is resolved is not built again. -/
theorem Advances.buildsOf_eq (advances : before.Advances after) {body : Parser}
    (resolved : before.bindingOf cell = .resolved body) :
    after.buildsOf cell = before.buildsOf cell := by
  obtain ⟨content, found⟩ := exists_cell_of_isDefined
    (show (before.bindingOf cell).isDefined by rw [resolved]; rfl)
  obtain ⟨later, foundLater, moves⟩ := advances.cells cell content found
  rw [buildsOf_of_getElem? found, buildsOf_of_getElem? foundLater]
  refine moves.builds_eq ?_
  rw [← bindingOf_of_getElem? found, resolved]
  rfl

end Advances

/-! ## Resolving -/

/-- A new body does not count as a build. -/
@[simp] theorem withBody_buildsOf (workspace : Workspace) (cell : Nat) (body : Parser)
    (other : Nat) : (workspace.withBody cell body).buildsOf other = workspace.buildsOf other := by
  simp only [buildsOf, withBody, Array.getElem?_modify]
  by_cases here : cell = other
  · cases workspace.cells[other]? <;> simp only [if_pos here] <;> rfl
  · rw [if_neg here]

/-- A rule that is pending is built each time it is resolved. -/
theorem buildsOf_of_pending {workspace : Workspace} {cell : Nat} {description : Description}
    (pending : workspace.bindingOf cell = .pending description) :
    ((resolve cell).outcome workspace).2.buildsOf cell = workspace.buildsOf cell + 1 := by
  have builds (description : Description) :
      (description.build.outcome (workspace.counted cell)).2.buildsOf cell
        = workspace.buildsOf cell + 1 := by
    obtain ⟨content, found⟩ := exists_cell_of_isDefined
      (show (workspace.bindingOf cell).isDefined by rw [pending]; rfl)
    have counts : (workspace.counted cell).cells[cell]?
        = some { content with builds := content.builds + 1 } := by
      rw [counted, Array.getElem?_modify, if_pos rfl, found]
      rfl
    have built := (description.build_grows (workspace.counted cell)).cells_eq
      (Array.getElem?_eq_some_iff.1 counts).1
    rw [buildsOf_of_getElem? (built.trans counts), buildsOf_of_getElem? found]
  cases found : (resolve cell).outcome workspace with
  | mk answer later =>
  cases resolves found with
  | known resolved => cases resolved.symm.trans pending
  | undefined undefined => cases undefined.symm.trans pending
  | unbuilt => exact builds _
  | built => rw [withBody_buildsOf, builds]

/-- **A fault in resolving a rule binds nothing.** -/
theorem bindingOf_of_unresolved {workspace later : Workspace} {cell other : Nat} {fault : Fault}
    (unresolved : (resolve cell).outcome workspace = (.error fault, later))
    (bound : other < workspace.cells.size) :
    later.bindingOf other = workspace.bindingOf other := by
  cases resolves unresolved with
  | undefined => rfl
  | @unbuilt description => exact bindingOf_build_counted bound cell description

end Workspace

/-! ## Calls -/

/-- A rule that cannot be resolved raises a fault at once. -/
theorem call_of_unresolved {state : State} {cell : Nat} {fault : Fault} {later : Workspace}
    (unresolved : (Workspace.resolve cell).outcome state.workspace = (.error fault, later))
    (input : Value) (stack : List Frame) :
    (Parser.rule cell).call input stack state
      = .raised fault { state with workspace := later } := by
  rw [Edit.outcome] at unresolved
  simp only [Parser.call, Parser.label?, Parser.start, callRule, unresolved]

/-! ## Faults -/

/-- Growth that leaves the rules alone binds nothing, whatever fault it ends in. -/
theorem bindingOf_of_grows {edit : Edit α} (grows : edit.Grows) {before after : Workspace}
    {fault : Fault}
    (raised : some (withoutValue (edit.outcome before)) = some (.error fault, after))
    {cell : Nat} (bound : cell < before.cells.size) :
    after.bindingOf cell = before.bindingOf cell := by
  have grown := grows before
  rw [eq_of_withoutValue (Option.some.inj raised)] at grown
  exact grown.bindingOf_eq bound

/-- **What ends in a fault and runs no parser binds nothing.** -/
theorem Deed.bindingOf_of_fault {deed : Deed} {before after : Workspace} {fault : Fault}
    (raised : deed.outcome? before = some (.error fault, after)) (edits : deed.isRun = false)
    {cell : Nat} (bound : cell < before.cells.size) :
    after.bindingOf cell = before.bindingOf cell := by
  cases deed with
  | mention name => exact bindingOf_of_grows (Workspace.ruleCell_grows name) raised bound
  | read name => exact bindingOf_of_grows (Workspace.getAttribute_grows name) raised bound
  | define spelling name body =>
    have tries := before.tries_of_defineBy spelling name body
    rw [Option.some.inj raised] at tries
    cases tries with
    | unruled => rfl
    | member => rfl
    -- the name is mentioned before the parser is refused, and that binds no other cell
    | refused => exact (before.mentioning_grows name).bindingOf_eq bound
  | bind cell body =>
    have binds := Option.some.inj raised
    rw [Workspace.outcome_bindCell] at binds
    split at binds
    · cases binds
      rfl
    · split at binds <;> cases binds
      rfl
  | resolve cell =>
    exact Workspace.bindingOf_of_unresolved (eq_of_withoutValue (Option.some.inj raised)) bound
  | make name binding => cases raised
  | build description => exact bindingOf_of_grows description.build_grows raised bound
  | keep name body => cases raised
  | run => cases edits
  | parse => cases edits

/-! ## Two points of a history -/

/-- What single assignment means for the rules of a workspace `before` and the workspace `after`
that came of it, with the definitions that were accepted up to then. -/
structure AssignedOnce (before after : Workspace) (log : List Definition) : Prop where
  /-- A name that was mentioned stands for the same rule, and that rule has the name. -/
  one_rule : ∀ name cell, before.grammar.rules.lookup name = some cell →
    (Workspace.ruleCell name).outcome after = (.ok cell, after) ∧ after.nameOf cell = name
  /-- A definition by its name binds the rule that references to the name refer to. -/
  defines : ∀ name cell spelling body later, before.grammar.rules.lookup name = some cell →
    spelling.hides name = false →
    (Workspace.defineBy spelling name body).outcome after = (.ok (), later) →
    later.bindingOf cell = .resolved body
  /-- A rule stays as it is, or from undefined or pending it becomes resolved. -/
  moves : ∀ cell < before.cells.size, (before.bindingOf cell).Moves (after.bindingOf cell)
  /-- A rule that is resolved keeps its parser, which is called under its name. -/
  calls : ∀ cell body, before.bindingOf cell = .resolved body →
    after.bindingOf cell = .resolved body
    ∧ ∀ input stack state, state.workspace = after →
      (Parser.rule cell).call input stack state
        = (Parser.traced (before.nameOf cell) body).call input stack state
  /-- A rule that is pending or resolved cannot be defined through a reference. -/
  bound : ∀ cell body, (before.bindingOf cell).isDefined →
    (Workspace.bind cell body).outcome after
      = (.error (.grammar (.alreadyDefined (before.nameOf cell))), after)
  /-- Nor can it be defined by its name, however this is written. -/
  taken : ∀ name cell spelling body, before.grammar.rules.lookup name = some cell →
    (before.bindingOf cell).isDefined → spelling.hides name = false →
    ∃ fault, (Workspace.defineBy spelling name body).outcome after
      = (.error (.grammar fault), after)
  /-- What ends in a fault and runs no parser leaves every rule as it was. -/
  edit_fault : ∀ (deed : Deed) fault later, deed.isRun = false →
    deed.outcome? after = some (.error fault, later) →
    ∀ cell < after.cells.size, later.bindingOf cell = after.bindingOf cell
  /-- A run that ends in a fault leaves every rule as it was, or it was pending and has been
  built. -/
  run_fault : ∀ (deed : Deed) fault later, deed.isRun →
    deed.outcome? after = some (.error fault, later) →
    ∀ cell < after.cells.size, (after.bindingOf cell).Lasts (later.bindingOf cell)
  /-- A rule that is pending is built each time it is resolved. It is bound to what is built; if a
  fault comes of it, it stays pending, and a call of it raises that fault. -/
  pending : ∀ cell description, after.bindingOf cell = .pending description →
    ((Workspace.resolve cell).outcome after).2.buildsOf cell = after.buildsOf cell + 1
    ∧ (∀ body later, (Workspace.resolve cell).outcome after = (.ok body, later) →
      later.bindingOf cell = .resolved body)
    ∧ ∀ fault later, (Workspace.resolve cell).outcome after = (.error fault, later) →
      later.bindingOf cell = .pending description
      ∧ ∀ input stack state, state.workspace = after →
        (Parser.rule cell).call input stack state
          = .raised fault { state with workspace := later }
  /-- A rule that is resolved is not built again. -/
  resolved : ∀ cell body, before.bindingOf cell = .resolved body →
    (Workspace.resolve cell).outcome after = (.ok body, after)
    ∧ after.buildsOf cell = before.buildsOf cell
  /-- The names of the grammar that are defined are those that were bound. -/
  names : ∀ name, name ∈ after.definedNames ↔ ∃ definition ∈ log, definition.name = name

/-- A definition by a name binds the rule of the name. -/
theorem bindingOf_of_defineBy {workspace later : Workspace} {name : String} {cell : Nat}
    {spelling : Spelling} {body : Parser} (place : cell < workspace.cells.size)
    (known : workspace.grammar.rules.lookup name = some cell)
    (shown : spelling.hides name = false)
    (accepted : (Workspace.defineBy spelling name body).outcome workspace = (.ok (), later)) :
    later.bindingOf cell = .resolved body := by
  have tries := workspace.tries_of_defineBy spelling name body
  rw [accepted] at tries
  cases tries with
  | unruled hidden =>
    rw [shown] at hidden
    cases hidden
  | accepted =>
    rw [Workspace.cellOf_of_lookup known, Workspace.mentioning_of_lookup known]
    exact (Workspace.withBody_bindingOf place body cell).trans (if_pos rfl)

/-- A definition of a rule that is bound is rejected and changes nothing. -/
theorem exists_fault_of_defineBy {workspace : Workspace} {name : String} {cell : Nat}
    (known : workspace.grammar.rules.lookup name = some cell)
    (bound : (workspace.bindingOf cell).isDefined) {spelling : Spelling}
    (shown : spelling.hides name = false) (body : Parser) :
    ∃ fault, (Workspace.defineBy spelling name body).outcome workspace
      = (.error (.grammar fault), workspace) := by
  have tries := workspace.tries_of_defineBy spelling name body
  cases outcome : (Workspace.defineBy spelling name body).outcome workspace with
  | mk answer later =>
  rw [outcome] at tries
  cases tries with
  | unruled hidden =>
    rw [shown] at hidden
    cases hidden
  | member => exact ⟨_, rfl⟩
  | @refused fault => exact ⟨fault, by rw [known]⟩
  | accepted _ free =>
    rw [Workspace.mentioning_of_lookup known, Workspace.cellOf_of_lookup known, bound] at free
    cases free

/-- **Bindings are single-assignment over whole histories.** From its first mention on a name stands
for one rule, so that a reference that was taken before the definition behaves as the definition;
each rule is bound at most once, and what is tried later is rejected; what ends in a fault leaves
the rules as they were, and a rule that could not be built is built again the next time, except that
a run which raises a fault after a rule has been built leaves that rule resolved; and the defined
names are those that were bound. -/
theorem bindings_are_single_assignment {base before after : Workspace} {start : Option String}
    {early late : List Definition}
    (past : History (fun _ _ => True) (base.afresh start) early before)
    (future : History (fun _ _ => True) before late after) :
    AssignedOnce before after (early ++ late) := by
  have advances := future.advances
  have houses := past.houses
  have housed {name : String} {cell : Nat}
      (known : before.grammar.rules.lookup name = some cell) : before.Houses (name, cell) :=
    houses _ (Workspace.mem_of_lookup_eq_some known)
  exact {
    one_rule := fun name cell known => by
      have entry := (housed known).advances advances
      have same := advances.lookup_eq known
      rw [Workspace.ruleCell_eq, Workspace.cellOf_of_lookup same,
        Workspace.mentioning_of_lookup same]
      exact ⟨rfl, entry.nameOf_eq⟩
    defines := fun name cell spelling body later known shown accepted =>
      bindingOf_of_defineBy ((housed known).advances advances).lt (advances.lookup_eq known) shown
        accepted
    moves := fun cell place => advances.bindingOf_moves place
    calls := fun cell body resolved => by
      have place : cell < before.cells.size := Workspace.lt_of_isDefined (by rw [resolved]; rfl)
      refine ⟨advances.bindingOf_eq resolved, ?_⟩
      rintro input stack state rfl
      rw [call_of_resolved (advances.bindingOf_eq resolved), advances.nameOf_eq place]
    bound := fun cell body bound => by
      have place := Workspace.lt_of_isDefined bound
      rw [Workspace.outcome_bindCell, if_pos ((advances.bindingOf_moves place).isDefined bound),
        advances.nameOf_eq place]
    taken := fun name cell spelling body known bound shown =>
      exists_fault_of_defineBy (advances.lookup_eq known)
        ((advances.bindingOf_moves (Workspace.lt_of_isDefined bound)).isDefined bound) shown body
    edit_fault := fun deed fault later edits raised cell place =>
      Deed.bindingOf_of_fault raised edits place
    run_fault := fun deed fault later runs raised cell place =>
      (Deed.grows_of_run raised runs).bindingOf_lasts place
    pending := fun cell description pending => by
      refine ⟨Workspace.buildsOf_of_pending pending,
        fun body later resolved => Workspace.bindingOf_of_resolve resolved,
        fun fault later unresolved => ⟨?_, ?_⟩⟩
      · -- a body that cannot be built leaves the rule pending, and the next call tries again
        have place : cell < after.cells.size := Workspace.lt_of_isDefined (by rw [pending]; rfl)
        rw [Workspace.bindingOf_of_unresolved unresolved place, pending]
      · rintro input stack state rfl
        exact call_of_unresolved unresolved input stack
    resolved := fun cell body resolved =>
      ⟨Workspace.resolve_of_resolved (advances.bindingOf_eq resolved),
        advances.buildsOf_eq resolved⟩
    names := (past.append future).mem_definedNames_iff }

/-- A grammar that mentions `b`. -/
def forwardWorkspace : Workspace where
  cells := #[⟨"b", .undefined, 0⟩]
  grammar := { rules := [("b", 0)] }

/-- A grammar with `a`, which refers to `b`, and with `b`, which is a letter. -/
def forwardLetterWorkspace : Workspace where
  cells := #[⟨"b", .resolved (.terminal (.literal (.ofString "b"))), 0⟩,
    ⟨"a", .resolved (.rule 0), 0⟩]
  grammar := { rules := [("b", 0), ("a", 1)], start := some "a" }

/-- The name `b` is mentioned, `a` is defined by a reference to it, and `b` is defined through that
reference at last. -/
theorem forward_reference_assigned_once :
    History (fun _ _ => True) (({} : Workspace).afresh none) [] forwardWorkspace
    ∧ History (fun _ _ => True) forwardWorkspace [⟨.grammar, "a"⟩, ⟨.reference, "b"⟩]
        forwardLetterWorkspace
    ∧ AssignedOnce forwardWorkspace forwardLetterWorkspace
        [⟨.grammar, "a"⟩, ⟨.reference, "b"⟩] := by
  have mentioned : (Deed.mention "b").outcome? (({} : Workspace).afresh none)
      = some (.ok (), forwardWorkspace) := rfl
  have defined : (Deed.define .dot "a" (.rule 0)).outcome? forwardWorkspace
      = some (.ok (), ⟨#[⟨"b", .undefined, 0⟩, ⟨"a", .resolved (.rule 0), 0⟩],
        { rules := [("b", 0), ("a", 1)], start := some "a" }, [], #[]⟩) := rfl
  have bound : (Deed.bind 0 (.terminal (.literal (.ofString "b")))).outcome?
      ⟨#[⟨"b", .undefined, 0⟩, ⟨"a", .resolved (.rule 0), 0⟩],
        { rules := [("b", 0), ("a", 1)], start := some "a" }, [], #[]⟩
      = some (.ok (), forwardLetterWorkspace) := rfl
  have past := (History.begin.next trivial rfl mentioned :
    History (fun _ _ => True) (({} : Workspace).afresh none) [] forwardWorkspace)
  have future := ((History.begin.next trivial rfl defined).next trivial rfl bound :
    History (fun _ _ => True) forwardWorkspace [⟨.grammar, "a"⟩, ⟨.reference, "b"⟩]
      forwardLetterWorkspace)
  exact ⟨past, future, bindings_are_single_assignment past future⟩

/-- An element on which a fault is raised. -/
def faultyElement : Terminal := .satisfy (fun _ => .error .predicate) (.ofString "x")

/-- A rule that is pending is invoked, it is built, and then its body raises a fault: the rule is
resolved. -/
theorem raising_invocation_resolves :
    ∃ before after, History (fun _ _ => True) (({} : Workspace).afresh none) [] before
      ∧ (Deed.run .diagnosed 9 (.rule 0) (.ofString "a") none).outcome? before
        = some (.error .predicate, after)
      ∧ before.bindingOf 0 = .pending (.terminal faultyElement)
      ∧ after.bindingOf 0 = .resolved (.terminal faultyElement) := by
  have made : (Deed.make "r" (.pending (.terminal faultyElement))).outcome?
      (({} : Workspace).afresh none)
        = some (.ok (), ⟨#[⟨"r", .pending (.terminal faultyElement), 0⟩], {}, [], #[]⟩) := rfl
  exact ⟨_, _, History.begin.next trivial rfl made, rfl, rfl, rfl⟩

end Peg
