import Peg.Proofs.GrammarFrame

/-! # What a rejected definition leaves of a grammar

A definition looks the rule up, adds it if the grammar does not have its name, and then checks that
the rule is not bound and that the body is a parser. A definition that is rejected binds nothing and
does not touch the start rule. But the name of a rule that was added stays, and nothing is bound to
it, so that the grammar does not pass its check from then on.

* **`Workspace.rejects_of_defineBy`**: all that a definition can do when it is rejected.
* **`rejected_definition_keeps_rules`**: it keeps the start rule and the defined rules; it changes
  nothing if the grammar has the name, and otherwise every parse after it is refused. -/

namespace Peg

/-- How a definition is written. -/
inductive Spelling where
  /-- As a call. -/
  | call
  /-- As an assignment to the item of a name. -/
  | item
  /-- As an assignment to an attribute. -/
  | dot

namespace Workspace

/-- Defines a rule of the current grammar. -/
def defineBy : Spelling → String → Parser → Edit Unit
  | .call, name, body | .item, name, body => do let _ ← define name body
  | .dot, name, body => setAttribute name body

/-- How a definition can be rejected, and the workspace after it. -/
inductive Rejects (workspace : Workspace) (name : String) (body : Parser) :
    GrammarFault → Workspace → Prop
  /-- The grammar has the name: the rule is bound already, or the body is no parser. -/
  | known {fault : GrammarFault} (mentioned : name ∈ workspace.mentionedNames) :
      Rejects workspace name body fault workspace
  /-- The name is that of a member. -/
  | member : Rejects workspace name body (.shadowsMember name) workspace
  /-- The grammar does not have the name, and the body is no parser. The name stays. -/
  | intruded {value : Value} (unknown : workspace.grammar.rules.lookup name = none)
      (constant : body.constant? = some value) :
      Rejects workspace name body (.boundToNonParser name value) (workspace.mention name)

section Rejection

variable {workspace after : Workspace} {name : String} {body : Parser} {fault : GrammarFault}

/-- **A rule that could not be bound is as it was.** It was bound already, or the body is no
parser. -/
theorem eq_of_bind_rejection {cell : Nat}
    (rejected : (bind cell body).outcome workspace = (.error (.grammar fault), after)) :
    after = workspace ∧ ((workspace.bindingOf cell).isDefined
      ∨ ∃ value, body.constant? = some value
        ∧ fault = .boundToNonParser (workspace.nameOf cell) value) := by
  rw [outcome_bindCell] at rejected
  split at rejected
  · rename_i defined
    cases rejected
    exact ⟨rfl, .inl defined⟩
  · split at rejected
    · rename_i value constant
      cases rejected
      exact ⟨rfl, .inr ⟨value, constant, rfl⟩⟩
    · cases rejected

/-- A definition looks its rule up and fails, if it does, in binding it. -/
theorem bind_of_define_rejection
    (rejected : (define name body).outcome workspace = (.error (.grammar fault), after)) :
    ∃ cell found, (ruleCell name).outcome workspace = (.ok cell, found)
      ∧ (bind cell body).outcome found = (.error (.grammar fault), after) := by
  obtain unfound | ⟨cell, found, looked, later⟩ := Edit.fault_of_bind rejected
  · rw [outcome_ruleCell] at unfound
    split at unfound <;> cases unfound
  · obtain unbound | ⟨_, _, -, impossible⟩ := Edit.fault_of_bind later
    · exact ⟨cell, found, looked, unbound⟩
    · cases impossible

/-- What a definition that is rejected can do depends on whether the grammar has the name. -/
theorem rejects_of_define
    (rejected : (define name body).outcome workspace = (.error (.grammar fault), after)) :
    workspace.Rejects name body fault after := by
  obtain ⟨cell, found, looked, unbound⟩ := bind_of_define_rejection rejected
  obtain ⟨rfl, reason⟩ := eq_of_bind_rejection unbound
  rw [outcome_ruleCell] at looked
  cases known : workspace.grammar.rules.lookup name with
  | some cell =>
    rw [known] at looked
    cases looked
    exact .known (List.mem_map.2 ⟨_, mem_of_lookup_eq_some known, rfl⟩)
  | none =>
    rw [known] at looked
    cases looked
    obtain defined | ⟨value, constant, rfl⟩ := reason
    · -- the rule has just been added, so that it cannot have been bound
      rw [mention_bindingOf_size] at defined
      cases defined
    · rw [mention_nameOf_size]
      exact .intruded known constant

/-- A private attribute is no rule, and a fault in setting it is none of the grammar. -/
theorem setPrivate_ne_grammar :
    (setPrivate name body).outcome workspace ≠ (.error (.grammar fault), after) := by
  rw [setPrivate, Edit.outcome_bind, Edit.outcome_get]
  dsimp only
  split <;> exact fun impossible => nomatch impossible

/-- **All that a definition can do when it is rejected**, however it is written. -/
theorem rejects_of_defineBy {spelling : Spelling}
    (rejected : (defineBy spelling name body).outcome workspace
      = (.error (.grammar fault), after)) : workspace.Rejects name body fault after := by
  have called (rejected : (do let _ ← define name body : Edit Unit).outcome workspace
      = (.error (.grammar fault), after)) : workspace.Rejects name body fault after := by
    obtain unbound | ⟨_, _, -, impossible⟩ := Edit.fault_of_bind rejected
    · exact rejects_of_define unbound
    · cases impossible
  cases spelling with
  | call => exact called rejected
  | item => exact called rejected
  | dot =>
    rw [defineBy, setAttribute] at rejected
    split at rejected
    · exact absurd rejected setPrivate_ne_grammar
    · split at rejected
      · cases rejected
        exact .member
      · exact called rejected

/-- Only an assignment to a private attribute can reach into the grammar. -/
theorem setsInside_of_shown (shown : isPrivate name = false) : setsInside name body = false := by
  unfold setsInside
  split
  · cases shown
  · rfl
  · rfl
  · cases shown
  · rfl

/-- A definition that is rejected is a step of a session. -/
theorem reachable_of_rejection (reachable : workspace.Reachable) {spelling : Spelling}
    (rejected : (defineBy spelling name body).outcome workspace
      = (.error (.grammar fault), after)) : after.Reachable := by
  have called (rejected : (do let _ ← define name body : Edit Unit).outcome workspace
      = (.error (.grammar fault), after)) : after.Reachable := by
    have step := Step.define name body workspace
    obtain unbound | ⟨_, _, -, impossible⟩ := Edit.fault_of_bind rejected
    · rw [unbound] at step
      exact reachable.tail step
    · cases impossible
  cases spelling with
  | call => exact called rejected
  | item => exact called rejected
  | dot =>
    rw [defineBy] at rejected
    cases shown : isPrivate name with
    | true =>
      rw [setAttribute, if_pos shown] at rejected
      exact absurd rejected setPrivate_ne_grammar
    | false =>
      have step := Step.setAttribute name body (setsInside_of_shown shown) workspace
      rw [rejected] at step
      exact reachable.tail step

/-- A rejected definition makes the workspace grow at most. -/
theorem Rejects.grows (rejects : workspace.Rejects name body fault after) :
    workspace.Grows Eq after := by
  cases rejects with
  | known => exact .refl workspace
  | member => exact .refl workspace
  | intruded unknown => exact mention_grows unknown

end Rejection

end Workspace

/-- **A definition that is rejected leaves the start rule and the defined rules as they were**, in
whatever state the grammar is and however the definition is written. If the grammar has the name, or
if the name is that of a member, nothing at all is changed. Otherwise the body is no parser, and the
one thing that is changed is that the grammar has the name, for a rule that is undefined: it does
not pass its check, and every parse is refused. -/
theorem rejected_definition_keeps_rules {workspace after : Workspace}
    (reachable : workspace.Reachable) {spelling : Spelling} {name : String} {body : Parser}
    {fault : GrammarFault}
    (rejected : (Workspace.defineBy spelling name body).outcome workspace
      = (.error (.grammar fault), after)) :
    (after.Reachable
      ∧ after.grammar.start = workspace.grammar.start
      ∧ after.definedNames = workspace.definedNames
      ∧ ∀ cell < workspace.cells.size, after.cells[cell]? = workspace.cells[cell]?)
    ∧ (name ∈ workspace.mentionedNames ∨ fault = .shadowsMember name → after = workspace)
    ∧ (name ∉ workspace.mentionedNames → fault ≠ .shadowsMember name →
      (∃ value, body.constant? = some value ∧ fault = .boundToNonParser name value)
      ∧ after = workspace.mention name
      ∧ after.mentionedNames = workspace.mentionedNames ++ [name]
      ∧ name ∈ after.undefinedNames
      ∧ after.check = .error (.grammar (.undefinedRules after.undefinedNames))
      ∧ ∀ fuel start input tracer, parseFrom fuel after start input tracer
        = some ⟨.error (.grammar (.undefinedRules after.undefinedNames)), [], after⟩) := by
  have rejects := Workspace.rejects_of_defineBy rejected
  have grows := rejects.grows
  have steps := Workspace.reachable_of_rejection reachable rejected
  refine ⟨⟨steps, grows.lasts.start_eq, grows.lasts.definedNames_eq reachable.hasRules,
    fun cell bound => grows.cells_eq bound⟩, ?_, ?_⟩
  · intro reason
    cases rejects with
    | known => rfl
    | member => rfl
    | intruded unknown =>
      obtain mentioned | shadows := reason
      · exact absurd mentioned (Workspace.not_mem_mentionedNames unknown)
      · cases shadows
  · intro new noMember
    cases rejects with
    | known mentioned => exact absurd mentioned new
    | member => exact absurd rfl noMember
    | @intruded value unknown constant =>
      -- the name was mentioned for the sake of the definition, and it is not taken back
      have undefined : name ∈ (workspace.mention name).undefinedNames :=
        @Workspace.mem_undefinedNames _ (name, workspace.cells.size)
          (List.mem_append_right _ List.mem_cons_self)
          (by rw [Workspace.mention_bindingOf_size]; rfl)
      exact ⟨⟨value, constant, rfl⟩, rfl, List.map_append, undefined,
        Workspace.check_of_mem_undefinedNames undefined,
        parseFrom_of_mem_undefinedNames undefined⟩

/-- A number cannot be a rule, and the attempt makes a grammar refuse the text that it parsed
before; a second definition of a rule changes nothing. -/
theorem rejected_number_spoils_grammar :
    (∃ after, (Workspace.defineBy .call "b" (.constant (.int 42))).outcome letterWorkspace
        = (.error (.grammar (.boundToNonParser "b" (.int 42))), after)
      ∧ letterWorkspace.undefinedNames = [] ∧ "b" ∈ after.undefinedNames
      ∧ (parseFrom 9 letterWorkspace none (.ofString "a") none).map (·.answer)
        = some (.ok ⟨.ofString "a", .ofString "", 1⟩)
      ∧ (parseFrom 9 after none (.ofString "a") none).map (·.answer)
        = some (.error (.grammar (.undefinedRules after.undefinedNames))))
    ∧ (Workspace.defineBy .dot "a" (.terminal (.literal (.ofString "b")))).outcome letterWorkspace
      = (.error (.grammar (.alreadyDefined "a")), letterWorkspace) := by
  constructor
  · have rejected : (Workspace.defineBy .call "b" (.constant (.int 42))).outcome letterWorkspace
        = (.error (.grammar (.boundToNonParser "b" (.int 42))), letterWorkspace.mention "b") := rfl
    have new : "b" ∉ letterWorkspace.mentionedNames := by decide
    obtain ⟨-, -, intruded⟩ := rejected_definition_keeps_rules letterWorkspace_reachable rejected
    obtain ⟨-, -, -, undefined, -, refused⟩ := intruded new fun impossible => nomatch impossible
    have alone : (parseFrom 9 letterWorkspace none (.ofString "a") none).map (·.answer)
        = some (.ok ⟨.ofString "a", .ofString "", 1⟩) := by
      set_option maxRecDepth 4000 in cbv
    have before : letterWorkspace.undefinedNames = [] := List.mergeSort_nil
    exact ⟨_, rejected, before, undefined, alone, by rw [refused]; rfl⟩
  · obtain ⟨after, rejected⟩ : ∃ after, (Workspace.defineBy .dot "a"
        (.terminal (.literal (.ofString "b")))).outcome letterWorkspace
          = (.error (.grammar (.alreadyDefined "a")), after) := ⟨_, rfl⟩
    obtain ⟨-, unchanged, -⟩ := rejected_definition_keeps_rules letterWorkspace_reachable rejected
    rw [rejected, unchanged (.inl (by decide))]

end Peg
