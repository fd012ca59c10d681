import Peg.Proofs.Calls
import Peg.Proofs.History

/-! # Grammars that pass their check

The check of a grammar looks at its names only: each of them must be bound. A run meets rules
through the bodies of other rules, and some of these were written down before the rule was defined.
If bodies refer to rules by the names of the grammar only, the two come to the same: every rule that
a body refers to has an entry in the grammar, whatever the order of references and definitions was,
and so has every rule that a run can ever call.

* **`History.refersToOwn`**: the invariant of the table, kept by every deed.
* **`step_within`**, **`later_within`**: the invariant of a run, kept by every step.
* **`checked_grammar_has_all_rules`**: a run from a rule of a grammar that passes its check finds
  every rule that it calls resolved. -/

namespace Peg

/-! ## References -/

/-- Every rule that a parser refers to is one of the given ones. -/
inductive Parser.Within (owned : Nat → Prop) : Parser → Prop
  | terminal (leaf : Terminal) : Within owned (.terminal leaf)
  | foreign (leaf : Foreign) : Within owned (.foreign leaf)
  | sequence {first : Parser} {others : List Parser} (head : Within owned first)
      (tail : ∀ parser ∈ others, Within owned parser) : Within owned (.sequence first others)
  | choice {first : Parser} {others : List Parser} (head : Within owned first)
      (tail : ∀ parser ∈ others, Within owned parser) : Within owned (.choice first others)
  | star {body : Parser} (inside : Within owned body) : Within owned (.star body)
  | plus {body : Parser} (inside : Within owned body) : Within owned (.plus body)
  | optional {body : Parser} (inside : Within owned body) (absent : Value) :
      Within owned (.optional body absent)
  | ahead {body : Parser} (inside : Within owned body) : Within owned (.ahead body)
  | notAhead {body : Parser} (inside : Within owned body) : Within owned (.notAhead body)
  | transform {body : Parser} (inside : Within owned body) (name : String)
      (function : Value → Except Fault Value) : Within owned (.transform body name function)
  | nested {body inner : Parser} (inside : Within owned body) (second : Within owned inner)
      (form : NestedForm) : Within owned (.nested body inner form)
  | traced (name : String) {body : Parser} (inside : Within owned body) :
      Within owned (.traced name body)
  | rule {cell : Nat} (member : owned cell) : Within owned (.rule cell)
  | constant (value : Value) : Within owned (.constant value)

/-- A parser within some rules is within more of them. -/
theorem Parser.Within.mono {owned more : Nat → Prop} (weaker : ∀ cell, owned cell → more cell)
    {parser : Parser} (within : parser.Within owned) : parser.Within more := by
  induction within with
  | terminal leaf => exact .terminal leaf
  | foreign leaf => exact .foreign leaf
  | sequence _ _ head tail => exact .sequence head tail
  | choice _ _ head tail => exact .choice head tail
  | star _ inside => exact .star inside
  | plus _ inside => exact .plus inside
  | optional _ absent inside => exact .optional inside absent
  | ahead _ inside => exact .ahead inside
  | notAhead _ inside => exact .notAhead inside
  | transform _ name function inside => exact .transform inside name function
  | nested _ _ form inside second => exact .nested inside second form
  | traced name _ inside => exact .traced name inside
  | rule member => exact .rule (weaker _ member)
  | constant value => exact .constant value

namespace Workspace

/-- The rule in a cell has an entry in the grammar. -/
def Owns (workspace : Workspace) (cell : Nat) : Prop :=
  ∃ name, (name, cell) ∈ workspace.grammar.rules

/-- The bodies of the rules of the grammar refer to rules of the grammar only. -/
def RefersToOwn (workspace : Workspace) : Prop :=
  ∀ cell, workspace.Owns cell → ∀ body, workspace.bindingOf cell = .resolved body →
    body.Within workspace.Owns

end Workspace

/-- What a rule of the grammar is bound to refers to rules by the names of the grammar only. -/
def Deed.RefersByName (workspace : Workspace) : Deed → Prop
  | .define _ _ body => body.Within workspace.Owns
  | .bind cell body => workspace.Owns cell → body.Within workspace.Owns
  | _ => True

/-! ## The table -/

section Table

variable {before after : Workspace}

/-- A rule of the grammar remains one. -/
theorem Workspace.Advances.owns (advances : before.Advances after) {cell : Nat}
    (owned : before.Owns cell) : after.Owns cell := by
  obtain ⟨name, member⟩ := owned
  obtain ⟨added, same, -⟩ := advances.rules
  exact ⟨name, same ▸ List.mem_append_left _ member⟩

/-- What is not pending lasts as it is. -/
theorem Binding.Lasts.eq_of_settled {first second : Binding} (lasts : first.Lasts second)
    (settled : ∀ description, first ≠ .pending description) : second = first := by
  cases lasts with
  | refl => rfl
  | built description body => exact absurd rfl (settled description)

/-- Growth adds entries for rules without a definition only. -/
theorem Workspace.RefersToOwn.grows (refers : before.RefersToOwn)
    (houses : ∀ rule ∈ before.grammar.rules, before.Houses rule)
    (grown : before.Grows RuleCell.Lasts after) (advances : before.Advances after) :
    after.RefersToOwn := by
  rintro cell ⟨name, member⟩ body resolved
  obtain ⟨added, same, new⟩ := grown.grammar_eq
  rw [same] at member
  rcases List.mem_append.1 member with old | fresh
  · -- the rule is not pending, so that it has been bound before
    obtain ⟨-, content, found, -, settled⟩ := houses _ old
    have lasts := grown.bindingOf_lasts (houses _ old).lt
    have bound := lasts.eq_of_settled (Workspace.bindingOf_of_getElem? found ▸ settled)
    rw [resolved] at bound
    exact (refers cell ⟨name, old⟩ body bound.symm).mono fun _ => advances.owns
  · obtain ⟨-, -, -, builds, found⟩ := new _ fresh
    rw [Workspace.bindingOf_of_getElem? found] at resolved
    cases resolved

/-- Binding a rule keeps to the grammar if its body does. -/
theorem Workspace.RefersToOwn.withBody {workspace : Workspace} (refers : workspace.RefersToOwn)
    {cell : Nat} {body : Parser} (within : workspace.Owns cell → body.Within workspace.Owns)
    (place : workspace.Owns cell → cell < workspace.cells.size) :
    (workspace.withBody cell body).RefersToOwn := by
  intro other owned found resolved
  by_cases here : other = cell
  · subst here
    rw [Workspace.withBody_bindingOf (place owned), if_pos rfl] at resolved
    cases resolved
    exact within owned
  · rw [Workspace.withBody_bindingOf_of_ne here] at resolved
    exact refers other owned found resolved

/-- **Every deed keeps references within the grammar** if it refers by names. -/
theorem Deed.Does.refersToOwn {deed : Deed} {added : List Definition}
    (does : deed.Does before added after) (byName : deed.RefersByName before)
    (houses : ∀ rule ∈ before.grammar.rules, before.Houses rule)
    (refers : before.RefersToOwn) : after.RefersToOwn := by
  cases does with
  | beside cells_eq rules_eq =>
    have owns_eq : after.Owns = before.Owns := by
      funext cell
      rw [Workspace.Owns, rules_eq, Workspace.Owns]
    simpa only [Workspace.RefersToOwn, owns_eq, Workspace.bindingOf, cells_eq] using refers
  | grows advances grown => exact refers.grows houses grown advances
  | @defines spelling name body same =>
    subst same
    have mentions := before.mentioning_grows name
    have housesNow := mentions.advances.houses houses
    refine (refers.grows houses mentions.lasts mentions.advances).withBody
      (fun _ => byName.mono fun _ => mentions.advances.owns) ?_
    rintro ⟨_, member⟩
    exact (housesNow _ member).lt
  | @binds cell body same =>
    subst same
    refine refers.withBody byName ?_
    rintro ⟨_, member⟩
    exact (houses _ member).lt

/-- **References stay within the grammar**, whatever the order of references and definitions. -/
theorem History.refersToOwn {base workspace : Workspace} {start : Option String}
    {log : List Definition}
    (history : History Deed.RefersByName (base.afresh start) log workspace) :
    workspace.RefersToOwn := by
  induction history with
  | begin => exact fun _ ⟨_, impossible⟩ => nomatch impossible
  | next past byName _ done inductionHypothesis =>
    exact (Deed.does done).refersToOwn byName past.houses inductionHypothesis

end Table

/-- All the given rules are resolved, and they refer to each other only. -/
def Workspace.Closed (workspace : Workspace) (owned : Nat → Prop) : Prop :=
  ∀ cell, owned cell → ∃ body, workspace.bindingOf cell = .resolved body ∧ body.Within owned

/-- **A grammar that passes its check is closed**: its rules are bound, and none is pending. -/
theorem Workspace.closed_of_check {workspace : Workspace} (checked : workspace.check = .ok ())
    (houses : ∀ rule ∈ workspace.grammar.rules, workspace.Houses rule)
    (refers : workspace.RefersToOwn) : workspace.Closed workspace.Owns := by
  rintro cell ⟨name, member⟩
  have bound : (workspace.bindingOf cell).isDefined := by
    by_contra unbound
    have listed := @mem_undefinedNames workspace _ member (Bool.eq_false_of_not_eq_true unbound)
    rw [undefinedNames_of_check checked] at listed
    cases listed
  obtain ⟨-, content, found, -, settled⟩ := houses _ member
  have same := bindingOf_of_getElem? found
  cases current : workspace.bindingOf cell with
  | undefined =>
    rw [current] at bound
    cases bound
  | pending description => exact absurd (same.symm.trans current) (settled description)
  | resolved body => exact ⟨body, rfl, refers cell ⟨name, member⟩ body current⟩

/-- What the check complains of are the undefined names, and there are some. -/
theorem Workspace.undefinedNames_of_complaint {workspace : Workspace} {names : List String}
    (complains : workspace.check = .error (.grammar (.undefinedRules names))) :
    names ≠ [] ∧ workspace.undefinedNames = names := by
  rw [check] at complains
  split at complains
  · split at complains
    · split at complains <;> cases complains
    · cases complains
  · rename_i some
    cases complains
    exact ⟨some, rfl⟩

/-- A name is listed exactly if it stands for a cell without a definition. -/
theorem Workspace.mem_undefinedNames_iff {workspace : Workspace} {name : String} :
    name ∈ workspace.undefinedNames
      ↔ ∃ cell, (name, cell) ∈ workspace.grammar.rules
        ∧ workspace.bindingOf cell = .undefined := by
  have undefined {binding : Binding} : (!binding.isDefined) = true ↔ binding = .undefined := by
    cases binding <;> simp [Binding.isDefined]
  rw [undefinedNames, List.mem_mergeSort, List.mem_map]
  constructor
  · rintro ⟨⟨_, cell⟩, member, rfl⟩
    obtain ⟨entry, unbound⟩ := List.mem_filter.1 member
    exact ⟨cell, entry, undefined.1 unbound⟩
  · rintro ⟨cell, entry, unbound⟩
    exact ⟨(name, cell), List.mem_filter.2 ⟨entry, undefined.2 unbound⟩, rfl⟩

/-! ## Faults that come from outside -/

/-- A call raises a fault. -/
def Call.Raises (watcher : Option Tracer) (fault : Fault) : Call → Prop
  | .terminal leaf input => leaf.verdict input = .error fault
  | .foreign leaf earlier input => leaf.respond earlier input = .error fault
  | .function applied value => applied value = .error fault
  | .nested _ _ _ => False
  | .tracer seen event => ∃ tracer, watcher = some tracer ∧ tracer seen event = some fault

/-- What ends a nested parse is no fault of a grammar. -/
theorem NestedForm.value_ne_grammar (form : NestedForm) (context : Option Context)
    (outcome : Outcome) (cause : GrammarFault) :
    form.value context outcome ≠ .error (.grammar cause) := by
  intro raised
  unfold NestedForm.value at raised
  split at raised
  · cases raised
  · cases raised
  · split at raised
    · obtain early | ⟨_, -, late⟩ := of_bind_eq_error raised
      · cases Failure.fault_of_positionIn early
      · cases late
    · cases raised
  · split at raised
    · obtain early | ⟨_, -, late⟩ := of_bind_eq_error raised
      · obtain impossible | impossible := Context.fault_of_failure early <;> cases impossible
      · cases late
    · cases raised

/-- Nor is what an outcome means to the caller. -/
theorem State.conclude_ne_grammar (state : State) (outcome : Outcome) (cause : GrammarFault) :
    state.conclude outcome ≠ .error (.grammar cause) := by
  intro raised
  unfold State.conclude at raised
  split at raised
  · split at raised
    · obtain early | ⟨_, -, late⟩ := of_bind_eq_error raised
      · cases Failure.fault_of_positionIn early
      · cases late
    · cases raised
  · split at raised
    · obtain early | ⟨_, -, late⟩ := of_bind_eq_error raised
      · obtain impossible | impossible := Context.fault_of_failure early <;> cases impossible
      · cases late
    · cases raised

/-- A fault of a grammar in a report to the tracer is one that the tracer raised. -/
theorem State.exists_call_of_emit {state : State} {kind : EventKind} {name : String} {depth : Nat}
    {rest value : Value} {cause : GrammarFault}
    (raised : state.emit kind name depth rest value = .error (.grammar cause)) :
    ∃ call ∈ state.asks kind name depth rest value, call.Raises state.tracer? (.grammar cause) := by
  cases present : state.tracer? with
  | none =>
    rw [State.emit_of_unwatched present] at raised
    cases raised
  | some tracer =>
    obtain ⟨context, current, watched⟩ := Option.bind_eq_some_iff.1 present
    rw [State.emit_of_watched current watched] at raised
    obtain early | ⟨position, placed, late⟩ := of_bind_eq_error raised
    · cases Failure.fault_of_positionIn early
    · simp only [State.asks, present, current, Option.map_some, placed]
      refine ⟨_, List.mem_singleton_self _, tracer, rfl, ?_⟩
      split at late
      · rename_i refused
        cases late
        exact refused
      · cases late

/-! ## One step -/

/-- The frame goes on with parsers that refer to the given rules only. -/
def Frame.Within (owned : Nat → Prop) : Frame → Prop
  | .sequence _ _ others | .choice _ others => ∀ parser ∈ others, parser.Within owned
  | .loop body _ _ | .plus body _ => body.Within owned
  | .nest inner _ => inner.Within owned
  | _ => True

/-- What is called refers to the given rules only. -/
def Control.Within (owned : Nat → Prop) : Control → Prop
  | .call parser _ => parser.Within owned
  | .answer _ => True

/-- A point of a run keeps within the given rules, and the rules are as they were. If a fault of a
grammar has been raised, it was one of the given calls that raised it. -/
def Progress.Within (owned : Nat → Prop) (cells : Array RuleCell) (made : List Call)
    (watcher : Option Tracer) : Progress → Prop
  | .next control stack state =>
    control.Within owned ∧ (∀ frame ∈ stack, frame.Within owned) ∧ state.workspace.cells = cells
  | .finished _ _ => True
  | .raised fault _ =>
    ∀ cause, fault = .grammar cause → ∃ call ∈ made, call.Raises watcher (.grammar cause)

section Step

variable {owned : Nat → Prop} {cells : Array RuleCell} {made : List Call}
  {watcher : Option Tracer} {stack : List Frame} {state : State}

/-- A computation goes on, or a call in it raises a fault. -/
theorem Progress.within_after {result : Except Fault α} {next : α → Progress}
    (raises : ∀ cause, result = .error (.grammar cause) →
      ∃ call ∈ made, call.Raises watcher (.grammar cause))
    (goes : ∀ value, result = .ok value → (next value).Within owned cells made watcher) :
    (Progress.after state result next).Within owned cells made watcher := by
  cases result with
  | error fault =>
    rintro cause rfl
    exact raises cause rfl
  | ok value => exact goes value rfl

/-- Noting a failure is no call. -/
theorem Progress.within_note {payload rest : Value} {next : State → Progress}
    (goes : ∀ noted, noted.workspace = state.workspace →
      (next noted).Within owned cells made watcher) :
    (Progress.after state (state.note payload rest) next).Within owned cells made watcher := by
  refine within_after (fun cause raised => ?_) fun noted done =>
    goes noted (State.note_workspace done)
  cases State.fault_of_note raised

/-- The entry into a labelled parser calls the tracer, if there is one, and goes on when it accepts
the entry. -/
theorem Progress.within_enter {label : String} {input : Value}
    {next : List Frame → State → Progress} (frames : ∀ frame ∈ stack, frame.Within owned)
    (asks : ∀ call ∈ state.asksEntry label input, call ∈ made)
    (goes : state.admits label input → ∀ (stack : List Frame) (entered : State),
      (∀ frame ∈ stack, frame.Within owned) → entered.workspace = state.workspace →
      (next stack entered).Within owned cells made state.tracer?) :
    (state.enter label input stack next).Within owned cells made state.tracer? := by
  cases present : state.tracer? with
  | none =>
    rw [State.enter_of_unwatched present, ← present]
    refine goes ?_ stack state frames rfl
    rw [State.admits, State.emit_of_unwatched present]
    rfl
  | some tracer =>
    obtain ⟨context, current, watched⟩ := Option.bind_eq_some_iff.1 present
    have depth : state.context.elim 0 (·.depth) = context.depth := by rw [current]; rfl
    rw [State.enter_of_watched current (by rw [watched]; rfl), ← present]
    refine within_after (fun cause raised => ?_) fun entered done => ?_
    · rw [← depth] at raised
      obtain ⟨call, asked, raises⟩ := State.exists_call_of_emit raised
      exact ⟨call, asks call asked, raises⟩
    · refine goes ?_ _ _ (List.forall_mem_cons.2 ⟨trivial, frames⟩)
        ((State.setDepth_workspace _ _).trans (State.emit_workspace done))
      rw [State.admits, depth, done]
      rfl

/-- What a labelled parser does first keeps within the rules. -/
theorem Parser.Within.start_within {parser : Parser} (within : parser.Within owned)
    {label : String} (labelled : parser.label? = some label)
    (frames : ∀ frame ∈ stack, frame.Within owned) (same : state.workspace.cells = cells)
    (input : Value) (other : State) :
    (parser.start input stack state).Within owned cells (Call.ofStart input other parser)
      watcher := by
  have push {frame : Frame} (first : frame.Within owned) :
      ∀ other ∈ frame :: stack, other.Within owned := List.forall_mem_cons.2 ⟨first, frames⟩
  cases within with
  | terminal leaf =>
    refine Progress.within_after (fun cause raised => ?_) fun verdict _ => ?_
    · exact ⟨_, List.mem_singleton_self _, raised⟩
    · cases verdict with
      | matched value rest => exact ⟨trivial, frames, same⟩
      | missed payload =>
        exact Progress.within_note fun noted kept => ⟨trivial, frames, kept ▸ same⟩
  | sequence head tail => exact ⟨head, push tail, same⟩
  | choice head tail => exact ⟨head, push tail, same⟩
  | star inside => exact ⟨inside, push inside, same⟩
  | plus inside => exact ⟨inside, push inside, same⟩
  | optional inside absent => exact ⟨inside, push trivial, same⟩
  | ahead inside => exact ⟨inside, push trivial, same⟩
  | notAhead inside => exact ⟨inside, push trivial, same⟩
  | transform inside name function => exact ⟨inside, push trivial, same⟩
  | nested inside second form => exact ⟨inside, push second, same⟩
  | traced name inside => exact ⟨inside, frames, same⟩
  | foreign => cases labelled
  | rule => cases labelled
  | constant => cases labelled

/-- A point stays within the rules and the calls when more calls are known. -/
theorem Progress.Within.mono {more : List Call} {progress : Progress}
    (within : progress.Within owned cells made watcher) (larger : ∀ call ∈ made, call ∈ more) :
    progress.Within owned cells more watcher := by
  cases progress with
  | next => exact within
  | finished => trivial
  | raised fault later =>
    intro cause same
    obtain ⟨call, asked, raises⟩ := within cause same
    exact ⟨call, larger call asked, raises⟩

/-- A terminal written by hand is called, and it may remember this. -/
theorem Foreign.run_within (leaf : Foreign) (frames : ∀ frame ∈ stack, frame.Within owned)
    (same : state.workspace.cells = cells) (input : Value) :
    (leaf.run input stack state).Within owned cells
      [.foreign leaf (state.remember leaf.memory input).1 input] watcher := by
  have kept : (state.remember leaf.memory input).2.workspace.cells = cells := by
    unfold State.remember
    split <;> exact same
  refine Progress.within_after (fun cause raised => ?_) fun outcome _ => ⟨trivial, frames, kept⟩
  exact ⟨_, List.mem_singleton_self _, raised⟩

/-- A labelled parser is entered and does what it does first. -/
theorem Parser.Within.call_of_labelled {parser : Parser} (within : parser.Within owned)
    {label : String} (labelled : parser.label? = some label)
    (frames : ∀ frame ∈ stack, frame.Within owned) (same : state.workspace.cells = cells)
    (input : Value) :
    (parser.call input stack state).Within owned cells (Call.ofCall parser input state)
      state.tracer? := by
  simp only [Parser.call, Call.ofCall, labelled]
  refine Progress.within_enter frames (fun call asked => List.mem_append_left _ asked) ?_
  intro admitted stack entered frames kept
  rw [if_pos admitted]
  exact (within.start_within labelled frames (kept ▸ same) input state).mono fun call asked =>
    List.mem_append_right _ asked

/-- **A call keeps within the rules.** A rule that is called is resolved, so that the call is that
of its body under its name. -/
theorem Parser.Within.call_within {parser : Parser} (within : parser.Within owned)
    (closed : state.workspace.Closed owned) (frames : ∀ frame ∈ stack, frame.Within owned)
    (same : state.workspace.cells = cells) (input : Value) :
    (parser.call input stack state).Within owned cells (Call.ofCall parser input state)
      state.tracer? := by
  cases labelled : parser.label? with
  | some label => exact within.call_of_labelled labelled frames same input
  | none =>
    cases within with
    | foreign leaf => exact leaf.run_within frames same input
    | @rule cell member =>
      obtain ⟨body, resolved, inside⟩ := closed cell member
      have traced : (Parser.traced (state.workspace.nameOf cell) body).Within owned :=
        .traced _ inside
      rw [call_of_resolved resolved]
      refine (traced.call_of_labelled rfl frames same input).mono fun call asked => ?_
      have found := Workspace.resolve_of_resolved resolved
      rw [Edit.outcome] at found
      simpa only [Call.ofCall, Parser.label?, Call.ofStart, found, ite_self, List.append_nil]
        using asked
    | constant value => exact fun _ impossible => by cases impossible
    | _ => cases labelled

/-- The tracer does not depend on the depth. -/
theorem State.setDepth_tracer? (state : State) (depth : Nat) :
    (state.setDepth depth).tracer? = state.tracer? := by
  simp only [tracer?, setDepth, Option.bind_map]
  rfl

/-- What the tracer is asked does not depend on the depth around it. -/
theorem State.setDepth_asks (state : State) (level : Nat) (kind : EventKind) (name : String)
    (depth : Nat) (rest value : Value) :
    (state.setDepth level).asks kind name depth rest value
      = state.asks kind name depth rest value := by
  rw [asks, setDepth_tracer?, asks]
  simp only [setDepth, Option.map_map]
  rfl

/-- The exit from a labelled parser calls the tracer, if there is one. -/
theorem Frame.exit_within (frames : ∀ frame ∈ stack, frame.Within owned)
    (same : state.workspace.cells = cells) (label : String) (depth : Nat) (outcome : Outcome) :
    ((Frame.exit label depth).receive outcome stack state).Within owned cells
      (Call.ofAnswer outcome state (.exit label depth :: stack)) state.tracer? := by
  have tells {told : State} (done : (state.setDepth depth).emit outcome.exitKind label depth
      outcome.rest outcome.value = .ok told) : told.workspace.cells = cells := by
    rw [State.emit_workspace done]
    exact same
  have raises {cause : GrammarFault} (raised : (state.setDepth depth).emit outcome.exitKind label
      depth outcome.rest outcome.value = .error (.grammar cause)) :
      ∃ call ∈ Call.ofAnswer outcome state (.exit label depth :: stack),
        call.Raises state.tracer? (.grammar cause) := by
    obtain ⟨call, asked, raises⟩ := State.exists_call_of_emit raised
    rw [State.setDepth_asks] at asked
    rw [State.setDepth_tracer?] at raises
    exact ⟨call, asked, raises⟩
  cases outcome with
  | ok value rest =>
    exact Progress.within_after (fun _ => raises) fun told done => ⟨trivial, frames, tells done⟩
  | fail payload rest =>
    exact Progress.within_after (fun _ => raises) fun told done => ⟨trivial, frames, tells done⟩

/-- A frame goes on with the parsers that it holds. -/
theorem Frame.receive_within {frame : Frame} (within : frame.Within owned)
    (frames : ∀ frame ∈ stack, frame.Within owned) (same : state.workspace.cells = cells)
    (outcome : Outcome) :
    (frame.receive outcome stack state).Within owned cells
      (Call.ofAnswer outcome state (frame :: stack)) state.tracer? := by
  have push {frame : Frame} (first : frame.Within owned) :
      ∀ other ∈ frame :: stack, other.Within owned := List.forall_mem_cons.2 ⟨first, frames⟩
  cases frame with
  | exit label depth => exact exit_within frames same label depth outcome
  | unnest form outer rest =>
    refine Progress.within_after (fun cause raised => ?_) fun _ _ => ⟨trivial, frames, same⟩
    -- the value of a nested parse is computed without looking up a rule
    exact absurd raised (form.value_ne_grammar _ _ _)
  | sequence entry done others =>
    cases outcome with
    | ok value rest =>
      cases others with
      | nil => exact ⟨trivial, frames, same⟩
      | cons parser others =>
        obtain ⟨head, tail⟩ := List.forall_mem_cons.1 within
        exact ⟨head, push tail, same⟩
    | fail payload rest =>
      rw [receive_sequence_fail]
      exact ⟨trivial, frames, same⟩
  | choice entry others =>
    cases outcome with
    | ok value rest => exact ⟨trivial, frames, same⟩
    | fail payload rest =>
      cases others with
      | nil => exact ⟨trivial, frames, same⟩
      | cons parser others =>
        obtain ⟨head, tail⟩ := List.forall_mem_cons.1 within
        exact ⟨head, push tail, same⟩
  | loop body done rest =>
    cases outcome with
    | ok value rest => exact ⟨within, push within, same⟩
    | fail payload rest => exact ⟨trivial, frames, same⟩
  | plus body entry =>
    cases outcome with
    | ok value rest => exact ⟨within, push within, same⟩
    | fail payload rest => exact ⟨trivial, frames, same⟩
  | notAhead entry saved =>
    cases outcome with
    | ok value rest =>
      -- a note changes the record and no cell
      exact Progress.within_note fun noted kept => ⟨trivial, frames, kept ▸ same⟩
    | fail payload rest =>
      refine ⟨trivial, frames, ?_⟩
      rw [State.restoreRecord_workspace]
      exact same
  | transform function =>
    cases outcome with
    | ok value rest =>
      refine Progress.within_after (fun cause raised => ?_) fun _ _ => ⟨trivial, frames, same⟩
      exact ⟨_, List.mem_singleton_self _, raised⟩
    | fail payload rest => exact ⟨trivial, frames, same⟩
  | nest inner form =>
    cases outcome with
    | ok value rest => exact ⟨within, push trivial, same⟩
    | fail payload rest => exact ⟨trivial, frames, same⟩
  | optional absent entry => cases outcome <;> exact ⟨trivial, frames, same⟩
  | ahead entry => cases outcome <;> exact ⟨trivial, frames, same⟩

/-- **A step keeps within the rules**, and a fault of a grammar in it comes from outside. -/
theorem step_within {control : Control} (within : control.Within owned)
    (frames : ∀ frame ∈ stack, frame.Within owned) (closed : state.workspace.Closed owned) :
    (step control stack state).Within owned state.workspace.cells (Call.made control stack state)
      state.tracer? := by
  cases control with
  | call parser input => exact within.call_within closed frames rfl input
  | answer outcome =>
    cases stack with
    | nil => trivial
    | cons frame stack =>
      obtain ⟨first, others⟩ := List.forall_mem_cons.1 frames
      exact Frame.receive_within first others rfl outcome

end Step

/-! ## Runs -/

namespace Progress

/-- At some point of a run a call raises the fault. -/
def MeetsFault (fault : Fault) (progress : Progress) : Prop :=
  ∃ steps control stack state, progress.later steps = .next control stack state
    ∧ ∃ call ∈ Call.made control stack state, call.Raises state.tracer? fault

variable {owned : Nat → Prop} {workspace : Workspace}

/-- The rules are closed as long as they are as they were. -/
theorem closed_of_within {control : Control} {stack : List Frame} {state : State}
    (closed : workspace.Closed owned)
    (within : (Progress.next control stack state).Within owned workspace.cells [] none) :
    state.workspace.Closed owned := by
  simpa only [Workspace.Closed, Workspace.bindingOf, within.2.2] using closed

/-- What is met after a step is met before it. -/
theorem MeetsFault.of_step {fault : Fault} {control : Control} {stack : List Frame} {state : State}
    (meets : (step control stack state).MeetsFault fault) :
    (Progress.next control stack state).MeetsFault fault := by
  obtain ⟨steps, point⟩ := meets
  exact ⟨steps + 1, point⟩

/-- **At every point of a run** it keeps within the rules, or it has ended in a fault of a grammar
that a call of something outside raised. -/
theorem Within.later {progress : Progress}
    (within : progress.Within owned workspace.cells [] none) (closed : workspace.Closed owned)
    (steps : Nat) :
    (progress.later steps).Within owned workspace.cells [] none
    ∨ ∃ cause last, progress.later steps = .raised (.grammar cause) last
      ∧ progress.MeetsFault (.grammar cause) := by
  induction steps generalizing progress with
  | zero =>
    rw [later_zero]
    exact .inl within
  | succ steps inductionHypothesis =>
    cases progress with
    | next control stack state =>
      -- the induction is on the steps, and what it carries is that the cells are as at the start
      have goesOn := step_within within.1 within.2.1 (closed_of_within closed within)
      rw [within.2.2] at goesOn
      rw [Progress.later]
      cases stepped : step control stack state with
      | next control' stack' state' =>
        rw [stepped] at goesOn
        obtain fine | ⟨cause, last, ended, meets⟩ :=
          @inductionHypothesis (.next control' stack' state') goesOn
        · exact .inl fine
        · exact .inr ⟨cause, last, ended, .of_step (stepped ▸ meets)⟩
      | finished outcome last =>
        left
        cases steps <;> trivial
      | raised fault last =>
        -- where a fault has stopped the run, more steps lead nowhere
        have there : (Progress.raised fault last).later steps = .raised fault last := by
          cases steps <;> rfl
        rw [stepped] at goesOn
        rw [there]
        cases fault with
        | grammar cause =>
          exact .inr ⟨cause, last, rfl, 0, control, stack, state, rfl, goesOn cause rfl⟩
        | _ => exact .inl fun _ impossible => by cases impossible
    | finished outcome last => exact .inl trivial
    | raised fault last => exact .inl within

end Progress

/-- A parse that reports a fault of a grammar ended in it. -/
theorem raised_of_parse {fuel : Nat} {workspace : Workspace} {parser : Parser} {input : Value}
    {tracer : Option Tracer} {report : Report Success} {cause : GrammarFault}
    (parsed : parse fuel workspace parser input tracer = some report)
    (faulty : report.answer = .error (.grammar cause)) :
    ∃ last, (Progress.call parser input [] (.initial workspace input tracer)).later fuel
      = .raised (.grammar cause) last := by
  obtain ⟨ending, ended, rfl⟩ := Option.map_eq_some_iff.1 parsed
  have reached : (Progress.call parser input [] (.initial workspace input tracer)).run fuel
      = some ending := ended
  rw [Progress.run_eq_later] at reached
  cases point : (Progress.call parser input [] (.initial workspace input tracer)).later fuel with
  | next control stack state =>
    rw [point] at reached
    cases reached
  | finished outcome last =>
    rw [point] at reached
    cases reached
    exact absurd faulty (last.conclude_ne_grammar outcome cause)
  | raised fault last =>
    rw [point] at reached
    cases reached
    cases faulty
    exact ⟨last, rfl⟩

/-- **A grammar that passes its check has all the rules that its runs call.** Let the bodies of its
rules refer to rules by names of the grammar only, in whatever order references and definitions
came. If the check passes, then in a run from a rule of the grammar on any input, however long it
is, every rule that is called is resolved, and a parse ends in a fault of a grammar only if a
terminal, a function or a tracer raised that fault. If the check complains of undefined rules, there
are some, and each of them is a name that was mentioned and never bound. -/
theorem checked_grammar_has_all_rules {base workspace : Workspace} {start : Option String}
    {log : List Definition}
    (history : History Deed.RefersByName (base.afresh start) log workspace) :
    (workspace.check = .ok () → ∀ name cell, workspace.grammar.rules.lookup name = some cell →
      ∀ input tracer,
      (∀ steps called entry stack state,
        (Progress.call (.rule cell) input [] (.initial workspace input tracer)).later steps
          = .next (.call (.rule called) entry) stack state →
        ∃ body, state.workspace.bindingOf called = .resolved body)
      ∧ ∀ fuel report cause, parse fuel workspace (.rule cell) input tracer = some report →
        report.answer = .error (.grammar cause) →
        (Progress.call (.rule cell) input [] (.initial workspace input tracer)).MeetsFault
          (.grammar cause))
    ∧ ∀ names, workspace.check = .error (.grammar (.undefinedRules names)) →
      names ≠ [] ∧ ∀ name ∈ names, ∃ cell, workspace.grammar.rules.lookup name = some cell
        ∧ workspace.bindingOf cell = .undefined
        ∧ ∀ definition ∈ log, definition.name ≠ name := by
  constructor
  · intro checked name cell known input tracer
    -- once every name is defined, the bodies mention only rules that have a body
    have closed := Workspace.closed_of_check checked history.houses history.refersToOwn
    have within : (Progress.call (.rule cell) input [] (.initial workspace input tracer)).Within
        workspace.Owns workspace.cells [] none :=
      ⟨.rule ⟨name, Workspace.mem_of_lookup_eq_some known⟩, List.forall_mem_nil _, rfl⟩
    refine ⟨fun steps called entry stack state reached => ?_,
      fun fuel report cause parsed faulty => ?_⟩
    · obtain there | ⟨_, _, ended, -⟩ := within.later closed steps
      · rw [reached] at there
        cases there.1 with
        | rule member =>
          obtain ⟨body, resolved, -⟩ := Progress.closed_of_within closed there called member
          exact ⟨body, resolved⟩
      · cases reached.symm.trans ended
    · obtain ⟨last, ended⟩ := raised_of_parse parsed faulty
      -- the run has ended in a fault of a grammar, so it is the second case that holds
      obtain there | ⟨_, _, endedToo, meets⟩ := within.later closed fuel
      · rw [ended] at there
        obtain ⟨_, impossible, -⟩ := there cause rfl
        cases impossible
      · cases ended.symm.trans endedToo
        exact meets
  · intro names complains
    obtain ⟨some, rfl⟩ := workspace.undefinedNames_of_complaint complains
    refine ⟨some, fun name member => ?_⟩
    obtain ⟨cell, entry, undefined⟩ := Workspace.mem_undefinedNames_iff.1 member
    have known := (history.houses _ entry).1
    refine ⟨cell, known, undefined, fun definition logged same => ?_⟩
    obtain ⟨other, knownToo, bound⟩ := history.exists_cell_of_mem_definedNames
      ((history.mem_definedNames_iff name).2 ⟨definition, logged, same⟩)
    -- the name stands for one cell only, and a logged definition would have bound it
    cases known.symm.trans knownToo
    rw [undefined] at bound
    cases bound

/-- The letter `a` and then the rule in cell 1, or a point. -/
def pointOrNext : Parser :=
  .choice (.sequence (.terminal (.literal (.ofString "a"))) [.rule 1])
    [.terminal (.literal (.ofString "."))]

/-- The letter `b` and then the rule in cell 0. -/
def nextAgain : Parser := .sequence (.terminal (.literal (.ofString "b"))) [.rule 0]

/-- A grammar with the rule `a`, which refers to `b`, and without a definition of `b`. -/
def halfWorkspace : Workspace where
  cells := #[⟨"a", .resolved pointOrNext, 0⟩, ⟨"b", .undefined, 0⟩]
  grammar := { rules := [("a", 0), ("b", 1)], start := some "a" }

/-- A grammar with the rules `a` and `b`, which refer to each other. -/
def mutualWorkspace : Workspace where
  cells := #[⟨"a", .resolved pointOrNext, 0⟩, ⟨"b", .resolved nextAgain, 0⟩]
  grammar := { rules := [("a", 0), ("b", 1)], start := some "a" }

/-- Two rules are mentioned before they are defined, and they refer to each other. The check
complains of the second one until it is defined, and then a run calls both of them in turn. -/
theorem mutual_rules_are_found :
    History Deed.RefersByName (({} : Workspace).afresh none) [⟨.grammar, "a"⟩] halfWorkspace
    ∧ halfWorkspace.check = .error (.grammar (.undefinedRules ["b"]))
    ∧ (∃ cell, halfWorkspace.grammar.rules.lookup "b" = some cell
      ∧ halfWorkspace.bindingOf cell = .undefined)
    ∧ History Deed.RefersByName (({} : Workspace).afresh none)
        [⟨.grammar, "a"⟩, ⟨.reference, "b"⟩] mutualWorkspace
    ∧ mutualWorkspace.check = .ok ()
    ∧ (∀ steps called entry stack state,
      (Progress.call (.rule 0) (.ofString "abab.") []
        (.initial mutualWorkspace (.ofString "abab.") none)).later steps
          = .next (.call (.rule called) entry) stack state →
      ∃ body, state.workspace.bindingOf called = .resolved body)
    ∧ (parse 60 mutualWorkspace (.rule 0) (.ofString "abab.") none).map (·.answer.isOk)
      = some true := by
  have early : History Deed.RefersByName (({} : Workspace).afresh none) []
      ⟨#[⟨"a", .undefined, 0⟩, ⟨"b", .undefined, 0⟩], { rules := [("a", 0), ("b", 1)] }, [],
        #[]⟩ := by
    have first : (Deed.mention "a").outcome? (({} : Workspace).afresh none)
        = some (.ok (), ⟨#[⟨"a", .undefined, 0⟩], { rules := [("a", 0)] }, [], #[]⟩) := rfl
    have second : (Deed.mention "b").outcome?
        ⟨#[⟨"a", .undefined, 0⟩], { rules := [("a", 0)] }, [], #[]⟩
          = some (.ok (), ⟨#[⟨"a", .undefined, 0⟩, ⟨"b", .undefined, 0⟩],
            { rules := [("a", 0), ("b", 1)] }, [], #[]⟩) := rfl
    exact (History.begin.next trivial rfl first).next trivial rfl second
  have defined : (Deed.define .item "a" pointOrNext).outcome?
      ⟨#[⟨"a", .undefined, 0⟩, ⟨"b", .undefined, 0⟩], { rules := [("a", 0), ("b", 1)] }, [], #[]⟩
        = some (.ok (), halfWorkspace) := rfl
  have bound : (Deed.bind 1 nextAgain).outcome? halfWorkspace
      = some (.ok (), mutualWorkspace) := rfl
  have half : History Deed.RefersByName (({} : Workspace).afresh none) [⟨.grammar, "a"⟩]
      halfWorkspace := by
    refine early.next ?_ rfl defined
    refine .choice (.sequence (.terminal _) (List.forall_mem_singleton.2 (.rule ⟨"b", ?_⟩)))
      (List.forall_mem_singleton.2 (.terminal _))
    exact List.mem_cons_of_mem _ List.mem_cons_self
  have whole : History Deed.RefersByName (({} : Workspace).afresh none)
      [⟨.grammar, "a"⟩, ⟨.reference, "b"⟩] mutualWorkspace := by
    refine half.next ?_ rfl bound
    exact fun _ => .sequence (.terminal _)
      (List.forall_mem_singleton.2 (.rule ⟨"a", List.mem_cons_self⟩))
  have complains : halfWorkspace.check = .error (.grammar (.undefinedRules ["b"])) := by
    have some : halfWorkspace.undefinedNames = ["b"] := List.mergeSort_singleton _
    rw [Workspace.check, some]
  have passes : mutualWorkspace.check = .ok () := by
    have none : mutualWorkspace.undefinedNames = [] := List.mergeSort_nil
    rw [Workspace.check, none]
    rfl
  -- the same theorem before the second definition and after it
  obtain ⟨-, missing⟩ := (checked_grammar_has_all_rules half).2 _ complains
  obtain ⟨cell, known, undefined, -⟩ := missing "b" List.mem_cons_self
  have runs := (checked_grammar_has_all_rules whole).1 passes "a" 0 rfl (.ofString "abab.") none
  refine ⟨half, complains, ⟨cell, known, undefined⟩, whole, passes, runs.1, ?_⟩
  set_option maxRecDepth 4000 in cbv

end Peg
