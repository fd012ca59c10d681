import Peg.Workspace

/-! # What edits keep

An edit changes the workspace and may end in a fault; what it changed before the fault stays.
`Edit.Keeps` says that an edit keeps an invariant of the workspace either way and that its result,
if it has one, has a property. One rule for each way to put edits together makes such a statement
follow the text of the edit. -/

namespace Peg

namespace Edit

/-- The answer of an edit and the workspace after it. -/
def outcome (edit : Edit α) (workspace : Workspace) : Except Fault α × Workspace :=
  edit.run.run workspace

/-- An edit that only answers changes nothing. -/
@[simp] theorem outcome_pure (value : α) (workspace : Workspace) :
    outcome (pure value) workspace = (.ok value, workspace) := rfl

/-- A fault by itself changes nothing. -/
@[simp] theorem outcome_throw (fault : Fault) (workspace : Workspace) :
    outcome (throw fault : Edit α) workspace = (.error fault, workspace) := rfl

/-- The second edit starts from what the first one has left behind, unless that one raised a
fault. -/
theorem outcome_bind (edit : Edit α) (next : α → Edit β) (workspace : Workspace) :
    outcome (edit >>= next) workspace
      = match outcome edit workspace with
        | (.ok value, after) => outcome (next value) after
        | (.error fault, after) => (.error fault, after) := by
  simp only [outcome, ExceptT.run_bind, StateT.run_bind]
  cases edit.run.run workspace with
  | mk answer after => cases answer <;> rfl

/-- A fault of two edits in a row is one of the first, or the first ends well and it is one of the
second. -/
theorem fault_of_bind {edit : Edit α} {next : α → Edit β} {workspace after : Workspace}
    {fault : Fault} (raised : outcome (edit >>= next) workspace = (.error fault, after)) :
    outcome edit workspace = (.error fault, after)
      ∨ ∃ value between, outcome edit workspace = (.ok value, between)
        ∧ outcome (next value) between = (.error fault, after) := by
  rw [outcome_bind] at raised
  cases found : outcome edit workspace with
  | mk answer between =>
    rw [found] at raised
    cases answer with
    | error cause =>
      cases raised
      exact .inl rfl
    | ok value => exact .inr ⟨value, between, rfl, raised⟩

/-- Reading the workspace answers with it and changes nothing. -/
@[simp] theorem outcome_get (workspace : Workspace) :
    outcome (get : Edit Workspace) workspace = (.ok workspace, workspace) := rfl

/-- A change that asks for nothing never raises a fault. -/
@[simp] theorem outcome_modify (change : Workspace → Workspace) (workspace : Workspace) :
    outcome (modify change : Edit Unit) workspace = (.ok (), change workspace) := rfl

/-- A change with an answer reads both off the same workspace. -/
@[simp] theorem outcome_modifyGet (change : Workspace → α × Workspace) (workspace : Workspace) :
    outcome (modifyGet change : Edit α) workspace
      = (.ok (change workspace).1, (change workspace).2) := rfl

/-- An answer from outside the workspace changes nothing, be it a value or a fault. -/
@[simp] theorem outcome_lift (answer : Except Fault α) (workspace : Workspace) :
    outcome (liftM answer : Edit α) workspace = (answer, workspace) := by
  cases answer <;> rfl

/-- A handler starts from what was changed before the fault, for nothing is taken back. -/
theorem outcome_tryCatch (edit : Edit α) (handle : Fault → Edit α) (workspace : Workspace) :
    outcome (tryCatch edit handle) workspace
      = match outcome edit workspace with
        | (.ok value, after) => (.ok value, after)
        | (.error fault, after) => outcome (handle fault) after := by
  cases found : outcome edit workspace with
  | mk answer after =>
    have found : edit workspace = (answer, after) := found
    simp only [outcome, tryCatch, tryCatchThe, MonadExceptOf.tryCatch, ExceptT.tryCatch,
      ExceptT.mk, ExceptT.run, StateT.run, bind, StateT.bind, found]
    cases answer <;> rfl

/-- The edit keeps an invariant of the workspace, and its result has a property. -/
def Keeps (invariant : Workspace → Prop) (property : α → Prop) (edit : Edit α) : Prop :=
  ∀ workspace, invariant workspace →
    invariant (outcome edit workspace).2
      ∧ ∀ value, (outcome edit workspace).1 = .ok value → property value

section Keeps

variable {invariant : Workspace → Prop}

/-- An edit that only answers keeps any invariant. -/
theorem keeps_pure {property : α → Prop} {value : α} (holds : property value) :
    Keeps invariant property (pure value) := by
  intro workspace keeps
  rw [outcome_pure]
  refine ⟨keeps, fun result same => ?_⟩
  cases same
  exact holds

/-- A fault by itself keeps any invariant, and its missing result has any property. -/
theorem keeps_throw (property : α → Prop) (fault : Fault) :
    Keeps invariant property (throw fault : Edit α) := by
  intro workspace keeps
  rw [outcome_throw]
  exact ⟨keeps, fun result same => nomatch same⟩

/-- An answer from outside the workspace keeps any invariant. -/
theorem keeps_lift {property : α → Prop} {answer : Except Fault α}
    (holds : ∀ value, answer = .ok value → property value) :
    Keeps invariant property (liftM answer : Edit α) := by
  intro workspace keeps
  rw [outcome_lift]
  exact ⟨keeps, holds⟩

/-- If two edits keep the invariant, so do both in a row; the second one may rely on what is known
of the first result. -/
theorem keeps_bind {property : α → Prop} {goal : β → Prop} {edit : Edit α} {next : α → Edit β}
    (first : Keeps invariant property edit)
    (second : ∀ value, property value → Keeps invariant goal (next value)) :
    Keeps invariant goal (edit >>= next) := by
  intro workspace keeps
  obtain ⟨kept, has⟩ := first workspace keeps
  rw [outcome_bind]
  cases found : outcome edit workspace with
  | mk answer after =>
    rw [found] at kept has
    cases answer with
    | error fault =>
      -- what was changed before the fault stays, and the invariant with it
      exact ⟨kept, fun result same => nomatch same⟩
    | ok value => exact second value (has value rfl) after kept

/-- Nothing comes after a fault. -/
theorem keeps_throw_bind {goal : β → Prop} (fault : Fault) (next : α → Edit β) :
    Keeps invariant goal (throw fault >>= next) :=
  keeps_bind (keeps_throw (fun _ : α => False) fault) fun _ impossible => impossible.elim

/-- What an edit reads from the workspace has what follows from the invariant. -/
theorem keeps_get : Keeps invariant invariant (get : Edit Workspace) := by
  intro workspace keeps
  rw [outcome_get]
  refine ⟨keeps, fun result same => ?_⟩
  cases same
  exact keeps

/-- A change keeps the invariant if its function does. -/
theorem keeps_modify {change : Workspace → Workspace}
    (keeps : ∀ workspace, invariant workspace → invariant (change workspace)) :
    Keeps invariant (fun _ => True) (modify change : Edit Unit) := by
  intro workspace holds
  rw [outcome_modify]
  exact ⟨keeps workspace holds, fun _ _ => trivial⟩

/-- A change with an answer keeps the invariant if its function does, and its answer has what
follows from the invariant. -/
theorem keeps_modifyGet {property : α → Prop} {change : Workspace → α × Workspace}
    (keeps : ∀ workspace, invariant workspace → invariant (change workspace).2)
    (has : ∀ workspace, invariant workspace → property (change workspace).1) :
    Keeps invariant property (modifyGet change : Edit α) := by
  intro workspace holds
  rw [outcome_modifyGet]
  refine ⟨keeps workspace holds, fun result same => ?_⟩
  cases same
  exact has workspace holds

/-- If the edit and its handler keep the invariant, so do both together, for the handler starts in a
workspace that has the invariant. -/
theorem keeps_tryCatch {property : α → Prop} {edit : Edit α} {handle : Fault → Edit α}
    (first : Keeps invariant property edit)
    (second : ∀ fault, Keeps invariant property (handle fault)) :
    Keeps invariant property (tryCatch edit handle) := by
  intro workspace keeps
  obtain ⟨kept, has⟩ := first workspace keeps
  rw [outcome_tryCatch]
  cases found : outcome edit workspace with
  | mk answer after =>
    rw [found] at kept has
    cases answer with
    | error fault => exact second fault after kept
    | ok value => exact ⟨kept, has⟩

end Keeps

end Edit

end Peg
