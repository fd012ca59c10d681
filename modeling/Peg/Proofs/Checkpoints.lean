import Peg.Proofs.State

/-! # Checkpoints of a record

The machine saves the record of failures when a negative look ahead begins and brings it back when
the body has failed. What it saves there is a value of its own, while a checkpoint of a notebook
that has been restored goes on sharing its alternatives with the record. The machine keeps what it
saved in the frame of the look ahead, and that frame is gone when the record is brought back, so
that no checkpoint is restored twice. Where none is, the two cannot be told apart.

* **`Notebook.Matches.enter`**: each entry keeps a notebook and a shelf of saved records alike.
* **`Notebook.record_eq_of_restoresOnce`**: from the beginning on, entries that restore no
  checkpoint twice lead to the same record. -/

namespace Peg

/-- What can be done to a record that has checkpoints. -/
inductive Notebook.Entry where
  /-- A failure is noted. -/
  | note (payload rest : Value)
  /-- The record is saved under a name. -/
  | save (name : String)
  /-- The record saved under a name is brought back. -/
  | restore (name : String)

/-- Makes an entry in a notebook. If there is no checkpoint of the name, nothing is restored. -/
def Notebook.enter (notebook : Notebook) : Entry → Notebook
  | .note payload rest => notebook.note payload rest
  | .save name => notebook.save name
  | .restore name => (notebook.restore? name).getD notebook

/-- The state of a machine with the records that were saved from it. -/
structure Shelf where
  /-- The state. -/
  state : State
  /-- The record that was saved under a name. -/
  saved : String → Option Record

/-- Makes an entry in the record of the current context, by what the machine does to it. -/
def Shelf.enter (shelf : Shelf) : Notebook.Entry → Except Fault Shelf
  | .note payload rest => (shelf.state.note payload rest).map ({ shelf with state := · })
  | .save name =>
    .ok { shelf with
      saved := fun other => if other = name then shelf.state.saveRecord else shelf.saved other }
  | .restore name => .ok { shelf with state := shelf.state.restoreRecord (shelf.saved name) }

namespace Notebook

/-- A checkpoint is spent when it has been restored, until it is saved again. -/
def Entry.spend (spent : String → Prop) : Entry → String → Prop
  | .note _ _, name => spent name
  | .save saved, name => name ≠ saved ∧ spent name
  | .restore restored, name => name = restored ∨ spent name

/-- A failure is noted at a rest of an input, and no checkpoint is restored that is spent. -/
def Entry.Fits (spent : String → Prop) : Entry → Prop
  | .note _ rest => rest.isSequence
  | .save _ => True
  | .restore name => ¬ spent name

/-- No checkpoint is restored twice without being saved again in between. -/
def RestoresOnce (spent : String → Prop) : List Entry → Prop
  | [] => True
  | entry :: entries => entry.Fits spent ∧ RestoresOnce (entry.spend spent) entries

/-- A notebook and a shelf hold the same record, and the same checkpoints apart from spent ones. -/
structure Matches (notebook : Notebook) (shelf : Shelf) (spent : String → Prop) : Prop where
  /-- The records agree. -/
  record_eq : shelf.state.saveRecord = some notebook.record
  /-- The checkpoints that are not spent agree. -/
  saved_eq : ∀ name, ¬ spent name → notebook.checkpoints.lookup name = shelf.saved name
  /-- A checkpoint that is attached to the record is spent. -/
  attached : ∀ name, notebook.attached = some name → spent name

section Matches

variable {notebook : Notebook} {shelf : Shelf} {spent : String → Prop}

/-- What is stored under a name is found there. -/
theorem lookup_store_self (notebook : Notebook) (name : String) (record : Record) :
    (notebook.store name record).lookup name = some record := by
  rw [store, List.lookup_cons, beq_self_eq_true]

/-- The other checkpoints are as they were. -/
theorem lookup_store_of_ne {name other : String} (elsewhere : other ≠ name) (notebook : Notebook)
    (record : Record) :
    (notebook.store name record).lookup other = notebook.checkpoints.lookup other := by
  rw [store, List.lookup_cons, beq_eq_false_iff_ne.2 elsewhere]
  induction notebook.checkpoints with
  | nil => rfl
  | cons checkpoint checkpoints inductionHypothesis => grind

/-- A note does to the record of a notebook what it does to any record, and besides it detaches a
checkpoint or is taken over by the one that is attached. -/
theorem note_cases (notebook : Notebook) (payload rest : Value) :
    notebook.note payload rest
        = { notebook with record := notebook.record.note payload rest, attached := none }
      ∨ ∃ name, notebook.attached = some name ∧ notebook.note payload rest
        = { notebook with
            record := notebook.record.note payload rest
            checkpoints := notebook.store name (notebook.record.note payload rest) } := by
  obtain ⟨record, checkpoints, attached⟩ := notebook
  unfold note
  cases record with
  | none => exact .inl rfl
  | some farthest =>
    by_cases farther : rest.length < farthest.rest.length
    · exact .inl (if_pos (decide_eq_true farther))
    · have nearer : ¬ decide (rest.length < farthest.rest.length) = true := by
        rwa [decide_eq_true_eq]
      cases attached with
      | none => exact .inl (if_neg nearer)
      | some name => exact .inr ⟨name, rfl, if_neg nearer⟩

/-- **Each entry keeps a notebook and a shelf alike**, unless it restores a checkpoint that is
spent. -/
theorem Matches.enter (holds : notebook.Matches shelf spent) {entry : Entry}
    (fits : entry.Fits spent) :
    ∃ later, shelf.enter entry = .ok later
      ∧ (notebook.enter entry).Matches later (entry.spend spent) := by
  obtain ⟨context, current, same⟩ := Option.map_eq_some_iff.1 holds.record_eq
  cases entry with
  | note payload rest =>
    refine ⟨_, by rw [Shelf.enter, State.note_of_isSequence current fits]; rfl, ?_⟩
    have record_eq : (some (context.record.note payload rest) : Option Record)
        = some (notebook.record.note payload rest) := by rw [same]
    rw [Notebook.enter]
    obtain noted | ⟨name, attached, noted⟩ := notebook.note_cases payload rest
    · rw [noted]
      exact ⟨record_eq, holds.saved_eq, fun _ impossible => nomatch impossible⟩
    · -- the attached checkpoint takes the note over, but it is spent, so nothing is claimed of it
      rw [noted]
      refine ⟨record_eq, fun other kept => ?_, holds.attached⟩
      have elsewhere : other ≠ name := by
        rintro rfl
        exact kept (holds.attached other attached)
      exact (lookup_store_of_ne elsewhere notebook _).trans (holds.saved_eq other kept)
  | save name =>
    refine ⟨_, rfl, holds.record_eq, ?_, ?_⟩
    · intro other kept
      by_cases here : other = name
      · subst here
        exact (lookup_store_self notebook other notebook.record).trans
          (holds.record_eq.symm.trans (if_pos rfl).symm)
      · have before := holds.saved_eq other fun gone => kept ⟨here, gone⟩
        exact (lookup_store_of_ne here notebook notebook.record).trans
          (before.trans (if_neg here).symm)
    · intro other attached
      -- saving under the name that is attached detaches it, so what was saved is not spent
      by_cases free : notebook.attached = some name
      · rw [Notebook.enter, save, if_pos (beq_iff_eq.2 free)] at attached
        cases attached
      · rw [Notebook.enter, save, if_neg (mt beq_iff_eq.1 free)] at attached
        refine ⟨?_, holds.attached other attached⟩
        rintro rfl
        exact free attached
  | restore name =>
    refine ⟨_, rfl, ?_⟩
    rw [Notebook.enter, restore?, holds.saved_eq name fits]
    -- from here on the name is spent, and the record may share its alternatives
    cases shelf.saved name with
    | none =>
      exact ⟨holds.record_eq, fun other kept => holds.saved_eq other fun gone => kept (.inr gone),
        fun other attached => .inr (holds.attached other attached)⟩
    | some record =>
      refine ⟨?_, fun other kept => holds.saved_eq other fun gone => kept (.inr gone), ?_⟩
      · rw [State.saveRecord, State.restoreRecord, current]
        rfl
      · rintro other attached
        cases attached
        exact .inl rfl

/-- Entries that restore no spent checkpoint can all be made on the shelf, and the records agree
after them. -/
theorem Matches.enters (holds : notebook.Matches shelf spent) {entries : List Entry}
    (once : RestoresOnce spent entries) :
    ∃ later, entries.foldlM Shelf.enter shelf = .ok later
      ∧ later.state.saveRecord = some (entries.foldl Notebook.enter notebook).record := by
  induction entries generalizing notebook shelf spent with
  | nil => exact ⟨shelf, rfl, holds.record_eq⟩
  | cons entry entries inductionHypothesis =>
    obtain ⟨between, entered, goesOn⟩ := holds.enter once.1
    obtain ⟨later, rest, same⟩ := inductionHypothesis goesOn once.2
    refine ⟨later, ?_, same⟩
    rw [List.foldlM_cons, entered]
    exact rest

end Matches

/-- **A notebook whose checkpoints are restored once keeps the record of the machine.** This holds
at every point, since what was entered up to there is a row of such entries, too. -/
theorem record_eq_of_restoresOnce {state : State} (fresh : state.saveRecord = some none)
    {entries : List Entry} (once : RestoresOnce (fun _ => False) entries) :
    ∃ later, entries.foldlM Shelf.enter ⟨state, fun _ => none⟩ = .ok later
      ∧ later.state.saveRecord = some (entries.foldl Notebook.enter {}).record := by
  have empty : Matches {} ⟨state, fun _ => none⟩ fun _ => False :=
    ⟨fresh, fun _ _ => rfl, fun _ impossible => nomatch impossible⟩
  exact empty.enters once

/-- The second restoring of a checkpoint brings back what was noted after the first one. -/
example : (((((({} : Notebook).note (.ofString "a") (.ofString "x")).save "start").restore?
      "start").map fun restored => restored.note (.ofString "b") (.ofString "x")).bind
        (·.restore? "start")).map (·.record.map (·.alternatives.length)) = some (some 2) := rfl

end Notebook

end Peg
