import Mathlib.Data.List.Basic
import Peg.Record

/-! # The record as a function of the notes

The record of a parse is one cell that each failure may overwrite. `Record.ofNotes` says what it
holds after any row of notes: nothing if there are none, otherwise the deepest place, the first
payload noted there, and the payloads noted there in order without repeats.

* **`note_ofNotesBy_distinct`**: noting a failure in the record is adding a note to the row. The
  record compares a new payload with those it has kept, `distinct`.
* **`ofNotesBy_distinct_eq`**: where equality of payloads is transitive, this leaves out exactly the
  payloads that are the same as an earlier one, `withoutRepeats`. -/

namespace Peg

/-- A failure as it is noted: its payload, and how much of the whole input comes before it. -/
structure Note where
  /-- The payload. -/
  payload : Value
  /-- The offset in the whole input. -/
  position : Nat

namespace Note

/-- The greatest offset of several notes; zero if there are none. -/
def deepest (notes : List Note) : Nat := (notes.map (·.position)).foldr max 0

/-- The payloads noted at an offset, in order. -/
def payloadsAt (position : Nat) (notes : List Note) : List Value :=
  (notes.filter (·.position == position)).map (·.payload)

/-- Without notes the greatest offset is zero. -/
@[simp] theorem deepest_nil : deepest [] = 0 := rfl

/-- The greatest offset is that of the first note or of one of the others. -/
@[simp] theorem deepest_cons (note : Note) (notes : List Note) :
    deepest (note :: notes) = max note.position (deepest notes) := rfl

/-- The greatest offset of two rows of notes is the greater one of theirs. -/
theorem deepest_append (notes more : List Note) :
    deepest (notes ++ more) = max (deepest notes) (deepest more) := by
  induction notes with
  | nil => simp
  | cons note notes inductionHypothesis =>
    rw [List.cons_append, deepest_cons, deepest_cons, inductionHypothesis, Nat.max_assoc]

/-- No note is beyond the greatest offset. -/
theorem position_le_deepest {note : Note} {notes : List Note} (member : note ∈ notes) :
    note.position ≤ deepest notes := by
  induction notes with
  | nil => cases member
  | cons first notes inductionHypothesis =>
    rw [deepest_cons]
    rcases List.mem_cons.1 member with rfl | later
    · exact Nat.le_max_left _ _
    · exact Nat.le_trans (inductionHypothesis later) (Nat.le_max_right _ _)

/-- A bound of all offsets bounds the greatest one. -/
theorem deepest_le {notes : List Note} {bound : Nat}
    (within : ∀ note ∈ notes, note.position ≤ bound) : deepest notes ≤ bound := by
  induction notes with
  | nil => exact Nat.zero_le bound
  | cons first notes inductionHypothesis =>
    obtain ⟨head, tail⟩ := List.forall_mem_cons.1 within
    exact Nat.max_le.2 ⟨head, inductionHypothesis tail⟩

/-- The greatest offset is that of one of the notes. -/
theorem exists_deepest {notes : List Note} (some : notes ≠ []) :
    ∃ note ∈ notes, note.position = deepest notes := by
  induction notes with
  | nil => exact absurd rfl some
  | cons first notes inductionHypothesis =>
    rw [deepest_cons]
    -- the greatest offset is that of the first note or that of the others
    by_cases higher : deepest notes ≤ first.position
    · exact ⟨first, List.mem_cons_self, (Nat.max_eq_left higher).symm⟩
    · have others : notes ≠ [] := by
        rintro rfl
        exact higher (Nat.zero_le _)
      obtain ⟨note, member, same⟩ := inductionHypothesis others
      refine ⟨note, List.mem_cons_of_mem _ member, ?_⟩
      rw [same, Nat.max_eq_right (by omega)]

/-- The payloads at an offset are listed in the order of the notes. -/
@[simp] theorem payloadsAt_append (position : Nat) (notes more : List Note) :
    payloadsAt position (notes ++ more)
      = payloadsAt position notes ++ payloadsAt position more := by
  rw [payloadsAt, List.filter_append, List.map_append, payloadsAt, payloadsAt]

/-- A single note counts only at its own offset. -/
theorem payloadsAt_singleton (position : Nat) (note : Note) :
    payloadsAt position [note] = if note.position = position then [note.payload] else [] := by
  by_cases same : note.position = position <;> simp [payloadsAt, same]

/-- Beyond the greatest offset nothing is noted. -/
theorem payloadsAt_eq_nil {position : Nat} {notes : List Note}
    (beyond : deepest notes < position) : payloadsAt position notes = [] := by
  rw [payloadsAt, List.map_eq_nil_iff, List.filter_eq_nil_iff]
  intro note member same
  have bound := position_le_deepest member
  rw [beq_iff_eq] at same
  omega

/-- At the greatest offset something is noted. -/
theorem payloadsAt_deepest_ne_nil {notes : List Note} (some : notes ≠ []) :
    payloadsAt (deepest notes) notes ≠ [] := by
  obtain ⟨note, member, same⟩ := exists_deepest some
  intro empty
  rw [payloadsAt, List.map_eq_nil_iff, List.filter_eq_nil_iff] at empty
  exact empty note member (by rw [same, beq_self_eq_true])

end Note

/-! ## Payloads without repeats -/

/-- Adds a payload to those kept, unless it is the same as one of them. -/
def addNew (kept : List Value) (payload : Value) : List Value :=
  if kept.any fun known => known.same payload then kept else kept ++ [payload]

/-- The payloads of a row, each kept if it is not the same as one kept before. -/
def distinct (payloads : List Value) : List Value := payloads.foldl addNew []

/-- The payloads of a row that are not the same as any earlier one; `earlier` holds those that come
before the row. -/
def withoutRepeats (earlier : List Value) : List Value → List Value
  | [] => []
  | payload :: later =>
    if earlier.any fun known => known.same payload then
      withoutRepeats (earlier ++ [payload]) later
    else payload :: withoutRepeats (earlier ++ [payload]) later

/-- Equality is transitive among the payloads of a row. -/
def SameTransitive (payloads : List Value) : Prop :=
  ∀ first ∈ payloads, ∀ second ∈ payloads, ∀ third ∈ payloads,
    first.same second → second.same third → first.same third

/-- The last payload is added only if it is not the same as one before. -/
theorem distinct_append_singleton (payloads : List Value) (payload : Value) :
    distinct (payloads ++ [payload]) = addNew (distinct payloads) payload := by
  rw [distinct, List.foldl_append, List.foldl_cons, List.foldl_nil, distinct]

/-- What is kept stays in its place. -/
theorem prefix_foldl_addNew (kept payloads : List Value) :
    kept <+: payloads.foldl addNew kept := by
  induction payloads generalizing kept with
  | nil => exact List.prefix_rfl
  | cons payload payloads inductionHypothesis =>
    have grown : kept <+: addNew kept payload := by
      rw [addNew]
      split
      · exact List.prefix_rfl
      · exact List.prefix_append kept [payload]
    exact grown.trans (inductionHypothesis (addNew kept payload))

/-- The first payload of a row is the first that is kept. -/
theorem exists_distinct_cons (first : Value) (others : List Value) :
    ∃ kept, distinct (first :: others) = first :: kept := by
  obtain ⟨kept, same⟩ := prefix_foldl_addNew [first] others
  exact ⟨kept, same.symm⟩

/-- No payload that is kept is the same as one kept before it. -/
theorem pairwise_distinct (payloads : List Value) :
    (distinct payloads).Pairwise fun known payload => ¬ known.same payload := by
  have step (kept : List Value) (apart : kept.Pairwise fun known payload => ¬ known.same payload) :
      (payloads.foldl addNew kept).Pairwise fun known payload => ¬ known.same payload := by
    induction payloads generalizing kept with
    | nil => exact apart
    | cons payload payloads inductionHypothesis =>
      refine inductionHypothesis (addNew kept payload) ?_
      rw [addNew]
      split
      · exact apart
      · rename_i fresh
        refine List.pairwise_append.2 ⟨apart, List.pairwise_singleton _ _, ?_⟩
        intro known member last isLast same
        rw [List.mem_singleton.1 isLast] at same
        exact fresh (List.any_eq_true.2 ⟨known, member, same⟩)
  exact step [] List.Pairwise.nil

/-- Those kept represent all earlier ones, so that comparing with them is comparing with all. -/
theorem foldl_addNew_eq (kept earlier later : List Value)
    (transitive : SameTransitive (earlier ++ later)) (subset : ∀ payload ∈ kept, payload ∈ earlier)
    (represented : ∀ payload ∈ earlier, ∃ known ∈ kept, known = payload ∨ known.same payload) :
    later.foldl addNew kept = kept ++ withoutRepeats earlier later := by
  induction later generalizing kept earlier with
  | nil => simp [withoutRepeats]
  | cons payload later inductionHypothesis =>
    have same : (kept.any fun known => known.same payload)
        = earlier.any fun known => known.same payload := by
      rw [Bool.eq_iff_iff, List.any_eq_true, List.any_eq_true]
      constructor
      · rintro ⟨known, member, same⟩
        exact ⟨known, subset known member, same⟩
      · rintro ⟨old, member, same⟩
        -- what stands for the earlier payload is the same as the new one too
        obtain ⟨known, kept, rfl | close⟩ := represented old member
        · exact ⟨known, kept, same⟩
        · refine ⟨known, kept, transitive known ?_ old ?_ payload ?_ close same⟩
          · exact List.mem_append_left _ (subset known kept)
          · exact List.mem_append_left _ member
          · exact List.mem_append_right _ List.mem_cons_self
    have shifted : SameTransitive (earlier ++ [payload] ++ later) := by
      rw [List.append_assoc, List.singleton_append]
      exact transitive
    rw [List.foldl_cons, withoutRepeats, ← same, addNew]
    split
    · rename_i found
      -- the payload is left out, and what it is the same as stands for it from now on
      refine inductionHypothesis kept (earlier ++ [payload]) shifted ?_ ?_
      · intro known member
        exact List.mem_append_left _ (subset known member)
      · intro old member
        rcases List.mem_append.1 member with before | last
        · exact represented old before
        · obtain ⟨known, member, close⟩ := List.any_eq_true.1 found
          rw [List.mem_singleton.1 last]
          exact ⟨known, member, .inr close⟩
    · rw [inductionHypothesis (kept ++ [payload]) (earlier ++ [payload]) shifted, List.append_assoc,
        List.singleton_append]
      · intro known member
        rcases List.mem_append.1 member with before | last
        · exact List.mem_append_left _ (subset known before)
        · exact List.mem_append_right _ last
      · intro old member
        rcases List.mem_append.1 member with before | last
        · obtain ⟨known, member, close⟩ := represented old before
          exact ⟨known, List.mem_append_left _ member, close⟩
        · exact ⟨old, List.mem_append_right _ last, .inl rfl⟩

/-- Where equality is transitive, comparing with those kept is comparing with all earlier ones. -/
theorem distinct_eq_withoutRepeats {payloads : List Value} (transitive : SameTransitive payloads) :
    distinct payloads = withoutRepeats [] payloads := by
  rw [distinct, foldl_addNew_eq [] [] payloads transitive]
  · rfl
  · intro payload member
    cases member
  · intro payload member
    cases member

/-! ## Records -/

namespace Record

/-- The record of a row of notes, with a function that selects from the payloads at the deepest
place. -/
def ofNotesBy (select : List Value → List Value) (source : Value) (notes : List Note) : Record :=
  match Note.payloadsAt (Note.deepest notes) notes with
  | [] => none
  | first :: others =>
    some ⟨first, source.drop (Note.deepest notes), select (first :: others)⟩

/-- The record of a row of notes: the deepest place, the first payload noted there, and all payloads
noted there in order without those that are the same as an earlier one. -/
def ofNotes (source : Value) (notes : List Note) : Record :=
  ofNotesBy (withoutRepeats []) source notes

/-- The record is empty exactly when nothing was noted. -/
theorem ofNotesBy_eq_none_iff {select : List Value → List Value} {source : Value}
    {notes : List Note} : ofNotesBy select source notes = none ↔ notes = [] := by
  constructor
  · intro empty
    by_contra some
    rw [ofNotesBy] at empty
    split at empty
    · rename_i nothing
      exact Note.payloadsAt_deepest_ne_nil some nothing
    · cases empty
  · rintro rfl
    rfl

/-- **Noting a failure adds a note.** -/
theorem note_ofNotesBy_distinct {source : Value} {notes : List Note}
    (within : ∀ note ∈ notes, note.position ≤ source.length) (payload : Value) {position : Nat}
    (bound : position ≤ source.length) :
    (ofNotesBy distinct source notes).note payload (source.drop position)
      = ofNotesBy distinct source (notes ++ [⟨payload, position⟩]) := by
  by_cases none : notes = []
  · subst none
    simp [ofNotesBy, Note.payloadsAt, Note.deepest, Record.note, Farthest.single, distinct, addNew]
  · have deep := Note.deepest_le within
    have there := Note.payloadsAt_deepest_ne_nil none
    rw [ofNotesBy, ofNotesBy, Note.deepest_append, Note.deepest_cons, Note.deepest_nil,
      Nat.max_zero, Note.payloadsAt_append, Note.payloadsAt_singleton]
    cases found : Note.payloadsAt (Note.deepest notes) notes with
    | nil => exact absurd found there
    | cons first others =>
      simp only [Record.note, Value.length_drop]
      rcases Nat.lt_trichotomy position (Note.deepest notes) with nearer | same | farther
      · -- a nearer failure changes nothing
        rw [Nat.max_eq_left (by omega), found, if_neg (by omega), if_neg (by simp; omega),
          if_neg (by omega), List.append_nil]
      · -- a failure at the same place adds its payload if that is new
        have grown : distinct (first :: (others ++ [payload]))
            = addNew (distinct (first :: others)) payload := by
          rw [← List.cons_append, distinct_append_singleton]
        rw [same, Nat.max_self, found, if_neg (by omega), if_pos rfl, List.cons_append]
        simp only [grown, addNew, Farthest.lists, decide_true, Bool.true_and]
        split <;> simp_all
      · -- a farther failure starts anew
        rw [Nat.max_eq_right (by omega), Note.payloadsAt_eq_nil farther, if_pos (by omega),
          if_pos rfl]
        rfl

/-- What is on record begins with the first payload noted at the deepest place, and repeats
nothing. -/
theorem exists_of_ofNotesBy_distinct {source : Value} {notes : List Note} {farthest : Farthest}
    (found : ofNotesBy distinct source notes = some farthest) :
    ∃ first others, (Note.payloadsAt (Note.deepest notes) notes).head? = some first
      ∧ farthest = ⟨first, source.drop (Note.deepest notes), first :: others⟩
      ∧ (first :: others).Pairwise fun known payload => ¬ known.same payload := by
  rw [ofNotesBy] at found
  split at found
  · cases found
  · rename_i first later there
    cases found
    obtain ⟨others, kept⟩ := exists_distinct_cons first later
    refine ⟨first, others, by rw [there, List.head?_cons], by rw [kept], ?_⟩
    rw [← kept]
    exact pairwise_distinct (first :: later)

/-- Equality that is transitive among all payloads is so among those at one place. -/
theorem ofNotesBy_distinct_eq {source : Value} {notes : List Note}
    (transitive : SameTransitive (notes.map (·.payload))) :
    ofNotesBy distinct source notes = ofNotes source notes := by
  have there : SameTransitive (Note.payloadsAt (Note.deepest notes) notes) := by
    have subset : ∀ payload ∈ Note.payloadsAt (Note.deepest notes) notes,
        payload ∈ notes.map (·.payload) := by
      intro payload member
      obtain ⟨note, kept, rfl⟩ := List.mem_map.1 member
      exact List.mem_map.2 ⟨note, List.mem_of_mem_filter kept, rfl⟩
    intro first one second two third three
    exact transitive first (subset first one) second (subset second two) third (subset third three)
  rw [ofNotes, ofNotesBy, ofNotesBy]
  split
  · rfl
  · rename_i found
    rw [found] at there
    rw [distinct_eq_withoutRepeats there]

end Record

end Peg
