import Peg.Proofs.Equality
import Peg.Record

/-! # Merging records

Two records of failures, one after the other, make one: that of the farther place or, where the
places are equally far, the earlier one with what the later one adds to its alternatives.

* **`Farthest.lists_join`**: the joined alternatives list what either row lists. This is where
  equality of values has to be transitive: a payload may be left out because it is the same as one
  of the first row, and whatever is the same as it must be left out as well.
* **`Record.merge_assoc`**: merging is associative, with the empty record as its unit.
* **`Record.note_eq_merge`**: to note a failure is to merge with the record of that failure. -/

namespace Peg

namespace Farthest

/-- The first place, with the alternatives of the second one that it does not list. -/
def join (first second : Farthest) : Farthest :=
  { first with
    alternatives := first.alternatives
      ++ second.alternatives.filter fun payload => !first.lists payload }

/-- The farther of two places; of places that are equally far, the first with the alternatives of
both. -/
def merge (first second : Farthest) : Farthest :=
  if second.rest.length < first.rest.length then second
  else if first.rest.length < second.rest.length then first
  else first.join second

/-- Joined places stay where the first one is. -/
@[simp] theorem join_rest (first second : Farthest) : (first.join second).rest = first.rest := rfl

/-- A place lists what equals one of its alternatives. -/
theorem lists_iff (farthest : Farthest) (payload : Value) :
    farthest.lists payload ↔ ∃ known ∈ farthest.alternatives, known.same payload :=
  List.any_eq_true

/-- What is the same as a payload that is listed is listed. -/
theorem lists_of_same {farthest : Farthest} {payload other : Value}
    (listed : farthest.lists payload) (same : payload.same other) : farthest.lists other := by
  obtain ⟨known, member, equal⟩ := (farthest.lists_iff payload).1 listed
  exact (farthest.lists_iff other).2 ⟨known, member, Value.same_trans equal same⟩

/-- **The joined alternatives list what either row lists.** -/
theorem lists_join (first second : Farthest) (payload : Value) :
    (first.join second).lists payload = (first.lists payload || second.lists payload) := by
  rw [Bool.eq_iff_iff, Bool.or_eq_true]
  constructor
  · intro listed
    obtain ⟨known, member, same⟩ := ((first.join second).lists_iff payload).1 listed
    rcases List.mem_append.1 member with old | new
    · exact .inl ((first.lists_iff payload).2 ⟨known, old, same⟩)
    · exact .inr ((second.lists_iff payload).2 ⟨known, (List.mem_filter.1 new).1, same⟩)
  · rintro (early | late)
    · obtain ⟨known, member, same⟩ := (first.lists_iff payload).1 early
      exact ((first.join second).lists_iff payload).2 ⟨known, List.mem_append_left _ member, same⟩
    · obtain ⟨known, member, same⟩ := (second.lists_iff payload).1 late
      by_cases old : first.lists known
      · -- what stands for the payload was left out, so the first row has something for it
        obtain ⟨older, there, equal⟩ := (first.lists_iff payload).1 (lists_of_same old same)
        exact ((first.join second).lists_iff payload).2
          ⟨older, List.mem_append_left _ there, equal⟩
      · refine ((first.join second).lists_iff payload).2 ⟨known, List.mem_append_right _ ?_, same⟩
        rw [List.mem_filter]
        exact ⟨member, by simp [old]⟩

/-- Joining is associative, since an alternative is dropped exactly if an earlier one equals it. -/
theorem join_assoc (first second third : Farthest) :
    (first.join second).join third = first.join (second.join third) := by
  have kept : (third.alternatives.filter fun payload => !(first.join second).lists payload)
      = (third.alternatives.filter fun payload => !second.lists payload).filter
        fun payload => !first.lists payload := by
    rw [List.filter_filter]
    congr 1
    funext payload
    rw [lists_join, Bool.not_or]
  simp only [join, Farthest.mk.injEq, true_and, List.filter_append, ← List.append_assoc] at kept ⊢
  rw [kept]

section Merge

variable {first second : Farthest}

/-- The second place wins if it is farther on. -/
theorem merge_of_gt (farther : second.rest.length < first.rest.length) :
    first.merge second = second :=
  if_pos farther

/-- The first place stays if it is farther on. -/
theorem merge_of_lt (nearer : first.rest.length < second.rest.length) :
    first.merge second = first := by
  rw [merge, if_neg (by omega), if_pos nearer]

/-- Places that are equally far are joined. -/
theorem merge_of_eq (same : first.rest.length = second.rest.length) :
    first.merge second = first.join second := by
  rw [merge, if_neg (by omega), if_neg (by omega)]

end Merge

/-- Merging places is associative: a place that is farther than the others is the result, and those
that are equally far are joined. -/
theorem merge_assoc (first second third : Farthest) :
    (first.merge second).merge third = first.merge (second.merge third) := by
  rcases Nat.lt_trichotomy first.rest.length second.rest.length with one | one | one
  · rw [merge_of_lt one]
    rcases Nat.lt_trichotomy second.rest.length third.rest.length with two | two | two
    · rw [merge_of_lt two, merge_of_lt one, merge_of_lt (by omega)]
    · rw [merge_of_eq two, merge_of_lt (by omega), merge_of_lt (by rwa [join_rest])]
    · rw [merge_of_gt two]
  · rw [merge_of_eq one]
    rcases Nat.lt_trichotomy second.rest.length third.rest.length with two | two | two
    · rw [merge_of_lt two, merge_of_eq one, merge_of_lt (by rw [join_rest]; omega)]
    · rw [merge_of_eq two, merge_of_eq (by rw [join_rest]; omega),
        merge_of_eq (by rwa [join_rest]), join_assoc]
    · rw [merge_of_gt two, merge_of_gt (by rw [join_rest]; omega), merge_of_gt (by omega)]
  · rw [merge_of_gt one]
    rcases Nat.lt_trichotomy second.rest.length third.rest.length with two | two | two
    · rw [merge_of_lt two, merge_of_gt one]
    · rw [merge_of_eq two, merge_of_gt (by rwa [join_rest])]
    · rw [merge_of_gt two, merge_of_gt (by omega)]

end Farthest

namespace Record

/-- Two records, one after the other, as one. -/
def merge (first second : Record) : Record := Option.merge Farthest.merge first second

/-- A record before which there is none stays. -/
@[simp] theorem none_merge (record : Record) : merge none record = record := Option.merge_none_left

/-- A record after which there is none stays. -/
@[simp] theorem merge_none (record : Record) : record.merge none = record := Option.merge_none_right

/-- **Merging is associative.** -/
theorem merge_assoc (first second third : Record) :
    (first.merge second).merge third = first.merge (second.merge third) := by
  have places : Std.Associative Farthest.merge := ⟨Farthest.merge_assoc⟩
  have records : Std.Associative (Option.merge Farthest.merge) := inferInstance
  exact records.assoc first second third

/-- **A failure is noted** by merging with the record of that failure. -/
theorem note_eq_merge (record : Record) (payload rest : Value) :
    record.note payload rest = record.merge (some (.single payload rest)) := by
  cases record with
  | none => rfl
  | some farthest =>
    change _ = some (farthest.merge (.single payload rest))
    rcases Nat.lt_trichotomy farthest.rest.length rest.length with nearer | same | farther
    · rw [Farthest.merge_of_lt nearer, note, if_neg (by omega), if_neg (by simp; omega)]
    · rw [Farthest.merge_of_eq same, note, if_neg (by omega)]
      by_cases listed : farthest.lists payload
      · simp [Farthest.join, Farthest.single, listed]
      · simp [Farthest.join, Farthest.single, same, listed]
    · rw [Farthest.merge_of_gt farther, note, if_pos farther]

/-- What is merged before a note is merged before the record with the note. -/
theorem merge_note (first second : Record) (payload rest : Value) :
    (first.merge second).note payload rest = first.merge (second.note payload rest) := by
  rw [note_eq_merge, note_eq_merge, merge_assoc]

end Record

end Peg
