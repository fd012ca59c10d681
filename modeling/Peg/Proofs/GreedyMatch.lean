import Mathlib.Data.List.Basic
import Std.Data.HashSet.Lemmas
import Peg.Calculator

/-! # What greedy patterns match

The search for a match goes through tasks, best first. For the patterns of the calculator the first
task that comes to an end is the one that reads as much as it can, so the length of their match can
be read off the text.

* **`matchLength?_run`**: a greedy repetition of a class reads the whole run of characters of the
  class, if that is long enough.
* **`matchLength?_chars`**: a class reads one character.
* **`matchLength?_numeral`**: digits, and more digits after a point, read the numeral at the start
  of the text. -/

namespace Peg

namespace Pattern

/-! ## Runs of characters -/

namespace Place

/-- The place behind the run of characters that pass a test. -/
def behindRun (test : Char → Bool) (place : Place) : Place where
  before := (place.rest.takeWhile test).getLast? <|> place.before
  rest := place.rest.dropWhile test
  offset := place.offset + (place.rest.takeWhile test).length

/-- The length of the run of characters that pass a test. -/
def runLength (test : Char → Bool) (place : Place) : Nat := (place.rest.takeWhile test).length

/-- A character that passes belongs to the run, which is one shorter behind it and ends at the same
place. -/
theorem read?_eq_some {test : Char → Bool} {place later : Place}
    (found : place.read? test = some later) :
    place.runLength test = later.runLength test + 1
      ∧ later.behindRun test = place.behindRun test := by
  obtain ⟨before, rest, offset⟩ := place
  cases rest with
  | nil => cases found
  | cons c rest =>
    simp only [read?] at found
    split at found
    · rename_i passes
      cases found
      refine ⟨by simp [runLength, passes], ?_⟩
      simp only [behindRun, List.takeWhile_cons, List.dropWhile_cons, passes, if_true,
        List.getLast?_cons, List.length_cons, mk.injEq, true_and]
      refine ⟨?_, by omega⟩
      cases (rest.takeWhile test).getLast? <;> rfl
    · cases found

/-- Where no character passes, the run is empty. -/
theorem read?_eq_none {test : Char → Bool} {place : Place} (none : place.read? test = none) :
    place.runLength test = 0 := by
  obtain ⟨before, rest, offset⟩ := place
  cases rest with
  | nil => rfl
  | cons c rest =>
    simp only [read?] at none
    split at none
    · cases none
    · rename_i refused
      simp [runLength, refused]

/-- A fixed number of characters can be read if the run is as long as that, and the run ends where
it did. -/
theorem readMany?_of_le {test : Char → Bool} {count : Nat} {place : Place}
    (enough : count ≤ place.runLength test) :
    ∃ later, place.readMany? test count = some later
      ∧ later.behindRun test = place.behindRun test := by
  induction count generalizing place with
  | zero => exact ⟨place, rfl, rfl⟩
  | succ count inductionHypothesis =>
    cases first : place.read? test with
    | none =>
      have short := read?_eq_none first
      omega
    | some middle =>
      obtain ⟨length, same⟩ := read?_eq_some first
      have enoughLater : count ≤ middle.runLength test := by omega
      obtain ⟨later, found, behind⟩ := inductionHypothesis enoughLater
      exact ⟨later, by rw [readMany?, first]; exact found, behind.trans same⟩

/-- A run that is too short is not read at all. -/
theorem readMany?_of_lt {test : Char → Bool} {count : Nat} {place : Place}
    (short : place.runLength test < count) : place.readMany? test count = none := by
  induction count generalizing place with
  | zero => omega
  | succ count inductionHypothesis =>
    rw [readMany?]
    cases first : place.read? test with
    | none => rfl
    | some middle =>
      obtain ⟨length, -⟩ := read?_eq_some first
      have shortLater : middle.runLength test < count := by omega
      exact inductionHypothesis shortLater

/-- The farthest place that reading leads to is the one behind the run. -/
theorem exists_readAll_eq (test : Char → Bool) (before : Option Char) (rest : List Char)
    (offset : Nat) (nearer : List Place) :
    ∃ others, readAll test none before rest offset nearer
      = (⟨before, rest, offset⟩ : Place).behindRun test :: others := by
  induction rest generalizing before offset nearer with
  | nil => exact ⟨nearer, rfl⟩
  | cons c rest inductionHypothesis =>
    rw [readAll]
    · split
      · rename_i passes
        obtain ⟨others, same⟩ :=
          inductionHypothesis (some c) (offset + 1) (⟨before, c :: rest, offset⟩ :: nearer)
        refine ⟨others, ?_⟩
        rw [Option.map_none, same]
        congr 1
        exact (read?_eq_some (by simp [read?, passes])).2
      · rename_i refused
        refine ⟨nearer, ?_⟩
        simp [behindRun, refused]
    · simp

end Place

/-! ## Steps of the search -/

/-- The best way to read a greedy run is to read all of it. -/
theorem Task.exists_read_eq (mode : Mode) (cls : CharClass) (least : Nat) (work : List Item)
    (place : Place) (enough : least ≤ place.runLength (cls.accepts mode)) :
    ∃ others, (⟨work, place⟩ : Task).read mode cls least none true
      = ⟨work, place.behindRun (cls.accepts mode)⟩ :: others := by
  obtain ⟨later, found, behind⟩ := Place.readMany?_of_le enough
  obtain ⟨others, all⟩ :=
    Place.exists_readAll_eq (cls.accepts mode) later.before later.rest later.offset []
  refine ⟨others.map (⟨work, ·⟩), ?_⟩
  simp only [Task.read, found, if_true, Option.map_none, all, List.map_cons]
  rw [← behind]

/-- A run that is too short leaves nothing to be done. -/
theorem Task.read_eq_nil {mode : Mode} {cls : CharClass} {least : Nat} {work : List Item}
    {place : Place} (short : place.runLength (cls.accepts mode) < least) :
    (⟨work, place⟩ : Task).read mode cls least none true = [] := by
  simp only [Task.read, Place.readMany?_of_lt short]

variable {mode : Mode} {seen : Std.HashSet Visit} {others : List Task}

/-- Where no work is left the match ends, and the other tasks are not looked at. -/
theorem search_done (place : Place) :
    search mode seen (⟨[], place⟩ :: others) = some place := by
  rw [search]
  simp [Task.isChoice, Task.turn]

/-- A task without a choice is replaced by what it leads to. -/
theorem search_plain {task : Task} {tasks : List Task} (plain : task.isChoice = false)
    (turned : task.turn mode = .oneOf tasks) :
    search mode seen (task :: others) = search mode seen (tasks ++ others) := by
  rw [search]
  simp only [plain, Bool.false_and, Bool.false_eq_true, if_false]
  split <;> rename_i same <;> rw [turned] at same <;> cases same
  rfl

/-- A task with a choice that was not met before is noted and replaced by its alternatives. -/
theorem search_choice {task : Task} {tasks : List Task} (choice : task.isChoice = true)
    (fresh : seen.contains task.visit = false) (turned : task.turn mode = .oneOf tasks) :
    search mode seen (task :: others)
      = search mode (seen.insert task.visit) (tasks ++ others) := by
  rw [search]
  simp only [choice, fresh, Bool.and_false, Bool.false_eq_true, if_false, if_true]
  split <;> rename_i same <;> rw [turned] at same <;> cases same
  rfl

end Pattern

open Pattern

/-! ## Patterns -/

/-- A pattern for text in the full dialect, without flags. -/
def Pattern.plain (source : String) (regex : Regex) : Pattern :=
  .ofRegex .full (.text source.toList) {} regex

namespace Pattern

variable {source : String} {before rest : List Char}

/-- A plain pattern matches as far as the search for its expression goes. -/
theorem matchLength?_plain (source : String) (regex : Regex) (before rest : List Char) :
    (plain source regex).matchLength? before rest
      = (search ⟨.full, false, false⟩ ∅ [⟨[.expr regex], ⟨before.head?, rest, 0⟩⟩]).map (·.offset) :=
  matchLength?_ofRegex .full (.text source.toList) {} regex before rest

/-- **A greedy repetition of a class** reads the whole run of its characters. -/
theorem matchLength?_run (cls : CharClass) (least : Nat) {test : Char → Bool}
    (accepts : cls.accepts ⟨.full, false, false⟩ = test) :
    (plain source (.run cls least none true)).matchLength? before rest
      = if least ≤ (rest.takeWhile test).length then some (rest.takeWhile test).length
        else none := by
  have fresh (visit : Visit) : (∅ : Std.HashSet Visit).contains visit = false := by simp
  rw [matchLength?_plain, search_choice rfl (fresh _) rfl, List.append_nil]
  split
  · rename_i enough
    obtain ⟨others, best⟩ := Task.exists_read_eq ⟨.full, false, false⟩ cls least []
      ⟨before.head?, rest, 0⟩ (by rw [accepts]; exact enough)
    rw [best, search_done, accepts]
    simp [Place.behindRun]
  · rename_i short
    have none : (⟨[], ⟨before.head?, rest, 0⟩⟩ : Task).read ⟨.full, false, false⟩ cls least none true
        = [] := by
      apply Task.read_eq_nil
      rw [accepts]
      exact Nat.not_le.1 short
    rw [none, search]
    rfl

/-- **A class** reads one character. -/
theorem matchLength?_chars (cls : CharClass) {test : Char → Bool}
    (accepts : cls.accepts ⟨.full, false, false⟩ = test) :
    (plain source (.chars cls)).matchLength? before rest
      = if rest.head?.any test then some 1 else none := by
  rw [matchLength?_plain, search_plain rfl rfl, List.append_nil, accepts]
  have none : (search ⟨.full, false, false⟩ ∅ []).map (·.offset) = none := by
    rw [search]
    rfl
  cases rest with
  | nil => simpa [Place.read?] using none
  | cons c rest =>
    by_cases passes : test c
    · simp [Place.read?, passes, search_done]
    · simpa [Place.read?, passes] using none

/-! ## Numerals -/

/-- The class of the digits. -/
def digits : CharClass := ⟨false, [.named .digit false]⟩

/-- The class of several characters. -/
def oneOf (chars : List Char) : CharClass := ⟨false, chars.map fun c => .range c.toNat c.toNat⟩

/-- The class accepts exactly the digits. -/
theorem digits_accepts : digits.accepts ⟨.full, false, false⟩ = Text.isDigit := by
  funext c
  simp [digits, CharClass.accepts, ClassItem.accepts, Mode.holds, NamedSet.holds]

/-- The class accepts exactly the listed characters. -/
theorem oneOf_accepts (chars : List Char) :
    (oneOf chars).accepts ⟨.full, false, false⟩ = fun c => decide (c ∈ chars) := by
  funext c
  have same (alone : Bool) (known : Char) :
      (ClassItem.range known.toNat known.toNat).accepts ⟨.full, false, false⟩ alone c
        ↔ c = known := by
    simp only [ClassItem.accepts, Mode.variants, Bool.not_false, if_true, List.any_cons,
      List.any_nil, Bool.or_false, Bool.and_eq_true, decide_eq_true_eq, ← Nat.le_antisymm_iff,
      Char.toNat_inj]
    exact eq_comm
  rw [Bool.eq_iff_iff]
  unfold CharClass.accepts oneOf
  split
  · rename_i item only
    obtain ⟨known, rfl, rfl⟩ := List.map_eq_singleton_iff.1 only
    simp [same]
  · simp only [Bool.bne_false, List.any_eq_true, List.mem_map, decide_eq_true_eq]
    constructor
    · rintro ⟨item, ⟨known, member, rfl⟩, accepted⟩
      rwa [(same false known).1 accepted]
    · intro member
      exact ⟨_, ⟨c, member, rfl⟩, (same false c).2 rfl⟩

/-- A point and digits, or nothing. -/
def fraction : Regex := .alt (.seq (.chars (oneOf ['.'])) (.run digits 1 none true)) .empty

/-- Digits, and more digits after a point. -/
def numeral : Regex := .seq (.run digits 1 none true) fraction

/-- The fraction at the start of a text: a point and at least one digit; empty if there is none. -/
def fractionAt : List Char → List Char
  | [] => []
  | c :: rest =>
    if c = '.' ∧ rest.takeWhile Text.isDigit ≠ [] then c :: rest.takeWhile Text.isDigit else []

/-- The numeral at the start of a text; empty if there is none. -/
def numeralAt (text : List Char) : List Char :=
  if text.takeWhile Text.isDigit = [] then []
  else text.takeWhile Text.isDigit ++ fractionAt (text.dropWhile Text.isDigit)

/-- The search for a fraction ends behind the fraction at the start of the text. No task with a
single piece of work may have been met before. -/
theorem search_fraction {seen : Std.HashSet Visit} {others : List Task} (place : Place)
    (fresh : ∀ visit : Visit, visit.work.length = 1 → seen.contains visit = false) :
    (search ⟨.full, false, false⟩ seen (⟨[.expr fraction], place⟩ :: others)).map (·.offset)
      = some (place.offset + (fractionAt place.rest).length) := by
  obtain ⟨before, rest, offset⟩ := place
  -- the second alternative reads nothing
  have nothing (seen : Std.HashSet Visit) :
      (search ⟨.full, false, false⟩ seen
        (⟨[.expr .empty], ⟨before, rest, offset⟩⟩ :: others)).map (·.offset) = some offset := by
    rw [search_plain rfl rfl, List.cons_append, search_done]
    rfl
  rw [search_choice rfl (fresh _ rfl) rfl, List.cons_append, search_plain rfl rfl,
    List.cons_append, search_plain rfl rfl, oneOf_accepts]
  cases rest with
  | nil => exact nothing _
  | cons c rest =>
    by_cases dot : c = '.'
    · subst dot
      have next (seen : Std.HashSet Visit) (others : List Task) :
          search ⟨.full, false, false⟩ seen
            (((⟨before, '.' :: rest, offset⟩ : Place).read? fun c => decide (c ∈ ['.'])).toList.map
              (⟨[.expr (.run digits 1 none true)], ·⟩) ++ others)
          = search ⟨.full, false, false⟩ seen
            (⟨[.expr (.run digits 1 none true)], ⟨some '.', rest, offset + 1⟩⟩ :: others) := rfl
      have unmet : (seen.insert
          (⟨[.expr fraction], ⟨before, '.' :: rest, offset⟩⟩ : Task).visit).contains
            (⟨[.expr (.run digits 1 none true)], ⟨some '.', rest, offset + 1⟩⟩ : Task).visit
          = false := by
        rw [Std.HashSet.contains_insert, fresh _ rfl, Bool.or_false, beq_eq_false_iff_ne]
        intro same
        cases same
      rw [next, search_choice rfl unmet rfl]
      by_cases some : rest.takeWhile Text.isDigit = []
      · rw [Task.read_eq_nil (by rw [digits_accepts]; simp [Place.runLength, some])]
        simpa [fractionAt, some] using nothing _
      · obtain ⟨farther, best⟩ := Task.exists_read_eq ⟨.full, false, false⟩ digits 1 []
          ⟨.some '.', rest, offset + 1⟩
          (by rw [digits_accepts]; exact List.length_pos_iff.2 some)
        rw [best, List.cons_append, search_done, digits_accepts]
        simp [Place.behindRun, fractionAt, some]
        omega
    · simpa [Place.read?, fractionAt, dot] using nothing _

/-- **Digits, and more digits after a point,** read the numeral at the start of the text. -/
theorem matchLength?_numeral :
    (plain source numeral).matchLength? before rest
      = if numeralAt rest = [] then none else some (numeralAt rest).length := by
  have fresh (visit : Visit) : (∅ : Std.HashSet Visit).contains visit = false := by simp
  rw [matchLength?_plain, numeral, search_plain rfl rfl, List.append_nil,
    search_choice rfl (fresh _) rfl, List.append_nil]
  by_cases whole : rest.takeWhile Text.isDigit = []
  · -- without a digit nothing matches
    rw [Task.read_eq_nil (by rw [digits_accepts]; simp [Place.runLength, whole]), search, numeralAt,
      if_pos whole, if_pos rfl]
    rfl
  · obtain ⟨others, best⟩ := Task.exists_read_eq ⟨.full, false, false⟩ digits 1 [.expr fraction]
      ⟨before.head?, rest, 0⟩
      (by rw [digits_accepts]; exact List.length_pos_iff.2 whole)
    rw [best, search_fraction]
    · rw [numeralAt, if_neg whole, if_neg (by simp [whole]), List.length_append, digits_accepts]
      simp [Place.behindRun]
    · intro visit single
      -- the only task met so far had two pieces of work
      rw [Std.HashSet.contains_insert, fresh visit, Bool.or_false, beq_eq_false_iff_ne]
      rintro rfl
      cases single

end Pattern

end Peg
