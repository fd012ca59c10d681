import Std.Data.HashSet.Basic
import Peg.Pattern.Regex

/-! # The search for a match

A match is searched for by backtracking: alternatives are tried from left to right, a greedy
repetition tries one more round first and a lazy one tries to stop first, and the first way that
lets everything after it match wins. The search keeps a list of tasks, best first, so its depth is
bounded by memory alone. A task that is met a second time has failed before and is dropped, so the
search takes no longer than the number of tasks there are. -/

namespace Peg.Pattern

/-- A piece of work left to do at a place. -/
inductive Item where
  /-- Match an expression. -/
  | expr (regex : Regex)
  /-- End a round that started at an offset, and go on with what is left of the repetition. A round
  that read nothing ends the repetition. -/
  | round (start : Nat) (left : Regex)
deriving DecidableEq

/-- Work to do at a place. -/
structure Task where
  /-- The pieces of work, in order. -/
  work : List Item
  /-- The place. -/
  place : Place

/-- What doing the first piece of work of a task leads to. -/
inductive Turn where
  /-- There is nothing left to do: the match ends here. -/
  | done (place : Place)
  /-- One of several tasks is to be done, the first if possible. -/
  | oneOf (tasks : List Task)
  /-- The task is to be done if an expression matches here or, if `negated`, if it does not. -/
  | guarded (negated : Bool) (guard : Regex) (task : Task)

namespace Task

/-- A run of characters of a class. -/
def read (mode : Mode) (cls : CharClass) (least : Nat) (most : Option Nat) (greedy : Bool)
    (task : Task) : List Task :=
  let test := cls.accepts mode
  let limit := most.map (· - least)
  match task.place.readMany? test least with
  | none => []
  | some place =>
    if greedy then
      (Place.readAll test limit place.before place.rest place.offset []).map (⟨task.work, ·⟩)
    else
      let farther := if limit = some 0 then none else place.read? test
      ⟨task.work, place⟩ :: farther.toList.map fun later =>
        ⟨.expr (.run cls 0 (limit.map (· - 1)) false) :: task.work, later⟩

/-- Rounds of an expression. -/
def repeated (body : Regex) (least : Nat) (most : Option Nat) (greedy : Bool) (task : Task) :
    List Task :=
  let fewer := most.map (· - 1)
  match least with
  | least + 1 =>
    [⟨.expr body :: .expr (.rounds body least fewer greedy) :: task.work, task.place⟩]
  | 0 =>
    let again : Task :=
      ⟨.expr body :: .round task.place.offset (.rounds body 0 fewer greedy) :: task.work, task.place⟩
    if most = some 0 then [task] else if greedy then [again, task] else [task, again]

/-- Does the first piece of work of a task. -/
def turn (mode : Mode) (task : Task) : Turn :=
  match task.work with
  | [] => .done task.place
  | .round start left :: work =>
    if task.place.offset = start then .oneOf [⟨work, task.place⟩]
    else .oneOf [⟨.expr left :: work, task.place⟩]
  | .expr regex :: work =>
    let next : Task := ⟨work, task.place⟩
    match regex with
    | .empty => .oneOf [next]
    | .chars cls => .oneOf ((task.place.read? (cls.accepts mode)).toList.map (⟨work, ·⟩))
    | .seq first second => .oneOf [⟨.expr first :: .expr second :: work, task.place⟩]
    | .alt first second =>
      .oneOf [⟨.expr first :: work, task.place⟩, ⟨.expr second :: work, task.place⟩]
    | .run cls least most greedy => .oneOf (next.read mode cls least most greedy)
    | .rounds body least most greedy => .oneOf (next.repeated body least most greedy)
    | .look negated guard => .guarded negated guard next
    | .anchor test => .oneOf (if task.place.passes mode test then [next] else [])

end Task

/-! ## The search ends -/

/-- The sum of several numbers. -/
def sumOf : List Nat → Nat
  | [] => 0
  | number :: others => number + sumOf others

/-- Without numbers the sum is zero. -/
@[simp] theorem sumOf_nil : sumOf [] = 0 := rfl

/-- A number is added to the sum of the others. -/
@[simp] theorem sumOf_cons (number : Nat) (others : List Nat) :
    sumOf (number :: others) = number + sumOf others := rfl

/-- The sum of two lists in a row is that of their sums. -/
@[simp] theorem sumOf_append (numbers others : List Nat) :
    sumOf (numbers ++ others) = sumOf numbers + sumOf others := by
  induction numbers with
  | nil => rw [List.nil_append, sumOf_nil, Nat.zero_add]
  | cons number numbers inductionHypothesis =>
    rw [List.cons_append, sumOf_cons, sumOf_cons, inductionHypothesis, Nat.add_assoc]

/-- A bound on the pieces of work that an expression is split into without reading. -/
def Regex.weight : Regex → Nat
  | .empty | .chars _ | .run .. | .anchor _ => 1
  | .seq first second => first.weight + second.weight + 1
  | .alt first second => first.weight + second.weight + 1
  | .rounds body least _ _ => least * (body.weight + 1) + body.weight + 3
  | .look _ body => body.weight + 1

/-- The weight of a piece of work at an offset. -/
def Item.weight (offset : Nat) : Item → Nat
  | .expr regex => regex.weight
  | .round start left => if offset = start then 1 else left.weight + 1

namespace Task

/-- The weight of the work of a task. -/
def weight (task : Task) : Nat := sumOf (task.work.map (·.weight task.place.offset))

/-- How much text and how much work are left. -/
def size (task : Task) : Nat × Nat := (task.place.rest.length, task.weight)

/-- A task is smaller than another one when it has less text left, or as much text and less
work. -/
def Smaller (first second : Task) : Prop := Prod.Lex (· < ·) (· < ·) first.size second.size

/-- A task with less text left is smaller, however much work it has. -/
theorem smaller_of_text {first second : Task}
    (shorter : first.place.rest.length < second.place.rest.length) : first.Smaller second :=
  Prod.Lex.left _ _ shorter

/-- At the same place a task with less work is smaller. -/
theorem smaller_of_work {first second : Task} (here : first.place = second.place)
    (lighter : first.weight < second.weight) : first.Smaller second := by
  unfold Smaller size
  rw [here]
  exact Prod.Lex.right _ lighter

/-- The rest of the work, at the same place or farther on, is smaller. -/
theorem smaller_tail {item : Item} {work : List Item} {place later : Place}
    (positive : 0 < item.weight place.offset)
    (farther : later = place ∨ later.rest.length < place.rest.length) :
    (⟨work, later⟩ : Task).Smaller ⟨item :: work, place⟩ := by
  rcases farther with rfl | shorter
  · exact smaller_of_work rfl (by
      simp only [weight, List.map_cons, sumOf_cons]
      omega)
  · exact smaller_of_text shorter

/-- The tasks that a run of characters leads to are smaller. -/
theorem smaller_of_mem_read {mode : Mode} {cls : CharClass} {least : Nat} {most : Option Nat}
    {greedy : Bool} {work : List Item} {place : Place} {task : Task}
    (member : task ∈ (⟨work, place⟩ : Task).read mode cls least most greedy) :
    task.Smaller ⟨.expr (.run cls least most greedy) :: work, place⟩ := by
  unfold read at member
  dsimp only at member
  split at member
  · contradiction
  · next middle found =>
    have near := Place.eq_or_length_lt_of_readMany? found
    have tail {later : Place} (farther : later = middle ∨ later.rest.length < middle.rest.length) :
        (⟨work, later⟩ : Task).Smaller ⟨.expr (.run cls least most greedy) :: work, place⟩ := by
      apply smaller_tail (by simp [Item.weight, Regex.weight])
      rcases farther with rfl | shorter
      · exact near
      · rcases near with rfl | nearer
        · exact .inr shorter
        · exact .inr (Nat.lt_trans shorter nearer)
    split at member
    · obtain ⟨later, known, rfl⟩ := List.mem_map.1 member
      rcases Place.mem_readAll known with rfl | shorter | none
      · exact tail (.inl rfl)
      · exact tail (.inr shorter)
      · contradiction
    · rcases List.mem_cons.1 member with rfl | further
      · exact tail (.inl rfl)
      · obtain ⟨later, known, rfl⟩ := List.mem_map.1 further
        apply smaller_of_text
        have read : middle.read? (cls.accepts mode) = some later := by
          split at known
          · contradiction
          · exact Option.mem_toList.1 known
        have shorter := Place.length_rest_of_read? read
        rcases near with rfl | nearer
        · exact shorter
        · exact Nat.lt_trans shorter nearer

/-- The tasks that a repetition leads to are smaller. -/
theorem smaller_of_mem_repeated {body : Regex} {least : Nat} {most : Option Nat}
    {greedy : Bool} {work : List Item} {place : Place} {task : Task}
    (member : task ∈ (⟨work, place⟩ : Task).repeated body least most greedy) :
    task.Smaller ⟨.expr (.rounds body least most greedy) :: work, place⟩ := by
  have tail : (⟨work, place⟩ : Task).Smaller ⟨.expr (.rounds body least most greedy) :: work, place⟩ :=
    smaller_tail (by simp [Item.weight, Regex.weight]) (.inl rfl)
  cases least with
  | succ least =>
    have only := List.mem_singleton.1 member
    subst only
    refine smaller_of_work ?_ ?_
    · rfl
    · simp only [weight, Item.weight, Regex.weight, List.map_cons, sumOf_cons, Nat.add_mul]
      omega
  | zero =>
    have again : (⟨.expr body :: .round place.offset (.rounds body 0 (most.map (· - 1)) greedy)
        :: work, place⟩ : Task).Smaller ⟨.expr (.rounds body 0 most greedy) :: work, place⟩ := by
      refine smaller_of_work ?_ ?_
      · rfl
      · simp only [weight, Item.weight, Regex.weight, List.map_cons, sumOf_cons, Nat.zero_mul,
          if_true]
        omega
    unfold repeated at member
    dsimp only at member
    split at member
    · simp only [List.mem_singleton] at member
      exact member ▸ tail
    · split at member <;>
        simp only [List.mem_cons, List.not_mem_nil, or_false] at member <;>
        rcases member with rfl | rfl <;> assumption

/-- Doing the first piece of work leads to smaller tasks. -/
theorem smaller_of_mem_oneOf {mode : Mode} {task next : Task} {tasks : List Task}
    (turned : task.turn mode = .oneOf tasks) (member : next ∈ tasks) : next.Smaller task := by
  obtain ⟨work, place⟩ := task
  unfold turn at turned
  dsimp only at turned
  split at turned
  · contradiction
  · next start left work =>
    split at turned
    · next same =>
      cases turned
      rw [List.mem_singleton.1 member]
      exact smaller_tail (by simp [Item.weight, same]) (.inl rfl)
    · next other =>
      cases turned
      rw [List.mem_singleton.1 member]
      exact smaller_of_work rfl (by simp [weight, Item.weight, other])
  · next regex work =>
    split at turned
    · cases turned
      rw [List.mem_singleton.1 member]
      exact smaller_tail (by simp [Item.weight, Regex.weight]) (.inl rfl)
    · next cls =>
      cases turned
      obtain ⟨later, known, rfl⟩ := List.mem_map.1 member
      exact smaller_of_text (Place.length_rest_of_read? (Option.mem_toList.1 known))
    · cases turned
      rw [List.mem_singleton.1 member]
      exact smaller_of_work rfl (by
        simp only [weight, Item.weight, Regex.weight, List.map_cons, sumOf_cons]
        omega)
    · cases turned
      simp only [List.mem_cons, List.not_mem_nil, or_false] at member
      rcases member with rfl | rfl <;>
        exact smaller_of_work rfl (by
          simp only [weight, Item.weight, Regex.weight, List.map_cons, sumOf_cons]
          omega)
    · cases turned
      exact smaller_of_mem_read member
    · cases turned
      exact smaller_of_mem_repeated member
    · contradiction
    · cases turned
      split at member
      · rw [List.mem_singleton.1 member]
        exact smaller_tail (by simp [Item.weight, Regex.weight]) (.inl rfl)
      · contradiction

/-- A guard and the task behind it are smaller than the task they come from. -/
theorem smaller_of_guarded {mode : Mode} {task next : Task} {negated : Bool} {guard : Regex}
    (turned : task.turn mode = .guarded negated guard next) :
    (⟨[.expr guard], next.place⟩ : Task).Smaller task ∧ next.Smaller task := by
  obtain ⟨work, place⟩ := task
  unfold turn at turned
  dsimp only at turned
  split at turned
  · contradiction
  · split at turned <;> contradiction
  · split at turned <;> cases turned
    constructor
    · exact smaller_of_work rfl (by
        simp only [weight, Item.weight, Regex.weight, List.map_cons, sumOf_cons,
          List.map_nil, sumOf_nil]
        omega)
    · exact smaller_tail (by simp [Item.weight, Regex.weight]) (.inl rfl)

/-- The number of turns that a task takes if nothing is dropped. It bounds the search and is never
computed. -/
def cost (mode : Mode) (task : Task) : Nat :=
  match turned : task.turn mode with
  | .done _ => 1
  | .oneOf tasks => 1 + sumOf (tasks.attach.map fun next => next.1.cost mode)
  | .guarded _ guard next =>
    1 + (⟨[.expr guard], next.place⟩ : Task).cost mode + next.cost mode
termination_by task.size
decreasing_by
  · exact smaller_of_mem_oneOf turned next.2
  · exact (smaller_of_guarded turned).1
  · exact (smaller_of_guarded turned).2

/-- Every task takes a turn. -/
theorem cost_pos (mode : Mode) (task : Task) : 0 < task.cost mode := by
  rw [cost]
  split <;> omega

/-- A task takes one turn, and then those of all tasks that come of it. -/
theorem cost_of_oneOf {mode : Mode} {task : Task} {tasks : List Task}
    (turned : task.turn mode = .oneOf tasks) :
    task.cost mode = 1 + sumOf (tasks.map (cost mode)) := by
  rw [cost]
  split <;> simp_all

/-- A guarded task takes one turn, those of its guard, and those of what comes after it. -/
theorem cost_of_guarded {mode : Mode} {task next : Task} {negated : Bool} {guard : Regex}
    (turned : task.turn mode = .guarded negated guard next) :
    task.cost mode = 1 + (⟨[.expr guard], next.place⟩ : Task).cost mode + next.cost mode := by
  rw [cost]
  split <;> simp_all

/-- The task has a choice to make. -/
def isChoice (task : Task) : Bool :=
  match task.work with
  | .expr (.alt ..) :: _ | .expr (.run ..) :: _ | .expr (.rounds ..) :: _ => true
  | _ => false

end Task

/-- What tells one task from the others of a search: all of them work on the same text. -/
structure Visit where
  /-- The offset of the place. -/
  offset : Nat
  /-- The work to do there. -/
  work : List Item
deriving DecidableEq

/-- A number that is often different for different pieces of work. -/
def Item.mark : Item → UInt64
  | .expr (.rounds _ least most _) => mixHash (hash least) (hash most)
  | .expr (.run _ least most _) => mixHash (hash most) (hash least)
  | .expr _ => 1
  | .round start _ => hash start

instance : Hashable Visit where
  hash visit := visit.work.foldl (fun total item => mixHash total item.mark) (hash visit.offset)

/-- A piece of work as far as it matters at an offset: of a round that has read something, it does
not matter where it started. -/
def Item.settled (offset : Nat) : Item → Item
  | .round start left => .round (if start = offset then start else offset + 1) left
  | item => item

/-- The visit of a task. -/
def Task.visit (task : Task) : Visit :=
  ⟨task.place.offset, task.work.map (·.settled task.place.offset)⟩

/-- Searches through tasks, best first, for the place where the first match ends. Tasks that had a
choice to make are noted in `seen`. -/
def search (mode : Mode) (seen : Std.HashSet Visit) (todo : List Task) : Option Place :=
  match todo with
  | [] => none
  | task :: others =>
    if task.isChoice && seen.contains task.visit then search mode seen others
    else
      let noted := if task.isChoice then seen.insert task.visit else seen
      match _turned : task.turn mode with
      | .done place => some place
      | .oneOf tasks => search mode noted (tasks ++ others)
      | .guarded negated guard next =>
        if (search mode ∅ [⟨[.expr guard], next.place⟩]).isSome != negated then
          search mode noted (next :: others)
        else search mode noted others
termination_by sumOf (todo.map (Task.cost mode))
decreasing_by
  all_goals simp only [List.map_cons, List.map_nil, sumOf_cons, sumOf_nil, List.map_append,
    sumOf_append]
  · have := task.cost_pos mode
    omega
  · have := Task.cost_of_oneOf _turned
    omega
  · have := Task.cost_of_guarded _turned
    omega
  · have := Task.cost_of_guarded _turned
    omega
  · have := Task.cost_of_guarded _turned
    omega

/-! ## The search stays in its text -/

namespace Task

/-- The tasks that come of a task are in the same text. -/
theorem total_of_mem_oneOf {mode : Mode} {task next : Task} {tasks : List Task}
    (turned : task.turn mode = .oneOf tasks) (member : next ∈ tasks) :
    next.place.total = task.place.total := by
  obtain ⟨work, place⟩ := task
  unfold turn at turned
  dsimp only at turned
  split at turned
  · contradiction
  · split at turned <;> cases turned <;> rw [List.mem_singleton.1 member]
  · next regex work =>
    split at turned
    · cases turned
      rw [List.mem_singleton.1 member]
    · cases turned
      obtain ⟨later, known, rfl⟩ := List.mem_map.1 member
      exact Place.total_of_read? (Option.mem_toList.1 known)
    · cases turned
      rw [List.mem_singleton.1 member]
    · cases turned
      simp only [List.mem_cons, List.not_mem_nil, or_false] at member
      rcases member with rfl | rfl <;> rfl
    · cases turned
      unfold read at member
      dsimp only at member
      split at member
      · contradiction
      · next middle found =>
        rw [← Place.total_of_readMany? found]
        split at member
        · obtain ⟨later, known, rfl⟩ := List.mem_map.1 member
          exact Place.total_of_mem_readAll (by simp) known
        · rcases List.mem_cons.1 member with rfl | further
          · rfl
          · obtain ⟨later, known, rfl⟩ := List.mem_map.1 further
            split at known
            · contradiction
            · exact Place.total_of_read? (Option.mem_toList.1 known)
    · cases turned
      unfold repeated at member
      dsimp only at member
      split at member
      · rw [List.mem_singleton.1 member]
      · split at member
        · rw [List.mem_singleton.1 member]
        · split at member <;>
            simp only [List.mem_cons, List.not_mem_nil, or_false] at member <;>
            rcases member with rfl | rfl <;> rfl
    · contradiction
    · cases turned
      split at member
      · rw [List.mem_singleton.1 member]
      · contradiction

/-- A match ends where its last task is. -/
theorem place_of_done {mode : Mode} {task : Task} {place : Place}
    (turned : task.turn mode = .done place) : place = task.place := by
  obtain ⟨work, here⟩ := task
  unfold turn at turned
  dsimp only at turned
  split at turned
  · cases turned
    rfl
  · split at turned <;> contradiction
  · split at turned <;> contradiction

/-- A guard reads nothing. -/
theorem place_of_guarded {mode : Mode} {task next : Task} {negated : Bool} {guard : Regex}
    (turned : task.turn mode = .guarded negated guard next) : next.place = task.place := by
  obtain ⟨work, here⟩ := task
  unfold turn at turned
  dsimp only at turned
  split at turned
  · contradiction
  · split at turned <;> contradiction
  · split at turned <;> cases turned
    rfl

end Task

/-- A search among places of one text ends at a place of it. -/
theorem total_of_search {mode : Mode} {seen : Std.HashSet Visit} {todo : List Task} {place : Place}
    {total : Nat} (same : ∀ task ∈ todo, task.place.total = total)
    (found : search mode seen todo = some place) : place.total = total := by
  fun_induction search mode seen todo with
  | case1 => contradiction
  | case2 seen task others _ ih =>
    exact ih (fun next member => same next (List.mem_cons_of_mem _ member)) found
  | case3 seen task others _ here turned =>
    cases found
    rw [Task.place_of_done turned]
    exact same task List.mem_cons_self
  | case4 seen task others _ noted tasks turned ih =>
    refine ih (fun next member => ?_) found
    rcases List.mem_append.1 member with new | old
    · rw [Task.total_of_mem_oneOf turned new]
      exact same task List.mem_cons_self
    · exact same next (List.mem_cons_of_mem _ old)
  | case5 seen task others _ noted negated guard next turned _ _ ih =>
    refine ih (fun other member => ?_) found
    rcases List.mem_cons.1 member with rfl | old
    · rw [Task.place_of_guarded turned]
      exact same task List.mem_cons_self
    · exact same other (List.mem_cons_of_mem _ old)
  | case6 seen task others _ noted negated guard next turned _ _ ih =>
    exact ih (fun other member => same other (List.mem_cons_of_mem _ member)) found

/-- The place where the preferred match of an expression ends. -/
def Regex.endOfMatch? (mode : Mode) (regex : Regex) (place : Place) : Option Place :=
  search mode ∅ [⟨[.expr regex], place⟩]

/-- A match starts at the place and ends in its text. -/
theorem Regex.total_of_endOfMatch? {mode : Mode} {regex : Regex} {place later : Place}
    (found : regex.endOfMatch? mode place = some later) : later.total = place.total :=
  total_of_search (by simp) found

/-- A match that starts where nothing has been read yet reads no more than there is. -/
theorem Regex.offset_le_of_endOfMatch? {mode : Mode} {regex : Regex} {before : Option Char}
    {rest : List Char} {later : Place}
    (found : regex.endOfMatch? mode ⟨before, rest, 0⟩ = some later) :
    later.offset ≤ rest.length := by
  have total := total_of_endOfMatch? found
  simp only [Place.total] at total
  omega

end Peg.Pattern
