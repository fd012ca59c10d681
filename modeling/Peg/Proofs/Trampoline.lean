import Peg.Proofs.Growth
import Peg.Proofs.Run
import Peg.Proofs.State
import Peg.Trampoline

/-! # Runs as computations in steps

A run of the machine that ends is a computation in steps, and the driver that takes the steps of
that computation one after the other comes to where the run ends. A computation in steps is finite,
so a run that goes on for ever is none.

* **`machine_runs_on_trampoline`**: a run ends within some fuel exactly if it is a computation with
  no more deferred steps than that, and there is only one such computation.
* **`Step.parity`**, **`Step.sumTo_eq`**, **`Step.behind_eq`**: what the small computations come to,
  and how many steps they defer.
* **`Callee.call_undefined_rule`**: a deferred call of a rule that is not defined raises the fault
  that the machine raises.
* **`Callee.call_keeps_values`**: an extreme is one of the values it is looked for among, and a row
  that is put in order keeps its values. -/

namespace Peg

/-! ## Computations in steps -/

namespace Step

/-- How many steps are deferred. -/
def bounces : Step α → Nat
  | .done _ => 0
  | .bounce next => (next ()).bounces + 1

/-- An answer defers nothing. -/
@[simp] theorem bounces_done (answer : α) : (Step.done answer).bounces = 0 := rfl

/-- A deferred step comes before those that it leads to. -/
@[simp] theorem bounces_bounce (next : Unit → Step α) :
    (Step.bounce next).bounces = (next ()).bounces + 1 := rfl

/-- A number is even or odd by its remainder, and each step takes one off it. -/
theorem parity (n : Nat) :
    (isEven n).run = decide (n % 2 = 0) ∧ (isOdd n).run = decide (n % 2 = 1)
      ∧ (isEven n).bounces = n ∧ (isOdd n).bounces = n := by
  induction n with
  | zero => exact ⟨rfl, rfl, rfl, rfl⟩
  | succ n inductionHypothesis =>
    obtain ⟨even, odd, evenSteps, oddSteps⟩ := inductionHypothesis
    rw [isEven, isOdd, run_bounce, run_bounce, bounces_bounce, bounces_bounce, even, odd, evenSteps,
      oddSteps]
    exact ⟨decide_eq_decide.2 (by omega), decide_eq_decide.2 (by omega), rfl, rfl⟩

/-- The numbers are added to the starting value, one in each step. -/
theorem sumTo_eq (n total : Nat) :
    (sumTo n total).run = total + (List.range (n + 1)).sum ∧ (sumTo n total).bounces = n := by
  induction n generalizing total with
  | zero => exact ⟨rfl, rfl⟩
  | succ n inductionHypothesis =>
    obtain ⟨sum, steps⟩ := inductionHypothesis (total + (n + 1))
    rw [sumTo, run_bounce, bounces_bounce, sum, steps, @List.range_succ (n + 1), List.sum_append,
      List.sum_singleton]
    exact ⟨by omega, rfl⟩

/-- However many steps an answer is deferred by, it comes out. -/
theorem behind_eq (n : Nat) (answer : α) :
    (behind n answer).run = answer ∧ (behind n answer).bounces = n := by
  induction n with
  | zero => exact ⟨rfl, rfl⟩
  | succ n inductionHypothesis =>
    rw [behind, run_bounce, bounces_bounce, inductionHypothesis.1, inductionHypothesis.2]
    exact ⟨rfl, rfl⟩

end Step

/-! ## Runs of the machine -/

namespace Progress

/-- A computation takes the steps that the machine takes from a point of a run on, one for one, and
its answer is where the run ends. -/
inductive Defers : Progress → Step Ending → Prop
  /-- The run has ended with an outcome. -/
  | finished (outcome : Outcome) (state : State) :
      Defers (.finished outcome state) (.done ⟨.ok outcome, state⟩)
  /-- A fault has stopped the run. -/
  | raised (fault : Fault) (state : State) :
      Defers (.raised fault state) (.done ⟨.error fault, state⟩)
  /-- The machine takes a step, and the computation goes on from where that leads. -/
  | next {control : Control} {stack : List Frame} {state : State} {later : Unit → Step Ending}
      (goesOn : Defers (step control stack state) (later ())) :
      Defers (.next control stack state) (.bounce later)

/-- The fuel that a run needs is the number of deferred steps. -/
theorem Defers.run_eq {progress : Progress} {deferred : Step Ending}
    (defers : progress.Defers deferred) : progress.run deferred.bounces = some deferred.run := by
  induction defers with
  | finished outcome state => rfl
  | raised fault state => rfl
  | next goesOn inductionHypothesis =>
    rw [Step.bounces_bounce, run_succ_next, inductionHypothesis, Step.run_bounce]

/-- A point of a run has no two computations. -/
theorem Defers.unique {progress : Progress} {first second : Step Ending}
    (one : progress.Defers first) (other : progress.Defers second) : first = second := by
  induction one generalizing second with
  | finished outcome state =>
    cases other with
    | finished => rfl
  | raised fault state =>
    cases other with
    | raised => rfl
  | @next control stack state later goesOn inductionHypothesis =>
    cases other with
    | @next _ _ _ later' goesOn' =>
      -- a deferred step takes no argument, so it is known by what it leads to
      have same : later = later' := funext fun _ => inductionHypothesis goesOn'
      rw [same]

/-- Where a run has ended no step is deferred. -/
theorem exists_defers_of_ended {progress : Progress} {last : Ending}
    (ended : progress.run 0 = some last) (fuel : Nat) :
    ∃ deferred, progress.Defers deferred ∧ deferred.bounces ≤ fuel ∧ deferred.run = last := by
  cases progress with
  | next control stack state =>
    rw [run_zero_next] at ended
    cases ended
  | finished outcome state =>
    cases ended
    exact ⟨_, .finished outcome state, Nat.zero_le fuel, rfl⟩
  | raised fault state =>
    cases ended
    exact ⟨_, .raised fault state, Nat.zero_le fuel, rfl⟩

/-- A run that ends is a computation, with a deferred step for each unit of fuel that it uses. -/
theorem exists_defers {fuel : Nat} {progress : Progress} {last : Ending}
    (ended : progress.run fuel = some last) :
    ∃ deferred, progress.Defers deferred ∧ deferred.bounces ≤ fuel ∧ deferred.run = last := by
  induction fuel generalizing progress with
  | zero => exact exists_defers_of_ended ended 0
  | succ fuel inductionHypothesis =>
    cases progress with
    | next control stack state =>
      rw [run_succ_next] at ended
      obtain ⟨deferred, goesOn, few, same⟩ := inductionHypothesis ended
      exact ⟨.bounce fun _ => deferred, .next goesOn, Nat.succ_le_succ few, same⟩
    | finished outcome state => exact @exists_defers_of_ended (.finished outcome state) _ ended _
    | raised fault state => exact @exists_defers_of_ended (.raised fault state) _ ended _

/-- **Taking deferred steps is running the machine.** A run ends within some fuel exactly if its
point has a computation with no more deferred steps than that, whose answer is where the run
ends. -/
theorem run_eq_some_iff {fuel : Nat} {progress : Progress} {last : Ending} :
    progress.run fuel = some last
      ↔ ∃ deferred, progress.Defers deferred ∧ deferred.bounces ≤ fuel ∧ deferred.run = last := by
  constructor
  · exact exists_defers
  · rintro ⟨deferred, defers, few, rfl⟩
    exact run_mono few defers.run_eq

/-- A run that goes on for ever has no computation, since a computation comes to an answer. -/
theorem mem_ending_iff_defers {progress : Progress} {last : Ending} :
    last ∈ progress.ending ↔ ∃ deferred, progress.Defers deferred ∧ deferred.run = last := by
  rw [mem_ending_iff]
  constructor
  · rintro ⟨fuel, ended⟩
    obtain ⟨deferred, defers, -, same⟩ := exists_defers ended
    exact ⟨deferred, defers, same⟩
  · rintro ⟨deferred, defers, rfl⟩
    exact ⟨_, defers.run_eq⟩

end Progress

/-- **The machine runs on the trampoline.** A parser that is called with nothing pending ends within
some fuel exactly if there is a computation that takes the steps of the machine and has no more
deferred steps than that; its answer is how the parser ends. There is at most one such computation,
and there is none if the parser never ends. -/
theorem machine_runs_on_trampoline (parser : Parser) (input : Value) (state : State) :
    (∀ fuel last, run fuel (.call parser input) [] state = some last
      ↔ ∃ deferred, (Progress.call parser input [] state).Defers deferred
        ∧ deferred.bounces ≤ fuel ∧ deferred.run = last)
    ∧ (∀ first second, (Progress.call parser input [] state).Defers first →
      (Progress.call parser input [] state).Defers second → first = second)
    ∧ ((∀ fuel, run fuel (.call parser input) [] state = none)
      ↔ ¬ ∃ deferred, (Progress.call parser input [] state).Defers deferred) := by
  have runs (fuel : Nat) (last : Ending) :=
    @Progress.run_eq_some_iff fuel (Progress.call parser input [] state) last
  refine ⟨runs, fun first second one other => one.unique other, ?_⟩
  constructor
  · rintro never ⟨deferred, defers⟩
    cases (never deferred.bounces).symm.trans defers.run_eq
  · intro none fuel
    refine Option.eq_none_iff_forall_ne_some.2 fun last ended => none ?_
    obtain ⟨deferred, defers, -⟩ := (runs fuel last).1 ended
    exact ⟨deferred, defers⟩

/-! ## Deferred calls -/

namespace Value

/-- What is picked from a row by comparing two at a time is one of the row. -/
theorem mem_of_pick {prefers : Value → Value → Except Fault Bool} {first value : Value}
    {others : List Value}
    (found : others.foldlM (fun best other => do
      return if ← prefers best other then other else best) first = .ok value) :
    value ∈ first :: others := by
  induction others generalizing first with
  | nil =>
    cases found
    exact List.mem_singleton.2 rfl
  | cons other others inductionHypothesis =>
    obtain ⟨best, compared, later⟩ := exists_of_bind_eq_ok found
    obtain ⟨isPreferred, -, same⟩ := exists_of_bind_eq_ok compared
    cases same
    rcases List.mem_cons.1 (inductionHypothesis later) with rfl | member
    · split <;> simp
    · exact List.mem_cons_of_mem _ (List.mem_cons_of_mem _ member)

/-- Splitting a run off a row drops no value and adds none. -/
theorem perm_of_takeRun {falling : Bool} {run row rest : List Value} {last : Value}
    {values : List Value} (split : takeRun falling run last values = .ok (row, rest)) :
    (row ++ rest).Perm (run ++ values) := by
  induction values generalizing run last with
  | nil =>
    cases split
    exact .refl _
  | cons value values inductionHypothesis =>
    obtain ⟨isLess, -, later⟩ := exists_of_bind_eq_ok split
    cases goesOn : isLess == falling with
    | true =>
      rw [goesOn, if_pos rfl] at later
      exact (inductionHypothesis later).trans List.perm_middle.symm
    | false =>
      rw [goesOn, if_neg Bool.false_ne_true] at later
      cases later
      exact .refl _

/-- Neither does turning that run round. -/
theorem perm_of_firstRun {values row rest : List Value}
    (split : firstRun values = .ok (row, rest)) : (row ++ rest).Perm values := by
  rcases values with - | ⟨first, - | ⟨second, values⟩⟩
  · cases split
    exact .refl _
  · cases split
    exact .refl _
  · obtain ⟨falling, -, later⟩ := exists_of_bind_eq_ok split
    obtain ⟨⟨run, others⟩, took, same⟩ := exists_of_bind_eq_ok later
    have whole := (perm_of_takeRun took).trans (.swap first second values)
    cases same
    split
    · exact whole
    · exact ((List.reverse_perm run).append_right rest).trans whole

/-- Wherever a value is put into a row, it is added to it. -/
theorem perm_of_insertSorted {row longer : List Value} {value : Value}
    (inserted : insertSorted row value = .ok longer) : longer.Perm (value :: row) := by
  obtain ⟨index, -, same⟩ := exists_of_bind_eq_ok inserted
  cases same
  have parts := @List.perm_middle _ value (row.take index) (row.drop index)
  rwa [List.take_append_drop] at parts

/-- Values that are put into a row one after the other are all added to it. -/
theorem perm_of_inserts {run others row : List Value}
    (put : others.foldlM insertSorted run = .ok row) : row.Perm (run ++ others) := by
  induction others generalizing run with
  | nil =>
    cases put
    exact .of_eq (List.append_nil _).symm
  | cons value others inductionHypothesis =>
    obtain ⟨longer, inserted, later⟩ := exists_of_bind_eq_ok put
    have added : (longer ++ others).Perm (value :: run ++ others) :=
      (perm_of_insertSorted inserted).append_right others
    exact (inductionHypothesis later).trans (added.trans List.perm_middle.symm)

/-- **A row that is put in order keeps its values**, whatever their order is. -/
theorem perm_of_sorted {values row : List Value} (inOrder : sorted values = .ok row) :
    row.Perm values := by
  obtain ⟨⟨run, rest⟩, split, put⟩ := exists_of_bind_eq_ok inOrder
  exact (perm_of_inserts put).trans (perm_of_firstRun split)

end Value

namespace Callee

/-- A deferred call of a rule that is not defined raises the fault that the machine raises when it
calls the rule, whatever the arguments are. -/
theorem call_undefined_rule {state : State} {cell : Nat}
    (undefined : state.workspace.bindingOf cell = .undefined) (input : Value) (stack : List Frame)
    (first second third : Value) :
    ∃ fault, (Callee.rule (state.workspace.nameOf cell)).call [first, second, third] = .error fault
      ∧ (Parser.rule cell).call input stack state = .raised fault state := by
  refine ⟨_, rfl, ?_⟩
  have found := Workspace.outcome_resolve cell state.workspace
  rw [undefined, Edit.outcome] at found
  simp only [Parser.call, Parser.label?, Parser.start, callRule, found]

/-- An extreme is looked for among the arguments, or among the elements of the only one. -/
theorem mem_of_candidates {function : String} {arguments others : List Value} {first value : Value}
    (found : candidates function arguments = .ok (first, others))
    (member : value ∈ first :: others) :
    value ∈ arguments ∨ ∃ row ∈ arguments, ∃ items, row.elements = .ok items ∧ value ∈ items := by
  rcases arguments with - | ⟨row, - | ⟨second, more⟩⟩
  · cases found
  · obtain ⟨items, elements, later⟩ := exists_of_bind_eq_ok found
    cases items with
    | nil => cases later
    | cons head tail =>
      cases later
      exact .inr ⟨row, List.mem_singleton.2 rfl, _, elements, member⟩
  · cases found
    exact .inl member

/-- **What a deferred call answers is made of its arguments.** An extreme is one of the values among
which it is looked for, and a row in order has the values of the row that it is made from. -/
theorem call_keeps_values {arguments : List Value} {answer : Value} :
    ((Callee.max).call arguments = .ok answer ∨ (Callee.min).call arguments = .ok answer →
      answer ∈ arguments
        ∨ ∃ row ∈ arguments, ∃ items, row.elements = .ok items ∧ answer ∈ items)
    ∧ ∀ row, (Callee.sorted).call [row] = .ok answer →
      ∃ items inOrder, row.elements = .ok items ∧ answer = .list inOrder
        ∧ inOrder.Perm items := by
  constructor
  · rintro (called | called)
    · obtain ⟨⟨first, others⟩, found, best⟩ := exists_of_bind_eq_ok called
      exact mem_of_candidates found (Value.mem_of_pick best)
    · obtain ⟨⟨first, others⟩, found, best⟩ := exists_of_bind_eq_ok called
      exact mem_of_candidates found (Value.mem_of_pick best)
  · intro row called
    obtain ⟨items, elements, later⟩ := exists_of_bind_eq_ok called
    obtain ⟨inOrder, sorted, same⟩ := exists_of_bind_eq_ok later
    cases same
    exact ⟨items, inOrder, elements, rfl, Value.perm_of_sorted sorted⟩

end Callee

end Peg
