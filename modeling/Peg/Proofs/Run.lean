import Mathlib.Computability.Partrec
import Peg.Parse

/-! # Runs without a bound

`run` takes a number of steps that it may use. Here the bound goes away: `Progress.Reaches` says
that one point of a run leads to another whatever is done afterwards, `Progress.ending` is where a
run ends, undefined if it goes on for ever, and `Progress.drive` hands the outcome of a run to a
pair of final continuations, which may do anything with it.

* **`Reaches`** is reflexive and transitive, and a step is an instance of it.
* **`mem_ending_iff`** reads membership in `ending` off `run`; **`ending_eq_of_reaches`** says that
  points that lead to each other end alike. -/

namespace Peg

namespace Progress

/-- Takes at most `fuel` further steps from a point of a run. -/
def run (fuel : Nat) : Progress → Option Ending
  | .next control stack state => Peg.run fuel control stack state
  | .finished outcome state => some ⟨.ok outcome, state⟩
  | .raised fault state => some ⟨.error fault, state⟩

/-- Without fuel a run that is to go on has no end. -/
@[simp] theorem run_zero_next (control : Control) (stack : List Frame) (state : State) :
    (Progress.next control stack state).run 0 = none := rfl

/-- One unit of fuel pays for one step. -/
@[simp] theorem run_succ_next (fuel : Nat) (control : Control) (stack : List Frame)
    (state : State) :
    (Progress.next control stack state).run (fuel + 1) = (step control stack state).run fuel := by
  cases stepped : step control stack state <;> simp only [run, Peg.run, stepped]

/-- A run that has finished has its outcome, with any fuel. -/
@[simp] theorem run_finished (fuel : Nat) (outcome : Outcome) (state : State) :
    (Progress.finished outcome state).run fuel = some ⟨.ok outcome, state⟩ := rfl

/-- A run that has raised a fault has it, with any fuel. -/
@[simp] theorem run_raised (fuel : Nat) (fault : Fault) (state : State) :
    (Progress.raised fault state).run fuel = some ⟨.error fault, state⟩ := rfl

/-- More fuel does not change where a run ends. -/
theorem run_mono {fuel more : Nat} (enough : fuel ≤ more) {progress : Progress} {ending : Ending}
    (ended : progress.run fuel = some ending) : progress.run more = some ending := by
  -- A step uses one unit of both, so the induction is on the smaller one.
  induction fuel generalizing progress more with
  | zero =>
    cases progress with
    | next control stack state => simp at ended
    | finished outcome state => simpa using ended
    | raised fault state => simpa using ended
  | succ fuel inductionHypothesis =>
    cases progress with
    | next control stack state =>
      obtain ⟨more, rfl⟩ : ∃ fewer, more = fewer + 1 := ⟨more - 1, by omega⟩
      rw [run_succ_next] at ended ⊢
      exact inductionHypothesis (by omega) ended
    | finished outcome state => simpa using ended
    | raised fault state => simpa using ended

/-! ## One point of a run leads to another -/

/-- After some number of steps the first point of a run has become the second one. -/
def Reaches (first second : Progress) : Prop :=
  ∃ steps, ∀ fuel, first.run (steps + fuel) = second.run fuel

namespace Reaches

/-- Every point reaches itself, in no steps. -/
theorem refl (progress : Progress) : Reaches progress progress :=
  ⟨0, fun fuel => by rw [Nat.zero_add]⟩

/-- Points are reached one after the other. -/
theorem trans {first second third : Progress} (start : Reaches first second)
    (finish : Reaches second third) : Reaches first third := by
  obtain ⟨early, start⟩ := start
  obtain ⟨late, finish⟩ := finish
  refine ⟨early + late, fun fuel => ?_⟩
  rw [Nat.add_assoc, start, finish]

/-- A point that is to go on leads to where one step takes it. -/
theorem step (control : Control) (stack : List Frame) (state : State) :
    Reaches (.next control stack state) (Peg.step control stack state) :=
  ⟨1, fun fuel => by rw [Nat.add_comm, run_succ_next]⟩

end Reaches

/-! ## The end of a run -/

/-- Where a run ends, however many steps that takes; undefined if it goes on for ever. -/
def ending (progress : Progress) : Part Ending := Nat.rfindOpt fun fuel => progress.run fuel

/-- A run has an end exactly if some fuel suffices for it. -/
theorem mem_ending_iff {progress : Progress} {last : Ending} :
    last ∈ progress.ending ↔ ∃ fuel, progress.run fuel = some last :=
  Nat.rfindOpt_mono fun enough ended => run_mono enough ended

/-- A point leads to the same end as any point it reaches. -/
theorem ending_eq_of_reaches {first second : Progress} (reaches : Reaches first second) :
    first.ending = second.ending := by
  obtain ⟨steps, same⟩ := reaches
  ext last
  rw [mem_ending_iff, mem_ending_iff]
  constructor
  · rintro ⟨fuel, ended⟩
    -- the end may come before the second point does; more fuel makes sure that it is reached
    have ended := run_mono (Nat.le_add_left fuel steps) ended
    exact ⟨fuel, by rw [← same, ended]⟩
  · rintro ⟨fuel, ended⟩
    exact ⟨steps + fuel, by rw [same, ended]⟩

/-- A run that has raised a fault has ended. -/
@[simp] theorem ending_raised (fault : Fault) (state : State) :
    (Progress.raised fault state).ending = Part.some ⟨.error fault, state⟩ :=
  Part.eq_some_iff.2 (mem_ending_iff.2 ⟨0, rfl⟩)

/-- A run that has finished has ended. -/
@[simp] theorem ending_finished (outcome : Outcome) (state : State) :
    (Progress.finished outcome state).ending = Part.some ⟨.ok outcome, state⟩ :=
  Part.eq_some_iff.2 (mem_ending_iff.2 ⟨0, rfl⟩)

/-- An outcome that no pending work waits for ends the run. -/
@[simp] theorem ending_answer_nil (outcome : Outcome) (state : State) :
    (Progress.answer outcome [] state).ending = Part.some ⟨.ok outcome, state⟩ := by
  rw [Progress.answer, ending_eq_of_reaches (Reaches.step _ _ _), Peg.step, ending_finished]

end Progress

/-! ## Final continuations -/

/-- What a final continuation does with a value and a rest in the state that a run left: it may
answer, raise a fault, change the state, or go on for ever. -/
abbrev Continuation (α : Type) := Value → Value → State → Part (Except Fault α × State)

/-- Hands the end of a run to one of two continuations. A fault goes past both. -/
def Ending.handOver (succeed fail : Continuation α) (last : Ending) :
    Part (Except Fault α × State) :=
  match last.answer with
  | .ok (.ok value rest) => succeed value rest last.state
  | .ok (.fail payload rest) => fail payload rest last.state
  | .error fault => Part.some (.error fault, last.state)

/-- Runs to the end and hands the outcome to one of two continuations. -/
def Progress.drive (succeed fail : Continuation α) (progress : Progress) :
    Part (Except Fault α × State) :=
  progress.ending.bind (Ending.handOver succeed fail)

/-- A point is driven like any point it reaches. -/
theorem Progress.drive_eq_of_reaches {first second : Progress} (reaches : Reaches first second)
    (succeed fail : Continuation α) : first.drive succeed fail = second.drive succeed fail := by
  rw [drive, drive, ending_eq_of_reaches reaches]

end Peg
