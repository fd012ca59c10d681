import Mathlib.Logic.Relation
import Peg.Proofs.Rest
import Peg.Proofs.Unfolding

/-! # Well-formed grammars

A grammar is well-formed if no rule can reach itself before something has been consumed and no
repetition has a body that can match without consuming. What can match without consuming need not be
known exactly: it is enough to know parsers among which all of those are.

Rules may be pending, and then only a run brings their bodies to light. So the condition is on each
table of rules that a workspace can unfold to. Within one table a rule has one body for good.

* **`Parser.leftCalls`**: the rules that a parser may call before it has consumed anything.
* **`Workspace.WellFormed`**: well-formed grammars. -/

namespace Peg

/-! ## What is called before something is consumed -/

namespace Parser

variable (mayBeEmpty : Parser → Bool)

mutual

/-- The rules that a parser may call before it has consumed anything. The parts of a sequence after
the first one count if all before them may match without consuming. What a nested parse calls does
not count: it runs on another input. -/
def leftCalls : Parser → List Nat
  | .sequence first others =>
    leftCalls first ++ if mayBeEmpty first then leftCallsOfAll others else []
  | .choice first others => leftCalls first ++ leftCallsOfAny others
  | .star body => leftCalls body
  | .plus body => leftCalls body
  | .optional body _ => leftCalls body
  | .ahead body => leftCalls body
  | .notAhead body => leftCalls body
  | .transform body _ _ => leftCalls body
  | .nested body _ _ => leftCalls body
  | .traced _ body => leftCalls body
  | .rule cell => [cell]
  | .terminal _ => []
  | .foreign _ => []
  | .constant _ => []

/-- The rules that the parts of a sequence may call before anything has been consumed. -/
def leftCallsOfAll : List Parser → List Nat
  | [] => []
  | parser :: others =>
    leftCalls parser ++ if mayBeEmpty parser then leftCallsOfAll others else []

/-- The rules that alternatives may call before anything has been consumed. -/
def leftCallsOfAny : List Parser → List Nat
  | [] => []
  | parser :: others => leftCalls parser ++ leftCallsOfAny others

end

/-- No repetition in a parser has a body that may match without consuming, and every function that
parses a value in its turn returns. -/
inductive Steady (workspace : Workspace) : Parser → Prop
  | terminal (leaf : Terminal) : Steady workspace (.terminal leaf)
  | sequence {first : Parser} {others : List Parser} (head : Steady workspace first)
      (tail : ∀ parser ∈ others, Steady workspace parser) :
      Steady workspace (.sequence first others)
  | choice {first : Parser} {others : List Parser} (head : Steady workspace first)
      (tail : ∀ parser ∈ others, Steady workspace parser) :
      Steady workspace (.choice first others)
  | star {body : Parser} (inside : Steady workspace body)
      (consumes : mayBeEmpty body = false) : Steady workspace (.star body)
  | plus {body : Parser} (inside : Steady workspace body)
      (consumes : mayBeEmpty body = false) : Steady workspace (.plus body)
  | optional {body : Parser} (inside : Steady workspace body) (absent : Value) :
      Steady workspace (.optional body absent)
  | ahead {body : Parser} (inside : Steady workspace body) : Steady workspace (.ahead body)
  | notAhead {body : Parser} (inside : Steady workspace body) : Steady workspace (.notAhead body)
  | transform {body : Parser} (inside : Steady workspace body) (name : String)
      (function : Value → Except Fault Value) : Steady workspace (.transform body name function)
  | nested {body inner : Parser} (inside : Steady workspace body)
      (returns : ∀ (value : Value) (state : State), state.workspace = workspace →
        state.context = some { source := value } →
        ∃ fuel last, run fuel (.call inner value) [] state = some last)
      (form : NestedForm) : Steady workspace (.nested body inner form)
  | traced (name : String) {body : Parser} (inside : Steady workspace body) :
      Steady workspace (.traced name body)
  | rule (cell : Nat) : Steady workspace (.rule cell)
  | constant (value : Value) : Steady workspace (.constant value)

end Parser

/-! ## Tables of rules -/

namespace Workspace

/-- All parsers that can match and hand back the whole input are among the given ones. -/
def Admits (workspace : Workspace) (mayBeEmpty : Parser → Bool) : Prop :=
  ∀ (parser : Parser) (input value : Value) (state after : State) (fuel : Nat),
    parser.BuiltIn → state.workspace = workspace →
    run fuel (.call parser input) [] state = some ⟨.ok (.ok value input), after⟩ →
    mayBeEmpty parser

/-- The body of one rule may call the other rule before it has consumed anything. -/
def LeftCalls (workspace : Workspace) (mayBeEmpty : Parser → Bool) (cell other : Nat) : Prop :=
  ∃ body, workspace.bindingOf cell = .resolved body ∧ other ∈ body.leftCalls mayBeEmpty

/-- The rules of a workspace that have bodies by now are well-formed. -/
structure HasWellFormedRules (workspace : Workspace) (mayBeEmpty : Parser → Bool) : Prop where
  /-- What can match without consuming is known. -/
  admits : workspace.Admits mayBeEmpty
  /-- No repetition has a body that may match without consuming. -/
  steady : ∀ cell body, workspace.bindingOf cell = .resolved body →
    body.Steady mayBeEmpty workspace
  /-- No rule can reach itself before something has been consumed. -/
  acyclic : ∀ cell, ¬ Relation.TransGen (workspace.LeftCalls mayBeEmpty) cell cell

/-- **Well-formed grammars.** All terminals are built in, and in every table that the rules can
unfold to they are well-formed, where `mayBeEmpty` tells from the table which parsers may match
without consuming. -/
structure WellFormed (workspace : Workspace) (mayBeEmpty : Array RuleCell → Parser → Bool) :
    Prop where
  /-- No terminal is written by hand. -/
  builtIn : workspace.BuiltIn
  /-- The rules are well-formed. -/
  rules : ∀ later, workspace.Unfolds later → later.HasWellFormedRules (mayBeEmpty later.cells)

theorem WellFormed.unfolds {workspace later : Workspace}
    {mayBeEmpty : Array RuleCell → Parser → Bool} (wellFormed : workspace.WellFormed mayBeEmpty)
    (unfolds : workspace.Unfolds later) : later.WellFormed mayBeEmpty :=
  ⟨unfolds.builtIn wellFormed.builtIn, fun last more => wellFormed.rules last (unfolds.trans more)⟩

/-- Rules that do not reach themselves can be put in order: there are only so many. -/
theorem wellFounded_of_acyclic {workspace : Workspace} {mayBeEmpty : Parser → Bool}
    (acyclic : ∀ cell, ¬ Relation.TransGen (workspace.LeftCalls mayBeEmpty) cell cell) :
    WellFounded fun other cell => workspace.LeftCalls mayBeEmpty cell other := by
  -- only a rule that exists calls others, so that the order is that of a finite type
  have exists_of_calls {cell other : Nat} (calls : workspace.LeftCalls mayBeEmpty cell other) :
      cell < workspace.cells.size := by
    obtain ⟨body, resolved, -⟩ := calls
    exact lt_of_isDefined (by rw [resolved]; rfl)
  let below (other cell : Fin workspace.cells.size) : Prop :=
    Relation.TransGen (workspace.LeftCalls mayBeEmpty) cell other
  have : IsTrans _ below := ⟨fun _ _ _ late early => early.trans late⟩
  have : Std.Irrefl below := ⟨fun cell => acyclic cell⟩
  have ordered : WellFounded below := Finite.wellFounded_of_trans_of_irrefl below
  have accessible (cell : Fin workspace.cells.size) :
      Acc (fun other cell => workspace.LeftCalls mayBeEmpty cell other) cell.val := by
    induction cell using ordered.induction with
    | _ cell inductionHypothesis =>
      refine ⟨_, fun other calls => ?_⟩
      by_cases bound : other < workspace.cells.size
      · exact inductionHypothesis ⟨other, bound⟩ (.single calls)
      · exact ⟨_, fun last more => absurd (exists_of_calls more) bound⟩
  refine ⟨fun cell => ⟨_, fun other calls => ?_⟩⟩
  exact (accessible ⟨cell, exists_of_calls calls⟩).inv calls

end Workspace

end Peg
