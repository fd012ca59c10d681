import Peg.Proofs.Rest
import Peg.Proofs.Unfolding

/-! # What is read is in the value

A parser is verbatim when nothing in it makes up a value: its terminals give what they read, and
its combinators put values together in lists. Then a match loses no character of a text, reads none
twice and keeps their order, whatever was tried and given up on the way: the characters at the
leaves of the value, from left to right, and then those of the rest are the text.

* **`Value.leafText?`**: the text at the leaves of a value.
* **`Evaluates.accounts`**: what every job keeps, by induction on the evaluation.
* **`results_account_for_text`**: runs and parses of verbatim parsers account for their text. -/

namespace Peg

/-! ## The text of a value -/

namespace Value

mutual

/-- The texts at the leaves of nested lists, from left to right; the absence of a value is the empty
text. No other value has a text. -/
def leafText? : Value → Option (List Char)
  | .null => some []
  | .str text => some text
  | .list items => leafTexts? items
  | _ => none

/-- The texts of several values, one after the other. -/
def leafTexts? : List Value → Option (List Char)
  | [] => some []
  | item :: others => do return (← leafText? item) ++ (← leafTexts? others)

end

/-- The text of a value and the rest after it are the whole text. -/
def Accounts (text : List Char) (value rest : Value) : Prop :=
  ∃ read left, value.leafText? = some read ∧ rest = .str left ∧ read ++ left = text

namespace Accounts

variable {text : List Char}

/-- What has no text leaves all of it. -/
theorem of_nothing {value : Value} (nothing : value.leafText? = some []) :
    Accounts text value (.str text) :=
  ⟨[], text, nothing, rfl, rfl⟩

/-- The text in front of a place accounts for what is left from there on. -/
theorem of_take (count : Nat) :
    Accounts text (.str (text.take count)) (.str (text.drop count)) :=
  ⟨text.take count, text.drop count, rfl, rfl, List.take_append_drop count text⟩

/-- A value in front of a list of values that go on where it stopped. -/
theorem cons {middle : List Char} {value rest : Value} {values : List Value}
    (head : Accounts text value (.str middle)) (tail : Accounts middle (.list values) rest) :
    Accounts text (.list (value :: values)) rest := by
  obtain ⟨early, _, first, same, whole⟩ := head
  cases same
  obtain ⟨late, left, others, rfl, rfl⟩ := tail
  refine ⟨early ++ late, left, ?_, rfl, by rw [List.append_assoc, whole]⟩
  have others : leafTexts? values = some late := others
  rw [leafText?, leafTexts?, first, others]
  rfl

/-- Where something has been accounted for, a text is left. -/
theorem exists_left {value rest : Value} (accounts : Accounts text value rest) :
    ∃ left, rest = .str left := by
  obtain ⟨_, left, _, same, _⟩ := accounts
  exact ⟨left, same⟩

end Accounts

end Value

/-! ## Verbatim parsers -/

/-- The terminals that give what they read. -/
def Terminal.isVerbatim : Terminal → Bool
  | .token _ | .literal _ | .satisfy _ _ | .endOfInput => true
  | _ => false

/-- A parser that makes up no value: what is absent has no value either. -/
inductive Parser.Verbatim : Parser → Prop
  | terminal {leaf : Terminal} (verbatim : leaf.isVerbatim) : Verbatim (.terminal leaf)
  | sequence {first : Parser} {others : List Parser} (head : Verbatim first)
      (tail : ∀ parser ∈ others, Verbatim parser) : Verbatim (.sequence first others)
  | choice {first : Parser} {others : List Parser} (head : Verbatim first)
      (tail : ∀ parser ∈ others, Verbatim parser) : Verbatim (.choice first others)
  | star {body : Parser} (inside : Verbatim body) : Verbatim (.star body)
  | plus {body : Parser} (inside : Verbatim body) : Verbatim (.plus body)
  | optional {body : Parser} (inside : Verbatim body) : Verbatim (.optional body .null)
  | traced (name : String) {body : Parser} (inside : Verbatim body) : Verbatim (.traced name body)
  | rule (cell : Nat) : Verbatim (.rule cell)

/-- All rules are verbatim, also those that are built later. -/
def Workspace.Verbatim (workspace : Workspace) : Prop :=
  ∀ later, workspace.Unfolds later → ∀ cell body, later.bindingOf cell = .resolved body →
    body.Verbatim

/-- Verbatim rules stay so when they are resolved. -/
theorem Workspace.Verbatim.later {workspace later : Workspace} (verbatim : workspace.Verbatim)
    (unfolds : workspace.Unfolds later) : later.Verbatim :=
  fun last more => verbatim last (unfolds.trans more)

/-- All parsers that a job is about are verbatim. -/
def Job.Verbatim : Job → Prop
  | .call parser _ => parser.Verbatim
  | .bare parser _ => parser.Verbatim
  | .under _ job => job.Verbatim
  | .all _ parsers _ => ∀ parser ∈ parsers, parser.Verbatim
  | .any first others _ => first.Verbatim ∧ ∀ parser ∈ others, parser.Verbatim
  | .loop body _ => body.Verbatim

namespace Terminal

/-- One element of a text is a text of one character. -/
theorem accounts_of_matchElement {test : Value → Except Fault Bool} {expected value rest : Value}
    {text : List Char}
    (found : matchElement test expected (.str text) = .ok (.matched value rest)) :
    Value.Accounts text value rest := by
  cases text with
  | nil => cases found
  | cons letter others =>
    simp only [matchElement, Value.isSequence, if_true, Value.head?] at found
    cases passed : test (.str [letter]) with
    | error fault =>
      rw [passed] at found
      cases found
    | ok truth =>
      rw [passed] at found
      cases truth with
      | false => cases found
      | true =>
        cases found
        exact .of_take 1

/-- **A verbatim terminal gives what it reads.** -/
theorem accounts_of_verdict {leaf : Terminal} (verbatim : leaf.isVerbatim) {text : List Char}
    {value rest : Value} (found : leaf.verdict (.str text) = .ok (.matched value rest)) :
    Value.Accounts text value rest := by
  cases leaf with
  | token pattern =>
    simp only [verdict, matchPattern] at found
    split at found
    · rename_i same
      cases same
      split at found
      · cases found
        exact .of_take _
      · cases found
    · rename_i same
      cases same
    · cases found
  | literal expected =>
    simp only [verdict, Value.isSequence, if_true, Except.ok.injEq] at found
    split at found
    · cases found
      exact .of_take expected.length
    · cases found
  | satisfy test expected => exact accounts_of_matchElement found
  | endOfInput =>
    simp only [verdict, Value.isSequence, if_true, Except.ok.injEq] at found
    split at found
    · cases found
      exact .of_nothing rfl
    · cases found
  | succeed value => cases verbatim
  | fail payload => cases verbatim
  | lexical label kind => cases verbatim

end Terminal

/-! ## Evaluations -/

/-- **What a job reads is in its value.** By induction on the evaluation: parts that match go on
where the one before stopped, and what was tried in vain starts again from the same text, so its
values are nowhere in the result. -/
theorem Evaluates.accounts {job : Job} {state : State} {last : Ending}
    (evaluates : Evaluates job state last) (verbatim : job.Verbatim)
    (rules : state.workspace.Verbatim) {text : List Char} (input : job.input = .str text)
    {value rest : Value} (answer : last.answer = .ok (.ok value rest)) :
    Value.Accounts text value rest := by
  induction evaluates generalizing text value rest with
  | unlabelled _ _ body => exact body verbatim rules input answer
  | labelled _ _ body => exact body verbatim rules input answer
  | unwatched _ _ body => exact body verbatim rules input answer
  | refused => cases answer
  | @watched label job state entered context last current watched entry _ body =>
    have same : (entered.setDepth (context.depth + 1)).workspace = state.workspace := by
      rw [State.setDepth_workspace, State.emit_workspace entry]
    rw [← same] at rules
    exact body verbatim rules input (Ending.answer_of_leave answer)
  | @terminal leaf place state =>
    cases input
    obtain ⟨_, _, found, same⟩ | ⟨payload, -, same⟩ | ⟨fault, same⟩ :=
      leaf.read_cases (.str text) state
    · rw [same] at answer
      cases answer
      cases verbatim with
      | terminal verbatim => exact Terminal.accounts_of_verdict verbatim found
    · obtain ⟨noted, -, failed⟩ | ⟨fault, failed⟩ := state.failOn_cases payload (.str text) <;>
        rw [same, failed] at answer <;> cases answer
    · rw [same] at answer
      cases answer
  | foreign => cases verbatim
  | sequence _ parts =>
    cases verbatim with
    | sequence head tail =>
      exact parts (List.forall_mem_cons.2 ⟨head, tail⟩) rules input answer
  | allNil =>
    cases input
    cases answer
    exact .of_nothing rfl
  | allCons head _ first later =>
    cases answer
    obtain ⟨verbatimHead, verbatimTail⟩ := List.forall_mem_cons.1 verbatim
    have early := first verbatimHead rules input rfl
    obtain ⟨middle, rfl⟩ := early.exists_left
    have unfolds := unfolds_of_evaluates head
    exact early.cons (later verbatimTail (rules.later unfolds) rfl rfl)
  | allFail => cases answer
  | allFailLater => cases answer
  | allRaiseLater => cases answer
  | choice _ alternatives =>
    cases verbatim with
    | choice head tail => exact alternatives ⟨head, tail⟩ rules input answer
  | anyOk _ head => exact head verbatim.1 rules input answer
  | anyLast => cases answer
  | anyNext tried _ _ tail =>
    -- the alternative that failed has read something too, but the next one starts from the front
    obtain ⟨second, others⟩ := List.forall_mem_cons.1 verbatim.2
    exact tail ⟨second, others⟩ (rules.later (unfolds_of_evaluates tried)) input answer
  | star _ rounds =>
    cases verbatim with
    | star inside => exact rounds inside rules input answer
  | loopStop =>
    cases input
    cases answer
    exact .of_nothing rfl
  | loopMore round _ first later =>
    cases answer
    have early := first verbatim rules input rfl
    obtain ⟨middle, rfl⟩ := early.exists_left
    exact early.cons (later verbatim (rules.later (unfolds_of_evaluates round)) rfl rfl)
  | loopRaiseLater => cases answer
  | plusFail => cases answer
  | plusMore round _ first later =>
    cases answer
    cases verbatim with
    | plus inside =>
      have early := first inside rules input rfl
      obtain ⟨middle, rfl⟩ := early.exists_left
      exact early.cons (later inside (rules.later (unfolds_of_evaluates round)) rfl rfl)
  | plusRaiseLater => cases answer
  | present _ head =>
    cases verbatim with
    | optional inside => exact head inside rules input answer
  | absent =>
    cases verbatim with
    | optional inside =>
      cases input
      cases answer
      exact .of_nothing rfl
  | aheadOk => cases verbatim
  | aheadFail => cases verbatim
  | notAheadFail => cases verbatim
  | notAheadOk => cases verbatim
  | transformOk => cases verbatim
  | transformFail => cases verbatim
  | nestedOk => cases verbatim
  | nestedFail => cases verbatim
  | traced _ inside =>
    cases verbatim with
    | traced name body => exact inside body rules input answer
  | unresolved => cases answer
  | @resolved cell body place state after last found _ inside =>
    -- the body is verbatim because it is now what the rule is bound to
    have unfolds : state.workspace.Unfolds after := .resolve .refl found
    have verbatimBody := rules after unfolds cell body (Workspace.bindingOf_of_resolve found)
    exact inside verbatimBody (rules.later unfolds) input answer
  | constant => cases verbatim
  | raise => cases answer

/-! ## Runs -/

/-- **Results account for every character that is read.** Whenever a verbatim parser matches a text,
the characters at the leaves of its value, from left to right, followed by those of the rest are the
text: none is lost, none stands twice and none has moved. This holds of runs in any state and of
parses, traced or not, and with rules that are recursive or built on the way. -/
theorem results_account_for_text {parser : Parser} (verbatim : parser.Verbatim)
    {workspace : Workspace} (rules : workspace.Verbatim) (text : List Char) :
    (∀ fuel state value rest after, state.workspace = workspace →
      run fuel (.call parser (.str text)) [] state = some ⟨.ok (.ok value rest), after⟩ →
      ∃ read left, value.leafText? = some read ∧ rest = .str left ∧ read ++ left = text)
    ∧ ∀ fuel tracer report success, parse fuel workspace parser (.str text) tracer = some report →
      report.answer = .ok success →
      ∃ read left, success.result.leafText? = some read ∧ success.unconsumed = .str left
        ∧ read ++ left = text := by
  have accounts : ∀ fuel state value rest after, state.workspace = workspace →
      run fuel (.call parser (.str text)) [] state = some ⟨.ok (.ok value rest), after⟩ →
      Value.Accounts text value rest := by
    rintro fuel state value rest after rfl ended
    exact (exists_run_iff.1 ⟨fuel, ended⟩).accounts verbatim rules rfl rfl
  refine ⟨accounts, ?_⟩
  intro fuel tracer report success parsed answer
  obtain ⟨⟨after, evaluates⟩, -⟩ := match_of_parse parsed answer
  exact evaluates.accounts verbatim rules rfl rfl

/-! ## Brackets that are given up -/

/-- Brackets around brackets, or nothing. -/
def bracketsParser : Parser :=
  .optional (.sequence (.terminal (.literal (.ofString "(")))
    [.rule 0, .terminal (.literal (.ofString ")"))]) .null

/-- A grammar whose only rule is built when it is first used, and uses itself. -/
def bracketsWorkspace : Workspace where
  cells := #[⟨"brackets", .pending (.optional (.sequence
    [.literal (.ofString "("), .reference "brackets", .literal (.ofString ")")]) .null), 0⟩]
  grammar := { rules := [("brackets", 0)], start := some "brackets" }

/-- The parser of brackets is verbatim. -/
theorem bracketsParser_verbatim : bracketsParser.Verbatim := by
  refine .optional (.sequence (.terminal rfl) ?_)
  simp only [List.forall_mem_cons]
  exact ⟨.rule 0, .terminal rfl, fun _ member => nomatch member⟩

/-- All that the grammar can unfold to is that its rule is built. -/
theorem bracketsWorkspace_unfolds {later : Workspace} (unfolds : bracketsWorkspace.Unfolds later) :
    later.grammar = bracketsWorkspace.grammar
      ∧ (later.cells = bracketsWorkspace.cells
        ∨ later.cells = #[⟨"brackets", .resolved bracketsParser, 1⟩]) := by
  induction unfolds with
  | refl => exact ⟨rfl, .inl rfl⟩
  | remember _ _ inductionHypothesis => exact inductionHypothesis
  | @resolve second third cell body _ found inductionHypothesis =>
    -- the name in the body is found in the grammar, so no rule is added
    obtain ⟨cells, grammar, kept, memories⟩ := second
    obtain ⟨rfl, rfl | rfl⟩ := inductionHypothesis
    · match cell, found with
      | 0, rfl => exact ⟨rfl, .inr rfl⟩
    · match cell, found with
      | 0, rfl => exact ⟨rfl, .inr rfl⟩

/-- The rule of brackets is verbatim, before it is built and after. -/
theorem bracketsWorkspace_verbatim : bracketsWorkspace.Verbatim := by
  intro later unfolds cell body resolved
  rw [Workspace.bindingOf] at resolved
  obtain ⟨-, same | same⟩ := bracketsWorkspace_unfolds unfolds <;> rw [same] at resolved
  · rcases cell with _ | cell <;> cases resolved
  · rcases cell with _ | cell <;> cases resolved
    exact bracketsParser_verbatim

/-- The second pair of brackets is read up to its end, given up, and read again one by one. All of
it is in the value once. -/
theorem given_up_brackets_are_read_once :
    ∃ after, run 60 (.call (.sequence (.rule 0) [.rule 0, .star (.terminal .anyItem)])
        (.ofString "()(()")) [] (.initial bracketsWorkspace (.ofString "()(()") none)
      = some ⟨.ok (.ok (.list [.list [.ofString "(", .null, .ofString ")"], .null,
          .list [.ofString "(", .ofString "(", .ofString ")"]]) (.ofString "")), after⟩
    ∧ ∃ read left,
      (Value.list [.list [.ofString "(", .null, .ofString ")"], .null,
        .list [.ofString "(", .ofString "(", .ofString ")"]]).leafText? = some read
      ∧ Value.ofString "" = .str left ∧ read ++ left = "()(()".toList := by
  have verbatim : (Parser.sequence (.rule 0) [.rule 0, .star (.terminal .anyItem)]).Verbatim := by
    refine .sequence (.rule 0) ?_
    simp only [List.forall_mem_cons]
    exact ⟨.rule 0, .star (.terminal rfl), fun _ member => nomatch member⟩
  refine ⟨_, rfl, ?_⟩
  exact (results_account_for_text verbatim bracketsWorkspace_verbatim _).1 60
    (.initial bracketsWorkspace (.ofString "()(()") none) _ _ _ rfl rfl

end Peg
