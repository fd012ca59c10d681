import Peg.Proofs.Edit
import Peg.Proofs.QuietParse
import Peg.Calculator

/-! # Nested parentheses

A text starts with a row of opening parentheses, which may be empty, and a row of closing ones after
it. The grammar of nested parentheses looks at nothing else.

* **`leads_nested`**: with enough closing parentheses, every opening one is matched.
* **`leads_open`**: with too few of them the innermost ones are matched, and the next one fails at
  the end of both rows. Each parenthesis around it takes its content for missing and fails where
  that began, so that nothing deeper is noted.
* **`nested_parens_decided`**: what a parse of any text ends with. -/

namespace Peg.Calculator

/-! ## The two rows -/

/-- How many opening parentheses a text starts with. -/
def openings (text : List Char) : Nat := (text.takeWhile (· == '(')).length

/-- How many closing parentheses come right after them. -/
def closings (text : List Char) : Nat := ((text.drop (openings text)).takeWhile (· == ')')).length

/-- The two rows and what comes after them. -/
def parensRow (opened closed : Nat) (rest : List Char) : List Char :=
  List.replicate opened '(' ++ (List.replicate closed ')' ++ rest)

/-- One more opening parenthesis stands at the front. -/
theorem parensRow_succ (opened closed : Nat) (rest : List Char) :
    parensRow (opened + 1) closed rest = '(' :: parensRow opened closed rest := rfl

/-- The rows are as long as they have parentheses, and then comes the rest. -/
theorem length_parensRow (opened closed : Nat) (rest : List Char) :
    (parensRow opened closed rest).length = opened + closed + rest.length := by
  simp only [parensRow, List.length_append, List.length_replicate]
  omega

/-- What is left behind all pairs. -/
theorem drop_parensRow {opened closed : Nat} (enough : opened ≤ closed) (rest : List Char) :
    (parensRow opened closed rest).drop (2 * opened)
      = List.replicate (closed - opened) ')' ++ rest := by
  rw [parensRow, Nat.two_mul, ← List.drop_drop, List.drop_left' List.length_replicate,
    List.drop_append_of_le_length (by rwa [List.length_replicate]), List.drop_replicate]

/-- A row of one character and the rest of the text. -/
theorem eq_replicate_append_drop (c : Char) (text : List Char) :
    text = List.replicate (text.takeWhile (· == c)).length c
      ++ text.drop (text.takeWhile (· == c)).length := by
  induction text with
  | nil => rfl
  | cons first text inductionHypothesis =>
    by_cases same : first = c
    · subst same
      simpa [List.replicate_succ] using inductionHypothesis
    · simp [same]

/-- After a longest run of a character comes another character, or the end. -/
theorem head?_drop_takeWhile (c : Char) (text : List Char) :
    (text.drop (text.takeWhile (· == c)).length).head? ≠ some c := by
  induction text with
  | nil => simp
  | cons first text inductionHypothesis =>
    by_cases same : first = c
    · subst same
      simpa using inductionHypothesis
    · simp [same]

/-- A text is its two rows and a rest that does not go on with either. -/
theorem exists_parensRow (text : List Char) :
    ∃ rest, text = parensRow (openings text) (closings text) rest ∧ rest.head? ≠ some ')'
      ∧ (List.replicate (closings text) ')' ++ rest).head? ≠ some '(' := by
  have opened := eq_replicate_append_drop '(' text
  have closed := eq_replicate_append_drop ')' (text.drop (openings text))
  refine ⟨_, ?_, head?_drop_takeWhile ')' (text.drop (openings text)), ?_⟩
  · rw [parensRow, closings, ← closed]
    exact opened
  · rw [closings, ← closed]
    exact head?_drop_takeWhile '(' text

/-! ## The grammar -/

/-- An opening parenthesis, perhaps a nested pair, and a closing one. -/
def parensParser : Parser :=
  .transform (.sequence (.terminal (.literal (.str ['('])))
    [.optional (.rule 0) (.int 0), .terminal (.literal (.str [')']))])
    "<lambda>" fun value => do (← value.elementAt 1).add (.int 1)

/-- The workspace with the rule of nested parentheses. -/
def parensWorkspace : Workspace where
  cells := #[⟨"parens", .resolved parensParser, 0⟩]
  grammar := { rules := [("parens", 0)], start := some "parens" }

/-- The rules build the workspace. -/
theorem workspaceOf_parensRules : workspaceOf parensRules = .ok parensWorkspace := rfl

/-- The start rule is the only rule, and asking for it changes nothing. -/
theorem startRule_parensWorkspace :
    (startRule none).run.run parensWorkspace = (.ok (.rule 0), parensWorkspace) := by
  have undefined : parensWorkspace.undefinedNames = [] := by
    have none : parensWorkspace.grammar.rules.filter
        (fun rule => !(parensWorkspace.bindingOf rule.2).isDefined) = [] := rfl
    rw [Workspace.undefinedNames, none]
    exact List.mergeSort_nil
  have checked : parensWorkspace.check = .ok () := by
    rw [Workspace.check, undefined]
    rfl
  change Edit.outcome (startRule none) _ = _
  simp only [startRule, Edit.outcome_bind, Edit.outcome_get, Edit.outcome_lift, checked]
  rfl

/-- A parse of parentheses is a parse with the only rule. -/
theorem parseParens_eq (fuel : Nat) (input : Value) (tracer : Option Tracer) :
    parseParens fuel input none tracer = parse fuel parensWorkspace (.rule 0) input tracer := by
  simp only [parseParens, parseWith, workspaceOf_parensRules, startRule_parensWorkspace]

/-! ## One pair of parentheses -/

/-- A character is read where it stands. -/
theorem literal_matched (c : Char) (rest : List Char) :
    (Terminal.literal (.str [c])).verdict (.str (c :: rest))
      = .ok (.matched (.str [c]) (.str rest)) := by
  simp [Terminal.verdict, Value.isSequence, Value.take, Value.drop, Value.length, Value.same]

/-- A character is missed where another one stands, and where the text ends. -/
theorem literal_missed {c : Char} {text : List Char} (other : text.head? ≠ some c) :
    (Terminal.literal (.str [c])).verdict (.str text) = .ok (.missed (.str [c])) := by
  cases text with
  | nil => simp [Terminal.verdict, Value.isSequence, Value.take, Value.length, Value.same]
  | cons first rest =>
    have differs : first ≠ c := fun same => other (congrArg some same)
    simp [Terminal.verdict, Value.isSequence, Value.take, Value.length, Value.same, differs]

section Pair

variable {text inside after : List Char} {depth : Nat} {answer : Except Fault Outcome}
  {notes : List Note}

/-- What the grammar leads to on a part of a text. -/
abbrev ParensLeads (text : List Char) (input : List Char) (answer : Except Fault Outcome)
    (notes : List Note) : Prop :=
  Leads parensWorkspace (.str text) (.call (.rule 0) (.str input)) answer notes

/-- What a pair may hold: nothing if the content fails. -/
abbrev ContentLeads (text inside : List Char) (depth : Nat) (after : List Char)
    (notes : List Note) : Prop :=
  Leads parensWorkspace (.str text) (.call (.optional (.rule 0) (.int 0)) (.str inside))
    (.ok (.ok (.int depth) (.str after))) notes

/-- If the content of a pair matches, its depth is the value. -/
theorem ContentLeads.of_match
    (content : ParensLeads text inside (.ok (.ok (.int depth) (.str after))) notes) :
    ContentLeads text inside depth after notes :=
  .call (content.of_first .present)

/-- If the content of a pair fails, nothing is read and the depth is zero. -/
theorem ContentLeads.of_fail {payload rest : Value}
    (content : ParensLeads text inside (.ok (.fail payload rest)) notes) :
    ContentLeads text inside 0 inside notes :=
  .call (content.of_first .absent)

/-- The rule leads where its body does. -/
theorem parensLeads_of_body
    (body : Leads parensWorkspace (.str text) (.call parensParser (.str inside)) answer notes) :
    ParensLeads text inside answer notes :=
  .rule rfl body

/-- Without an opening parenthesis nothing matches. -/
theorem parensLeads_miss {position : Nat} (other : (text.drop position).head? ≠ some '(') :
    ParensLeads text (text.drop position) (.ok (.fail (.str ['(']) (.str (text.drop position))))
      [⟨.str ['('], position⟩] := by
  have first : Leads parensWorkspace (.str text)
      (.call (.terminal (.literal (.str ['(']))) ((Value.str text).drop position)) _ _ :=
    .missed rfl (literal_missed other)
  exact parensLeads_of_body (.transformFail (.sequence (first.of_first .allFail)))

/-- A closing parenthesis after the content makes a pair. -/
theorem parensLeads_close (content : ContentLeads text inside depth (')' :: after) notes) :
    ParensLeads text ('(' :: inside) (.ok (.ok (.int (depth + 1 : Nat)) (.str after))) notes := by
  have first : Leads parensWorkspace (.str text)
      (.call (.terminal (.literal (.str ['(']))) (.str ('(' :: inside))) _ _ :=
    .matched (literal_matched '(' inside)
  have last : Leads parensWorkspace (.str text)
      (.call (.terminal (.literal (.str [')']))) (.str (')' :: after))) _ _ :=
    .matched (literal_matched ')' after)
  have parts : Leads parensWorkspace (.str text) (.all (.str ('(' :: inside)) _ _) _ _ :=
    first.append (content.append (last.append .allNil .allCons) .allCons) .allCons
  rw [List.append_nil, List.append_nil, List.nil_append] at parts
  exact parensLeads_of_body (.transform (.sequence parts))

/-- Without one the pair fails, and it gives back all that it read. -/
theorem parensLeads_unclosed {position : Nat}
    (content : ContentLeads text inside depth (text.drop position) notes)
    (other : (text.drop position).head? ≠ some ')') :
    ParensLeads text ('(' :: inside) (.ok (.fail (.str [')']) (.str ('(' :: inside))))
      (notes ++ [⟨.str [')'], position⟩]) := by
  have first : Leads parensWorkspace (.str text)
      (.call (.terminal (.literal (.str ['(']))) (.str ('(' :: inside))) _ _ :=
    .matched (literal_matched '(' inside)
  have last : Leads parensWorkspace (.str text)
      (.call (.terminal (.literal (.str [')']))) ((Value.str text).drop position)) _ _ :=
    .missed rfl (literal_missed other)
  have failed : Leads parensWorkspace (.str text) (.all (.str ('(' :: inside)) [_] _) _ _ :=
    last.of_first .allFail
  have parts := first.append (content.append failed .allFailLater) .allFailLater
  rw [List.nil_append] at parts
  exact parensLeads_of_body (.transformFail (.sequence parts))

end Pair

/-! ## All pairs -/

section Rows

variable {text rest : List Char} {closed : Nat}

/-- After an opening parenthesis comes a row with one less of them. -/
theorem drop_succ_eq {opened position : Nat}
    (shown : text.drop position = parensRow (opened + 1) closed rest) :
    text.drop (position + 1) = parensRow opened closed rest := by
  rw [← List.drop_drop, shown, parensRow_succ, List.drop_one, List.tail_cons]

/-- With enough closing parentheses the content of a pair ends where that of the pair does. The only
failure on the way is where a further opening parenthesis could stand. -/
theorem contentLeads_nested (noOpening : (List.replicate closed ')' ++ rest).head? ≠ some '(')
    {opened position : Nat} (enough : opened ≤ closed)
    (shown : text.drop position = parensRow opened closed rest) :
    ContentLeads text (text.drop position) opened
      (List.replicate (closed - opened) ')' ++ rest) [⟨.str ['('], position + opened⟩] := by
  induction opened generalizing position with
  | zero =>
    have missed : ParensLeads text (text.drop position) _ _ := parensLeads_miss (by rwa [shown])
    have content := ContentLeads.of_fail missed
    rwa [shown] at content ⊢
  | succ opened inductionHypothesis =>
    have content := inductionHypothesis (by omega) (drop_succ_eq shown)
    have more : closed - opened = closed - (opened + 1) + 1 := by omega
    rw [more, List.replicate_succ, List.cons_append, drop_succ_eq shown, Nat.add_right_comm,
      Nat.add_assoc] at content
    rw [shown, parensRow_succ]
    exact .of_match (parensLeads_close content)

/-- **With enough closing parentheses** each opening one is matched. -/
theorem leads_nested (noOpening : (List.replicate closed ')' ++ rest).head? ≠ some '(')
    {opened position : Nat} (enough : opened < closed)
    (shown : text.drop position = parensRow (opened + 1) closed rest) :
    ParensLeads text (text.drop position)
      (.ok (.ok (.int (opened + 1 : Nat))
        (.str (List.replicate (closed - (opened + 1)) ')' ++ rest))))
      [⟨.str ['('], position + 1 + opened⟩] := by
  have content := contentLeads_nested noOpening (Nat.le_of_lt enough) (drop_succ_eq shown)
  have more : closed - opened = closed - (opened + 1) + 1 := by omega
  rw [more, List.replicate_succ, List.cons_append, drop_succ_eq shown] at content
  rw [shown, parensRow_succ]
  exact parensLeads_close content

/-- **With too few closing parentheses** the innermost opening ones are matched and the next one
fails at the end of the rows. The ones around it fail at the place after them, which is nearer. -/
theorem leads_open (noOpening : (List.replicate closed ')' ++ rest).head? ≠ some '(')
    (noClosing : rest.head? ≠ some ')') {opened position : Nat} (few : closed < opened)
    (shown : text.drop position = parensRow opened closed rest) :
    ∃ late, (∀ note ∈ late, note.position < position + opened + closed)
      ∧ ParensLeads text (text.drop position) (.ok (.fail (.str [')']) (.str (text.drop position))))
        (⟨.str ['('], position + opened⟩ :: ⟨.str [')'], position + opened + closed⟩ :: late) := by
  obtain ⟨extra, rfl⟩ := Nat.exists_eq_add_of_lt few
  induction extra generalizing position with
  | zero =>
    have content := contentLeads_nested noOpening (Nat.le_refl closed) (drop_succ_eq shown)
    have after : rest = text.drop (position + (closed + 1) + closed) := by
      rw [Nat.add_comm closed 1, ← Nat.add_assoc, ← List.drop_drop, ← List.drop_drop,
        drop_succ_eq shown, parensRow, List.drop_left' List.length_replicate,
        List.drop_left' List.length_replicate]
    rw [Nat.sub_self, List.replicate_zero, List.nil_append, after, drop_succ_eq shown] at content
    have unclosed := parensLeads_unclosed content (after ▸ noClosing)
    rw [Nat.add_right_comm, Nat.add_assoc] at unclosed
    rw [shown, parensRow_succ]
    exact ⟨[], by simp, unclosed⟩
  | succ extra inductionHypothesis =>
    have inside : text.drop (position + 1) = parensRow (closed + extra + 1) closed rest :=
      drop_succ_eq shown
    obtain ⟨late, nearer, failed⟩ := inductionHypothesis (by omega) inside
    -- the content fails as a whole, so a closing parenthesis is looked for where it began
    have content := ContentLeads.of_fail failed
    have other : (text.drop (position + 1)).head? ≠ some ')' := by
      rw [inside, parensRow_succ]
      simp
    have unclosed := parensLeads_unclosed content other
    have shifted : position + 1 + (closed + extra + 1) = position + (closed + (extra + 1) + 1) := by
      omega
    rw [shifted, List.cons_append, List.cons_append] at unclosed
    rw [shifted] at nearer
    rw [shown, parensRow_succ, ← Nat.add_assoc closed, ← inside]
    refine ⟨late ++ [⟨.str [')'], position + 1⟩], ?_, unclosed⟩
    rw [List.forall_mem_append, List.forall_mem_singleton]
    refine ⟨nearer, ?_⟩
    simp only
    omega

end Rows

/-! ## What a parse answers -/

/-- The failure lies at an offset of a text: all of the text is given back, and it tells which
payload came last and what was expected there. -/
structure FailsAt (failure : Failure) (text : List Char) (offset : Nat) (payload : Value)
    (expected : List Value) : Prop where
  /-- All of the text is given back. -/
  rewound_eq : failure.rewound = .str text
  /-- It is the place of the failure. -/
  position_eq : failure.position = some (offset : Int)
  /-- The payload is the one that came last. -/
  result_eq : failure.result = payload
  /-- This was expected. -/
  alternatives_eq : failure.alternatives = expected

/-- Given enough steps, a parse of the text has an answer, and it is of a certain kind. -/
def ParensAnswers (text : List Char) (kind : Except Fault Success → Prop) : Prop :=
  ∃ enough report, (∀ fuel ≥ enough, parseParens fuel (.str text) none none = some report)
    ∧ kind report.answer

section Answer

variable {text : List Char}

/-- A failure of the grammar is raised with the deepest notes. -/
theorem answers_of_fail {payload : Value} (early : List Note) {payloads : List Value}
    (late : List Note) {offset : Nat} (some : payloads ≠ []) (bound : offset ≤ text.length)
    (before : ∀ note ∈ early, note.position < offset)
    (after : ∀ note ∈ late, note.position < offset)
    (writable : ∀ payload ∈ payloads, payload.isWritable)
    (leads : ParensLeads text text (.ok (.fail payload (.str text)))
      (early ++ payloads.map (⟨·, offset⟩) ++ late)) :
    ParensAnswers text fun answer => ∃ failure, answer = .error (.parse failure)
      ∧ FailsAt failure text offset payload (distinct payloads) := by
  obtain ⟨failure, concluded, lies, listed⟩ := exists_failure parensWorkspace payload
    (rfl : (Value.str text).isSequence) some bound before after writable
  obtain ⟨enough, reported⟩ := leads.exists_report
  refine ⟨enough, _, fun fuel le => (parseParens_eq fuel _ none).trans (reported fuel le),
    failure, concluded, lies.rewound_eq, lies.position_eq, ?_, listed⟩
  exact Context.result_of_failure (State.failure_of_conclude rfl concluded)

/-- Without an opening parenthesis one is expected at the start. -/
theorem answers_of_no_opening (noneOpened : openings text = 0) :
    ParensAnswers text fun answer => ∃ failure, answer = .error (.parse failure)
      ∧ FailsAt failure text 0 (.str ['(']) [.str ['(']] := by
  obtain ⟨rest, whole, -, noOpening⟩ := exists_parensRow text
  have other : (text.drop 0).head? ≠ some '(' := by
    rw [List.drop_zero, whole, noneOpened]
    exact noOpening
  exact answers_of_fail [] [] (List.cons_ne_nil (.str ['(']) []) (Nat.zero_le _) (by simp)
    (by simp) (by simp [Value.isWritable]) (parensLeads_miss other)

/-- With enough closing parentheses the depth is answered. -/
theorem answers_of_enough (some : 1 ≤ openings text) (enough : openings text ≤ closings text) :
    ParensAnswers text fun answer => ∃ success, answer = .ok success
      ∧ success.result = .int (openings text)
      ∧ success.unconsumed = .str (text.drop (2 * openings text)) := by
  obtain ⟨rest, whole, -, noOpening⟩ := exists_parensRow text
  obtain ⟨opened, counted⟩ := Nat.exists_eq_add_of_le' some
  rw [counted] at whole enough ⊢
  have leads := leads_nested noOpening enough ((List.drop_zero).trans whole)
  have after : List.replicate (closings text - (opened + 1)) ')' ++ rest
      = text.drop (2 * (opened + 1)) :=
    (drop_parensRow enough rest).symm.trans (congrArg _ whole.symm)
  rw [List.drop_zero, after] at leads
  obtain ⟨steps, reported⟩ := leads.exists_report
  refine ⟨steps, _, fun fuel le => (parseParens_eq fuel _ none).trans (reported fuel le),
    ⟨_, _, _⟩, rfl, rfl, rfl⟩

/-- With too few closing parentheses another one is expected behind them. -/
theorem answers_of_few (few : closings text < openings text) :
    ParensAnswers text fun answer => ∃ failure, answer = .error (.parse failure)
      ∧ FailsAt failure text (openings text + closings text) (.str [')'])
        (if closings text = 0 then [.str ['('], .str [')']] else [.str [')']]) := by
  obtain ⟨rest, whole, noClosing, noOpening⟩ := exists_parensRow text
  obtain ⟨late, nearer, leads⟩ :=
    leads_open noOpening noClosing few ((List.drop_zero).trans whole)
  have bound : openings text + closings text ≤ text.length := by
    have length := congrArg List.length whole
    rw [length_parensRow] at length
    omega
  rw [List.drop_zero, Nat.zero_add] at leads
  rw [Nat.zero_add] at nearer
  -- the missed opening parenthesis is as deep only if no closing one comes after it
  by_cases none : closings text = 0
  · rw [none, Nat.add_zero] at leads nearer bound ⊢
    exact answers_of_fail [] late (List.cons_ne_nil (.str ['(']) [.str [')']]) bound (by simp)
      nearer (by simp [Value.isWritable]) leads
  · rw [if_neg none]
    refine answers_of_fail [⟨.str ['('], openings text⟩] late
      (List.cons_ne_nil (.str [')']) []) bound ?_ nearer (by simp [Value.isWritable]) leads
    rw [List.forall_mem_singleton]
    simp only
    omega

end Answer

/-- **Nested parentheses are decided by the two rows that a text starts with.** Every parse ends.

* It succeeds exactly if there is an opening parenthesis and there are at least as many closing
  ones. The value is the number of pairs, and what comes after them is left.
* Otherwise all of the text is given back. Without any opening parenthesis, one is expected at the
  start. Without any closing one, either is expected behind the first row; and with too few of them,
  another one behind the second row. -/
theorem nested_parens_decided (text : List Char) :
    ∃ enough report, (∀ fuel ≥ enough, parseParens fuel (.str text) none none = some report)
      ∧ ((∃ success, report.answer = .ok success)
        ↔ 1 ≤ openings text ∧ openings text ≤ closings text)
      ∧ (∀ success, report.answer = .ok success →
        success.result = .int (openings text)
          ∧ success.unconsumed = .str (text.drop (2 * openings text)))
      ∧ (openings text = 0 → ∃ failure, report.answer = .error (.parse failure)
        ∧ FailsAt failure text 0 (.str ['(']) [.str ['(']])
      ∧ (1 ≤ openings text → closings text = 0 → ∃ failure, report.answer = .error (.parse failure)
        ∧ FailsAt failure text (openings text) (.str [')']) [.str ['('], .str [')']])
      ∧ (1 ≤ closings text → closings text < openings text →
        ∃ failure, report.answer = .error (.parse failure)
          ∧ FailsAt failure text (openings text + closings text) (.str [')']) [.str [')']]) := by
  by_cases noneOpened : openings text = 0
  · obtain ⟨enough, report, reported, failure, answered, fails⟩ := answers_of_no_opening noneOpened
    refine ⟨enough, report, reported, ?_, ?_, fun _ => ⟨failure, answered, fails⟩, ?_, ?_⟩
    · simp [answered, noneOpened]
    · simp [answered]
    · omega
    · omega
  by_cases few : closings text < openings text
  · obtain ⟨enough, report, reported, failure, answered, fails⟩ := answers_of_few few
    refine ⟨enough, report, reported, ?_, ?_, ?_, ?_, ?_⟩
    · simp only [answered, reduceCtorEq, exists_false, false_iff]
      omega
    · simp [answered]
    · omega
    · -- without a closing parenthesis another pair could start there
      intro _ noneClosed
      rw [if_pos noneClosed, noneClosed, Nat.add_zero] at fails
      exact ⟨failure, answered, fails⟩
    · intro closed _
      rw [if_neg (by omega)] at fails
      exact ⟨failure, answered, fails⟩
  · -- what is closed more often than opened is left unconsumed
    obtain ⟨enough, report, reported, success, answered, result, unconsumed⟩ :=
      answers_of_enough (Nat.one_le_iff_ne_zero.2 noneOpened) (Nat.not_lt.1 few)
    refine ⟨enough, report, reported, ⟨fun _ => by omega, fun _ => ⟨success, answered⟩⟩, ?_, ?_, ?_,
      ?_⟩
    · intro other same
      cases answered.symm.trans same
      exact ⟨result, unconsumed⟩
    · omega
    · omega
    · omega

end Peg.Calculator
