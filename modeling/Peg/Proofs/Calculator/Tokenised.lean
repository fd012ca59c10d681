import Peg.Proofs.Calculator.Tokens

/-! # The calculator over tokens

A row of tokens is a second front end of the grammar, and the tokens of a text are its symbols: the
two calculators read the same.

* **`tokenFront`**: tokens as a front end.
* **`calculators_agree`**: on every text the calculator over text and the calculator over its tokens
  give the same value, raise the same fault of a computation, or fail at the same symbol. -/

namespace Peg.Calculator

/-! ## Terminals -/

/-- The kinds of the tokens that a terminal stands for. -/
def Expectation.kinds : Expectation → List (List Char)
  | .number => ["NUMBER".toList]
  | .operators .sum => [['+'], ['-']]
  | .operators .product => [['*'], ['/']]
  | .minus => [['-']]
  | .left => [['(']]
  | .right => [[')']]
  | .finish => []

/-- What is noted where no such token stands. -/
def Expectation.kindPayloads : Expectation → List Value
  | .finish => [.ofString "<end of input>"]
  | expectation => expectation.kinds.map .str

/-- What is noted before an operator is found: the one that is tried first. -/
def Operator.passedKinds : Operator → List Value
  | .plus => []
  | .minus => [.str ['+']]
  | .times => []
  | .divide => [.str ['*']]

/-- One of two operators. -/
def operatorParser (first second : Char) : Parser :=
  .transform (.choice (.terminal (.keyword [first])) [.terminal (.keyword [second])]) "<lambda>"
    Value.lexeme

/-- The parsers of the terminals. -/
def tokenParser : Expectation → Parser
  | .number =>
    .transform (.terminal (.ofKind "NUMBER".toList)) "<lambda>"
      fun value => do readNumber (← value.lexeme)
  | .operators .sum => operatorParser '+' '-'
  | .operators .product => operatorParser '*' '/'
  | .minus => .transform (.terminal (.keyword ['-'])) "<lambda>" Value.lexeme
  | .left => .terminal (.keyword ['('])
  | .right => .terminal (.keyword [')'])
  | .finish => .terminal .endOfInput

/-- The descriptions of the terminals. -/
def tokenDescription : Expectation → Description
  | .number => .transform (.terminal (.ofKind "NUMBER".toList)) "<lambda>"
      fun value => do readNumber (← value.lexeme)
  | .operators .sum => operatorToken ['+', '-']
  | .operators .product => operatorToken ['*', '/']
  | .minus => operatorToken ['-']
  | .left => .terminal (.keyword ['('])
  | .right => .terminal (.keyword [')'])
  | .finish => .terminal .endOfInput

/-- A parse with the calculator on tokens is a parse with its second rule, in the workspace that its
rules make. -/
theorem parseTokens_eq (fuel : Nat) (tokens : List Token) (tracer : Option Tracer) :
    parseTokens fuel tokens none tracer
      = parse fuel (workspaceWith tokenParser) (.rule 1) (.tuple (tokens.map .token)) tracer := by
  have built : ∀ expectation workspace, Edit.outcome (tokenDescription expectation).build workspace
      = (.ok (tokenParser expectation), workspace) := by
    intro expectation workspace
    match expectation with
    | .number => rfl
    | .operators .sum => rfl
    | .operators .product => rfl
    | .minus => rfl
    | .left => rfl
    | .right => rfl
    | .finish => rfl
  exact parseWith_eq tokenParser (workspaceOf_rules built) fuel _ tracer

/-! ## What terminals find -/

/-- The token is one of the symbol. -/
structure IsTokenFor (token : Token) (symbol : Symbol) : Prop where
  /-- It has the kind of the symbol. -/
  kind_eq : symbol.kind? = some token.kind
  /-- Its lexeme is that of the symbol. -/
  text_eq : token.text = symbol.lexeme

/-- A terminal accepts the symbols of tokens of its kinds. -/
theorem IsTokenFor.accepts_iff {token : Token} {symbol : Symbol} (spells : IsTokenFor token symbol)
    (expectation : Expectation) : expectation.accepts symbol ↔ token.kind ∈ expectation.kinds := by
  have kind := spells.kind_eq
  cases symbol with
  | other c => cases kind
  | operator sign =>
    rw [← Option.some.inj kind]
    rcases expectation with _ | (_ | _) | _ | _ | _ | _ <;> cases sign <;> decide
  | _ =>
    rw [← Option.some.inj kind]
    rcases expectation with _ | (_ | _) | _ | _ | _ | _ <;>
      simp [Expectation.accepts, Expectation.kinds]

/-- A row of tokens as an input. -/
def rowOf (tokens : List Token) : Value := .tuple (tokens.map .token)

section Terminals

variable {workspace : Workspace} {tokens late : List Token} {token : Token}

/-- A token is matched by its kind alone. -/
theorem verdict_lexical (label : String) (kind : List Char) (tokens : List Token) :
    (Terminal.lexical label kind).verdict (rowOf tokens)
      = match tokens with
        | token :: later =>
          if token.kind = kind then .ok (.matched (.token token) (rowOf later))
          else .ok (.missed (.str kind))
        | [] => .ok (.missed (.str kind)) := by
  cases tokens with
  | nil => rfl
  | cons token later =>
    have unfolded : (Terminal.lexical label kind).verdict (rowOf (token :: later))
        = if token.kind == kind then .ok (.matched (.token token) (rowOf later))
          else .ok (.missed (.str kind)) := rfl
    rw [unfolded]
    simp only [beq_iff_eq]

/-- A token of the right kind is read, and nothing is noted. -/
theorem leads_lexical {source : Value} {label : String} {kind : List Char}
    (found : token.kind = kind) :
    Leads workspace source (.call (.terminal (.lexical label kind)) (rowOf (token :: late)))
      (.ok (.ok (.token token) (rowOf late))) [] := by
  refine Leads.matched ?_
  rw [verdict_lexical]
  exact if_pos found

/-- What is left of a row of tokens. -/
theorem rowOf_eq_drop (within : late <:+ tokens) :
    rowOf late = (rowOf tokens).drop (tokens.length - late.length) := by
  rw [rowOf, rowOf, Value.drop, ← List.map_drop, ← List.suffix_iff_eq_drop.1 within]

/-- A terminal for tokens of another kind notes its own kind. -/
theorem leads_lexical_miss (label : String) (kind : List Char) (within : late <:+ tokens)
    (missed : ∀ token, late.head? = some token → token.kind ∉ [kind]) :
    Leads workspace (rowOf tokens) (.call (.terminal (.lexical label kind)) (rowOf late))
      (.ok (.fail (.str kind) (rowOf late))) [⟨.str kind, tokens.length - late.length⟩] := by
  have verdict : (Terminal.lexical label kind).verdict (rowOf late)
      = .ok (.missed (.str kind)) := by
    rw [verdict_lexical]
    cases late with
    | nil => rfl
    | cons token later => exact if_neg fun same => missed token rfl (List.mem_singleton.2 same)
  rw [rowOf_eq_drop within] at verdict ⊢
  exact Leads.missed rfl verdict

/-- The end is missed where a token stands. -/
theorem leads_finish_miss (within : late <:+ tokens) (some : late ≠ []) :
    Leads workspace (rowOf tokens) (.call (.terminal .endOfInput) (rowOf late))
      (.ok (.fail (.ofString "<end of input>") (rowOf late)))
      [⟨.ofString "<end of input>", tokens.length - late.length⟩] := by
  have verdict : Terminal.endOfInput.verdict (rowOf late)
      = .ok (.missed (.ofString "<end of input>")) := by
    obtain ⟨token, later, rfl⟩ := List.exists_cons_of_ne_nil some
    rfl
  rw [rowOf_eq_drop within] at verdict ⊢
  exact Leads.missed rfl verdict

end Terminals

/-! ## The front end -/

/-- What an input shows of the symbols of a row of tokens. -/
def TokensShow (tokens : List Token) (input : Value) (symbols : List Symbol) : Prop :=
  ∃ late, input = rowOf late ∧ late <:+ tokens ∧ List.Forall₂ IsTokenFor late symbols

/-- The first symbol that an input shows is that of its first token. -/
theorem TokensShow.exists_first {tokens : List Token} {input : Value} {symbol : Symbol}
    {rest : List Symbol} (shown : TokensShow tokens input (symbol :: rest)) :
    ∃ token late, input = rowOf (token :: late) ∧ token :: late <:+ tokens
      ∧ IsTokenFor token symbol ∧ late.length = rest.length
      ∧ TokensShow tokens (rowOf late) rest := by
  obtain ⟨row, rfl, within, spelt⟩ := shown
  obtain ⟨token, late, first, others, rfl⟩ := List.forall₂_cons_right_iff.1 spelt
  exact ⟨token, late, rfl, within, first, others.length_eq,
    late, rfl, (List.suffix_cons _ _).trans within, others⟩

section Operators

variable {tokens late : List Token} {token : Token} {first second : Char}

/-- The first of two operators is found at once. -/
theorem leads_first_operator (found : token.kind = [first]) :
    Leads (workspaceWith tokenParser) (rowOf tokens)
      (.call (operatorParser first second) (rowOf (token :: late)))
      (.ok (.ok (.str token.text) (rowOf late))) [] :=
  Leads.transform (Leads.choice ((leads_lexical found).of_first .anyOk))

/-- The second one is found after the first one was missed. -/
theorem leads_second_operator (within : token :: late <:+ tokens) (found : token.kind = [second])
    (differ : first ≠ second) :
    Leads (workspaceWith tokenParser) (rowOf tokens)
      (.call (operatorParser first second) (rowOf (token :: late)))
      (.ok (.ok (.str token.text) (rowOf late)))
      [⟨.str [first], tokens.length - (late.length + 1)⟩] := by
  have misses : ∀ other, (token :: late).head? = some other → other.kind ∉ [[first]] := by
    intro other same
    cases same
    rw [found]
    simpa using Ne.symm differ
  exact Leads.transform (Leads.choice ((leads_lexical_miss _ [first] within misses).append
    ((leads_lexical found).of_first .anyOk) .anyNext))

/-- Both are missed where neither stands. -/
theorem leads_no_operator (within : late <:+ tokens)
    (missed : ∀ token, late.head? = some token → token.kind ∉ [[first], [second]]) :
    Leads (workspaceWith tokenParser) (rowOf tokens)
      (.call (operatorParser first second) (rowOf late))
      (.ok (.fail (.str [second]) (rowOf late)))
      ([.str [first], .str [second]].map (⟨·, tokens.length - late.length⟩)) := by
  have missesFirst (token : Token) (head : late.head? = some token) : token.kind ∉ [[first]] :=
    fun listed => missed token head (List.mem_cons.2 (.inl (List.mem_singleton.1 listed)))
  have missesSecond (token : Token) (head : late.head? = some token) : token.kind ∉ [[second]] :=
    fun listed => missed token head (List.mem_cons_of_mem _ listed)
  exact Leads.transformFail (Leads.choice ((leads_lexical_miss _ [first] within missesFirst).append
    ((leads_lexical_miss _ [second] within missesSecond).of_first .anyLast) .anyNext))

end Operators

/-- Where a terminal does not stand, no token of its kinds stands. -/
theorem kind_not_mem_of_not_meets {expectation : Expectation} {late : List Token}
    {rest : List Symbol} (spelt : List.Forall₂ IsTokenFor late rest)
    (none : expectation.meets rest = false) :
    ∀ token, late.head? = some token → token.kind ∉ expectation.kinds := by
  intro token head listed
  cases spelt with
  | nil => cases head
  | cons spells =>
    cases head
    have accepts := (spells.accepts_iff expectation).2 listed
    cases expectation with
    | finish => cases listed
    | _ => simp_all [Expectation.meets]

/-- A row of tokens that are those of symbols, as a front end of the calculator. -/
def tokenFront (tokens : List Token) (symbols : List Symbol)
    (spelt : List.Forall₂ IsTokenFor tokens symbols) : FrontEnd where
  source := rowOf tokens
  symbols := symbols
  parser := tokenParser
  Shows := TokensShow tokens
  place left := tokens.length - left
  payloads := Expectation.kindPayloads
  passed := Operator.passedKinds
  payloads_ne_nil expectation := by
    rcases expectation with _ | (_ | _) | _ | _ | _ | _ <;> exact List.cons_ne_nil _ _
  writable expectation := by
    rcases expectation with _ | (_ | _) | _ | _ | _ | _ <;>
      simp [Expectation.kindPayloads, Expectation.kinds, Value.isWritable, Value.ofString]
  isSequence := rfl
  shows_source := ⟨tokens, rfl, List.suffix_rfl, spelt⟩
  place_le left := by
    rw [rowOf, Value.length, List.length_map]
    exact Nat.sub_le _ _
  place_lt lt bound := by
    rw [← spelt.length_eq] at bound
    omega
  finds_number := by
    intro input numeral rest shown
    obtain ⟨token, late, rfl, -, spells, -, shownLater⟩ := shown.exists_first
    have kind : token.kind = "NUMBER".toList := (Option.some.inj spells.kind_eq).symm
    have text : token.text = numeral := spells.text_eq
    refine ⟨rowOf late, shownLater, ?_⟩
    rw [← text]
    exact Leads.transform (leads_lexical kind)
  finds_operator := by
    intro input operator rest shown
    obtain ⟨token, late, rfl, within, spells, length, shownLater⟩ := shown.exists_first
    have kind : token.kind = [operator.char] := (Option.some.inj spells.kind_eq).symm
    have text : token.text = [operator.char] := spells.text_eq
    refine ⟨rowOf late, shownLater, ?_⟩
    rw [← text, ← length]
    cases operator with
    | plus => exact leads_first_operator kind
    | minus => exact leads_second_operator within kind (by decide)
    | times => exact leads_first_operator kind
    | divide => exact leads_second_operator within kind (by decide)
  finds_mark := by
    intro expectation input symbol rest mark shown accepts
    obtain ⟨token, late, rfl, -, spells, -, shownLater⟩ := shown.exists_first
    have listed := (spells.accepts_iff expectation).1 accepts
    match expectation with
    | .minus =>
      exact ⟨_, _, shownLater, Leads.transform (leads_lexical (List.mem_singleton.1 listed))⟩
    | .left => exact ⟨_, _, shownLater, leads_lexical (List.mem_singleton.1 listed)⟩
    | .right => exact ⟨_, _, shownLater, leads_lexical (List.mem_singleton.1 listed)⟩
  finds_finish := by
    intro input shown
    obtain ⟨late, rfl, -, none⟩ := shown
    cases none
    exact ⟨.null, rowOf [], rfl, Leads.matched rfl⟩
  misses := by
    intro expectation input rest shown none
    obtain ⟨late, rfl, within, spelt⟩ := shown
    have missed := kind_not_mem_of_not_meets spelt none
    rw [← spelt.length_eq]
    match expectation with
    | .number =>
      exact ⟨_, _, Leads.transformFail (leads_lexical_miss _ _ within missed)⟩
    | .operators .sum => exact ⟨_, _, leads_no_operator within missed⟩
    | .operators .product => exact ⟨_, _, leads_no_operator within missed⟩
    | .minus =>
      exact ⟨_, _, Leads.transformFail (leads_lexical_miss _ _ within missed)⟩
    | .left => exact ⟨_, _, leads_lexical_miss _ _ within missed⟩
    | .right => exact ⟨_, _, leads_lexical_miss _ _ within missed⟩
    | .finish =>
      refine ⟨_, _, leads_finish_miss within ?_⟩
      rintro rfl
      cases spelt
      cases none

/-! ## The two calculators -/

/-- The index of a token tells the same as the offset in the text: it is that of the token which
starts there, or the number of tokens at the end. -/
def SamePlace (text : List Char) (tokens : List Token) (offset index : Nat) : Prop :=
  if offset = text.length then index = tokens.length
  else ∃ token, tokens[index]? = some token ∧ token.offset = (offset : Int)

/-- The two calculators agree: they give the same value, raise the same fault of a computation, or
fail at the same place. -/
inductive Agree (text : List Char) (tokens : List Token) :
    Except Fault Success → Except Fault Success → Prop
  | value {first second : Success} (same : first.result = second.result) :
      Agree text tokens (.ok first) (.ok second)
  | fault {fault : Fault} (computed : ∀ failure, fault ≠ .parse failure) :
      Agree text tokens (.error fault) (.error fault)
  | failure {first second : Failure} {offset index : Nat}
      (position : first.position = some (offset : Int))
      (positionToo : second.position = some (index : Int))
      (same : SamePlace text tokens offset index) :
      Agree text tokens (.error (.parse first)) (.error (.parse second))

/-- The value of a text; `none` if the steps do not suffice. -/
def evaluate (fuel : Nat) (text : List Char) : Option (Except Fault Value) :=
  (parseText fuel (.str text) none).map fun report => report.answer.map (·.result)

/-- The value of a text through its tokens; `none` if the steps do not suffice. -/
def evaluateTokens (fuel : Nat) (text : List Char) : Option (Except Fault Value) :=
  match tokenize text with
  | .error fault => some (.error fault)
  | .ok tokens =>
    (parseTokens fuel tokens none).map fun report => report.answer.map (·.result)

/-- Where a number of symbols is left, the token stands that starts there. -/
theorem samePlace_placeIn {text : List Char} {tokens : List Token}
    (cut : List.Forall₂ (IsTokenOf text.length) tokens (pieces text)) {left : Nat}
    (bound : left ≤ tokens.length) :
    SamePlace text tokens (placeIn text left) (tokens.length - left) := by
  have lengths := cut.length_eq
  rw [SamePlace, placeIn, ← lengths]
  by_cases last : left = 0
  · subst last
    rw [Nat.sub_zero, List.getElem?_eq_none (by omega), Option.elim_none, Nat.sub_zero,
      if_pos rfl]
  · have inside : tokens.length - left < (pieces text).length := by omega
    have insideToo : tokens.length - left < tokens.length := by omega
    obtain ⟨suffix, some⟩ := start_of_mem_pieces _ (List.getElem_mem inside)
    have start := List.length_pos_iff.2 some
    have within := suffix.length_le
    rw [List.getElem?_eq_getElem inside, Option.elim_some, if_neg (by omega)]
    refine ⟨_, List.getElem?_eq_getElem insideToo, ?_⟩
    exact (cut.get insideToo inside).offset_eq

/-- Impasses in the same symbols leave the same number of them. -/
theorem FrontEnd.Impasse.length_rest {front other : FrontEnd} {failure failureToo : Failure}
    {read readToo rest restToo : List Symbol} (impasse : front.Impasse failure read rest)
    (impasseToo : other.Impasse failureToo readToo restToo)
    (same : front.symbols = other.symbols) : rest.length = restToo.length := by
  have whole : read ++ rest = readToo ++ restToo :=
    impasse.symbols_eq.symm.trans (same.trans impasseToo.symbols_eq)
  have prefixed : read <+: other.symbols := ⟨rest, whole.trans impasseToo.symbols_eq.symm⟩
  have prefixedToo : readToo <+: front.symbols :=
    ⟨restToo, whole.symm.trans impasse.symbols_eq.symm⟩
  have le := impasse.longest readToo prefixedToo impasseToo.isStart
  have ge := impasseToo.longest read prefixed impasse.isStart
  have lengths := congrArg List.length whole
  rw [List.length_append, List.length_append] at lengths
  omega

/-- The tokens of a text are those of its symbols. -/
theorem forall₂_isTokenFor {text : List Char} {tokens : List Token} {length : Nat}
    (cut : List.Forall₂ (IsTokenOf length) tokens (pieces text)) :
    List.Forall₂ IsTokenFor tokens (symbolsOf text) :=
  List.forall₂_map_right_iff.2 (cut.imp fun _ _ token => ⟨token.kind_eq, token.text_eq⟩)

/-- What came of reading the symbols, the two calculators report alike. -/
theorem agree_of_conveys {text : List Char} {tokens : List Token}
    (cut : List.Forall₂ (IsTokenOf text.length) tokens (pieces text))
    {answer : Except Fault (Option Value)} (computed : NoFailure answer)
    {first second : Except Fault Success} (conveys : (textFront text).Conveys first answer)
    (conveysToo : (tokenFront tokens _ (forall₂_isTokenFor cut)).Conveys second answer) :
    Agree text tokens first second := by
  match answer with
  | .ok (some value) =>
    obtain ⟨success, rfl, rfl⟩ := conveys
    obtain ⟨successToo, rfl, same⟩ := conveysToo
    exact .value same.symm
  | .error fault =>
    cases conveys
    cases conveysToo
    exact .fault fun failure same => computed failure (same ▸ rfl)
  | .ok none =>
    obtain ⟨failure, read, rest, rfl, impasse⟩ := conveys
    obtain ⟨failureToo, readToo, restToo, rfl, impasseToo⟩ := conveysToo
    have same := impasse.length_rest impasseToo rfl
    have bound : rest.length ≤ tokens.length := by
      rw [(forall₂_isTokenFor cut).length_eq, show symbolsOf text = read ++ rest from
        impasse.symbols_eq, List.length_append]
      exact Nat.le_add_left _ _
    refine .failure impasse.liesAt.position_eq impasseToo.liesAt.position_eq ?_
    rw [← same]
    exact samePlace_placeIn cut bound

/-- Reports that agree have the same values. -/
theorem Agree.value_iff {text : List Char} {tokens : List Token}
    {first second : Except Fault Success} (agree : Agree text tokens first second)
    {value : Value} : first.map (·.result) = .ok value ↔ second.map (·.result) = .ok value := by
  cases agree with
  | value same => rw [Except.map, Except.map, same]
  | fault => exact Iff.rfl
  | failure =>
    constructor <;>
    · intro same
      cases same

/-- A text with an unknown character is refused. -/
theorem exists_fault_of_other {text : List Char} {report : Report Success}
    (reports : (textFront text).Reports report) {piece : Piece} (member : piece ∈ pieces text)
    {c : Char} (unknown : piece.symbol = .other c) : ∃ fault, report.answer = .error fault := by
  cases answered : report.answer with
  | error fault => exact ⟨fault, rfl⟩
  | ok success =>
    obtain ⟨tree, derives, -⟩ := reports.value_iff.1 ⟨success, answered, rfl⟩
    have known := not_other_of_afterAll? (derives.afterAll? 0) _ (List.mem_map_of_mem member)
    exact absurd unknown (known c)

/-- **The two calculators agree.** On every text they give the same values. If the text has tokens
they also raise the same fault of a computation, or both fail, and then at the same place; if it has
none the calculator over text raises a fault, too. -/
theorem calculators_agree (text : List Char) :
    ∃ enough report, (∀ fuel ≥ enough, parseText fuel (.str text) none = some report)
      ∧ (∀ fuel ≥ enough, ∀ value,
        evaluate fuel text = some (.ok value) ↔ evaluateTokens fuel text = some (.ok value))
      ∧ match tokenize text with
        | .ok tokens => ∃ tokenReport,
          (∀ fuel ≥ enough, parseTokens fuel tokens none = some tokenReport)
            ∧ Agree text tokens report.answer tokenReport.answer
        | .error fault => (∃ offset line column, fault = .unexpectedChar text offset line column)
          ∧ ∃ raised, report.answer = .error raised := by
  obtain ⟨answer, remarks, reads⟩ := exists_readsAll (symbolsOf text)
  obtain ⟨report, reports, conveys⟩ := @FrontEnd.exists_report (textFront text) _ _ reads
  obtain ⟨enough, ended⟩ := reports_parseText.1 reports
  have cuts := tokenize_cuts text
  cases tokenized : tokenize text with
  | error fault =>
    rw [tokenized] at cuts
    -- the character that has no token is none of the symbols that can be read
    obtain ⟨⟨piece, member, c, unknown⟩, raised⟩ := cuts
    obtain ⟨refusal, refused⟩ := exists_fault_of_other reports member unknown
    refine ⟨enough, report, ended, fun fuel le value => ?_, raised, refusal, refused⟩
    rw [evaluate, evaluateTokens, ended fuel le, tokenized, Option.map_some, refused]
    constructor <;>
    · intro same
      cases same
  | ok tokens =>
    rw [tokenized] at cuts
    -- the tokens show the same symbols, so that one reading tells what both parses report
    have spelt := forall₂_isTokenFor cuts
    obtain ⟨tokenReport, ⟨enoughToo, endedToo⟩, conveysToo⟩ :=
      @FrontEnd.exists_report (tokenFront tokens _ spelt) _ _ reads
    have agree := agree_of_conveys cuts reads.noFailure conveys conveysToo
    have textEnds (fuel : Nat) (le : max enough enoughToo ≤ fuel) :
        parseText fuel (.str text) none = some report :=
      ended fuel ((Nat.le_max_left _ _).trans le)
    have tokensEnd (fuel : Nat) (le : max enough enoughToo ≤ fuel) :
        parseTokens fuel tokens none = some tokenReport := by
      rw [parseTokens_eq]
      exact endedToo fuel ((Nat.le_max_right _ _).trans le)
    refine ⟨max enough enoughToo, report, textEnds, fun fuel le value => ?_, tokenReport,
      tokensEnd, agree⟩
    rw [evaluate, evaluateTokens, textEnds fuel le, tokenized]
    simp only [tokensEnd fuel le, Option.map_some, Option.some.injEq]
    exact agree.value_iff

end Peg.Calculator
