import Peg.Proofs.Calculator.Cut
import Peg.Proofs.Calculator.FrontEnd

/-! # The calculator over text

Every terminal of the calculator over text skips blanks and then looks for its pattern, so what it
finds is the first symbol of the text from there on: the text is a front end of the grammar.

* **`parseText_evaluates`**: the calculator accepts exactly the expressions and computes their
  values.
* **`failure_points_at_impasse`**: its failures point at the first symbol that cannot stand where it
  stands, and list what could. -/

namespace Peg.Calculator

open Pattern

/-! ## Places in a text -/

/-- Where in a text a number of symbols is left. -/
def placeIn (text : List Char) (left : Nat) : Nat :=
  text.length - ((pieces text)[(pieces text).length - left]?).elim 0 (·.start.length)

/-- Every piece of a text starts in it, before its end. -/
theorem start_of_mem_pieces {text : List Char} :
    ∀ piece ∈ pieces text, piece.start <:+ text ∧ piece.start ≠ [] := by
  induction cut : pieces text generalizing text with
  | nil => simp
  | cons piece others inductionHypothesis =>
    obtain ⟨c, rest, later, ahead, -, rfl, whole, after⟩ := exists_of_pieces_eq_cons cut
    have within : c :: rest <:+ text := ahead ▸ List.dropWhile_suffix _
    refine List.forall_mem_cons.2 ⟨⟨within, List.cons_ne_nil _ _⟩, fun piece member => ?_⟩
    obtain ⟨behind, some⟩ := inductionHypothesis after piece member
    exact ⟨behind.trans (List.IsSuffix.trans ⟨_, whole.symm⟩ within), some⟩

/-- The pieces of a text come one after the other. -/
theorem pairwise_pieces (text : List Char) :
    (pieces text).Pairwise fun first second => second.start.length < first.start.length := by
  induction cut : pieces text generalizing text with
  | nil => exact List.Pairwise.nil
  | cons piece others inductionHypothesis =>
    obtain ⟨c, rest, later, -, -, rfl, whole, rfl⟩ := exists_of_pieces_eq_cons cut
    refine List.pairwise_cons.2 ⟨fun piece member => ?_, inductionHypothesis later rfl⟩
    have within := (start_of_mem_pieces piece member).1.length_le
    obtain ⟨lexeme, same, -⟩ := exists_symbolAt c rest
    have longer := congrArg List.length whole
    rw [same, List.length_append] at longer
    show piece.start.length < (c :: rest).length
    simp only [List.length_cons] at longer ⊢
    omega

/-- A place of a symbol lies in the text or at its end. -/
theorem placeIn_le (text : List Char) (left : Nat) : placeIn text left ≤ text.length :=
  Nat.sub_le _ _

/-- The fewer symbols are left the farther is the place. -/
theorem placeIn_lt {text : List Char} {less left : Nat} (lt : less < left)
    (bound : left ≤ (pieces text).length) : placeIn text left < placeIn text less := by
  have inside : (pieces text).length - left < (pieces text).length := by omega
  obtain ⟨suffix, some⟩ := start_of_mem_pieces _ (List.getElem_mem inside)
  have start := List.length_pos_iff.2 some
  have within := suffix.length_le
  rw [placeIn, placeIn, List.getElem?_eq_getElem inside, Option.elim_some]
  by_cases last : (pieces text).length - less < (pieces text).length
  · have nearer := List.pairwise_iff_getElem.1 (pairwise_pieces text) _ _ inside last (by omega)
    rw [List.getElem?_eq_getElem last, Option.elim_some]
    omega
  · rw [List.getElem?_eq_none (by omega), Option.elim_none]
    omega

/-- If no more symbols are left the place is no nearer. -/
theorem placeIn_anti {text : List Char} {less left : Nat} (le : less ≤ left)
    (bound : left ≤ (pieces text).length) : placeIn text left ≤ placeIn text less := by
  rcases Nat.eq_or_lt_of_le le with rfl | lt
  · exact Nat.le_refl _
  · exact Nat.le_of_lt (placeIn_lt lt bound)

/-- What is left of a text has its first symbol after its blanks. -/
theorem placeIn_eq {text chars : List Char} (shown : pieces chars <:+ pieces text) :
    placeIn text (pieces chars).length
      = text.length - (chars.dropWhile Text.isBlank).length := by
  obtain ⟨early, whole⟩ := shown
  have first : (pieces text)[(pieces text).length - (pieces chars).length]?
      = (pieces chars).head? := by
    rw [← whole, List.length_append, Nat.add_sub_cancel, List.getElem?_append_right (Nat.le_refl _),
      Nat.sub_self, List.head?_eq_getElem?]
  rw [placeIn, first]
  cases cut : pieces chars with
  | nil => rw [pieces_eq_nil_iff.1 cut, List.head?_nil, Option.elim_none, List.length_nil]
  | cons piece others =>
    obtain ⟨c, rest, later, ahead, -, rfl, -⟩ := exists_of_pieces_eq_cons cut
    rw [ahead, List.head?_cons, Option.elim_some]

/-! ## Terminals -/

/-- The class of the blanks. -/
def blankClass : CharClass := ⟨false, [.named .blank false]⟩

/-- The class accepts exactly the blanks. -/
theorem blankClass_accepts : blankClass.accepts ⟨.full, false, false⟩ = Text.isBlank := by
  funext c
  simp [blankClass, CharClass.accepts, ClassItem.accepts, Mode.holds, NamedSet.holds]

/-- The pattern of blanks, which may be missing. -/
def blanks : Pattern := .plain "\\s*" (.run blankClass 0 none true)

/-- A terminal after blanks. -/
def afterBlanks (leaf : Terminal) : Parser := .sequence (.terminal (.token blanks)) [.terminal leaf]

/-- The characters of a terminal that stands for single characters. -/
def Expectation.chars : Expectation → List Char
  | .operators .sum => ['+', '-']
  | .operators .product => ['*', '/']
  | .minus => ['-']
  | .left => ['(']
  | .right => [')']
  | .number => []
  | .finish => []

/-- The pattern of a terminal; the end has none. -/
def Expectation.pattern? : Expectation → Option Pattern
  | .number => some (.plain numberPattern numeral)
  | .operators .sum => some (.plain "[\\+\\-]" (.chars (oneOf ['+', '-'])))
  | .operators .product => some (.plain "[\\*/]" (.chars (oneOf ['*', '/'])))
  | .minus => some (.plain "[\\-]" (.chars (oneOf ['-'])))
  | .left => some (.plain "\\(" (.chars (oneOf ['('])))
  | .right => some (.plain "\\)" (.chars (oneOf [')'])))
  | .finish => none

/-- What a terminal looks for after blanks. -/
def Expectation.leaf (expectation : Expectation) : Terminal :=
  match expectation.pattern? with
  | some pattern => .token pattern
  | none => .endOfInput

/-- What is noted where a terminal does not stand: its pattern, or the name of the end. -/
def Expectation.payload (expectation : Expectation) : Value :=
  match expectation.pattern? with
  | some pattern => .pattern pattern
  | none => .ofString "<end of input>"

/-- The parsers of the terminals. -/
def textParser : Expectation → Parser
  | .finish => afterBlanks Expectation.finish.leaf
  | .number =>
    .transform (.transform (afterBlanks Expectation.number.leaf) "_second" (Value.elementAt 1))
      "_number" readNumber
  | expectation => .transform (afterBlanks expectation.leaf) "_second" (Value.elementAt 1)

/-- The descriptions of the terminals. -/
def textDescription : Expectation → Description
  | .number => .transform (lexeme numberPattern) "_number" readNumber
  | .operators .sum => lexeme "[\\+\\-]"
  | .operators .product => lexeme "[\\*/]"
  | .minus => lexeme "[\\-]"
  | .left => lexeme "\\("
  | .right => lexeme "\\)"
  | .finish => .sequence [tokenOf "\\s*", .terminal .endOfInput]

/-- A parse with the calculator is a parse with its second rule, in the workspace that its rules
make. -/
theorem parseText_eq (fuel : Nat) (text : List Char) (tracer : Option Tracer) :
    parseText fuel (.str text) none tracer
      = parse fuel (workspaceWith textParser) (.rule 1) (.str text) tracer := by
  have built : ∀ expectation workspace, Edit.outcome (textDescription expectation).build workspace
      = (.ok (textParser expectation), workspace) := by
    intro expectation workspace
    match expectation with
    | .number => rfl
    | .operators .sum => rfl
    | .operators .product => rfl
    | .minus => rfl
    | .left => rfl
    | .right => rfl
    | .finish => rfl
  exact parseWith_eq textParser (workspaceOf_rules built) fuel (.str text) tracer

/-! ## What terminals find -/

/-- A pattern reads what it matches. -/
theorem verdict_plain (source : String) (regex : Regex) (chars : List Char) :
    (Terminal.token (.plain source regex)).verdict (.str chars)
      = match (Pattern.plain source regex).matchLength? [] chars with
        | some length => .ok (.matched (.str (chars.take length)) (.str (chars.drop length)))
        | none => .ok (.missed (.pattern (.plain source regex))) := rfl

/-- Dropping as many characters as a run has leaves what comes after the run. -/
theorem drop_length_takeWhile (test : Char → Bool) (chars : List Char) :
    chars.drop (chars.takeWhile test).length = chars.dropWhile test := by
  calc chars.drop (chars.takeWhile test).length
      = (chars.takeWhile test ++ chars.dropWhile test).drop (chars.takeWhile test).length := by
        rw [List.takeWhile_append_dropWhile]
    _ = chars.dropWhile test := List.drop_left

/-- The pattern of blanks matches everywhere and reads all blanks that stand there. -/
theorem verdict_blanks (chars : List Char) :
    (Terminal.token blanks).verdict (.str chars)
      = .ok (.matched (.str (chars.takeWhile Text.isBlank))
          (.str (chars.dropWhile Text.isBlank))) := by
  have taken : chars.take (chars.takeWhile Text.isBlank).length = chars.takeWhile Text.isBlank :=
    (List.prefix_iff_eq_take.1 (List.takeWhile_prefix _)).symm
  rw [blanks, verdict_plain, matchLength?_run blankClass 0 blankClass_accepts,
    if_pos (Nat.zero_le _)]
  simp only [taken, drop_length_takeWhile]

/-- A terminal for single characters has no digits. -/
theorem isDigit_of_mem_chars {expectation : Expectation} :
    ∀ c ∈ expectation.chars, Text.isDigit c = false := by
  have none : expectation.chars.all fun c => !Text.isDigit c := by
    match expectation with
    | .operators .sum => decide
    | .operators .product => decide
    | .minus => decide
    | .left => decide
    | .right => decide
    | .number => decide
    | .finish => decide
  exact fun c member => eq_false_of_all_not none member

/-- A character of a terminal begins no numeral, so it is a symbol by itself. -/
theorem symbolAt_of_mem_chars {expectation : Expectation} {c : Char}
    (member : c ∈ expectation.chars) (rest : List Char) : symbolAt c rest = markOf c :=
  if_pos (numeralAt_eq_nil (isDigit_of_mem_chars c member) rest)

/-- A terminal for single characters accepts a symbol if it has its character. -/
theorem accepts_symbolAt {expectation : Expectation} (single : expectation.chars ≠ []) (c : Char)
    (rest : List Char) :
    expectation.accepts (symbolAt c rest) = decide (c ∈ expectation.chars) := by
  rw [symbolAt]
  split
  · unfold markOf
    split
    all_goals
      cases expectation with
      | operators level =>
        cases level <;> simp_all [Expectation.accepts, Expectation.chars, Operator.level]
      | minus | left | right => simp_all [Expectation.accepts, Expectation.chars]
      | number | finish => exact absurd rfl single
  · rename_i some
    have absent : c ∉ expectation.chars := fun member =>
      some (numeralAt_eq_nil (isDigit_of_mem_chars c member) rest)
    rw [decide_eq_false absent]
    cases expectation with
    | number => exact absurd rfl single
    | operators | minus | left | right | finish => rfl

/-- The pattern of a terminal for single characters is the class of these. -/
theorem exists_pattern_of_single {expectation : Expectation} (single : expectation.chars ≠ []) :
    ∃ source, expectation.pattern? = some (.plain source (.chars (oneOf expectation.chars))) := by
  match expectation with
  | .operators .sum => exact ⟨_, rfl⟩
  | .operators .product => exact ⟨_, rfl⟩
  | .minus => exact ⟨_, rfl⟩
  | .left => exact ⟨_, rfl⟩
  | .right => exact ⟨_, rfl⟩
  | .number => exact absurd rfl single
  | .finish => exact absurd rfl single

/-- A terminal for single characters reads one of them. -/
theorem verdict_of_single {expectation : Expectation} (single : expectation.chars ≠ [])
    (chars : List Char) :
    expectation.leaf.verdict (.str chars)
      = if chars.head?.any (· ∈ expectation.chars) then
          .ok (.matched (.str (chars.take 1)) (.str (chars.drop 1)))
        else .ok (.missed expectation.payload) := by
  obtain ⟨source, pattern⟩ := exists_pattern_of_single single
  simp only [Expectation.leaf, Expectation.payload, pattern]
  rw [verdict_plain, matchLength?_chars _ (oneOf_accepts expectation.chars)]
  by_cases found : chars.head?.any (· ∈ expectation.chars)
  · rw [if_pos found, if_pos found]
  · rw [if_neg found, if_neg found]

/-- The terminal for numbers reads the numeral at the start of a text. -/
theorem verdict_number (chars : List Char) :
    Expectation.number.leaf.verdict (.str chars)
      = if numeralAt chars = [] then .ok (.missed Expectation.number.payload)
        else .ok (.matched (.str (numeralAt chars))
          (.str (chars.drop (numeralAt chars).length))) := by
  have taken : chars.take (numeralAt chars).length = numeralAt chars :=
    (List.prefix_iff_eq_take.1 (numeralAt_isPrefix chars)).symm
  have unfolded : Expectation.number.leaf.verdict (.str chars)
      = (Terminal.token (.plain numberPattern numeral)).verdict (.str chars) := rfl
  rw [unfolded, verdict_plain, matchLength?_numeral]
  by_cases none : numeralAt chars = []
  · rw [if_pos none, if_pos none]
    rfl
  · rw [if_neg none, if_neg none]
    simp only [taken]

/-- Only digits make a number. -/
theorem numeralAt_of_symbolAt {c : Char} {rest numeral : List Char}
    (number : symbolAt c rest = .number numeral) :
    numeralAt (c :: rest) ≠ [] ∧ numeralAt (c :: rest) = numeral := by
  rw [symbolAt] at number
  split at number
  · unfold markOf at number
    split at number <;> cases number
  · exact ⟨‹_›, Symbol.number.inj number⟩

/-- After its blanks a text shows a terminal whether its first symbol is one that it stands for. -/
theorem verdict_of_not_meets {expectation : Expectation} {chars : List Char}
    (none : expectation.meets (symbolsOf chars) = false) :
    expectation.leaf.verdict (.str (chars.dropWhile Text.isBlank))
      = .ok (.missed expectation.payload) := by
  have same : symbolsOf (chars.dropWhile Text.isBlank) = symbolsOf chars := by
    rw [symbolsOf, pieces_dropWhile, symbolsOf]
  have ink := List.head?_dropWhile_not Text.isBlank chars
  rw [← same] at none
  cases ahead : chars.dropWhile Text.isBlank with
  | nil =>
    rw [ahead, symbolsOf, pieces_nil] at none
    by_cases single : expectation.chars = []
    · cases expectation with
      | number => exact verdict_number []
      | finish => cases none
      | operators level => cases level <;> cases single
      | minus | left | right => cases single
    · rw [verdict_of_single single]
      rfl
  | cons c rest =>
    rw [ahead] at none ink
    obtain ⟨later, -, cut⟩ := @pieces_symbol c rest ink
    rw [symbolsOf, cut, List.map_cons] at none
    by_cases single : expectation.chars = []
    · cases expectation with
      | number =>
        rw [verdict_number, if_pos]
        by_contra some
        have number : symbolAt c rest = .number (numeralAt (c :: rest)) := if_neg some
        rw [number] at none
        cases none
      | finish => rfl
      | operators level => cases level <;> cases single
      | minus | left | right => cases single
    -- a terminal of single characters looks at the first one only
    · have refused : expectation.accepts (symbolAt c rest) = false := by
        cases expectation <;> exact none
      rw [accepts_symbolAt single, decide_eq_false_iff_not] at refused
      rw [verdict_of_single single, List.head?_cons, Option.any_some, decide_eq_false refused]
      rfl

/-! ## The front end -/

/-- What an input shows of the symbols of a text. -/
def TextShows (text : List Char) (input : Value) (symbols : List Symbol) : Prop :=
  ∃ chars, input = .str chars ∧ chars <:+ text ∧ pieces chars <:+ pieces text
    ∧ symbolsOf chars = symbols

/-- The first symbol that an input shows comes after its blanks. -/
theorem TextShows.exists_first {text : List Char} {input : Value} {symbol : Symbol}
    {rest : List Symbol} (shown : TextShows text input (symbol :: rest)) :
    ∃ chars c more later, input = .str chars ∧ chars.dropWhile Text.isBlank = c :: more
      ∧ symbolAt c more = symbol ∧ c :: more = symbol.lexeme ++ later
      ∧ TextShows text (.str later) rest := by
  obtain ⟨chars, rfl, within, behind, same⟩ := shown
  obtain ⟨piece, others, cut, rfl, rfl⟩ := List.map_eq_cons_iff.1 same
  obtain ⟨c, more, later, ahead, -, rfl, whole, rfl⟩ := exists_of_pieces_eq_cons cut
  refine ⟨chars, c, more, later, rfl, ahead, rfl, whole, later, rfl, ?_, ?_, rfl⟩
  · have rest : later <:+ chars.dropWhile Text.isBlank := ⟨_, (ahead.trans whole).symm⟩
    exact rest.trans ((List.dropWhile_suffix _).trans within)
  · rw [cut] at behind
    exact (List.suffix_cons _ _).trans behind

section Terminals

variable {workspace : Workspace} {text chars : List Char} {leaf : Terminal}

/-- A terminal after blanks reads them and what it finds behind them. -/
theorem leads_afterBlanks {source value rest : Value}
    (found : leaf.verdict (.str (chars.dropWhile Text.isBlank)) = .ok (.matched value rest)) :
    Leads workspace source (.call (afterBlanks leaf) (.str chars))
      (.ok (.ok (.list [.str (chars.takeWhile Text.isBlank), value]) rest)) [] := by
  have skips := @Leads.matched workspace source _ _ _ _ (verdict_blanks chars)
  have finds := @Leads.matched workspace source _ _ _ _ found
  exact Leads.sequence (skips.append (finds.append Leads.allNil .allCons) .allCons)

/-- What it does not find it notes behind the blanks. -/
theorem leads_afterBlanks_miss {payload : Value} (within : chars <:+ text)
    (missed : leaf.verdict (.str (chars.dropWhile Text.isBlank)) = .ok (.missed payload)) :
    Leads workspace (.str text) (.call (afterBlanks leaf) (.str chars))
      (.ok (.fail payload (.str chars)))
      [⟨payload, text.length - (chars.dropWhile Text.isBlank).length⟩] := by
  have skips := @Leads.matched workspace (.str text) _ _ _ _ (verdict_blanks chars)
  have place : (.str (chars.dropWhile Text.isBlank) : Value)
      = (Value.str text).drop (text.length - (chars.dropWhile Text.isBlank).length) :=
    congrArg Value.str (List.suffix_iff_eq_drop.1 ((List.dropWhile_suffix _).trans within))
  rw [place] at missed skips
  have misses := @Leads.missed workspace (.str text) _ _ _ rfl missed
  exact Leads.sequence (skips.append (misses.of_first .allFail) .allFailLater)

end Terminals

/-- A terminal for single characters gives the character and drops the blanks before it. -/
theorem textParser_of_single {expectation : Expectation} (single : expectation.chars ≠ []) :
    textParser expectation
      = .transform (afterBlanks expectation.leaf) "_second" (Value.elementAt 1) := by
  match expectation with
  | .operators _ => rfl
  | .minus => rfl
  | .left => rfl
  | .right => rfl
  | .number => exact absurd rfl single
  | .finish => exact absurd rfl single

/-- A terminal for single characters finds its symbols. -/
theorem leads_of_single {text : List Char} {expectation : Expectation} {input : Value}
    {symbol : Symbol} {rest : List Symbol} (single : expectation.chars ≠ [])
    (shown : TextShows text input (symbol :: rest)) (accepts : expectation.accepts symbol) :
    ∃ later, TextShows text later rest
      ∧ Leads (workspaceWith textParser) (.str text) (.call (textParser expectation) input)
        (.ok (.ok (.str symbol.lexeme) later)) [] := by
  obtain ⟨chars, c, more, later, rfl, ahead, rfl, whole, shownLater⟩ := shown.exists_first
  rw [accepts_symbolAt single, decide_eq_true_eq] at accepts
  refine ⟨.str later, shownLater, ?_⟩
  have lexeme : (symbolAt c more).lexeme = [c] := by
    rw [symbolAt_of_mem_chars accepts, lexeme_markOf]
  rw [lexeme] at whole ⊢
  obtain ⟨-, rfl⟩ := List.cons.inj (whole.trans List.singleton_append)
  have found : expectation.leaf.verdict (.str (chars.dropWhile Text.isBlank))
      = .ok (.matched (.str [c]) (.str more)) := by
    rw [ahead, verdict_of_single single, List.head?_cons, Option.any_some,
      if_pos (decide_eq_true accepts)]
    rfl
  rw [textParser_of_single single]
  exact Leads.transform (leads_afterBlanks found)

/-- A text as a front end of the calculator. -/
def textFront (text : List Char) : FrontEnd where
  source := .str text
  symbols := symbolsOf text
  parser := textParser
  Shows := TextShows text
  place := placeIn text
  payloads expectation := [expectation.payload]
  passed _ := []
  payloads_ne_nil _ := List.cons_ne_nil _ _
  writable expectation payload member := by
    rw [List.mem_singleton.1 member, Expectation.payload]
    split <;> rfl
  isSequence := rfl
  shows_source := ⟨text, rfl, List.suffix_rfl, List.suffix_rfl, rfl⟩
  place_le := placeIn_le text
  place_lt lt bound := placeIn_lt lt (by rwa [symbolsOf, List.length_map] at bound)
  finds_number := by
    intro input numeral rest shown
    obtain ⟨chars, c, more, later, rfl, ahead, isNumber, whole, shownLater⟩ := shown.exists_first
    obtain ⟨some, rfl⟩ := numeralAt_of_symbolAt isNumber
    have found : Expectation.number.leaf.verdict (.str (chars.dropWhile Text.isBlank))
        = .ok (.matched (.str (numeralAt (c :: more))) (.str later)) := by
      have dropped := congrArg (List.drop (numeralAt (c :: more)).length) whole
      rw [Symbol.lexeme, List.drop_left] at dropped
      rw [ahead, verdict_number, if_neg some, dropped]
    exact ⟨.str later, shownLater, Leads.transform (Leads.transform (leads_afterBlanks found))⟩
  finds_operator := by
    intro input operator rest shown
    have single : (Expectation.operators operator.level).chars ≠ [] := by
      cases operator <;> exact List.cons_ne_nil _ _
    exact leads_of_single single shown (by simp [Expectation.accepts])
  finds_mark := by
    intro expectation input symbol rest mark shown accepts
    have single : expectation.chars ≠ [] := by
      rintro none
      cases expectation <;> simp_all [Expectation.chars]
    obtain ⟨later, shownLater, leads⟩ := leads_of_single single shown accepts
    exact ⟨_, later, shownLater, leads⟩
  finds_finish := by
    intro input shown
    obtain ⟨chars, rfl, -, -, none⟩ := shown
    have ahead := pieces_eq_nil_iff.1 (List.map_eq_nil_iff.1 none)
    refine ⟨.list [.str (chars.takeWhile Text.isBlank), .null], .str [], rfl, leads_afterBlanks ?_⟩
    rw [ahead]
    rfl
  misses := by
    intro expectation input rest shown none
    obtain ⟨chars, rfl, within, behind, rfl⟩ := shown
    have leads := @leads_afterBlanks_miss (workspaceWith textParser) text chars _ _ within
      (verdict_of_not_meets none)
    rw [symbolsOf, List.length_map, placeIn_eq behind]
    match expectation with
    | .finish => exact ⟨_, _, leads⟩
    | .number => exact ⟨_, _, Leads.transformFail (Leads.transformFail leads)⟩
    | .operators _ => exact ⟨_, _, Leads.transformFail leads⟩
    | .minus => exact ⟨_, _, Leads.transformFail leads⟩
    | .left => exact ⟨_, _, Leads.transformFail leads⟩
    | .right => exact ⟨_, _, Leads.transformFail leads⟩

/-! ## Values of texts -/

/-- The front end reports what every parse of the text with enough steps does. -/
theorem reports_parseText {text : List Char} {report : Report Success} :
    (textFront text).Reports report
      ↔ ∃ enough, ∀ fuel ≥ enough, parseText fuel (.str text) none = some report := by
  simp only [parseText_eq]
  rfl

/-- A text has at most one tree. -/
theorem IsSentence.unique {text : List Char} {tree other : Tree} (first : IsSentence text tree)
    (second : IsSentence text other) : tree = other := by
  have ends : (Part.chain .sum).EndsAt [] := by
    intro operator next
    cases next
  exact ((isSentence_iff.1 first).unique _ [] [] _ (isSentence_iff.1 second) rfl ends ends).2

/-- **The calculator accepts exactly the expressions and computes their values.** On every text it
comes to an end; it reports a value exactly if the text is an expression with this value, and a
fault in the computation of the value is reported as it is; a text has at most one tree, and one
without a tree is refused. -/
theorem parseText_evaluates (text : List Char) :
    ∃ enough report, (∀ fuel ≥ enough, parseText fuel (.str text) none = some report)
      ∧ (∀ value, (∃ success, report.answer = .ok success ∧ success.result = value)
        ↔ ∃ tree, IsSentence text tree ∧ tree.value = .ok value)
      ∧ (∀ tree fault, IsSentence text tree → tree.value = .error fault →
        report.answer = .error fault)
      ∧ ((∀ tree, ¬ IsSentence text tree) → ∃ fault, report.answer = .error fault)
      ∧ (∀ tree other, IsSentence text tree → IsSentence text other → tree = other) := by
  obtain ⟨answer, remarks, reads⟩ := exists_readsAll (symbolsOf text)
  obtain ⟨report, reports, -⟩ := @FrontEnd.exists_report (textFront text) _ _ reads
  obtain ⟨enough, ended⟩ := reports_parseText.1 reports
  have value_iff (value : Value) :
      (∃ success, report.answer = .ok success ∧ success.result = value)
        ↔ ∃ tree, IsSentence text tree ∧ tree.value = .ok value := by
    simp only [isSentence_iff]
    exact reports.value_iff
  refine ⟨enough, report, ended, value_iff, ?_, ?_, fun _ _ => IsSentence.unique⟩
  · intro tree fault sentence raised
    exact reports.fault_eq (isSentence_iff.1 sentence) raised
  · intro none
    cases answered : report.answer with
    | error fault => exact ⟨fault, rfl⟩
    | ok success =>
      obtain ⟨tree, sentence, -⟩ := (value_iff success.result).1 ⟨success, answered, rfl⟩
      exact absurd sentence (none tree)

/-! ## Failures of texts -/

/-- The text up to the offset splits into blanks and whole symbols, and these are the start of an
expression; no blank stands at the offset. -/
structure IsViable (text : List Char) (offset : Nat) (symbols : List Symbol) : Prop where
  /-- The offset lies in the text or at its end. -/
  offset_le : offset ≤ text.length
  /-- No blank stands there. -/
  ink : ∀ c, text[offset]? = some c → Text.isBlank c = false
  /-- What comes before splits into the symbols. -/
  splits : Splits (text.take offset) (text.drop offset) symbols
  /-- The symbols are the start of an expression. -/
  isStart : IsStart symbols

/-- Blanks are all skipped exactly if the next character is none. -/
theorem dropWhile_isBlank_eq_self_iff {chars : List Char} :
    chars.dropWhile Text.isBlank = chars
      ↔ ∀ c, chars.head? = some c → Text.isBlank c = false := by
  cases chars <;> simp [List.dropWhile_eq_self_iff]

/-- What is left at a viable offset tells its place. -/
theorem IsViable.exists_late {text : List Char} {offset : Nat} {symbols : List Symbol}
    (viable : IsViable text offset symbols) :
    ∃ late, symbolsOf text = symbols ++ late ∧ placeIn text late.length = offset := by
  obtain ⟨early, cut, rfl⟩ := viable.splits.exists_pieces
  rw [List.take_append_drop] at cut
  have ink : (text.drop offset).dropWhile Text.isBlank = text.drop offset := by
    rw [dropWhile_isBlank_eq_self_iff, List.head?_drop]
    exact viable.ink
  have bound := viable.offset_le
  refine ⟨symbolsOf (text.drop offset), by rw [symbolsOf, cut, List.map_append]; rfl, ?_⟩
  rw [symbolsOf, List.length_map, placeIn_eq ⟨early, cut.symm⟩, ink, List.length_drop]
  omega

/-- Each start of an expression in a text reaches up to a viable offset. -/
theorem IsStart.exists_isViable {text : List Char} {symbols rest : List Symbol}
    (isStart : IsStart symbols) (whole : symbolsOf text = symbols ++ rest) :
    ∃ offset, IsViable text offset symbols := by
  obtain ⟨early, late, cut, rfl, rfl⟩ := List.map_eq_append_iff.1 whole
  obtain ⟨standing, read⟩ := isStart_iff.1 isStart
  have known (piece : Piece) (member : piece ∈ early) :=
    not_other_of_afterAll? read _ (List.mem_map_of_mem member)
  obtain ⟨before, after, rfl, splits, -, ink⟩ := exists_splits cut known
  refine ⟨before.length, by simp, ?_, ?_, isStart⟩
  · rw [dropWhile_isBlank_eq_self_iff] at ink
    rwa [List.getElem?_append_right (Nat.le_refl _), Nat.sub_self, ← List.head?_eq_getElem?]
  · rwa [List.take_left, List.drop_left]

/-- No two terminals that are expected at one place have the same pattern. -/
theorem distinct_payloads (symbols : List Symbol) :
    distinct ((expectedAfter symbols).flatMap fun expectation => [expectation.payload])
      = (expectedAfter symbols).map Expectation.payload := by
  rw [expectedAfter]
  split
  · rfl
  · split <;> rfl

/-- The failure is explained by the text: its position is the largest offset up to which the text is
the start of an expression, and it lists exactly the terminals that can stand there. -/
structure IsExplained (text : List Char) (failure : Failure) (offset : Nat)
    (symbols : List Symbol) : Prop where
  /-- The position of the failure. -/
  position_eq : failure.position = some (offset : Int)
  /-- Up to there the text is the start of an expression. -/
  viable : IsViable text offset symbols
  /-- It is so up to no larger offset. -/
  farthest : ∀ other more, IsViable text other more → other ≤ offset
  /-- The failure lists the terminals of an operand if one is due, and else the operators with what
  may come after the last operand. -/
  alternatives_eq : failure.alternatives = (expectedAfter symbols).map Expectation.payload
  /-- These are the terminals of the symbols that can stand there. -/
  isStart_append_iff : ∀ symbol, IsStart (symbols ++ [symbol])
    ↔ ∃ expected ∈ expectedAfter symbols, expected.accepts symbol
  /-- The end is among them if it can stand there. -/
  finish_mem_iff : .finish ∈ expectedAfter symbols
    ↔ ∃ tree, Derives (.chain .sum) symbols tree

/-- **Failures point at the first symbol that cannot stand where it stands**, and list exactly what
can. -/
theorem failure_points_at_impasse {fuel : Nat} {text : List Char} {report : Report Success}
    {failure : Failure} (reported : parseText fuel (.str text) none = some report)
    (failed : report.answer = .error (.parse failure)) :
    ∃ offset symbols, IsExplained text failure offset symbols := by
  rw [parseText_eq] at reported
  have reports := @FrontEnd.Reports.of_parse (textFront text) _ _ reported
  obtain ⟨symbols, rest, impasse⟩ := reports.exists_impasse failed
  obtain ⟨offset, viable⟩ := impasse.isStart.exists_isViable impasse.symbols_eq
  obtain ⟨late, cut, here⟩ := viable.exists_late
  have same : late = rest := List.append_cancel_left (cut.symm.trans impasse.symbols_eq)
  refine ⟨offset, symbols, ?_, viable, fun other more viableToo => ?_, ?_,
    fun symbol => isStart_append_iff impasse.isStart, finish_mem_expectedAfter_iff impasse.isStart⟩
  · rw [impasse.liesAt.position_eq, ← here, same]
    rfl
  · -- the fewer symbols are left the farther is the place, and no start leaves fewer
    obtain ⟨lateToo, cutToo, there⟩ := viableToo.exists_late
    have le := impasse.longest more ⟨lateToo, cutToo.symm⟩ viableToo.isStart
    have lengths := congrArg List.length (cut.symm.trans cutToo)
    have whole := congrArg List.length cutToo
    rw [List.length_append, List.length_append] at lengths
    rw [symbolsOf, List.length_map, List.length_append] at whole
    rw [← here, ← there]
    exact placeIn_anti (by omega) (by omega)
  · rw [impasse.alternatives_eq]
    exact distinct_payloads symbols

/-- A number cannot stand after a number in parentheses. -/
theorem failure_points_at_second_number : ∃ fuel report failure,
    parseText fuel (.str ['(', '1', ' ', '2']) none = some report
      ∧ report.answer = .error (.parse failure)
      ∧ ∃ offset symbols, IsExplained ['(', '1', ' ', '2'] failure offset symbols := by
  have symbols : symbolsOf ['(', '1', ' ', '2'] = [.left, .number ['1'], .number ['2']] := by
    decide +kernel
  have one : Reads (.part (Level.operand .product)) [.number ['1'], .number ['2']]
      (.ok (some (.int 1, [.number ['2']]))) _ := .number ['1'] _
  have product : Reads (.part (Level.operand .sum)) [.number ['1'], .number ['2']]
      (.ok (some (.int 1, [.number ['2']]))) _ := .chain one (.stepsEnd rfl)
  have sum : Reads (.part (.chain .sum)) [.number ['1'], .number ['2']]
      (.ok (some (.int 1, [.number ['2']]))) _ := .chain product (.stepsEnd rfl)
  have reads := ReadsAll.miss (.chainMiss (.chainMiss (.groupOpen sum rfl)))
  rw [← symbols] at reads
  obtain ⟨report, reports, failure, -, -, failed, -⟩ :=
    @FrontEnd.exists_report (textFront ['(', '1', ' ', '2']) _ _ reads
  obtain ⟨fuel, ended⟩ := reports_parseText.1 reports
  have reported := ended fuel (Nat.le_refl _)
  exact ⟨fuel, report, failure, reported, failed, failure_points_at_impasse reported failed⟩

end Peg.Calculator
