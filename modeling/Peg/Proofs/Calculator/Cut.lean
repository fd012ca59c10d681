import Mathlib.Data.List.TakeWhile
import Peg.Proofs.Calculator.Prefix
import Peg.Proofs.GreedyMatch

/-! # Cutting a text into symbols

With blanks wherever they like and numerals as long as they can be, there is one way to cut a text
into symbols: `pieces`. A text may spell symbols in other ways too, since a numeral may also be
spelt as two, but no expression has two numerals in a row.

* **`isSentence_iff`**: a text is an expression exactly if the symbols that it is cut into are one.
* **`Splits.exists_pieces`**, **`exists_splits`**: splitting the beginning of a text, with numerals
  as long as they are in the whole text, is cutting the text. -/

namespace Peg.Calculator

open Pattern

/-! ## Numerals at the start of a text -/

/-- The numeral at the start of a text is a part of it. -/
theorem numeralAt_isPrefix (text : List Char) : numeralAt text <+: text := by
  rw [numeralAt]
  split
  · exact List.nil_prefix
  · have fraction : fractionAt (text.dropWhile Text.isDigit) <+: text.dropWhile Text.isDigit := by
      cases text.dropWhile Text.isDigit with
      | nil => exact List.prefix_rfl
      | cons c rest =>
        rw [fractionAt]
        split
        · exact (List.prefix_cons_inj c).2 (List.takeWhile_prefix _)
        · exact List.nil_prefix
    have whole := (List.prefix_append_right_inj (text.takeWhile Text.isDigit)).2 fraction
    rwa [List.takeWhile_append_dropWhile] at whole

/-- What is read at the start of a text is a numeral, unless nothing is. -/
theorem isNumeral_numeralAt {text : List Char} (some : numeralAt text ≠ []) :
    IsNumeral (numeralAt text) := by
  have digits (text : List Char) : ∀ c ∈ text.takeWhile Text.isDigit, Text.isDigit c :=
    fun c member => List.mem_takeWhile_imp member
  rw [numeralAt] at some ⊢
  split at some
  · exact absurd rfl some
  · rename_i whole
    rw [if_neg whole]
    cases text.dropWhile Text.isDigit with
    | nil =>
      rw [fractionAt, List.append_nil]
      exact .whole whole (digits text)
    | cons c rest =>
      rw [fractionAt]
      split
      · rename_i found
        obtain ⟨rfl, more⟩ := found
        exact .fraction whole (digits text) more (digits rest)
      · rw [List.append_nil]
        exact .whole whole (digits text)

/-- A point ends a run of digits. -/
theorem run_before_point {digits : List Char} (all : ∀ c ∈ digits, Text.isDigit c)
    (rest : List Char) :
    (digits ++ '.' :: rest).takeWhile Text.isDigit = digits
      ∧ (digits ++ '.' :: rest).dropWhile Text.isDigit = '.' :: rest := by
  have point : Text.isDigit '.' = false := rfl
  simp [List.takeWhile_append_of_pos all, List.dropWhile_append_of_pos all, point]

/-- The numeral at the start of a text is the longest one there. -/
theorem IsNumeral.length_le {numeral text : List Char} (isNumeral : IsNumeral numeral)
    (isPrefix : numeral <+: text) : numeral.length ≤ (numeralAt text).length := by
  obtain ⟨rest, rfl⟩ := isPrefix
  cases isNumeral with
  | whole some all =>
    rw [numeralAt, List.takeWhile_append_of_pos all, if_neg (by simp [some])]
    simp
  | @fraction digits more some all someMore allMore =>
    obtain ⟨taken, dropped⟩ := run_before_point all (more ++ rest)
    rw [List.append_assoc, List.cons_append, numeralAt, taken, dropped, if_neg some, fractionAt,
      List.takeWhile_append_of_pos allMore, if_pos ⟨rfl, by simp [someMore]⟩]
    simp

/-- A numeral has a digit at least. -/
theorem IsNumeral.ne_nil {numeral : List Char} (isNumeral : IsNumeral numeral) : numeral ≠ [] := by
  cases isNumeral with
  | whole some => exact some
  | fraction => simp

/-- A numeral that cannot be made longer is the one at the start of the text. -/
theorem IsNumeral.numeralAt_eq {numeral rest : List Char} (isNumeral : IsNumeral numeral)
    (longest : ∀ longer, IsNumeral longer → longer <+: numeral ++ rest →
      longer.length ≤ numeral.length) : numeralAt (numeral ++ rest) = numeral := by
  have within : numeral <+: numeral ++ rest := List.prefix_append _ _
  have less := isNumeral.length_le within
  have some : numeralAt (numeral ++ rest) ≠ [] := by
    intro none
    rw [none] at less
    exact isNumeral.ne_nil (List.eq_nil_of_length_eq_zero (Nat.le_zero.1 less))
  have more := longest _ (isNumeral_numeralAt some) (numeralAt_isPrefix _)
  exact ((List.prefix_of_prefix_length_le within (numeralAt_isPrefix _) less).eq_of_length
    (Nat.le_antisymm less more)).symm

/-- A numeral ends where neither a digit nor a point follows. -/
theorem IsNumeral.numeralAt_append {numeral rest : List Char} (isNumeral : IsNumeral numeral)
    (ends : ∀ c, rest.head? = some c → Text.isDigit c = false ∧ c ≠ '.') :
    numeralAt (numeral ++ rest) = numeral := by
  have digits : rest.takeWhile Text.isDigit = [] ∧ rest.dropWhile Text.isDigit = rest
      ∧ fractionAt rest = [] := by
    cases rest with
    | nil => exact ⟨rfl, rfl, rfl⟩
    | cons c rest =>
      obtain ⟨noDigit, noPoint⟩ := ends c rfl
      simp [noDigit, fractionAt, noPoint]
  obtain ⟨taken, dropped, noFraction⟩ := digits
  cases isNumeral with
  | whole some all =>
    rw [numeralAt, List.takeWhile_append_of_pos all, List.dropWhile_append_of_pos all, taken,
      dropped, noFraction, List.append_nil, if_neg some, List.append_nil]
  | @fraction digits more some all someMore allMore =>
    obtain ⟨first, second⟩ := run_before_point all (more ++ rest)
    rw [List.append_assoc, List.cons_append, numeralAt, first, second, if_neg some, fractionAt,
      List.takeWhile_append_of_pos allMore, taken, List.append_nil, if_pos ⟨rfl, someMore⟩]

/-! ## The pieces of a text -/

/-- The symbol of a character that begins no numeral. -/
def markOf : Char → Symbol
  | '+' => .operator .plus
  | '-' => .operator .minus
  | '*' => .operator .times
  | '/' => .operator .divide
  | '(' => .left
  | ')' => .right
  | c => .other c

/-- The symbol at the start of a text that begins with the character. -/
def symbolAt (c : Char) (rest : List Char) : Symbol :=
  if numeralAt (c :: rest) = [] then markOf c else .number (numeralAt (c :: rest))

/-- The characters of a symbol. -/
def Symbol.lexeme : Symbol → List Char
  | .number numeral => numeral
  | .operator sign => [sign.char]
  | .left => ['(']
  | .right => [')']
  | .other c => [c]

/-- A symbol in a text. -/
structure Piece where
  /-- The symbol. -/
  symbol : Symbol
  /-- The text from the symbol on. -/
  start : List Char

/-- Cuts a text into symbols: blanks are skipped, and numerals are as long as they can be. -/
def pieces (text : List Char) : List Piece :=
  match text with
  | [] => []
  | c :: rest =>
    if Text.isBlank c then pieces rest
    else ⟨symbolAt c rest, c :: rest⟩ :: pieces (rest.drop ((symbolAt c rest).lexeme.length - 1))
termination_by text.length
decreasing_by
  · simp
  · simp only [List.length_drop, List.length_cons]
    omega

/-- The symbols of a text. -/
def symbolsOf (text : List Char) : List Symbol := (pieces text).map Piece.symbol

/-- An empty text has no symbols. -/
theorem pieces_nil : pieces [] = [] := by rw [pieces]

/-- A blank is no part of any symbol. -/
theorem pieces_blank {c : Char} (blank : Text.isBlank c) (rest : List Char) :
    pieces (c :: rest) = pieces rest := by
  rw [pieces, if_pos blank]

/-- The character of a mark is what was read. -/
theorem lexeme_markOf (c : Char) : (markOf c).lexeme = [c] := by
  unfold markOf
  split <;> rfl

/-- A symbol of a text stands at its start. -/
theorem exists_symbolAt (c : Char) (rest : List Char) :
    ∃ lexeme, (symbolAt c rest).lexeme = c :: lexeme ∧ lexeme <+: rest := by
  rw [symbolAt]
  split
  · exact ⟨[], lexeme_markOf c, List.nil_prefix⟩
  · rename_i some
    have within := numeralAt_isPrefix (c :: rest)
    obtain ⟨first, numeral, same⟩ := List.exists_cons_of_ne_nil some
    rw [same, List.cons_prefix_cons] at within
    obtain ⟨rfl, within⟩ := within
    exact ⟨numeral, same, within⟩

/-- No numeral at the start of a text is longer than its first symbol. -/
theorem length_numeralAt_le (c : Char) (rest : List Char) :
    (numeralAt (c :: rest)).length ≤ (symbolAt c rest).lexeme.length := by
  rw [symbolAt]
  split
  · rename_i none
    rw [none]
    exact Nat.zero_le _
  · exact Nat.le_refl _

/-- What does not begin with a blank begins with a symbol. -/
theorem pieces_symbol {c : Char} {rest : List Char} (ink : Text.isBlank c = false) :
    ∃ later, c :: rest = (symbolAt c rest).lexeme ++ later
      ∧ pieces (c :: rest) = ⟨symbolAt c rest, c :: rest⟩ :: pieces later := by
  obtain ⟨lexeme, same, later, whole⟩ := exists_symbolAt c rest
  refine ⟨later, by rw [same, List.cons_append, whole], ?_⟩
  rw [pieces, if_neg (by simp [ink]), same, List.length_cons, Nat.add_sub_cancel, ← whole,
    List.drop_left]

/-- Blanks at the beginning do not matter. -/
theorem pieces_dropWhile (text : List Char) :
    pieces (text.dropWhile Text.isBlank) = pieces text := by
  induction text with
  | nil => rfl
  | cons c rest inductionHypothesis =>
    by_cases blank : Text.isBlank c
    · rw [List.dropWhile_cons_of_pos blank, pieces_blank blank, inductionHypothesis]
    · rw [List.dropWhile_cons_of_neg blank]

/-- The first piece of a text comes after blanks. -/
theorem exists_of_pieces_eq_cons {text : List Char} {piece : Piece} {others : List Piece}
    (cut : pieces text = piece :: others) :
    ∃ c rest later, text.dropWhile Text.isBlank = c :: rest ∧ Text.isBlank c = false
      ∧ piece = ⟨symbolAt c rest, c :: rest⟩ ∧ c :: rest = piece.symbol.lexeme ++ later
      ∧ pieces later = others := by
  rw [← pieces_dropWhile] at cut
  have ink := List.head?_dropWhile_not Text.isBlank text
  cases ahead : text.dropWhile Text.isBlank with
  | nil =>
    rw [ahead, pieces_nil] at cut
    cases cut
  | cons c rest =>
    rw [ahead] at cut ink
    obtain ⟨later, whole, same⟩ := @pieces_symbol c rest ink
    rw [same] at cut
    cases cut
    exact ⟨c, rest, later, rfl, ink, rfl, whole, rfl⟩

/-- A text has no symbols exactly if it is all blanks. -/
theorem pieces_eq_nil_iff {text : List Char} :
    pieces text = [] ↔ text.dropWhile Text.isBlank = [] := by
  constructor
  · intro none
    cases ahead : text.dropWhile Text.isBlank with
    | nil => rfl
    | cons c rest =>
      have ink := List.head?_dropWhile_not Text.isBlank text
      rw [ahead] at ink
      obtain ⟨later, -, same⟩ := @pieces_symbol c rest ink
      rw [← pieces_dropWhile, ahead, same] at none
      cases none
  · intro none
    rw [← pieces_dropWhile, none, pieces_nil]

/-! ## Characters -/

/-- A code point of a set lies in one of its ranges. -/
theorem exists_range_of_holds {code : Nat} {ranges : Text.CodeRanges}
    (holds : ranges.holds code) : ∃ range ∈ ranges, range.1 ≤ code ∧ code ≤ range.2 := by
  induction ranges with
  | nil => cases holds
  | cons range others inductionHypothesis =>
    simp only [Text.CodeRanges.holds, Bool.and_eq_true, Bool.or_eq_true, decide_eq_true_eq]
      at holds
    obtain ⟨above, below | later⟩ := holds
    · exact ⟨range, List.mem_cons_self, above, below⟩
    · obtain ⟨found, member, bounds⟩ := inductionHypothesis later
      exact ⟨found, List.mem_cons_of_mem _ member, bounds⟩

/-- What no character of a list has can be decided by going through the list. -/
theorem eq_false_of_all_not {test : Char → Bool} {chars : List Char}
    (none : chars.all fun c => !test c) {c : Char} (member : c ∈ chars) : test c = false := by
  simpa using List.all_eq_true.1 none c member

/-- No blank is a digit. -/
theorem isBlank_eq_false_of_isDigit {c : Char} (digit : Text.isDigit c) :
    Text.isBlank c = false := by
  -- the ranges of digits and of blanks are apart
  have apart : ∀ first ∈ Text.digitRanges, ∀ second ∈ Text.blankRanges,
      first.2 < second.1 ∨ second.2 < first.1 := by decide
  rw [← Bool.not_eq_true]
  intro blank
  obtain ⟨first, member, _, _⟩ := exists_range_of_holds digit
  obtain ⟨second, memberToo, _, _⟩ := exists_range_of_holds blank
  have disjoint := apart first member second memberToo
  omega

/-- Where no digit stands, no numeral begins. -/
theorem numeralAt_eq_nil {c : Char} (noDigit : Text.isDigit c = false) (rest : List Char) :
    numeralAt (c :: rest) = [] := by
  simp [numeralAt, noDigit]

/-- A numeral begins with a digit. -/
theorem IsNumeral.exists_cons {numeral : List Char} (isNumeral : IsNumeral numeral) :
    ∃ c rest, numeral = c :: rest ∧ Text.isDigit c := by
  cases isNumeral with
  | @whole digits some all =>
    obtain ⟨c, rest, rfl⟩ := List.exists_cons_of_ne_nil some
    exact ⟨c, rest, rfl, all c List.mem_cons_self⟩
  | @fraction digits more some all _ _ =>
    obtain ⟨c, rest, rfl⟩ := List.exists_cons_of_ne_nil some
    exact ⟨c, _, rfl, all c List.mem_cons_self⟩

/-- A spelt symbol is a numeral or a single character that begins none. -/
theorem Symbol.IsSpelt.numeral_or_mark {symbol : Symbol} {lexeme : List Char}
    (spelt : symbol.IsSpelt lexeme) :
    (IsNumeral lexeme ∧ symbol = .number lexeme)
      ∨ ∃ c, lexeme = [c] ∧ markOf c = symbol ∧ Text.isBlank c = false ∧ Text.isDigit c = false
        ∧ c ≠ '.' := by
  cases spelt with
  | number isNumeral => exact .inl ⟨isNumeral, rfl⟩
  | operator operator => cases operator <;> exact .inr ⟨_, rfl, rfl, rfl, rfl, by decide⟩
  | left => exact .inr ⟨_, rfl, rfl, rfl, rfl, by decide⟩
  | right => exact .inr ⟨_, rfl, rfl, rfl, rfl, by decide⟩

/-- A spelt symbol is cut off, unless a longer numeral begins there. -/
theorem pieces_of_isSpelt {symbol : Symbol} {lexeme later : List Char}
    (spelt : symbol.IsSpelt lexeme)
    (longest : (numeralAt (lexeme ++ later)).length ≤ lexeme.length) :
    pieces (lexeme ++ later) = ⟨symbol, lexeme ++ later⟩ :: pieces later := by
  have cutOff (c : Char) (rest : List Char) (ink : Text.isBlank c = false)
      (found : symbolAt c rest = symbol) (same : symbol.lexeme = lexeme)
      (whole : c :: rest = lexeme ++ later) :
      pieces (lexeme ++ later) = ⟨symbol, lexeme ++ later⟩ :: pieces later := by
    obtain ⟨others, split, cut⟩ := @pieces_symbol c rest ink
    rw [found, same, whole] at split
    rw [← whole, cut, found, List.append_cancel_left split]
  obtain ⟨isNumeral, rfl⟩ | ⟨c, rfl, found, ink, noDigit, -⟩ := spelt.numeral_or_mark
  · have longest : numeralAt (lexeme ++ later) = lexeme :=
      isNumeral.numeralAt_eq fun longer isNumeral within =>
        (isNumeral.length_le within).trans longest
    obtain ⟨c, rest, rfl, digit⟩ := isNumeral.exists_cons
    refine cutOff c (rest ++ later) (isBlank_eq_false_of_isDigit digit) ?_ rfl rfl
    rw [symbolAt, ← List.cons_append, longest, if_neg (List.cons_ne_nil _ _)]
  · refine cutOff c later ink ?_ (found ▸ lexeme_markOf c) rfl
    rw [symbolAt, if_pos (numeralAt_eq_nil noDigit later), found]

/-! ## Spelling -/

/-- A text that does not spell a numeral first begins with neither a digit nor a point. -/
theorem Spells.head {text : List Char} {symbols : List Symbol} (spells : Spells text symbols)
    (noNumber : ∀ numeral, symbols.head? ≠ some (.number numeral)) {c : Char}
    (first : text.head? = some c) : Text.isDigit c = false ∧ c ≠ '.' := by
  cases spells with
  | finish => cases first
  | blank blank later =>
    cases first
    constructor
    · rw [← Bool.not_eq_true]
      intro digit
      rw [isBlank_eq_false_of_isDigit digit] at blank
      cases blank
    · rintro rfl
      cases blank
  | symbol spelt later =>
    obtain ⟨-, rfl⟩ | ⟨mark, rfl, -, -, noDigit, noPoint⟩ := spelt.numeral_or_mark
    · exact absurd rfl (noNumber _)
    · cases first
      exact ⟨noDigit, noPoint⟩

/-- **A text that spells symbols which can be read in turn** is cut into these symbols, since none
of its numerals is followed by another one. -/
theorem symbolsOf_of_spells {text : List Char} {symbols : List Symbol}
    (spells : Spells text symbols) {standing last : Standing}
    (read : standing.afterAll? symbols = some last) : symbolsOf text = symbols := by
  induction spells generalizing standing with
  | finish => rw [symbolsOf, pieces_nil, List.map_nil]
  | blank blank _ inductionHypothesis =>
    rw [symbolsOf, pieces_blank blank]
    exact inductionHypothesis read
  | @symbol symbol lexeme text symbols spelt later inductionHypothesis =>
    rw [Standing.afterAll?_cons] at read
    obtain ⟨next, first, read⟩ := Option.bind_eq_some_iff.1 read
    have longest : (numeralAt (lexeme ++ text)).length ≤ lexeme.length := by
      obtain ⟨isNumeral, rfl⟩ | ⟨c, rfl, -, -, noDigit, -⟩ := spelt.numeral_or_mark
      · have noNumber : ∀ numeral, symbols.head? ≠ some (.number numeral) := by
          intro numeral isNumber
          obtain ⟨others, rfl⟩ := List.head?_eq_some_iff.1 isNumber
          -- after a numeral no operand is due, and so no numeral
          obtain ⟨due, depth⟩ := standing
          cases due <;> cases first
          cases read
        rw [isNumeral.numeralAt_append fun c first => later.head noNumber first]
      · rw [List.singleton_append, numeralAt_eq_nil noDigit]
        exact Nat.zero_le _
    rw [symbolsOf, pieces_of_isSpelt spelt longest, List.map_cons]
    exact congrArg _ (inductionHypothesis read)

/-- A symbol at the start of a text is spelt there, unless it is none of the calculator's. -/
theorem isSpelt_symbolAt {c : Char} {rest : List Char}
    (known : ∀ unknown, symbolAt c rest ≠ .other unknown) :
    (symbolAt c rest).IsSpelt (symbolAt c rest).lexeme := by
  rw [symbolAt] at known ⊢
  split at known
  · rename_i none
    rw [if_pos none]
    unfold markOf at known ⊢
    split at known
    · exact .operator .plus
    · exact .operator .minus
    · exact .operator .times
    · exact .operator .divide
    · exact .left
    · exact .right
    · exact absurd rfl (known c)
  · rename_i some
    rw [if_neg some]
    exact .number (isNumeral_numeralAt some)

/-- Symbols that can be read are the calculator's. -/
theorem not_other_of_afterAll? {symbols : List Symbol} {standing last : Standing}
    (read : standing.afterAll? symbols = some last) :
    ∀ symbol ∈ symbols, ∀ unknown, symbol ≠ .other unknown := by
  induction symbols generalizing standing with
  | nil => simp
  | cons symbol symbols inductionHypothesis =>
    rw [Standing.afterAll?_cons] at read
    obtain ⟨next, first, read⟩ := Option.bind_eq_some_iff.1 read
    refine List.forall_mem_cons.2 ⟨?_, inductionHypothesis read⟩
    rintro unknown rfl
    obtain ⟨due, depth⟩ := standing
    cases due <;> cases first

/-! ## Splitting the beginning of a text -/

/-- The text `read`, which goes on with `rest`, splits into blanks and symbols; a numeral is as long
as it can be in the whole text. -/
inductive Splits : List Char → List Char → List Symbol → Prop
  | finish (rest : List Char) : Splits [] rest []
  | blank {c : Char} {read rest : List Char} {symbols : List Symbol} (blank : Text.isBlank c)
      (later : Splits read rest symbols) : Splits (c :: read) rest symbols
  | symbol {symbol : Symbol} {lexeme read rest : List Char} {symbols : List Symbol}
      (spelt : symbol.IsSpelt lexeme)
      (longest : ∀ longer, IsNumeral longer → longer <+: lexeme ++ (read ++ rest) →
        longer.length ≤ lexeme.length)
      (later : Splits read rest symbols) : Splits (lexeme ++ read) rest (symbol :: symbols)

/-- **What is split off is cut off.** -/
theorem Splits.exists_pieces {read rest : List Char} {symbols : List Symbol}
    (splits : Splits read rest symbols) :
    ∃ early, pieces (read ++ rest) = early ++ pieces rest ∧ early.map Piece.symbol = symbols := by
  induction splits with
  | finish rest => exact ⟨[], rfl, rfl⟩
  | blank blank _ inductionHypothesis =>
    rw [List.cons_append, pieces_blank blank]
    exact inductionHypothesis
  | @symbol symbol lexeme read rest symbols spelt longest _ inductionHypothesis =>
    obtain ⟨early, cut, rfl⟩ := inductionHypothesis
    -- a numeral that went on behind the lexeme would be longer than the longest one
    have bound : (numeralAt (lexeme ++ (read ++ rest))).length ≤ lexeme.length := by
      by_cases none : numeralAt (lexeme ++ (read ++ rest)) = []
      · rw [none]
        exact Nat.zero_le _
      · exact longest _ (isNumeral_numeralAt none) (numeralAt_isPrefix _)
    refine ⟨⟨symbol, lexeme ++ (read ++ rest)⟩ :: early, ?_, rfl⟩
    rw [List.append_assoc, pieces_of_isSpelt spelt bound, cut, List.cons_append]

/-- Blanks can be split off. -/
theorem Splits.blanks {read rest : List Char} {symbols : List Symbol}
    (splits : Splits read rest symbols) {blanks : List Char}
    (all : ∀ c ∈ blanks, Text.isBlank c) : Splits (blanks ++ read) rest symbols := by
  induction blanks with
  | nil => exact splits
  | cons c blanks inductionHypothesis =>
    obtain ⟨first, others⟩ := List.forall_mem_cons.1 all
    exact .blank first (inductionHypothesis others)

/-- **Known symbols that are cut off can be split off**, up to where the next one begins. -/
theorem exists_splits {text : List Char} {early late : List Piece}
    (cut : pieces text = early ++ late)
    (known : ∀ piece ∈ early, ∀ unknown, piece.symbol ≠ .other unknown) :
    ∃ read rest, text = read ++ rest ∧ Splits read rest (early.map Piece.symbol)
      ∧ pieces rest = late ∧ rest.dropWhile Text.isBlank = rest := by
  induction early generalizing text with
  | nil =>
    have blanks : ∀ c ∈ text.takeWhile Text.isBlank, Text.isBlank c :=
      fun c member => List.mem_takeWhile_imp member
    refine ⟨text.takeWhile Text.isBlank, text.dropWhile Text.isBlank,
      List.takeWhile_append_dropWhile.symm, ?_, by rw [pieces_dropWhile, cut, List.nil_append], ?_⟩
    · have splits := (Splits.finish (text.dropWhile Text.isBlank)).blanks blanks
      rwa [List.append_nil] at splits
    · exact List.dropWhile_eq_self_iff.2 (List.dropWhile_get_zero_not _ _)
  | cons piece early inductionHypothesis =>
    obtain ⟨c, others, later, ahead, -, rfl, whole, after⟩ := exists_of_pieces_eq_cons cut
    obtain ⟨knownFirst, known⟩ := List.forall_mem_cons.1 known
    obtain ⟨read, rest, rfl, splits, cutLater, ink⟩ := inductionHypothesis after known
    have blanks : ∀ c ∈ text.takeWhile Text.isBlank, Text.isBlank c :=
      fun c member => List.mem_takeWhile_imp member
    have longest (longer : List Char) (isNumeral : IsNumeral longer)
        (within : longer <+: (symbolAt c others).lexeme ++ (read ++ rest)) :
        longer.length ≤ (symbolAt c others).lexeme.length := by
      rw [← whole] at within
      exact (isNumeral.length_le within).trans (length_numeralAt_le c others)
    refine ⟨_, rest, ?_, ((Splits.symbol (isSpelt_symbolAt knownFirst) longest splits).blanks
      blanks), cutLater, ink⟩
    rw [List.append_assoc, List.append_assoc, ← whole, ← ahead, List.takeWhile_append_dropWhile]

/-! ## Expressions in a text -/

/-- What splits off as symbols spells them. -/
theorem Splits.spells {read rest : List Char} {symbols : List Symbol}
    (splits : Splits read rest symbols) : Spells read symbols := by
  induction splits with
  | finish => exact .finish
  | blank blank _ inductionHypothesis => exact .blank blank inductionHypothesis
  | symbol spelt _ _ inductionHypothesis => exact .symbol spelt inductionHypothesis

/-- A text of known symbols spells them. -/
theorem spells_symbolsOf {text : List Char}
    (known : ∀ piece ∈ pieces text, ∀ unknown, piece.symbol ≠ .other unknown) :
    Spells text (symbolsOf text) := by
  obtain ⟨read, rest, rfl, splits, none, ink⟩ := exists_splits (List.append_nil _).symm known
  rw [pieces_eq_nil_iff.1 none] at ink
  rw [← ink, List.append_nil] at splits ⊢
  exact splits.spells

/-- **A text is an expression** exactly if its symbols are one. -/
theorem isSentence_iff {text : List Char} {tree : Tree} :
    IsSentence text tree ↔ Derives (.chain .sum) (symbolsOf text) tree := by
  constructor
  · rintro ⟨symbols, spells, derives⟩
    rwa [symbolsOf_of_spells spells (derives.afterAll? 0)]
  · intro derives
    refine ⟨_, spells_symbolsOf ?_, derives⟩
    intro piece member
    exact not_other_of_afterAll? (derives.afterAll? 0) _ (List.mem_map_of_mem member)

end Peg.Calculator
