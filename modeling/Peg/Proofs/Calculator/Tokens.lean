import Peg.Proofs.Calculator.Scannerless

/-! # The tokens of the calculator

The lexer of the calculator cuts a text exactly where its symbols begin: it skips runs of blanks,
takes single characters as keywords and numerals as long as they can be.

* **`skip_eq`**, **`nextToken_eq`**: what is skipped, and what is cut off next.
* **`tokenize_cuts`**: the tokens of a text are its symbols one by one, each with its offset; a text
  with an unknown character has none. -/

namespace Peg.Calculator

open Pattern

/-! ## The lexer -/

/-- The pattern of blanks of which there is at least one. -/
def someBlanks : Pattern := .plain "\\s+" (.run blankClass 1 none true)

/-- The characters that are symbols of their own. -/
def marks : List Char := ['+', '-', '*', '/', '(', ')']

/-- The lexer of the calculator, read. -/
def readLexer : Lexer where
  tokens := [("NUMBER".toList, .plain numberPattern numeral)]
  ignored := [someBlanks]
  keywords := marks.map ([·])

/-- Keywords of one length keep their order. -/
theorem arrange_marks : Lexer.arrange (marks.map ([·])) = marks.map ([·]) := by
  have distinct : ((marks.map ([·])).filter (!·.isEmpty)).eraseDups = marks.map ([·]) := by
    decide
  rw [Lexer.arrange, distinct]
  exact List.mergeSort_of_pairwise (by decide)

/-- The lexer of the calculator is compiled without a fault. -/
theorem lexer_eq : lexer = .ok readLexer := by
  have read : lexer = .ok (.make readLexer.tokens readLexer.ignored (marks.map ([·]))) := rfl
  rw [read, Lexer.make, arrange_marks]
  rfl

/-! ## Skipping -/

/-- One round skips all blanks that stand there. -/
theorem skipRound_eq (before rest : List Char) :
    Lexer.skipRound before rest [someBlanks] = .ok (rest.takeWhile Text.isBlank).length := by
  have length : Lexer.lengthOf someBlanks before rest
      = .ok (rest.takeWhile Text.isBlank).length := by
    have unfolded : Lexer.lengthOf someBlanks before rest
        = .ok ((someBlanks.matchLength? before rest).getD 0) := rfl
    rw [unfolded, someBlanks, matchLength?_run blankClass 1 blankClass_accepts]
    split
    · rfl
    · rename_i none
      rw [Nat.eq_zero_of_not_pos none]
      rfl
  rw [Lexer.skipRound, length]
  rfl

/-- Where no blank stands, nothing is skipped. -/
theorem skip_of_ink {before rest : List Char}
    (ink : rest.takeWhile Text.isBlank = []) : Lexer.skip [someBlanks] before rest = .ok 0 := by
  cases rest with
  | nil => rw [Lexer.skip]
  | cons c others => rw [Lexer.skip, skipRound_eq, ink, List.length_nil]

/-- **All blanks are skipped**, in one round. -/
theorem skip_eq (before rest : List Char) :
    Lexer.skip [someBlanks] before rest = .ok (rest.takeWhile Text.isBlank).length := by
  cases rest with
  | nil => rw [Lexer.skip]; rfl
  | cons c others =>
    rw [Lexer.skip, skipRound_eq]
    cases blanks : ((c :: others).takeWhile Text.isBlank).length with
    | zero => rfl
    | succ length =>
      have ink : (others.drop length).takeWhile Text.isBlank = [] := by
        have dropped : others.drop length = (c :: others).dropWhile Text.isBlank := by
          rw [← drop_length_takeWhile, blanks, List.drop_succ_cons]
        rw [dropped, List.takeWhile_eq_nil_iff]
        exact List.dropWhile_get_zero_not _ _
      simp only [skip_of_ink ink]

/-! ## Cutting off a token -/

/-- The kind of the token of a symbol; an unknown character has none. -/
def Symbol.kind? : Symbol → Option (List Char)
  | .number _ => some "NUMBER".toList
  | .operator sign => some [sign.char]
  | .left => some ['(']
  | .right => some [')']
  | .other _ => none

/-- A character that begins no numeral is a token exactly if it is a mark. -/
theorem kind?_markOf (c : Char) : (markOf c).kind? = if c ∈ marks then some [c] else none := by
  unfold markOf
  split
  case h_7 =>
    rw [if_neg (by simp_all [marks])]
    rfl
  all_goals rfl

/-- A mark is a keyword, whatever comes after it. -/
theorem admits_eq {mark : Char} (isMark : mark ∈ marks) (c : Char) (rest : List Char) :
    Lexer.admits [mark] (c :: rest) = (mark == c) := by
  have plain : marks.all fun mark => !Lexer.isWordLike [mark] := by decide
  rw [Lexer.admits, eq_false_of_all_not plain isMark, Bool.false_and, Bool.not_false, Bool.and_true,
    List.isPrefixOf_cons_cons, List.isPrefixOf_nil_left, Bool.and_true]

/-- The mark that is found is the character itself. -/
theorem find?_admits {known : List Char} (all : ∀ mark ∈ known, mark ∈ marks) (c : Char)
    (rest : List Char) :
    (known.map ([·])).find? (Lexer.admits · (c :: rest))
      = if c ∈ known then some [c] else none := by
  induction known with
  | nil => rfl
  | cons mark known inductionHypothesis =>
    obtain ⟨first, others⟩ := List.forall_mem_cons.1 all
    rw [List.map_cons, List.find?_cons, admits_eq first, inductionHypothesis others]
    by_cases same : mark = c
    · simp [same]
    · rw [beq_false_of_ne same]
      simp [Ne.symm same]

/-- A numeral is longer than nothing, and nothing else is tried. -/
theorem longest_eq (before text : List Char) :
    Lexer.longest before text none readLexer.tokens
      = .ok (if numeralAt text = [] then none
          else some ("NUMBER".toList, (numeralAt text).length)) := by
  have length : Lexer.lengthOf (.plain numberPattern numeral) before text
      = .ok (numeralAt text).length := by
    have unfolded : Lexer.lengthOf (.plain numberPattern numeral) before text
        = .ok (((plain numberPattern numeral).matchLength? before text).getD 0) := rfl
    rw [unfolded, matchLength?_numeral]
    split
    · rename_i none
      rw [none]
      rfl
    · rfl
  have unfolded : Lexer.longest before text none readLexer.tokens
      = (Lexer.lengthOf (.plain numberPattern numeral) before text).bind fun length =>
          .ok (if 0 < length then some ("NUMBER".toList, length) else none) := rfl
  rw [unfolded, length, Except.bind]
  by_cases none : numeralAt text = []
  · rw [if_pos none, none]
    rfl
  · rw [if_neg none, if_pos (List.length_pos_iff.2 none)]

/-- **The next token** is the symbol at the start of the text. -/
theorem nextToken_eq (before : List Char) (c : Char) (rest : List Char) :
    readLexer.nextToken before (c :: rest)
      = .ok ((symbolAt c rest).kind?.map (·, (symbolAt c rest).lexeme.length)) := by
  have keyword : readLexer.keywords.find? (Lexer.admits · (c :: rest))
      = if c ∈ marks then some [c] else none := find?_admits (fun _ => id) c rest
  rw [Lexer.nextToken, keyword, longest_eq, symbolAt]
  by_cases none : numeralAt (c :: rest) = []
  · rw [if_pos none, if_pos none, kind?_markOf, lexeme_markOf]
    by_cases mark : c ∈ marks
    · rw [if_pos mark]
      rfl
    · rw [if_neg mark]
      rfl
  · have digits : marks.all fun mark => !Text.isDigit mark := by decide
    have noMark : c ∉ marks := fun mark =>
      none (numeralAt_eq_nil (eq_false_of_all_not digits mark) rest)
    rw [if_neg none, if_neg none, if_neg noMark]
    rfl

/-! ## The tokens of a text -/

/-- The token of a piece of a text of the given length. -/
structure IsTokenOf (length : Nat) (token : Token) (piece : Piece) : Prop where
  /-- It has the kind of the symbol. -/
  kind_eq : piece.symbol.kind? = some token.kind
  /-- Its lexeme is that of the symbol. -/
  text_eq : token.text = piece.symbol.lexeme
  /-- It starts where the piece does. -/
  offset_eq : token.offset = ((length - piece.start.length : Nat) : Int)

/-- The lexer comes to an end as the pieces of the text demand. -/
def Cuts (source : List Char) (length : Nat) (pieces : List Piece) :
    Except Fault (List Token) → Prop
  | .ok tokens => List.Forall₂ (IsTokenOf length) tokens pieces
  | .error fault => (∃ piece ∈ pieces, ∃ c, piece.symbol = .other c)
    ∧ ∃ offset line column, fault = .unexpectedChar source offset line column

/-- A token is put before those of the text behind it. -/
theorem Cuts.cons {source : List Char} {length : Nat} {pieces : List Piece} {piece : Piece}
    {token : Token} (result : Except Fault (List Token)) (first : IsTokenOf length token piece) :
    Cuts source length pieces result → Cuts source length (piece :: pieces)
      (match result with
        | .error fault => .error fault
        | .ok tokens => .ok (token :: tokens)) := by
  intro later
  cases result with
  | ok tokens => exact List.Forall₂.cons first later
  | error fault =>
    obtain ⟨⟨unknown, member, isOther⟩, raised⟩ := later
    exact ⟨⟨unknown, List.mem_cons_of_mem _ member, isOther⟩, raised⟩

/-- Only unknown characters are no tokens. -/
theorem Symbol.exists_other_of_kind? {symbol : Symbol} (none : symbol.kind? = none) :
    ∃ c, symbol = .other c := by
  cases symbol <;> first | exact ⟨_, rfl⟩ | cases none

/-- **The lexer cuts a text at its symbols**, from any place on. -/
theorem scan_cuts (source : List Char) (before rest : List Char) (offset : Nat)
    (line column : Int) :
    Cuts source (offset + rest.length) (pieces rest)
      (readLexer.scan source before rest offset line column) := by
  induction size : rest.length using Nat.strongRecOn
    generalizing before rest offset line column with
  | _ size inductionHypothesis =>
    subst size
    cases rest with
    | nil =>
      rw [Lexer.scan, pieces_nil]
      exact .nil
    | cons c others =>
      have skipped : Lexer.skip readLexer.ignored before (c :: others) = _ := skip_eq before _
      rw [Lexer.scan, skipped]
      cases blanks : ((c :: others).takeWhile Text.isBlank).length with
      | succ more =>
        -- blanks are skipped, and no piece is lost with them
        have dropped : others.drop more = (c :: others).dropWhile Text.isBlank := by
          rw [← drop_length_takeWhile, blanks, List.drop_succ_cons]
        have bound := (List.takeWhile_prefix Text.isBlank : _ <+: c :: others).length_le
        rw [blanks, List.length_cons] at bound
        have shorter : (others.drop more).length < (c :: others).length := by
          rw [List.length_drop, List.length_cons]
          omega
        have places : offset + (c :: others).length
            = offset + (more + 1) + (others.drop more).length := by
          rw [List.length_drop, List.length_cons]
          omega
        rw [places, ← pieces_dropWhile, ← dropped]
        exact inductionHypothesis _ shorter _ _ _ _ _ rfl
      | zero =>
        have ink : Text.isBlank c = false := by
          by_contra blank
          rw [List.takeWhile_cons_of_pos (by simpa using blank)] at blanks
          cases blanks
        -- the next token is the next symbol, and the scan goes on behind it
        obtain ⟨later, whole, cut⟩ := @pieces_symbol c others ink
        obtain ⟨more, lexeme, -⟩ := exists_symbolAt c others
        rw [nextToken_eq, cut]
        cases kind : (symbolAt c others).kind? with
        | none =>
          exact ⟨⟨_, List.mem_cons_self, Symbol.exists_other_of_kind? kind⟩, _, _, _, rfl⟩
        | some name =>
          rw [lexeme, List.cons_append] at whole
          obtain ⟨-, rfl⟩ := List.cons.inj whole
          have taken : (c :: (more ++ later)).take (more.length + 1) = c :: more := by
            rw [List.take_succ_cons, List.take_left]
          have shorter : later.length < (c :: (more ++ later)).length := by
            rw [List.length_cons, List.length_append]
            omega
          have places : offset + (c :: (more ++ later)).length
              = offset + (more.length + 1) + later.length := by
            rw [List.length_cons, List.length_append]
            omega
          have token : IsTokenOf (offset + (c :: (more ++ later)).length)
              ⟨name, (c :: (more ++ later)).take (more.length + 1), line, column, offset⟩
              ⟨symbolAt c (more ++ later), c :: (more ++ later)⟩ :=
            ⟨kind, taken.trans lexeme.symm, by rw [Nat.add_sub_cancel]⟩
          rw [lexeme]
          refine Cuts.cons _ token ?_
          rw [places, List.drop_left]
          exact inductionHypothesis _ shorter _ _ _ _ _ rfl

/-- **The tokens of a text** are its symbols. -/
theorem tokenize_cuts (text : List Char) : Cuts text text.length (pieces text) (tokenize text) := by
  have scanned := scan_cuts text [] text 0 1 1
  rw [Nat.zero_add] at scanned
  rw [tokenize, lexer_eq]
  exact scanned

end Peg.Calculator
