import Mathlib.Data.List.Chain
import Peg.Proofs.Lexer.Scan

/-! # Tokens cover a text

Between the lexemes of the tokens of a text there are gaps. Nothing but ignored matter lies in
them, and the gaps and the lexemes in turn are the text again.

* **`gaps`**, **`pieces`**: the gaps as places, and the gaps and lexemes as pieces of the text.
* **`Reaches.isCovered`**: whatever place a scan reaches, the text up to there is covered.
* **`tokenize_covers_text`**: a text has tokens that cover it, or a place where no token starts. -/

namespace Peg

/-- Where the lexeme of a token starts. -/
def Token.start (token : Token) : Nat := token.offset.toNat

/-- Where the lexeme of a token stops. -/
def Token.stop (token : Token) : Nat := token.start + token.text.length

namespace Lexer

/-! ## Gaps and lexemes -/

/-- The gaps before, between and behind the tokens of a stretch of text, each as the place where it
starts and the place where it stops. -/
def gaps (start : Nat) (tokens : List Token) (stop : Nat) : List (Nat × Nat) :=
  match tokens with
  | [] => [(start, stop)]
  | token :: tokens => (start, token.start) :: gaps token.stop tokens stop

/-- The gaps and the lexemes of a stretch of text in turn. -/
def pieces (text : List Char) (start : Nat) (tokens : List Token) (stop : Nat) :
    List (List Char) :=
  match tokens with
  | [] => [text.extract start stop]
  | token :: tokens =>
    text.extract start token.start :: token.text :: pieces text token.stop tokens stop

/-- The lexeme of a token stands in a text where the token says, and it is not empty. -/
structure StandsIn (text : List Char) (token : Token) : Prop where
  /-- The lexeme is not empty. -/
  nonempty : token.text ≠ []
  /-- The offset is a place. -/
  offset_eq : token.offset = token.start
  /-- The lexeme is what stands there. -/
  lexeme : text.extract token.start token.stop = token.text

/-- A text is covered up to a place: the lexemes stand in it, and the gaps hold ignored matter. -/
structure IsCovered (ignored : List Pattern) (text : List Char) (tokens : List Token)
    (stop : Nat) : Prop where
  /-- The lexemes stand in the text. -/
  stands : ∀ token ∈ tokens, StandsIn text token
  /-- The gaps are passed over. -/
  passes : ∀ gap ∈ gaps 0 tokens stop, Passes ignored text gap.1 gap.2

section Gaps

variable {ignored : List Pattern} {text : List Char} {tokens : List Token} {start stop : Nat}

/-- One more token closes the last gap and opens another one behind it. -/
theorem gaps_append_singleton (token : Token) :
    gaps start (tokens ++ [token]) stop
      = gaps start tokens token.start ++ [(token.stop, stop)] := by
  induction tokens generalizing start with
  | nil => rfl
  | cons first tokens inductionHypothesis =>
    rw [List.cons_append, gaps, inductionHypothesis, gaps, List.cons_append]

/-- The last gap may be made longer. -/
theorem passes_gaps_of_passes {later : Nat}
    (passes : ∀ gap ∈ gaps start tokens stop, Passes ignored text gap.1 gap.2)
    (more : Passes ignored text stop later) :
    ∀ gap ∈ gaps start tokens later, Passes ignored text gap.1 gap.2 := by
  induction tokens generalizing start with
  | nil =>
    rw [gaps, List.forall_mem_singleton] at passes ⊢
    exact passes.trans more
  | cons token tokens inductionHypothesis =>
    rw [gaps, List.forall_mem_cons] at passes ⊢
    exact ⟨passes.1, inductionHypothesis passes.2⟩

/-- A stretch does not stop before it starts, with gaps that do not. -/
theorem le_of_passes_gaps
    (passes : ∀ gap ∈ gaps start tokens stop, Passes ignored text gap.1 gap.2) : start ≤ stop := by
  induction tokens generalizing start with
  | nil => exact (passes _ List.mem_cons_self).start_le
  | cons token tokens inductionHypothesis =>
    rw [gaps, List.forall_mem_cons] at passes
    have before := passes.1.start_le
    have behind := inductionHypothesis passes.2
    rw [Token.stop] at behind
    omega

/-- Tokens with gaps between them do not overlap. -/
theorem isChain_of_passes_gaps
    (passes : ∀ gap ∈ gaps start tokens stop, Passes ignored text gap.1 gap.2) :
    tokens.IsChain fun first second => first.stop ≤ second.start := by
  induction tokens generalizing start with
  | nil => exact .nil
  | cons token tokens inductionHypothesis =>
    rw [gaps, List.forall_mem_cons] at passes
    have others := inductionHypothesis passes.2
    cases tokens with
    | nil => exact .singleton token
    | cons second tokens =>
      rw [gaps, List.forall_mem_cons] at passes
      exact .cons_cons passes.2.1.start_le others

theorem extract_append_extract {middle : Nat} (first : start ≤ middle) (second : middle ≤ stop) :
    text.extract start middle ++ text.extract middle stop = text.extract start stop := by
  have lengths : stop - start = (middle - start) + (stop - middle) := by omega
  have place : middle = start + (middle - start) := by omega
  rw [List.extract, List.extract, List.extract, lengths, List.take_add, List.drop_drop, ← place]

/-- **The pieces of a stretch in turn are the stretch.** -/
theorem flatten_pieces (stands : ∀ token ∈ tokens, StandsIn text token)
    (passes : ∀ gap ∈ gaps start tokens stop, Passes ignored text gap.1 gap.2) :
    (pieces text start tokens stop).flatten = text.extract start stop := by
  induction tokens generalizing start with
  | nil => rw [pieces, List.flatten_singleton]
  | cons token tokens inductionHypothesis =>
    rw [gaps, List.forall_mem_cons] at passes
    rw [List.forall_mem_cons] at stands
    have before := passes.1.start_le
    have behind := le_of_passes_gaps passes.2
    have length : token.start ≤ token.stop := Nat.le_add_right _ _
    rw [pieces, List.flatten_cons, List.flatten_cons, inductionHypothesis stands.2 passes.2,
      ← stands.1.lexeme, extract_append_extract length behind,
      extract_append_extract before (Nat.le_trans length behind)]

end Gaps

/-! ## The scan -/

section Scan

variable {lexer : Lexer} {text : List Char} {tokens : List Token} {offset length : Nat}

theorem stop_tokenAt {kind : List Char} (bound : offset + length ≤ text.length) :
    (tokenAt text offset kind ((text.drop offset).take length)).stop = offset + length := by
  rw [Token.stop, tokenAt, length_take_drop bound]
  rfl

/-- What is cut off stands in the text. -/
theorem standsIn_tokenAt {kind : List Char} (bound : offset + (length + 1) ≤ text.length) :
    StandsIn text (tokenAt text offset kind ((text.drop offset).take (length + 1))) where
  nonempty := by
    rw [← List.length_pos_iff, tokenAt, length_take_drop bound]
    omega
  offset_eq := rfl
  lexeme := by
    rw [stop_tokenAt bound, tokenAt, Token.start, Int.toNat_natCast, List.extract,
      Nat.add_sub_cancel_left]

/-- **The text is covered up to every place that a scan reaches.** -/
theorem Reaches.isCovered (reaches : lexer.Reaches text tokens offset) :
    IsCovered lexer.ignored text tokens offset := by
  induction reaches with
  | start =>
    exact ⟨fun _ member => (nomatch member), List.forall_mem_singleton.2 (Passes.nil 0)⟩
  | skip _ skipped inductionHypothesis =>
    exact ⟨inductionHypothesis.stands,
      passes_gaps_of_passes inductionHypothesis.passes (passes_of_skipAt skipped).1⟩
  | @token tokens offset length kind _ inside _ found inductionHypothesis =>
    have bound := nextTokenAt_le (Nat.le_of_lt inside) found
    constructor
    · rw [List.forall_mem_append, List.forall_mem_singleton]
      exact ⟨inductionHypothesis.stands, standsIn_tokenAt bound⟩
    · -- the gap before the token stops where the token starts, and the one behind it is still empty
      rw [gaps_append_singleton, List.forall_mem_append, List.forall_mem_singleton,
        stop_tokenAt bound]
      exact ⟨inductionHypothesis.passes, .nil _⟩

/-- **The tokens of a text cover it.** A text has tokens or a place before its end where no token
starts, if all patterns are for text. The lexemes of the tokens are not empty, they stand in the
text where the tokens say, and they do not overlap; the gaps before, between and behind them are
rows of matches of ignored patterns; and gaps and lexemes in turn are the whole text. -/
theorem tokenize_covers_text (lexer : Lexer) (text : List Char) :
    ((∃ tokens, lexer.tokenize text = .ok tokens)
        ∨ (∃ offset < text.length, lexer.tokenize text = .error (unexpectedAt text offset))
        ∨ lexer.tokenize text = .error .wrongKind ∧ ¬ lexer.IsForText)
      ∧ ∀ tokens, lexer.tokenize text = .ok tokens →
        (∀ token ∈ tokens, StandsIn text token)
          ∧ tokens.IsChain (fun first second => first.stop ≤ second.start)
          ∧ (∀ gap ∈ gaps 0 tokens text.length, Passes lexer.ignored text gap.1 gap.2)
          ∧ (pieces text 0 tokens text.length).flatten = text := by
  refine ⟨lexer.tokenize_cases text, fun tokens cut => ?_⟩
  have covered := (tokenize_eq_ok_iff.1 cut).isCovered
  refine ⟨covered.stands, isChain_of_passes_gaps covered.passes, covered.passes, ?_⟩
  rw [flatten_pieces covered.stands covered.passes, List.extract, List.drop_zero, Nat.sub_zero,
    List.take_length]

/-- A text with four lexemes and with gaps in which the ignored patterns take turns. -/
theorem letterText_is_covered :
    ∃ tokens, letterLexer.tokenize letterText = .ok tokens ∧ tokens.length = 4
      ∧ Passes letterLexer.ignored letterText 0 2 ∧ Passes letterLexer.ignored letterText 10 12
      ∧ (pieces letterText 0 tokens letterText.length).flatten = letterText := by
  have cut := tokenize_letters.1
  obtain ⟨-, -, passes, whole⟩ := (tokenize_covers_text letterLexer letterText).2 _ cut
  exact ⟨_, cut, rfl, passes (0, 2) (by decide), passes (10, 12) (by decide), whole⟩

end Scan

end Lexer

end Peg
