import Peg.Proofs.Lexer.Scan

/-! # The coordinates of tokens

A scan counts lines and columns along the pieces that it skips and cuts off. What it has counted
when it comes to a token, or to a character that starts none, is what a look at the whole text
finds, wherever there are line feeds.

* **`Reaches.lineColumn_eq`**: every token that a scan has cut off has the coordinates of its
  offset.
* **`exists_pointsAt`**: the message about a character shows the line that its line number says, and
  a caret in the column that its column number says.
* **`coordinates_agree_with_lineColumn`**: both, for the tokens and for the fault of a text. -/

namespace Peg.Lexer

/-- A message points at a character of a text: it names the character, its line and its column, and
shows that line with a caret below it in that column, which is where the character stands unless it
ends the line. -/
def PointsAt (text : List Char) (offset : Nat) (line column : Int) (message : String) : Prop :=
  ∃ c shown blanks, text[offset]? = some c
    ∧ (text.splitOn '\n')[line.toNat - 1]? = some shown
    ∧ column = (blanks : Nat) + 1
    ∧ (c ≠ '\n' → shown[blanks]? = some c)
    ∧ message
      = "Unexpected char " ++ Text.quoted [c] ++ " at " ++ toString line ++ ":" ++ toString column
        ++ "\n" ++ String.ofList (shown ++ '\n' :: List.replicate blanks ' ' ++ ['^'])

section Coordinates

variable {lexer : Lexer} {text : List Char} {tokens : List Token} {offset : Nat}

/-- **Tokens have the coordinates of their offsets.** -/
theorem Reaches.lineColumn_eq (reaches : lexer.Reaches text tokens offset) :
    ∀ token ∈ tokens, token.line = (Text.lineColumn text token.offset).1
      ∧ token.column = (Text.lineColumn text token.offset).2 := by
  induction reaches with
  | start => exact fun _ member => nomatch member
  | skip _ _ inductionHypothesis => exact inductionHypothesis
  | token _ _ _ _ inductionHypothesis =>
    rw [List.forall_mem_append, List.forall_mem_singleton]
    exact ⟨inductionHypothesis, rfl, rfl⟩

/-- **The message about a character that starts no token points at it.** -/
theorem exists_pointsAt (inside : offset < text.length) :
    ∃ message, (unexpectedAt text offset).message? = some message
      ∧ PointsAt text offset (Text.lineColumn text offset).1 (Text.lineColumn text offset).2
        message := by
  have bound := Nat.le_of_lt inside
  obtain ⟨blanks, column, caret⟩ := Text.exists_caret bound
  have here : text[offset]? = some text[offset] := List.getElem?_eq_getElem inside
  have before : blanks = (Text.lineBefore text offset).length := by
    rw [Text.lineColumn_of_le bound] at column
    omega
  refine ⟨_, rfl, text[offset], Text.lineAt text offset, blanks, here,
    Text.getElem?_splitOn_lineColumn bound, column, fun ink => ?_, ?_⟩
  · rw [before]
    exact Text.getElem?_lineAt here ink
  · have alone : (text.drop offset).take 1 = [text[offset]] := by
      rw [List.drop_eq_getElem_cons inside]
      rfl
    rw [alone, caret]
    simp only [String.append_assoc]
    rfl

/-- **The coordinates that a lexer counts are those that are found in the whole text.** Each token
has the line and the column of its offset. A fault has those of the place where no token starts, and
in its message a caret stands in that column below that very line. -/
theorem coordinates_agree_with_lineColumn (lexer : Lexer) (text : List Char) :
    (∀ tokens, lexer.tokenize text = .ok tokens → ∀ token ∈ tokens,
        token.line = (Text.lineColumn text token.offset).1
          ∧ token.column = (Text.lineColumn text token.offset).2)
      ∧ ∀ source offset line column,
        lexer.tokenize text = .error (.unexpectedChar source offset line column) →
        source = text ∧ line = (Text.lineColumn text offset).1
          ∧ column = (Text.lineColumn text offset).2
          ∧ ∃ message, (Fault.unexpectedChar source offset line column).message? = some message
            ∧ PointsAt text offset line column message := by
  constructor
  · intro tokens cut
    exact (tokenize_eq_ok_iff.1 cut).lineColumn_eq
  · intro source offset line column raised
    obtain ⟨_, place, -, inside, fails⟩ := tokenize_eq_error_iff.1 raised
    obtain same | ⟨impossible, -⟩ := fails.fault_cases
    · cases same
      exact ⟨rfl, rfl, rfl, exists_pointsAt inside⟩
    · cases impossible

/-- The last letter stands in the fourth line, behind line feeds that were skipped and one in a
lexeme; the stray character stands in the third column of the second line. -/
theorem letters_have_coordinates :
    (∃ tokens, letterLexer.tokenize letterText = .ok tokens
        ∧ ∃ token ∈ tokens, token.offset = 12 ∧ token.line = 4 ∧ token.column = 1)
      ∧ ∃ line column message,
        letterLexer.tokenize strayText = .error (.unexpectedChar strayText 3 line column)
          ∧ line = 2 ∧ column = 3
          ∧ (Fault.unexpectedChar strayText 3 line column).message? = some message
          ∧ PointsAt strayText 3 line column message := by
  constructor
  · have last := (coordinates_agree_with_lineColumn letterLexer letterText).1 _ tokenize_letters.1
      (tokenAt letterText 12 ['n'] ['b']) (by simp)
    exact ⟨_, tokenize_letters.1, _, by simp, rfl, last⟩
  · obtain ⟨-, line, column, message, written, points⟩ :=
      (coordinates_agree_with_lineColumn letterLexer strayText).2 _ _ _ _ tokenize_letters.2
    exact ⟨_, _, message, tokenize_letters.2, line, column, written, points⟩

end Coordinates

end Peg.Lexer
