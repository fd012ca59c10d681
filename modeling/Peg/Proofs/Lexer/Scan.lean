import Mathlib.Data.List.Permutation
import Peg.Proofs.GreedyMatch
import Peg.Proofs.Lexer.Place
import Peg.Proofs.Position

/-! # The course of a scan

A scan goes along a text from place to place. At each place it skips what is ignored, or it cuts off
a token, or it fails.

* **`scanAt_eq`**: what the scan does at a place. The line and the column that it has counted are
  those of the place.
* **`tokenize_eq_ok_iff`**, **`tokenize_eq_error_iff`**: tokens are what the scan has cut off when
  it reaches the end, and a fault is what it meets at a place that it reaches.
* **`tokenize_cases`**: a text has tokens or a place where none starts. -/

namespace Peg.Lexer

/-! ## One step -/

/-- The token of a kind with its lexeme at a place, with the line and the column of the place. -/
def tokenAt (text : List Char) (offset : Nat) (kind lexeme : List Char) : Token where
  kind := kind
  text := lexeme
  line := (Text.lineColumn text offset).1
  column := (Text.lineColumn text offset).2
  offset := offset

/-- The fault that no token starts at a place, with the line and the column of the place. -/
def unexpectedAt (text : List Char) (offset : Nat) : Fault :=
  .unexpectedChar text offset (Text.lineColumn text offset).1 (Text.lineColumn text offset).2

/-- The tokens from a place on. -/
def scanAt (lexer : Lexer) (text : List Char) (offset : Nat) : Except Fault (List Token) :=
  lexer.scan text (textBefore text offset) (text.drop offset) offset
    (Text.lineColumn text offset).1 (Text.lineColumn text offset).2

section Step

variable {lexer : Lexer} {text : List Char} {offset : Nat}

/-- The tokens of a text are those from its start on. -/
theorem tokenize_eq_scanAt (lexer : Lexer) (text : List Char) :
    lexer.tokenize text = lexer.scanAt text 0 := rfl

/-- From the end of a text on there are no tokens. -/
theorem scanAt_of_end (ends : text.length ≤ offset) : lexer.scanAt text offset = .ok [] := by
  rw [scanAt, List.drop_eq_nil_iff.2 ends, scan]

/-- **What the scan does at a place.** It goes on with the line and the column of the place that it
goes to, since these are what it comes to when it counts along the piece in between. -/
theorem scanAt_eq (inside : offset < text.length) :
    lexer.scanAt text offset
      = match skipAt lexer.ignored text offset with
        | .error fault => .error fault
        | .ok (length + 1) => lexer.scanAt text (offset + (length + 1))
        | .ok 0 =>
          match lexer.nextTokenAt text offset with
          | .error fault => .error fault
          | .ok (some (kind, length + 1)) =>
            (lexer.scanAt text (offset + (length + 1))).map
              (tokenAt text offset kind ((text.drop offset).take (length + 1)) :: ·)
          | .ok _ => .error (unexpectedAt text offset) := by
  -- the scan looks at the text as a first character and others; both ways it sees the same rest
  obtain ⟨first, others, cut, onwards⟩ := exists_cons_of_lt inside
  rw [scanAt, cut, scan, ← cut, ← skipAt]
  cases skipped : skipAt lexer.ignored text offset with
  | error fault => rfl
  | ok length =>
    cases length with
    | succ length =>
      have bound := (passes_of_skipAt skipped).1.stop_le (Nat.le_of_lt inside)
      simp only [Text.advance_lineColumn bound, passed_textBefore, onwards]
      rfl
    | zero =>
      dsimp only
      rw [← nextTokenAt]
      rcases found : lexer.nextTokenAt text offset with fault | _ | ⟨kind, _ | length⟩
      · rfl
      · rfl
      · rfl
      · have bound := nextTokenAt_le (Nat.le_of_lt inside) found
        simp only [Text.advance_lineColumn bound, passed_textBefore, onwards]
        rw [← scanAt]
        cases lexer.scanAt text (offset + (length + 1)) <;> rfl

end Step

/-! ## The places that a scan reaches -/

/-- All patterns of a lexer are for text. -/
structure IsForText (lexer : Lexer) : Prop where
  /-- The token patterns are. -/
  tokens : ∀ token ∈ lexer.tokens, token.2.source.isBytes = false
  /-- What is skipped is. -/
  ignored : ∀ pattern ∈ lexer.ignored, pattern.source.isBytes = false

/-- The scan of a text reaches a place, having cut off some tokens. -/
inductive Reaches (lexer : Lexer) (text : List Char) : List Token → Nat → Prop
  /-- It starts at the start of the text. -/
  | start : Reaches lexer text [] 0
  /-- It goes behind what is ignored. -/
  | skip {tokens : List Token} {offset length : Nat} (reaches : Reaches lexer text tokens offset)
      (skipped : skipAt lexer.ignored text offset = .ok (length + 1)) :
      Reaches lexer text tokens (offset + (length + 1))
  /-- It cuts off a token and goes behind it. -/
  | token {tokens : List Token} {offset length : Nat} {kind : List Char}
      (reaches : Reaches lexer text tokens offset) (inside : offset < text.length)
      (stays : skipAt lexer.ignored text offset = .ok 0)
      (found : lexer.nextTokenAt text offset = .ok (some (kind, length + 1))) :
      Reaches lexer text
        (tokens ++ [tokenAt text offset kind ((text.drop offset).take (length + 1))])
        (offset + (length + 1))

/-- The scan fails at a place. -/
inductive FailsAt (lexer : Lexer) (text : List Char) (offset : Nat) : Fault → Prop
  /-- There is a fault in skipping. -/
  | skipping {fault : Fault} (raised : skipAt lexer.ignored text offset = .error fault) :
      FailsAt lexer text offset fault
  /-- There is a fault in cutting off a token. -/
  | cutting {fault : Fault} (stays : skipAt lexer.ignored text offset = .ok 0)
      (raised : lexer.nextTokenAt text offset = .error fault) : FailsAt lexer text offset fault
  /-- There is nothing to skip and nothing to cut off. -/
  | nothing {next : Option (List Char × Nat)} (stays : skipAt lexer.ignored text offset = .ok 0)
      (found : lexer.nextTokenAt text offset = .ok next) (none : next.elim 0 (·.2) = 0) :
      FailsAt lexer text offset (unexpectedAt text offset)

section Reaches

variable {lexer : Lexer} {text : List Char} {tokens : List Token} {offset : Nat} {fault : Fault}

/-- The scan stays in the text. -/
theorem Reaches.le (reaches : lexer.Reaches text tokens offset) : offset ≤ text.length := by
  induction reaches with
  | start => exact Nat.zero_le _
  | skip _ skipped inductionHypothesis =>
    exact (passes_of_skipAt skipped).1.stop_le inductionHypothesis
  | token _ inside _ found _ => exact nextTokenAt_le (Nat.le_of_lt inside) found

/-- What is left to do at a place that the scan reaches. -/
theorem Reaches.tokenize_eq (reaches : lexer.Reaches text tokens offset) :
    lexer.tokenize text = (lexer.scanAt text offset).map (tokens ++ ·) := by
  induction reaches with
  | start =>
    rw [tokenize_eq_scanAt]
    cases lexer.scanAt text 0 <;> rfl
  | @skip tokens offset length reaches skipped inductionHypothesis =>
    have inside : offset < text.length := by
      have bound := (reaches.skip skipped).le
      omega
    rw [inductionHypothesis, scanAt_eq inside, skipped]
  | @token tokens offset length kind _ inside stays found inductionHypothesis =>
    rw [inductionHypothesis, scanAt_eq inside, stays]
    simp only [found]
    cases lexer.scanAt text (offset + (length + 1)) with
    | error fault => rfl
    | ok later => simp only [Except.map, List.append_assoc, List.singleton_append]

/-- Where the scan fails, the fault is the result from there on. -/
theorem FailsAt.scanAt_eq (fails : lexer.FailsAt text offset fault)
    (inside : offset < text.length) : lexer.scanAt text offset = .error fault := by
  rw [Lexer.scanAt_eq inside]
  cases fails with
  | skipping raised => rw [raised]
  | cutting stays raised => simp only [stays, raised]
  | @nothing next stays found none =>
    simp only [stays, found]
    rcases next with _ | ⟨kind, _ | length⟩
    · rfl
    · rfl
    · cases none

/-- A scan fails because no token starts at a place; it fails in another way only if a pattern is
for bytes. -/
theorem FailsAt.fault_cases (fails : lexer.FailsAt text offset fault) :
    fault = unexpectedAt text offset ∨ fault = .wrongKind ∧ ¬ lexer.IsForText := by
  cases fails with
  | skipping raised =>
    obtain ⟨same, pattern, member, isBytes⟩ := skipAt_eq_error raised
    refine .inr ⟨same, fun forText => ?_⟩
    rw [forText.ignored pattern member] at isBytes
    cases isBytes
  | cutting _ raised =>
    obtain ⟨same, token, member, isBytes⟩ := nextTokenAt_eq_error raised
    refine .inr ⟨same, fun forText => ?_⟩
    rw [forText.tokens token member] at isBytes
    cases isBytes
  | nothing => exact .inl rfl

/-- The scan goes on from a place before the end, or it fails there. -/
theorem Reaches.goes_on (reaches : lexer.Reaches text tokens offset)
    (inside : offset < text.length) :
    (∃ more later, offset < later ∧ lexer.Reaches text more later)
      ∨ ∃ fault, lexer.FailsAt text offset fault := by
  rcases skipped : skipAt lexer.ignored text offset with fault | _ | length
  · exact .inr ⟨fault, .skipping skipped⟩
  · rcases found : lexer.nextTokenAt text offset with fault | _ | ⟨kind, _ | length⟩
    · exact .inr ⟨fault, .cutting skipped found⟩
    · exact .inr ⟨_, .nothing skipped found rfl⟩
    · exact .inr ⟨_, .nothing skipped found rfl⟩
    · exact .inl ⟨_, _, by omega, reaches.token inside skipped found⟩
  · exact .inl ⟨_, _, by omega, reaches.skip skipped⟩

/-- The scan comes to the end of the text or to a place where it fails. -/
theorem Reaches.exists_last (reaches : lexer.Reaches text tokens offset) :
    (∃ all, lexer.Reaches text all text.length)
      ∨ ∃ all last fault, lexer.Reaches text all last ∧ last < text.length
        ∧ lexer.FailsAt text last fault := by
  -- each step goes forward, so the induction is on what is left of the text
  induction size : text.length - offset using Nat.strongRecOn generalizing tokens offset with
  | _ size inductionHypothesis =>
    subst size
    obtain same | inside := Nat.eq_or_lt_of_le reaches.le
    · exact .inl ⟨tokens, same ▸ reaches⟩
    · obtain ⟨more, later, further, goesOn⟩ | ⟨fault, fails⟩ := reaches.goes_on inside
      · have bound := goesOn.le
        exact inductionHypothesis _ (by omega) goesOn rfl
      · exact .inr ⟨tokens, offset, fault, reaches, inside, fails⟩

/-- If the scan reaches the end, the tokens on the way are those of the text. -/
theorem Reaches.tokenize_of_end (reaches : lexer.Reaches text tokens text.length) :
    lexer.tokenize text = .ok tokens := by
  rw [reaches.tokenize_eq, scanAt_of_end (Nat.le_refl _)]
  simp only [Except.map, List.append_nil]

/-- If the scan fails at a place that it reaches, the fault is the result for the text. -/
theorem Reaches.tokenize_of_failsAt (reaches : lexer.Reaches text tokens offset)
    (inside : offset < text.length) (fails : lexer.FailsAt text offset fault) :
    lexer.tokenize text = .error fault := by
  rw [reaches.tokenize_eq, fails.scanAt_eq inside]
  rfl

/-- **The tokens of a text** are those that the scan has cut off at the end of it. -/
theorem tokenize_eq_ok_iff :
    lexer.tokenize text = .ok tokens ↔ lexer.Reaches text tokens text.length := by
  constructor
  · intro cut
    obtain ⟨all, ends⟩ | ⟨all, last, fault, reaches, inside, fails⟩ :=
      (Reaches.start : lexer.Reaches text [] 0).exists_last
    · cases ends.tokenize_of_end.symm.trans cut
      exact ends
    · cases (reaches.tokenize_of_failsAt inside fails).symm.trans cut
  · exact Reaches.tokenize_of_end

/-- **A text has no tokens** if the scan reaches a place where it fails. -/
theorem tokenize_eq_error_iff :
    lexer.tokenize text = .error fault
      ↔ ∃ tokens offset, lexer.Reaches text tokens offset ∧ offset < text.length
        ∧ lexer.FailsAt text offset fault := by
  constructor
  · intro raised
    obtain ⟨all, ends⟩ | ⟨all, last, other, reaches, inside, fails⟩ :=
      (Reaches.start : lexer.Reaches text [] 0).exists_last
    · cases ends.tokenize_of_end.symm.trans raised
    · cases (reaches.tokenize_of_failsAt inside fails).symm.trans raised
      exact ⟨all, last, reaches, inside, fails⟩
  · rintro ⟨tokens, offset, reaches, inside, fails⟩
    exact reaches.tokenize_of_failsAt inside fails

/-- **A text has tokens or a place where no token starts**, unless a pattern is for bytes. -/
theorem tokenize_cases (lexer : Lexer) (text : List Char) :
    (∃ tokens, lexer.tokenize text = .ok tokens)
      ∨ (∃ offset < text.length, lexer.tokenize text = .error (unexpectedAt text offset))
      ∨ lexer.tokenize text = .error .wrongKind ∧ ¬ lexer.IsForText := by
  rcases cut : lexer.tokenize text with fault | tokens
  · obtain ⟨_, offset, -, inside, fails⟩ := tokenize_eq_error_iff.1 cut
    obtain rfl | ⟨rfl, notForText⟩ := fails.fault_cases
    · exact .inr (.inl ⟨offset, inside, rfl⟩)
    · exact .inr (.inr ⟨rfl, notForText⟩)
  · exact .inl ⟨tokens, rfl⟩

/-- Where a scan comes to, skipping works, unless it meets a pattern for bytes. -/
theorem Reaches.exists_skipAt (reaches : lexer.Reaches text tokens offset)
    (inside : offset < text.length) (usable : lexer.tokenize text ≠ .error .wrongKind) :
    ∃ length, skipAt lexer.ignored text offset = .ok length := by
  rcases skipped : skipAt lexer.ignored text offset with fault | length
  · obtain ⟨rfl, -⟩ := skipAt_eq_error skipped
    exact absurd (reaches.tokenize_of_failsAt inside (.skipping skipped)) usable
  · exact ⟨length, rfl⟩

/-- Where a scan comes to and no ignored pattern matches, nothing is skipped and looking for a token
works, unless it meets a pattern for bytes. -/
theorem Reaches.exists_next (reaches : lexer.Reaches text tokens offset)
    (inside : offset < text.length) (noneIgnored : NoneIgnored lexer.ignored text offset)
    (usable : lexer.tokenize text ≠ .error .wrongKind) :
    skipAt lexer.ignored text offset = .ok 0
      ∧ ∃ next, lexer.nextTokenAt text offset = .ok next := by
  obtain ⟨length, skipped⟩ := reaches.exists_skipAt inside usable
  obtain rfl := (skipAt_eq_zero_iff skipped inside).2 noneIgnored
  refine ⟨skipped, ?_⟩
  rcases found : lexer.nextTokenAt text offset with fault | next
  · obtain ⟨rfl, -⟩ := nextTokenAt_eq_error found
    exact absurd (reaches.tokenize_of_failsAt inside (.cutting skipped found)) usable
  · exact ⟨next, rfl⟩

end Reaches

/-! ## A small lexer -/

section Letters

open Pattern

/-- The pattern of the runs of some characters. -/
def runOf (source : String) (chars : List Char) (least : Nat) : Pattern :=
  .plain source (.run (oneOf chars) least none true)

/-- A pattern of runs matches the longest run at a place, if that is long enough. -/
theorem lengthAt_runOf (text : List Char) (offset : Nat) (source : String) (chars : List Char)
    (least : Nat) :
    lengthAt text offset (runOf source chars least)
      = let length := ((text.drop offset).takeWhile (decide <| · ∈ chars)).length
        .ok (if least ≤ length then length else 0) := by
  rw [lengthAt_of_isText rfl, runOf, matchLength?_run (oneOf chars) least (oneOf_accepts chars)]
  dsimp only
  split <;> rfl

/-- A lexer for a few letters: a pattern that also matches nothing, one that goes on over line
feeds, blanks and line feeds to be ignored, and keywords of which one starts with another. -/
def letterLexer : Lexer :=
  .make [(['n'], runOf "[ab]*" ['a', 'b'] 0), (['m'], runOf "[b\n]+" ['b', '\n'] 1)]
    [runOf " *" [' '] 0, runOf "\n*" ['\n'] 0] [['a'], ['+'], ['+', '+']]

example :
    Lexer.compile
      [(['n'], .source (.text "[ab]*".toList)), (['m'], .source (.text "[b\n]+".toList))]
      [.source (.text " *".toList), .source (.text "\n*".toList)] [['a'], ['+'], ['+', '+']]
      = .ok letterLexer := rfl

/-- A text of letters, with line feeds between the lexemes and in one of them. -/
def letterText : List Char :=
  ['\n', ' ', '+', '+', 'a', 'b', ' ', 'b', '\n', 'b', ' ', '\n', 'b']

/-- The longer keyword has moved to the front. -/
theorem keywords_letterLexer : letterLexer.keywords = [['+', '+'], ['a'], ['+']] := by
  rw [letterLexer, make]
  cbv

/-- A text with a character that starts no token. -/
def strayText : List Char := ['\n', 'b', ' ', '?']

/-- The tokens of the one text, and the stray character of the other. -/
theorem tokenize_letters :
    letterLexer.tokenize letterText
        = .ok [tokenAt letterText 2 ['+', '+'] ['+', '+'], tokenAt letterText 4 ['n'] ['a', 'b'],
            tokenAt letterText 7 ['m'] ['b', '\n', 'b'], tokenAt letterText 12 ['n'] ['b']]
      ∧ letterLexer.tokenize strayText = .error (unexpectedAt strayText 3) := by
  have word : isWordLike ['a'] := by decide
  have plain : isWordLike ['+', '+'] = false := by decide
  have letter : Text.isIdentifierContinue 'b' := by decide
  have ignored : letterLexer.ignored = [runOf " *" [' '] 0, runOf "\n*" ['\n'] 0] := rfl
  have tokens : letterLexer.tokens
      = [(['n'], runOf "[ab]*" ['a', 'b'] 0), (['m'], runOf "[b\n]+" ['b', '\n'] 1)] := rfl
  have noRound (text : List Char) (offset : Nat) : roundAt text offset [] = .ok 0 := rfl
  have noLonger (text : List Char) (offset : Nat) (best : Option (List Char × Nat)) :
    longestAt text offset best [] = .ok best := rfl
  constructor <;>
    simp [tokenize_eq_scanAt, scanAt_eq, scanAt_of_end, skipAt_eq, roundAt_cons, noRound,
      nextTokenAt_eq, longestAt_cons, noLonger, lengthAt_runOf, admits, bind, Except.bind,
      Except.map, pure, Except.pure, letterText, strayText, keywords_letterLexer, ignored, tokens,
      word, plain, letter]

end Letters

end Peg.Lexer
