import Peg.Lexer
import Peg.Proofs.State

/-! # What a lexer finds at a place

The functions of a lexer are given the text before a place and the text after it. Here they are
seen as functions of the whole text and the place, and each of them is said in terms of the matches
of single patterns.

* **`passes_of_skipAt`**: what is skipped is a row of matches of ignored patterns, and behind it
  none of them matches.
* **`longestAt_cases`**: of the token patterns the one with the longest match is taken, and the
  first one if there are several. -/

namespace Peg.Lexer

/-! ## Matches at a place -/

/-- The text before a place, its last character first. -/
def textBefore (text : List Char) (offset : Nat) : List Char := (text.take offset).reverse

/-- The length of a pattern's match at a place of a text; zero if it does not match there. -/
def lengthAt (text : List Char) (offset : Nat) (pattern : Pattern) : Except Fault Nat :=
  lengthOf pattern (textBefore text offset) (text.drop offset)

/-- The pattern matches so many characters at a place of a text, and at least one. -/
structure MatchesAt (text : List Char) (offset : Nat) (pattern : Pattern) (length : Nat) :
    Prop where
  /-- The pattern is one for text. -/
  isText : pattern.source.isBytes = false
  /-- The match. -/
  found : pattern.matchLength? (textBefore text offset) (text.drop offset) = some length
  /-- It is not empty. -/
  positive : 0 < length

section Match

variable {text : List Char} {offset length : Nat} {pattern : Pattern}

/-- Going on from a place is going to a place farther on. -/
theorem passed_textBefore (text : List Char) (offset length : Nat) :
    passed (textBefore text offset) ((text.drop offset).take length)
      = textBefore text (offset + length) := by
  rw [passed, textBefore, textBefore, List.take_add, List.reverse_append]

/-- A text goes on at a place before its end. -/
theorem exists_cons_of_lt (inside : offset < text.length) :
    ∃ first others, text.drop offset = first :: others
      ∧ ∀ length, others.drop length = text.drop (offset + (length + 1)) := by
  refine ⟨_, _, List.drop_eq_getElem_cons inside, fun length => ?_⟩
  rw [List.drop_drop]
  congr 1
  omega

/-- A piece that ends in the text has its full length. -/
theorem length_take_drop (bound : offset + length ≤ text.length) :
    ((text.drop offset).take length).length = length := by
  rw [List.length_take, List.length_drop]
  omega

/-- A pattern for text always has a length. -/
theorem lengthAt_of_isText (isText : pattern.source.isBytes = false) :
    lengthAt text offset pattern
      = .ok ((pattern.matchLength? (textBefore text offset) (text.drop offset)).getD 0) := by
  rw [lengthAt, lengthOf]
  cases same : pattern.source with
  | text content => rfl
  | bytes content =>
    rw [same] at isText
    cases isText

/-- A pattern for bytes cannot be used on text, and nothing else can go wrong. -/
theorem lengthAt_eq_error {fault : Fault} (raised : lengthAt text offset pattern = .error fault) :
    fault = .wrongKind ∧ pattern.source.isBytes := by
  cases isBytes : pattern.source.isBytes with
  | false =>
    rw [lengthAt_of_isText isBytes] at raised
    cases raised
  | true =>
    rw [lengthAt, lengthOf] at raised
    split at raised
    · cases raised
      exact ⟨rfl, rfl⟩
    · cases raised

/-- A length that is not zero is that of a match. -/
theorem matchesAt_iff :
    MatchesAt text offset pattern length
      ↔ lengthAt text offset pattern = .ok length ∧ 0 < length := by
  constructor
  · rintro ⟨isText, found, positive⟩
    rw [lengthAt_of_isText isText, found]
    exact ⟨rfl, positive⟩
  · rintro ⟨found, positive⟩
    have isText : pattern.source.isBytes = false := by
      cases same : pattern.source with
      | text content => rfl
      | bytes content =>
        rw [lengthAt, lengthOf, same] at found
        cases found
    rw [lengthAt_of_isText isText] at found
    refine ⟨isText, ?_, positive⟩
    revert found
    cases pattern.matchLength? (textBefore text offset) (text.drop offset) with
    | none =>
      intro same
      cases same
      exact absurd positive (Nat.lt_irrefl 0)
    | some other =>
      intro same
      cases same
      rfl

/-- What has no length is no match. -/
theorem not_matchesAt (zero : lengthAt text offset pattern = .ok 0) (length : Nat) :
    ¬ MatchesAt text offset pattern length := by
  intro matched
  obtain ⟨found, positive⟩ := matchesAt_iff.1 matched
  rw [zero] at found
  cases found
  exact Nat.lt_irrefl 0 positive

/-- A match ends in the text. -/
theorem MatchesAt.le (matched : MatchesAt text offset pattern length)
    (bound : offset ≤ text.length) : offset + length ≤ text.length := by
  have inside := Pattern.matchLength?_le matched.found
  rw [List.length_drop] at inside
  omega

end Match

/-! ## Skipping -/

/-- A stretch of a text is passed over: it is a row of matches of ignored patterns, each of them
where the one before has ended. -/
inductive Passes (ignored : List Pattern) (text : List Char) : Nat → Nat → Prop
  /-- Nothing is passed over. -/
  | nil (offset : Nat) : Passes ignored text offset offset
  /-- A match, and what comes behind it. -/
  | cons {start length stop : Nat} {pattern : Pattern} (member : pattern ∈ ignored)
      (matched : MatchesAt text start pattern length)
      (later : Passes ignored text (start + length) stop) : Passes ignored text start stop

/-- No ignored pattern matches at a place. -/
def NoneIgnored (ignored : List Pattern) (text : List Char) (offset : Nat) : Prop :=
  ∀ pattern ∈ ignored, ∀ length, ¬ MatchesAt text offset pattern length

namespace Passes

variable {ignored : List Pattern} {text : List Char} {start middle stop : Nat}

/-- Two stretches that are passed over make one. -/
theorem trans (first : Passes ignored text start middle)
    (second : Passes ignored text middle stop) : Passes ignored text start stop := by
  induction first with
  | nil => exact second
  | cons member matched _ inductionHypothesis =>
    exact .cons member matched (inductionHypothesis second)

/-- Passing over goes forward. -/
theorem start_le (passes : Passes ignored text start stop) : start ≤ stop := by
  induction passes with
  | nil => exact Nat.le_refl _
  | cons _ _ _ inductionHypothesis => omega

/-- Passing over stays in the text. -/
theorem stop_le (passes : Passes ignored text start stop) (bound : start ≤ text.length) :
    stop ≤ text.length := by
  induction passes with
  | nil => exact bound
  | cons _ matched _ inductionHypothesis => exact inductionHypothesis (matched.le bound)

/-- Nothing is passed over where no ignored pattern matches. -/
theorem eq_of_noneIgnored (passes : Passes ignored text start stop)
    (none : NoneIgnored ignored text start) : start = stop := by
  cases passes with
  | nil => rfl
  | cons member matched => exact absurd matched (none _ member _)

end Passes

/-- What one round through the ignored patterns skips at a place. -/
def roundAt (text : List Char) (offset : Nat) (patterns : List Pattern) : Except Fault Nat :=
  skipRound (textBefore text offset) (text.drop offset) patterns

/-- What is skipped at a place. -/
def skipAt (ignored : List Pattern) (text : List Char) (offset : Nat) : Except Fault Nat :=
  skip ignored (textBefore text offset) (text.drop offset)

section Skip

variable {ignored patterns : List Pattern} {pattern : Pattern} {text : List Char}
  {offset length : Nat}

/-- Each pattern of a round is held against the place to which those before it have led. -/
theorem roundAt_cons :
    roundAt text offset (pattern :: patterns) = do
      let length ← lengthAt text offset pattern
      let more ← roundAt text (offset + length) patterns
      return length + more := by
  have unfolded : roundAt text offset (pattern :: patterns) = do
      let length ← lengthAt text offset pattern
      let more ← skipRound (passed (textBefore text offset) ((text.drop offset).take length))
        ((text.drop offset).drop length) patterns
      return length + more := rfl
  rw [unfolded]
  simp only [passed_textBefore, List.drop_drop]
  rfl

/-- Rounds go on until one skips nothing or the text ends. -/
theorem skipAt_eq (inside : offset < text.length) :
    skipAt ignored text offset
      = match roundAt text offset ignored with
        | .error fault => .error fault
        | .ok 0 => .ok 0
        | .ok (length + 1) =>
          match skipAt ignored text (offset + (length + 1)) with
          | .error fault => .error fault
          | .ok more => .ok (length + 1 + more) := by
  obtain ⟨first, others, cut, onwards⟩ := exists_cons_of_lt inside
  rw [skipAt, roundAt, cut, skip]
  simp only [← cut, passed_textBefore, onwards]
  rfl

/-- At the end of the text nothing is skipped. -/
theorem skipAt_of_end (ends : text.length ≤ offset) : skipAt ignored text offset = .ok 0 := by
  rw [skipAt, List.drop_eq_nil_iff.2 ends, skip]

/-- One round passes over a stretch. -/
theorem passes_of_roundAt (all : ∀ pattern ∈ patterns, pattern ∈ ignored)
    (skipped : roundAt text offset patterns = .ok length) :
    Passes ignored text offset (offset + length) := by
  induction patterns generalizing offset length with
  | nil =>
    cases skipped
    exact .nil offset
  | cons pattern patterns inductionHypothesis =>
    obtain ⟨member, others⟩ := List.forall_mem_cons.1 all
    rw [roundAt_cons] at skipped
    obtain ⟨first, found, goesOn⟩ := exists_of_bind_eq_ok skipped
    obtain ⟨more, later, done⟩ := exists_of_bind_eq_ok goesOn
    cases done
    have passes := inductionHypothesis others later
    rw [Nat.add_assoc] at passes
    -- a pattern that matches nothing leaves the place where it is
    cases first with
    | zero => exact passes
    | succ first => exact .cons member (matchesAt_iff.2 ⟨found, Nat.succ_pos first⟩) passes

/-- In a round that skips nothing no pattern matches. -/
theorem noneIgnored_of_roundAt (skipped : roundAt text offset patterns = .ok 0) :
    NoneIgnored patterns text offset := by
  induction patterns with
  | nil => exact fun _ member => nomatch member
  | cons pattern patterns inductionHypothesis =>
    rw [roundAt_cons] at skipped
    obtain ⟨first, found, goesOn⟩ := exists_of_bind_eq_ok skipped
    obtain ⟨more, later, done⟩ := exists_of_bind_eq_ok goesOn
    obtain ⟨rfl, rfl⟩ := Nat.add_eq_zero_iff.1 (Except.ok.inj done)
    exact List.forall_mem_cons.2 ⟨not_matchesAt found, inductionHypothesis later⟩

/-- **What is skipped is passed over**, and no ignored pattern matches behind it. -/
theorem passes_of_skipAt (skipped : skipAt ignored text offset = .ok length) :
    Passes ignored text offset (offset + length)
      ∧ (offset + length < text.length → NoneIgnored ignored text (offset + length)) := by
  induction size : text.length - offset using Nat.strongRecOn generalizing offset length with
  | _ size inductionHypothesis =>
    subst size
    by_cases inside : offset < text.length
    · rw [skipAt_eq inside] at skipped
      split at skipped
      · cases skipped
      · rename_i round
        cases skipped
        exact ⟨.nil offset, fun _ => noneIgnored_of_roundAt round⟩
      · rename_i first round
        split at skipped
        · cases skipped
        · rename_i more later
          cases skipped
          -- what the first round passes over is joined with what the others do
          have start := passes_of_roundAt (fun _ member => member) round
          obtain ⟨passes, ends⟩ := inductionHypothesis _ (by omega) later rfl
          rw [Nat.add_assoc] at passes ends
          exact ⟨start.trans passes, ends⟩
    · rw [skipAt_of_end (Nat.not_lt.1 inside)] at skipped
      cases skipped
      exact ⟨.nil offset, fun less => absurd less inside⟩

/-- A round fails only for a pattern for bytes. -/
theorem roundAt_eq_error {fault : Fault} (raised : roundAt text offset patterns = .error fault) :
    fault = .wrongKind ∧ ∃ pattern ∈ patterns, pattern.source.isBytes := by
  induction patterns generalizing offset with
  | nil => cases raised
  | cons pattern patterns inductionHypothesis =>
    rw [roundAt_cons] at raised
    obtain here | ⟨first, -, goesOn⟩ := of_bind_eq_error raised
    · obtain ⟨same, isBytes⟩ := lengthAt_eq_error here
      exact ⟨same, pattern, List.mem_cons_self, isBytes⟩
    · obtain later | ⟨_, -, impossible⟩ := of_bind_eq_error goesOn
      · obtain ⟨same, other, member, isBytes⟩ := inductionHypothesis later
        exact ⟨same, other, List.mem_cons_of_mem _ member, isBytes⟩
      · cases impossible

/-- Skipping fails only for a pattern for bytes. -/
theorem skipAt_eq_error {fault : Fault} (raised : skipAt ignored text offset = .error fault) :
    fault = .wrongKind ∧ ∃ pattern ∈ ignored, pattern.source.isBytes := by
  induction size : text.length - offset using Nat.strongRecOn generalizing offset with
  | _ size inductionHypothesis =>
    subst size
    by_cases inside : offset < text.length
    · rw [skipAt_eq inside] at raised
      split at raised
      · rename_i round
        cases raised
        exact roundAt_eq_error round
      · cases raised
      · split at raised
        · rename_i later
          cases raised
          exact inductionHypothesis _ (by omega) later rfl
        · cases raised
    · rw [skipAt_of_end (Nat.not_lt.1 inside)] at raised
      cases raised

/-- Nothing is skipped just where no ignored pattern matches. -/
theorem skipAt_eq_zero_iff (skipped : skipAt ignored text offset = .ok length)
    (inside : offset < text.length) : length = 0 ↔ NoneIgnored ignored text offset := by
  obtain ⟨passes, ends⟩ := passes_of_skipAt skipped
  constructor
  · rintro rfl
    exact ends inside
  · intro none
    have same := passes.eq_of_noneIgnored none
    omega

end Skip

/-! ## The longest match -/

/-- The kind and the length of the longest match at a place, if it is longer than the best one
known. -/
def longestAt (text : List Char) (offset : Nat) (best : Option (List Char × Nat))
    (tokens : List (List Char × Pattern)) : Except Fault (Option (List Char × Nat)) :=
  longest (textBefore text offset) (text.drop offset) best tokens

/-- The patterns match less than so many characters at a place, or not at all. -/
def AllBelow (text : List Char) (offset : Nat) (tokens : List (List Char × Pattern))
    (bound : Nat) : Prop :=
  ∀ token ∈ tokens, ∀ length, MatchesAt text offset token.2 length → length < bound

/-- The first of the longest matches at a place: those declared before it match less, and those
declared after it match no more. -/
def IsLongest (text : List Char) (offset : Nat) (tokens : List (List Char × Pattern))
    (kind : List Char) (length : Nat) : Prop :=
  ∃ early pattern late, tokens = early ++ (kind, pattern) :: late
    ∧ MatchesAt text offset pattern length
    ∧ AllBelow text offset early length ∧ AllBelow text offset late (length + 1)

section Longest

variable {text : List Char} {offset bound length : Nat} {kind : List Char}
  {token : List Char × Pattern} {tokens : List (List Char × Pattern)}
  {best result : Option (List Char × Nat)}

/-- A pattern may stand before others if it matches less here, or not at all. -/
theorem AllBelow.cons (here : lengthAt text offset token.2 = .ok length) (less : length < bound)
    (others : AllBelow text offset tokens bound) :
    AllBelow text offset (token :: tokens) bound := by
  refine List.forall_mem_cons.2 ⟨fun found matched => ?_, others⟩
  cases here.symm.trans (matchesAt_iff.1 matched).1
  exact less

/-- The longest match stays the longest one, if a pattern with a shorter match stands before the
others. -/
theorem IsLongest.cons (here : lengthAt text offset token.2 = .ok length) (less : length < bound)
    (longest : IsLongest text offset tokens kind bound) :
    IsLongest text offset (token :: tokens) kind bound := by
  obtain ⟨early, pattern, late, rfl, matched, before, after⟩ := longest
  exact ⟨token :: early, pattern, late, rfl, matched, before.cons here less, after⟩

/-- The first pattern replaces the best match only if its own is longer. -/
theorem longestAt_cons :
    longestAt text offset best (token :: tokens)
      = lengthAt text offset token.2 >>= fun length =>
        longestAt text offset (if best.elim 0 (·.2) < length then some (token.1, length) else best)
          tokens := rfl

/-- **The longest match is taken, and the first one if there are several**, unless a match that is
known already is as long. -/
theorem longestAt_cases (found : longestAt text offset best tokens = .ok result) :
    (result = best ∧ AllBelow text offset tokens (best.elim 0 (·.2) + 1))
      ∨ ∃ kind length, result = some (kind, length) ∧ best.elim 0 (·.2) < length
        ∧ IsLongest text offset tokens kind length := by
  induction tokens generalizing best with
  | nil =>
    cases found
    exact .inl ⟨rfl, fun _ member => nomatch member⟩
  | cons token tokens inductionHypothesis =>
    rw [longestAt_cons] at found
    obtain ⟨length, here, goesOn⟩ := exists_of_bind_eq_ok found
    by_cases better : best.elim 0 (·.2) < length
    · -- this match is the best up to now, and only a longer one can take its place
      rw [if_pos better] at goesOn
      obtain ⟨rfl, below⟩ | ⟨kind, more, rfl, longer, longest⟩ := inductionHypothesis goesOn
      · have matched := matchesAt_iff.2 ⟨here, Nat.zero_lt_of_lt better⟩
        exact .inr ⟨token.1, length, rfl, better,
          [], token.2, tokens, rfl, matched, fun _ member => (nomatch member), below⟩
      · exact .inr ⟨kind, more, rfl, Nat.lt_trans better longer, longest.cons here longer⟩
    · rw [if_neg better] at goesOn
      obtain ⟨rfl, below⟩ | ⟨kind, more, rfl, longer, longest⟩ := inductionHypothesis goesOn
      · exact .inl ⟨rfl, below.cons here (by omega)⟩
      · exact .inr ⟨kind, more, rfl, longer, longest.cons here (by omega)⟩

/-- The longest match ends in the text. -/
theorem IsLongest.le (longest : IsLongest text offset tokens kind length)
    (inside : offset ≤ text.length) : offset + length ≤ text.length := by
  obtain ⟨_, _, _, -, matched, -⟩ := longest
  exact matched.le inside

/-- The search for the longest match fails only for a pattern for bytes. -/
theorem longestAt_eq_error {fault : Fault}
    (raised : longestAt text offset best tokens = .error fault) :
    fault = .wrongKind ∧ ∃ token ∈ tokens, token.2.source.isBytes := by
  induction tokens generalizing best with
  | nil => cases raised
  | cons token tokens inductionHypothesis =>
    rw [longestAt_cons] at raised
    obtain here | ⟨length, -, goesOn⟩ := of_bind_eq_error raised
    · obtain ⟨same, isBytes⟩ := lengthAt_eq_error here
      exact ⟨same, token, List.mem_cons_self, isBytes⟩
    · obtain ⟨same, other, member, isBytes⟩ := inductionHypothesis goesOn
      exact ⟨same, other, List.mem_cons_of_mem _ member, isBytes⟩

end Longest

/-! ## The next token -/

/-- The kind and the length of the token at a place. -/
def nextTokenAt (lexer : Lexer) (text : List Char) (offset : Nat) :
    Except Fault (Option (List Char × Nat)) :=
  lexer.nextToken (textBefore text offset) (text.drop offset)

section NextToken

variable {lexer : Lexer} {text : List Char} {offset length : Nat} {kind : List Char}

/-- Keywords come first. -/
theorem nextTokenAt_eq :
    lexer.nextTokenAt text offset
      = match lexer.keywords.find? fun keyword => admits keyword (text.drop offset) with
        | some keyword => .ok (some (keyword, keyword.length))
        | none => longestAt text offset none lexer.tokens := rfl

/-- A keyword that is admitted stands at the start of the text. -/
theorem isPrefix_of_admits {keyword rest : List Char} (admitted : admits keyword rest) :
    keyword <+: rest :=
  List.isPrefixOf_iff_prefix.1 (Bool.and_eq_true_iff.1 admitted).1

/-- A token ends in the text. -/
theorem nextTokenAt_le (inside : offset ≤ text.length)
    (found : lexer.nextTokenAt text offset = .ok (some (kind, length))) :
    offset + length ≤ text.length := by
  rw [nextTokenAt_eq] at found
  split at found
  · rename_i keyword isFirst
    obtain ⟨rfl, rfl⟩ := Prod.mk.inj (Option.some.inj (Except.ok.inj found))
    have admitted := List.find?_some isFirst
    have short := (isPrefix_of_admits admitted).length_le
    rw [List.length_drop] at short
    omega
  · obtain ⟨impossible, -⟩ | ⟨_, _, same, -, longest⟩ := longestAt_cases found
    · cases impossible
    · cases same
      exact longest.le inside

/-- Cutting a token off fails only for a pattern for bytes. -/
theorem nextTokenAt_eq_error {fault : Fault}
    (raised : lexer.nextTokenAt text offset = .error fault) :
    fault = .wrongKind ∧ ∃ token ∈ lexer.tokens, token.2.source.isBytes := by
  rw [nextTokenAt_eq] at raised
  split at raised
  · cases raised
  · exact longestAt_eq_error raised

end NextToken

end Peg.Lexer
