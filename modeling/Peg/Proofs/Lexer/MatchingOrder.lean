import Peg.Proofs.Lexer.Scan

/-! # The order of matching

What a lexer does at a place of a text can be said without its loops. What is ignored is skipped as
far as possible; then the longest keyword is taken that may stand there; then the longest match of a
token pattern, the first one declared if there are several; and if there is nothing of all that, the
text has no tokens.

* **`Chooses`**: the kind and the lexeme of the token at a place.
* **`nextTokenAt_cases`**: the search for a keyword, with its keywords ordered by length, and the
  search for the longest match come to that choice.
* **`Reads`**: the places and the tokens to which these choices lead; **`Reads.step`**: what is done
  at such a place.
* **`tokenize_follows_matching_order`**: tokenizing comes to the end of the text just if these
  choices do, and it fails just where there is nothing to choose. -/

namespace Peg.Lexer

/-! ## Keywords -/

/-- A keyword may stand at a place: it is there, and if it has an identifier character in it, no
other one follows. -/
structure AdmissibleAt (text : List Char) (offset : Nat) (keyword : List Char) : Prop where
  /-- The keyword is not empty. -/
  nonempty : keyword ≠ []
  /-- It is there. -/
  found : keyword <+: text.drop offset
  /-- It ends where an identifier could end. -/
  boundary : (∃ c ∈ keyword, Text.isIdentifierContinue c) →
    ∀ c, text[offset + keyword.length]? = some c → Text.isIdentifierContinue c = false

/-- The longest of the keywords that may stand at a place. -/
structure IsLongestKeyword (keywords : List (List Char)) (text : List Char) (offset : Nat)
    (keyword : List Char) : Prop where
  /-- It is one of the keywords. -/
  member : keyword ∈ keywords
  /-- It may stand there. -/
  admissible : AdmissibleAt text offset keyword
  /-- No longer one may. -/
  longest : ∀ other ∈ keywords, AdmissibleAt text offset other → other.length ≤ keyword.length

/-- None of the keywords may stand at a place. -/
def NoKeyword (keywords : List (List Char)) (text : List Char) (offset : Nat) : Prop :=
  ∀ keyword ∈ keywords, ¬ AdmissibleAt text offset keyword

section Keywords

variable {keywords : List (List Char)} {keyword text : List Char} {offset : Nat}

theorem admits_iff (nonempty : keyword ≠ []) :
    admits keyword (text.drop offset) ↔ AdmissibleAt text offset keyword := by
  have next : ((text.drop offset).drop keyword.length).head? = text[offset + keyword.length]? := by
    rw [List.drop_drop, List.head?_drop]
  have wordLike : isWordLike keyword ↔ ∃ c ∈ keyword, Text.isIdentifierContinue c :=
    List.any_eq_true
  rw [admits, next, Bool.and_eq_true, List.isPrefixOf_iff_prefix, Bool.not_eq_true',
    Bool.and_eq_false_imp, wordLike]
  simp only [Option.any_eq_false]
  constructor
  · rintro ⟨found, boundary⟩
    exact ⟨nonempty, found, boundary⟩
  · rintro ⟨-, found, boundary⟩
    exact ⟨found, boundary⟩

/-- Arranging keywords loses none but the empty one. -/
theorem mem_arrange_iff : keyword ∈ arrange keywords ↔ keyword ∈ keywords ∧ keyword ≠ [] := by
  rw [arrange, List.mem_mergeSort, List.mem_eraseDups, List.mem_filter]
  simp

/-- Arranged keywords get no longer. -/
theorem pairwise_arrange (keywords : List (List Char)) :
    (arrange keywords).Pairwise fun first second => second.length ≤ first.length := by
  have transitive (first second third : List Char) :
      decide (second.length ≤ first.length) → decide (third.length ≤ second.length) →
        decide (third.length ≤ first.length) := by
    simp only [decide_eq_true_eq]
    omega
  have total (first second : List Char) :
      (decide (second.length ≤ first.length) || decide (first.length ≤ second.length)) := by
    simp only [Bool.or_eq_true, decide_eq_true_eq]
    omega
  exact (List.pairwise_mergeSort transitive total _).imp of_decide_eq_true

/-- The first arranged keyword that is admitted is the longest one: those before it are refused, and
those behind it are no longer. -/
theorem isLongestKeyword_of_find?
    (first : (arrange keywords).find? (admits · (text.drop offset)) = some keyword) :
    IsLongestKeyword keywords text offset keyword := by
  -- the keyword cuts the arranged ones in two, and another one is in the one part or the other
  obtain ⟨admitted, early, late, split, refused⟩ := List.find?_eq_some_iff_append.1 first
  obtain ⟨member, nonempty⟩ := mem_arrange_iff.1 (List.mem_of_find?_eq_some first)
  refine ⟨member, (admits_iff nonempty).1 admitted, fun other otherMember admissible => ?_⟩
  have arranged := mem_arrange_iff.2 ⟨otherMember, admissible.nonempty⟩
  have sorted := pairwise_arrange keywords
  rw [split] at arranged sorted
  obtain before | rfl | behind := List.mem_append.1 arranged |>.imp_right List.mem_cons.1
  · have no := refused other before
    rw [(admits_iff admissible.nonempty).2 admissible] at no
    cases no
  · exact Nat.le_refl _
  · exact List.rel_of_pairwise_cons (List.pairwise_append.1 sorted).2.1 behind

theorem noKeyword_of_find?
    (none : (arrange keywords).find? (admits · (text.drop offset)) = none) :
    NoKeyword keywords text offset := by
  intro keyword member admissible
  have arranged := mem_arrange_iff.2 ⟨member, admissible.nonempty⟩
  exact List.find?_eq_none.1 none keyword arranged ((admits_iff admissible.nonempty).2 admissible)

/-- Keywords of one length that may stand at the same place are the same. -/
theorem IsLongestKeyword.unique {other : List Char}
    (first : IsLongestKeyword keywords text offset keyword)
    (second : IsLongestKeyword keywords text offset other) : keyword = other := by
  have less := first.longest other second.member second.admissible
  have more := second.longest keyword first.member first.admissible
  exact (List.prefix_of_prefix_length_le first.admissible.found second.admissible.found
    more).eq_of_length (Nat.le_antisymm more less)

end Keywords

/-! ## The choice of a token -/

/-- The kind and the lexeme of the token at a place. -/
inductive Chooses (tokens : List (List Char × Pattern)) (keywords : List (List Char))
    (text : List Char) (offset : Nat) : List Char → List Char → Prop
  /-- The longest keyword. -/
  | keyword {keyword : List Char} (longest : IsLongestKeyword keywords text offset keyword) :
      Chooses tokens keywords text offset keyword keyword
  /-- The longest match, if there is no keyword. -/
  | pattern {kind : List Char} {length : Nat} (noKeyword : NoKeyword keywords text offset)
      (longest : IsLongest text offset tokens kind length) :
      Chooses tokens keywords text offset kind ((text.drop offset).take length)

/-- There is no token at a place. -/
structure NoToken (tokens : List (List Char × Pattern)) (keywords : List (List Char))
    (text : List Char) (offset : Nat) : Prop where
  /-- There is no keyword. -/
  noKeyword : NoKeyword keywords text offset
  /-- No pattern matches. -/
  noMatch : ∀ token ∈ tokens, ∀ length, ¬ MatchesAt text offset token.2 length

section Choice

variable {tokens : List (List Char × Pattern)} {ignored : List Pattern}
  {keywords : List (List Char)} {text kind otherKind lexeme otherLexeme : List Char}
  {offset length otherLength : Nat}

/-- No match is longer than the longest one. -/
theorem IsLongest.le_of_matchesAt (longest : IsLongest text offset tokens kind length)
    {token : List Char × Pattern} (member : token ∈ tokens)
    (matched : MatchesAt text offset token.2 otherLength) : otherLength ≤ length := by
  obtain ⟨early, pattern, late, rfl, itself, before, behind⟩ := longest
  obtain early | rfl | late := List.mem_append.1 member |>.imp_right List.mem_cons.1
  · exact Nat.le_of_lt (before token early otherLength matched)
  · exact Nat.le_of_eq (Option.some.inj (matched.found.symm.trans itself.found))
  · exact Nat.le_of_lt_succ (behind token late otherLength matched)

open Classical in
/-- The longest match is that of the first pattern with a match of this length. -/
theorem IsLongest.exists_find? (longest : IsLongest text offset tokens kind length) :
    ∃ pattern, MatchesAt text offset pattern length
      ∧ tokens.find? (fun token => MatchesAt text offset token.2 length)
        = some (kind, pattern) := by
  obtain ⟨early, pattern, late, split, itself, before, -⟩ := longest
  refine ⟨pattern, itself, List.find?_eq_some_iff_append.2
    ⟨decide_eq_true itself, early, late, split, fun token member => ?_⟩⟩
  rw [Bool.not_eq_true', decide_eq_false_iff_not]
  exact fun matched => Nat.lt_irrefl _ (before token member length matched)

/-- There is one longest match only. -/
theorem IsLongest.unique (first : IsLongest text offset tokens kind length)
    (second : IsLongest text offset tokens otherKind otherLength) :
    kind = otherKind ∧ length = otherLength := by
  obtain ⟨pattern, matched, found⟩ := first.exists_find?
  obtain ⟨otherPattern, otherMatched, otherFound⟩ := second.exists_find?
  have less := second.le_of_matchesAt (List.mem_of_find?_eq_some found) matched
  have more := first.le_of_matchesAt (List.mem_of_find?_eq_some otherFound) otherMatched
  obtain rfl := Nat.le_antisymm less more
  rw [found] at otherFound
  cases otherFound
  exact ⟨rfl, rfl⟩

/-- **One token is chosen at a place**, if any. -/
theorem Chooses.unique (first : Chooses tokens keywords text offset kind lexeme)
    (second : Chooses tokens keywords text offset otherKind otherLexeme) :
    kind = otherKind ∧ lexeme = otherLexeme := by
  cases first with
  | keyword longest =>
    cases second with
    | keyword otherLongest =>
      have same := longest.unique otherLongest
      exact ⟨same, same⟩
    | pattern noKeyword => exact absurd longest.admissible (noKeyword _ longest.member)
  | pattern noKeyword longest =>
    cases second with
    | keyword otherLongest =>
      exact absurd otherLongest.admissible (noKeyword _ otherLongest.member)
    | pattern _ otherLongest =>
      obtain ⟨rfl, rfl⟩ := longest.unique otherLongest
      exact ⟨rfl, rfl⟩

/-- Where a token is chosen there is one. -/
theorem Chooses.not_noToken (chooses : Chooses tokens keywords text offset kind lexeme) :
    ¬ NoToken tokens keywords text offset := by
  rintro ⟨noKeyword, noMatch⟩
  cases chooses with
  | keyword longest => exact noKeyword _ longest.member longest.admissible
  | pattern _ longest =>
    obtain ⟨pattern, matched, found⟩ := longest.exists_find?
    exact noMatch _ (List.mem_of_find?_eq_some found) _ matched

/-- **What the searches come to**: the search for a keyword and the search for the longest match
find the token that is chosen, or there is none. -/
theorem nextTokenAt_cases {next : Option (List Char × Nat)}
    (found : (make tokens ignored keywords).nextTokenAt text offset = .ok next) :
    (∃ kind length, next = some (kind, length + 1)
        ∧ Chooses tokens keywords text offset kind ((text.drop offset).take (length + 1)))
      ∨ next = none ∧ NoToken tokens keywords text offset := by
  rw [nextTokenAt_eq] at found
  split at found
  · -- a keyword is its own kind and its own lexeme
    rename_i keyword first
    have longest := isLongestKeyword_of_find? first
    have taken := List.prefix_iff_eq_take.1 longest.admissible.found
    obtain ⟨c, others, rfl⟩ := List.exists_cons_of_ne_nil longest.admissible.nonempty
    cases found
    refine .inl ⟨_, others.length, rfl, ?_⟩
    rw [List.length_cons] at taken
    rw [← taken]
    exact .keyword longest
  · rename_i none
    have noKeyword := noKeyword_of_find? none
    obtain ⟨rfl, below⟩ | ⟨kind, length, rfl, positive, longest⟩ := longestAt_cases found
    · refine .inr ⟨rfl, noKeyword, fun token member length matched => ?_⟩
      have zero := below token member length matched
      exact absurd matched.positive (by simpa using zero)
    · -- the search starts from no match, so what it finds is longer than nothing
      obtain ⟨more, rfl⟩ := Nat.exists_eq_succ_of_ne_zero (Nat.ne_of_gt positive)
      exact .inl ⟨kind, more, rfl, .pattern noKeyword longest⟩

/-- The searches find the token that is chosen. -/
theorem Chooses.next_eq {next : Option (List Char × Nat)}
    (chooses : Chooses tokens keywords text offset kind lexeme)
    (found : (make tokens ignored keywords).nextTokenAt text offset = .ok next) :
    ∃ length, next = some (kind, length + 1) ∧ lexeme = (text.drop offset).take (length + 1) := by
  obtain ⟨other, length, rfl, otherwise⟩ | ⟨-, none⟩ := nextTokenAt_cases found
  · obtain ⟨rfl, rfl⟩ := chooses.unique otherwise
    exact ⟨length, rfl, rfl⟩
  · exact absurd none chooses.not_noToken

end Choice

/-! ## The scan -/

/-- The order of matching leads to a place of a text, with some tokens read on the way. -/
inductive Reads (tokens : List (List Char × Pattern)) (ignored : List Pattern)
    (keywords : List (List Char)) (text : List Char) : List Token → Nat → Prop
  /-- It starts at the start of the text. -/
  | start : Reads tokens ignored keywords text [] 0
  /-- What is ignored is skipped. -/
  | skip {produced : List Token} {offset length : Nat}
      (reads : Reads tokens ignored keywords text produced offset)
      (skipped : skipAt ignored text offset = .ok (length + 1)) :
      Reads tokens ignored keywords text produced (offset + (length + 1))
  /-- Where nothing is to be ignored, the chosen token is read. -/
  | token {produced : List Token} {offset : Nat} {kind lexeme : List Char}
      (reads : Reads tokens ignored keywords text produced offset) (inside : offset < text.length)
      (noneIgnored : NoneIgnored ignored text offset)
      (chooses : Chooses tokens keywords text offset kind lexeme) :
      Reads tokens ignored keywords text (produced ++ [tokenAt text offset kind lexeme])
        (offset + lexeme.length)

/-- There is nothing to skip and nothing to read at a place. -/
structure IsStuckAt (tokens : List (List Char × Pattern)) (ignored : List Pattern)
    (keywords : List (List Char)) (text : List Char) (offset : Nat) : Prop where
  /-- The text goes on there. -/
  inside : offset < text.length
  /-- Nothing is to be ignored. -/
  noneIgnored : NoneIgnored ignored text offset
  /-- There is no token. -/
  noToken : NoToken tokens keywords text offset

section Scan

variable {tokens : List (List Char × Pattern)} {ignored : List Pattern}
  {keywords : List (List Char)} {text : List Char} {produced : List Token} {offset : Nat}
  {fault : Fault}

/-- The scan follows the order. -/
theorem Reaches.reads (reaches : (make tokens ignored keywords).Reaches text produced offset) :
    Reads tokens ignored keywords text produced offset := by
  induction reaches with
  | start => exact .start
  | skip _ skipped inductionHypothesis => exact inductionHypothesis.skip skipped
  | token _ inside stays found inductionHypothesis =>
    have noneIgnored := (skipAt_eq_zero_iff stays inside).1 rfl
    obtain ⟨_, _, same, chooses⟩ | ⟨impossible, -⟩ := nextTokenAt_cases found
    · cases same
      have reads := inductionHypothesis.token inside noneIgnored chooses
      rwa [length_take_drop (nextTokenAt_le (Nat.le_of_lt inside) found)] at reads
    · cases impossible

-- From here on the scan meets no pattern for bytes, so that it goes on at each place or is stuck.
variable (usable : (make tokens ignored keywords).tokenize text ≠ .error .wrongKind)

include usable

/-- The scan goes wherever the order leads. -/
theorem Reads.reaches (reads : Reads tokens ignored keywords text produced offset) :
    (make tokens ignored keywords).Reaches text produced offset := by
  induction reads with
  | start => exact .start
  | skip _ skipped inductionHypothesis => exact inductionHypothesis.skip skipped
  | token _ inside noneIgnored chooses inductionHypothesis =>
    obtain ⟨stays, next, found⟩ := inductionHypothesis.exists_next inside noneIgnored usable
    obtain ⟨length, rfl, rfl⟩ := chooses.next_eq found
    rw [length_take_drop (nextTokenAt_le (Nat.le_of_lt inside) found)]
    exact inductionHypothesis.token inside stays found

/-- **What the scan does at a place**: it skips as far as possible where something is to be ignored,
and otherwise it reads the token that is chosen, or there is none. -/
theorem Reads.step (reads : Reads tokens ignored keywords text produced offset)
    (inside : offset < text.length) :
    (¬ NoneIgnored ignored text offset ∧ ∃ later, offset < later ∧ Passes ignored text offset later
        ∧ (later < text.length → NoneIgnored ignored text later)
        ∧ Reads tokens ignored keywords text produced later)
      ∨ (NoneIgnored ignored text offset
        ∧ ∃ kind lexeme, Chooses tokens keywords text offset kind lexeme
          ∧ Reads tokens ignored keywords text (produced ++ [tokenAt text offset kind lexeme])
            (offset + lexeme.length))
      ∨ IsStuckAt tokens ignored keywords text offset := by
  have reaches := reads.reaches usable
  by_cases noneIgnored : NoneIgnored ignored text offset
  · obtain ⟨-, next, found⟩ := reaches.exists_next inside noneIgnored usable
    obtain ⟨kind, length, -, chooses⟩ | ⟨-, noToken⟩ := nextTokenAt_cases found
    · exact .inr (.inl ⟨noneIgnored, kind, _, chooses, reads.token inside noneIgnored chooses⟩)
    · exact .inr (.inr ⟨inside, noneIgnored, noToken⟩)
  · obtain ⟨_ | length, skipped⟩ := reaches.exists_skipAt inside usable
    · exact absurd ((skipAt_eq_zero_iff skipped inside).1 rfl) noneIgnored
    · obtain ⟨passes, ends⟩ := passes_of_skipAt skipped
      exact .inl ⟨noneIgnored, offset + (length + 1), by omega, passes, ends, reads.skip skipped⟩

/-- **The scan fails where the order is at a loss.** -/
theorem IsStuckAt.tokenize_eq (stuck : IsStuckAt tokens ignored keywords text offset)
    (reads : Reads tokens ignored keywords text produced offset) :
    (make tokens ignored keywords).tokenize text = .error (unexpectedAt text offset) := by
  have reaches := reads.reaches usable
  obtain ⟨stays, next, found⟩ := reaches.exists_next stuck.inside stuck.noneIgnored usable
  obtain ⟨_, _, -, chooses⟩ | ⟨rfl, -⟩ := nextTokenAt_cases found
  · exact absurd stuck.noToken chooses.not_noToken
  · exact reaches.tokenize_of_failsAt stuck.inside (.nothing stays found rfl)

/-- There is one such place only, since the fault names it. -/
theorem IsStuckAt.unique {others : List Token} {other : Nat}
    (stuck : IsStuckAt tokens ignored keywords text offset)
    (reads : Reads tokens ignored keywords text produced offset)
    (otherStuck : IsStuckAt tokens ignored keywords text other)
    (otherReads : Reads tokens ignored keywords text others other) : offset = other := by
  have raised := stuck.tokenize_eq usable reads
  have otherRaised := otherStuck.tokenize_eq usable otherReads
  exact (Fault.unexpectedChar.inj (Except.error.inj (raised.symm.trans otherRaised))).2.1

/-- **The scan fails only where the order is at a loss.** -/
theorem exists_isStuckAt (raised : (make tokens ignored keywords).tokenize text = .error fault) :
    ∃ produced offset, Reads tokens ignored keywords text produced offset
      ∧ IsStuckAt tokens ignored keywords text offset ∧ fault = unexpectedAt text offset := by
  obtain ⟨produced, offset, reaches, inside, fails⟩ := tokenize_eq_error_iff.1 raised
  cases fails with
  | skipping skipped =>
    obtain ⟨rfl, -⟩ := skipAt_eq_error skipped
    exact absurd raised usable
  | cutting _ found =>
    obtain ⟨rfl, -⟩ := nextTokenAt_eq_error found
    exact absurd raised usable
  | nothing stays found none =>
    have noneIgnored := (skipAt_eq_zero_iff stays inside).1 rfl
    obtain ⟨_, _, rfl, -⟩ | ⟨-, noToken⟩ := nextTokenAt_cases found
    · cases none
    · exact ⟨produced, offset, reaches.reads, ⟨inside, noneIgnored, noToken⟩, rfl⟩

end Scan

/-- **A lexer follows the order of matching at every place that it comes to.** Where something is to
be ignored, that is skipped as far as possible. Where nothing is, the one token is read that is the
longest keyword which may stand there or, without one, the longest match, the first one declared
among equals; or there is no token, and the text is refused at that place. The tokens of a text are
those read up to its end, and a text is refused just if the order leads to a place without a token,
and for the first such one. All this holds unless the lexer meets a pattern that is not for text. -/
theorem tokenize_follows_matching_order (tokens : List (List Char × Pattern))
    (ignored : List Pattern) (keywords : List (List Char)) (text : List Char) :
    ((make tokens ignored keywords).tokenize text = .error .wrongKind
        ∧ ¬ (make tokens ignored keywords).IsForText)
      ∨ ((∀ produced, (make tokens ignored keywords).tokenize text = .ok produced
          ↔ Reads tokens ignored keywords text produced text.length)
        ∧ (∀ fault, (make tokens ignored keywords).tokenize text = .error fault
          ↔ ∃ produced offset, Reads tokens ignored keywords text produced offset
            ∧ IsStuckAt tokens ignored keywords text offset ∧ fault = unexpectedAt text offset
            ∧ ∀ others other, Reads tokens ignored keywords text others other →
              IsStuckAt tokens ignored keywords text other → offset ≤ other)
        ∧ ∀ produced offset, Reads tokens ignored keywords text produced offset →
          offset < text.length →
          (¬ NoneIgnored ignored text offset ∧ ∃ later, offset < later
              ∧ Passes ignored text offset later
              ∧ (later < text.length → NoneIgnored ignored text later)
              ∧ Reads tokens ignored keywords text produced later)
            ∨ (NoneIgnored ignored text offset
              ∧ ∃ kind lexeme, Chooses tokens keywords text offset kind lexeme
                ∧ (∀ otherKind otherLexeme,
                  Chooses tokens keywords text offset otherKind otherLexeme →
                    otherKind = kind ∧ otherLexeme = lexeme)
                ∧ Reads tokens ignored keywords text
                  (produced ++ [tokenAt text offset kind lexeme]) (offset + lexeme.length))
            ∨ (NoneIgnored ignored text offset ∧ NoToken tokens keywords text offset
              ∧ (make tokens ignored keywords).tokenize text
                = .error (unexpectedAt text offset))) := by
  -- a pattern for bytes makes the lexer useless for text, and there is nothing else to say
  by_cases usable : (make tokens ignored keywords).tokenize text = .error .wrongKind
  · obtain ⟨_, cut⟩ | ⟨_, -, raised⟩ | bytes := (make tokens ignored keywords).tokenize_cases text
    · cases usable.symm.trans cut
    · cases usable.symm.trans raised
    · exact .inl bytes
  · refine .inr ⟨fun produced => ?_, fun fault => ⟨fun raised => ?_, ?_⟩,
      fun produced offset reads inside => ?_⟩
    · rw [tokenize_eq_ok_iff]
      exact ⟨Reaches.reads, Reads.reaches usable⟩
    · obtain ⟨produced, offset, reads, stuck, same⟩ := exists_isStuckAt usable raised
      exact ⟨produced, offset, reads, stuck, same, fun others other otherReads otherStuck =>
        Nat.le_of_eq (stuck.unique usable reads otherStuck otherReads)⟩
    · rintro ⟨produced, offset, reads, stuck, rfl, -⟩
      exact stuck.tokenize_eq usable reads
    · -- what is read next is ignored text, a token, or nothing
      obtain skips | ⟨noneIgnored, kind, lexeme, chooses, later⟩ | stuck := reads.step usable inside
      · exact .inl skips
      · exact .inr (.inl ⟨noneIgnored, kind, lexeme, chooses,
          fun _ _ other => other.unique chooses, later⟩)
      · exact .inr (.inr ⟨stuck.noneIgnored, stuck.noToken, stuck.tokenize_eq usable reads⟩)

/-- Of two keywords the longer one is read, a keyword that an identifier goes on from is not, the
longest match is, and the first one of two that are as long; and a stray character is refused. -/
theorem letters_follow_matching_order :
    Reads letterLexer.tokens letterLexer.ignored [['a'], ['+'], ['+', '+']] letterText
        [tokenAt letterText 2 ['+', '+'] ['+', '+'], tokenAt letterText 4 ['n'] ['a', 'b'],
          tokenAt letterText 7 ['m'] ['b', '\n', 'b'], tokenAt letterText 12 ['n'] ['b']]
        letterText.length
      ∧ (∃ produced, Reads letterLexer.tokens letterLexer.ignored [['a'], ['+'], ['+', '+']]
        strayText produced 3)
      ∧ IsStuckAt letterLexer.tokens letterLexer.ignored [['a'], ['+'], ['+', '+']] strayText
        3 := by
  have order := tokenize_follows_matching_order letterLexer.tokens letterLexer.ignored
    [['a'], ['+'], ['+', '+']]
  constructor
  · obtain ⟨raised, -⟩ | ⟨cut, -⟩ := order letterText
    · cases tokenize_letters.1.symm.trans raised
    · exact (cut _).1 tokenize_letters.1
  · obtain ⟨raised, -⟩ | ⟨-, refused, -⟩ := order strayText
    · cases tokenize_letters.2.symm.trans raised
    · obtain ⟨produced, _, reads, stuck, same, -⟩ := (refused _).1 tokenize_letters.2
      obtain ⟨-, rfl, -⟩ := Fault.unexpectedChar.inj same
      exact ⟨⟨produced, reads⟩, stuck⟩

end Peg.Lexer
