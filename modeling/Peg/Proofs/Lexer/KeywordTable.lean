import Peg.Proofs.Lexer.MatchingOrder

/-! # The keyword table

A lexer is given its keywords in a list. Only the strings in it matter: neither their order nor
their repetitions, and the empty string does not matter at all.

* **`find?_arrange_eq_some_iff`**: the search through the arranged keywords finds the longest one
  that may stand at a place. There is one at most, so that it does not matter how keywords of one
  length are arranged.
* **`scanAt_congr`**: lexers that skip the same and find the same tokens scan alike.
* **`tokenize_keyword_iff`**: the keywords of a table can be told from the others.
* **`keyword_table_is_set`**: lexers with the same patterns tokenize alike just if their tables hold
  the same keywords. -/

namespace Peg.Lexer

/-- Two lists have the same strings in them, but for the empty one. -/
def SameKeywords (first second : List (List Char)) : Prop :=
  ∀ keyword, keyword ≠ [] → (keyword ∈ first ↔ keyword ∈ second)

/-- Tables with the same keywords are so in either order. -/
theorem SameKeywords.symm {first second : List (List Char)} (same : SameKeywords first second) :
    SameKeywords second first :=
  fun keyword nonempty => (same keyword nonempty).symm

/-! ## The same keywords, the same tokens -/

section Search

variable {keywords first second : List (List Char)} {keyword text : List Char} {offset : Nat}

/-- **The search through the arranged keywords finds the longest one** that may stand at a place. -/
theorem find?_arrange_eq_some_iff :
    (arrange keywords).find? (admits · (text.drop offset)) = some keyword
      ↔ IsLongestKeyword keywords text offset keyword := by
  constructor
  · exact isLongestKeyword_of_find?
  · intro longest
    cases found : (arrange keywords).find? (admits · (text.drop offset)) with
    | none => exact absurd longest.admissible (noKeyword_of_find? found _ longest.member)
    | some other => rw [(isLongestKeyword_of_find? found).unique longest]

/-- The longest keyword at a place is the longest one in every table with the same keywords. -/
theorem SameKeywords.isLongestKeyword (same : SameKeywords first second)
    (longest : IsLongestKeyword first text offset keyword) :
    IsLongestKeyword second text offset keyword where
  member := (same _ longest.admissible.nonempty).1 longest.member
  admissible := longest.admissible
  longest other member admissible :=
    longest.longest other ((same _ admissible.nonempty).2 member) admissible

/-- In tables with the same keywords the search finds the same one. -/
theorem SameKeywords.find?_eq (same : SameKeywords first second) :
    (arrange first).find? (admits · (text.drop offset))
      = (arrange second).find? (admits · (text.drop offset)) := by
  refine Option.ext fun keyword => ?_
  rw [find?_arrange_eq_some_iff, find?_arrange_eq_some_iff]
  exact ⟨same.isLongestKeyword, same.symm.isLongestKeyword⟩

end Search

section Scan

variable {first second : Lexer} {text : List Char}

/-- **Lexers that skip the same and find the same tokens scan alike.** -/
theorem scanAt_congr (ignored : first.ignored = second.ignored)
    (next : ∀ offset, first.nextTokenAt text offset = second.nextTokenAt text offset)
    (offset : Nat) : first.scanAt text offset = second.scanAt text offset := by
  -- each step goes forward, so the induction is on what is left of the text
  induction size : text.length - offset using Nat.strongRecOn generalizing offset with
  | _ size inductionHypothesis =>
    subst size
    by_cases inside : offset < text.length
    · have onwards (length : Nat) : first.scanAt text (offset + (length + 1))
          = second.scanAt text (offset + (length + 1)) :=
        inductionHypothesis _ (by omega) _ rfl
      simp only [scanAt_eq inside, ignored, next, onwards]
    · have ends := Nat.not_lt.1 inside
      rw [scanAt_of_end ends, scanAt_of_end ends]

end Scan

section Tables

variable {tokens : List (List Char × Pattern)} {ignored : List Pattern}
  {keywords first second : List (List Char)} {keyword text : List Char}

/-- **Tables with the same keywords** lead to the same tokens or to the same fault. -/
theorem SameKeywords.tokenize_eq (same : SameKeywords first second) :
    (make tokens ignored first).tokenize text = (make tokens ignored second).tokenize text := by
  have next (offset : Nat) : (make tokens ignored first).nextTokenAt text offset
      = (make tokens ignored second).nextTokenAt text offset := by
    have found : (make tokens ignored first).keywords.find? (admits · (text.drop offset))
        = (make tokens ignored second).keywords.find? (admits · (text.drop offset)) :=
      same.find?_eq
    rw [nextTokenAt_eq, nextTokenAt_eq, found]
    rfl
  rw [tokenize_eq_scanAt, tokenize_eq_scanAt]
  exact scanAt_congr (by rfl) next 0

/-! ## Other keywords, other tokens -/

/-- The kind of a token is a keyword or the name of a pattern. -/
theorem Reads.kind_mem {produced : List Token} {offset : Nat}
    (reads : Reads tokens ignored keywords text produced offset) :
    ∀ token ∈ produced, token.kind ∈ keywords ∨ token.kind ∈ tokens.map (·.1) := by
  induction reads with
  | start => exact fun _ member => nomatch member
  | skip _ _ inductionHypothesis => exact inductionHypothesis
  | token _ _ _ chooses inductionHypothesis =>
    rw [List.forall_mem_append, List.forall_mem_singleton]
    refine ⟨inductionHypothesis, ?_⟩
    cases chooses with
    | keyword longest => exact .inl longest.member
    | pattern _ longest =>
      obtain ⟨pattern, -, found⟩ := longest.exists_find?
      exact .inr (List.mem_map_of_mem (List.mem_of_find?_eq_some found))

/-- A keyword is the longest one in front of itself. -/
theorem isLongestKeyword_self (member : keyword ∈ keywords) (nonempty : keyword ≠ []) :
    IsLongestKeyword keywords keyword 0 keyword where
  member := member
  admissible := {
    nonempty := nonempty
    found := List.prefix_rfl
    boundary := by
      intro _ c after
      rw [Nat.zero_add, List.getElem?_length] at after
      cases after }
  longest _ _ admissible := admissible.found.length_le

/-- A lexer for text raises no fault about the kind of its input. -/
theorem IsForText.tokenize_ne_wrongKind {lexer : Lexer} (forText : lexer.IsForText) :
    lexer.tokenize text ≠ .error .wrongKind := by
  obtain ⟨_, cut⟩ | ⟨_, -, raised⟩ | ⟨-, notForText⟩ := lexer.tokenize_cases text
  · simp [cut]
  · simp [raised, unexpectedAt]
  · exact absurd forText notForText

/-- **Without patterns a keyword is a token of its own kind** just if it is in the table. -/
theorem tokenize_keyword_iff (nonempty : keyword ≠ []) :
    (make [] [] keywords).tokenize keyword = .ok [tokenAt keyword 0 keyword keyword]
      ↔ keyword ∈ keywords := by
  constructor
  · intro cut
    obtain member | impossible := (tokenize_eq_ok_iff.1 cut).reads.kind_mem _ List.mem_cons_self
    · exact member
    · cases impossible
  · intro member
    have inside : 0 < keyword.length := List.length_pos_iff.2 nonempty
    have forText : (make [] [] keywords).IsForText :=
      ⟨List.forall_mem_nil _, List.forall_mem_nil _⟩
    have noneIgnored : NoneIgnored [] keyword 0 := List.forall_mem_nil _
    have chooses : Chooses [] keywords keyword 0 keyword keyword :=
      .keyword (isLongestKeyword_self member nonempty)
    have reads := Reads.start.token inside noneIgnored chooses
    rw [Nat.zero_add] at reads
    exact tokenize_eq_ok_iff.2 (reads.reaches forText.tokenize_ne_wrongKind)

end Tables

/-- **A keyword table is a set.** Two lists of keywords have the same strings in them, but for the
empty one, just if lexers with these keywords and with the same patterns come to the same tokens or
to the same fault on every text, whether the patterns are at hand or are still to be read. -/
theorem keyword_table_is_set (first second : List (List Char)) :
    SameKeywords first second
      ↔ (∀ tokens ignored text,
          (make tokens ignored first).tokenize text = (make tokens ignored second).tokenize text)
        ∧ ∀ tokens ignored text,
          (compile tokens ignored first >>= (·.tokenize text))
            = (compile tokens ignored second >>= (·.tokenize text)) := by
  constructor
  · intro same
    refine ⟨fun _ _ _ => same.tokenize_eq, fun tokens ignored text => ?_⟩
    simp only [compile, bind_assoc, pure_bind, same.tokenize_eq]
  · rintro ⟨alike, -⟩ keyword nonempty
    rw [← tokenize_keyword_iff nonempty, ← tokenize_keyword_iff nonempty, alike]

/-- The keywords of the letters in another order, one of them twice, with empty ones among them: the
two of one character are arranged the other way round, and still the tokens are the same. -/
theorem shuffled_keywords_read_alike :
    SameKeywords [['a'], ['+'], ['+', '+']] [['+'], [], ['+', '+'], ['a'], ['+'], []]
      ∧ arrange [['+'], [], ['+', '+'], ['a'], ['+'], []] ≠ letterLexer.keywords
      ∧ (make letterLexer.tokens letterLexer.ignored
          [['+'], [], ['+', '+'], ['a'], ['+'], []]).tokenize letterText
        = .ok [tokenAt letterText 2 ['+', '+'] ['+', '+'], tokenAt letterText 4 ['n'] ['a', 'b'],
            tokenAt letterText 7 ['m'] ['b', '\n', 'b'], tokenAt letterText 12 ['n'] ['b']] := by
  have same : SameKeywords [['a'], ['+'], ['+', '+']]
      [['+'], [], ['+', '+'], ['a'], ['+'], []] := by
    intro keyword nonempty
    simp only [List.mem_cons, List.not_mem_nil, nonempty]
    grind
  have other : arrange [['+'], [], ['+', '+'], ['a'], ['+'], []] = [['+', '+'], ['+'], ['a']] := by
    rw [arrange]
    cbv
  refine ⟨same, ?_, ?_⟩
  · rw [other, keywords_letterLexer]
    decide
  · rw [← ((keyword_table_is_set _ _).1 same).1]
    exact tokenize_letters.1

end Peg.Lexer
