import Mathlib.Algebra.GroupWithZero.Nat
import Mathlib.Data.List.TakeWhile
import Peg.Text.Position

/-! # Lines and columns of a text

The line and the column of an offset can be found in two ways: by looking for line feeds around the
offset in the whole text, or by counting along from the start of the text, piece by piece. Both
give the same, however the text is cut.

* **`advance_append`**: counting along two pieces is counting along the one and then the other.
* **`lineColumn_eq_advance`**: the coordinates of an offset are those that are counted along
  everything before it.
* **`getElem?_splitOn_lineColumn`**: the line that is shown for an offset is the one that its line
  number says.
* **`exists_full_lines`**: how long a piece of a text is and on which line it ends, in terms of the
  lines of the text.
* **`line_column_and_caret_are_exact`**: line, column and caret tell an offset, and they come in the
  order of the offsets. -/

namespace Peg.Text

/-! ## Line feeds -/

section LineFeed

variable {first : List Char}

/-- A line ends at the first line feed, whatever follows. -/
theorem takeWhile_append_of_mem (feed : '\n' ∈ first) (second : List Char) :
    (first ++ second).takeWhile isInLine = first.takeWhile isInLine := by
  have stops : (first.takeWhile isInLine).length ≠ first.length := by
    intro whole
    have all := List.takeWhile_eq_self_iff.1
      ((List.takeWhile_prefix isInLine).eq_of_length whole) '\n' feed
    exact absurd all (by decide)
  rw [List.takeWhile_append, if_neg stops]

/-- A line goes on where there is no line feed. -/
theorem takeWhile_append_of_not_mem (noFeed : '\n' ∉ first) (second : List Char) :
    (first ++ second).takeWhile isInLine = first ++ second.takeWhile isInLine :=
  List.takeWhile_append_of_pos fun _ member => bne_iff_ne.2 (ne_of_mem_of_not_mem member noFeed)

/-- A piece without a line feed is in one line. -/
theorem takeWhile_eq_self (noFeed : '\n' ∉ first) : first.takeWhile isInLine = first := by
  have whole := takeWhile_append_of_not_mem noFeed []
  rwa [List.append_nil, List.takeWhile_nil, List.append_nil] at whole

end LineFeed

/-! ## Counting along -/

/-- **Counting along two pieces** is counting along the one and then the other. -/
theorem advance_append (first second : List Char) (line column : Int) :
    advance (first ++ second) line column
      = advance second (advance first line column).1 (advance first line column).2 := by
  have feeds : (first ++ second).count '\n' = first.count '\n' + second.count '\n' :=
    List.count_append
  simp only [advance, feeds, List.reverse_append]
  by_cases some : '\n' ∈ second
  · -- the column is counted from the last line feed, and that is in the second piece
    have positive : second.count '\n' ≠ 0 := Nat.ne_of_gt (List.count_pos_iff.2 some)
    rw [if_neg (by omega), if_neg positive, takeWhile_append_of_mem (List.mem_reverse.2 some)]
    split <;> simp only [Prod.mk.injEq, and_true] <;> omega
  · have zero : second.count '\n' = 0 := List.count_eq_zero.2 some
    rw [if_pos zero, zero, Nat.add_zero,
      takeWhile_append_of_not_mem (fun member => some (List.mem_reverse.1 member))]
    split
    · simp only [List.length_append, Prod.mk.injEq, true_and]
      omega
    · simp only [List.length_append, List.length_reverse, Prod.mk.injEq, true_and]
      omega

/-! ## Coordinates -/

section Coordinates

variable {source : List Char} {offset : Nat}

/-- An offset in a text is the place it means. -/
theorem clampOffset_of_le {size offset : Nat} (bound : offset ≤ size) :
    clampOffset size offset = offset := by
  rw [clampOffset, if_neg (Int.not_lt.2 (Int.natCast_nonneg offset)), Int.toNat_natCast,
    Nat.min_eq_left bound]

theorem length_lineBefore_le (source : List Char) (offset : Nat) :
    (lineBefore source offset).length ≤ offset := by
  have taken := (List.takeWhile_prefix isInLine : _ <+: (source.take offset).reverse).length_le
  rw [List.length_reverse] at taken
  rw [lineBefore, List.length_reverse]
  exact Nat.le_trans taken (List.length_take_le offset source)

/-- The column is one more than the part of the line before the offset is long. -/
theorem lineColumn_of_le (bound : offset ≤ source.length) :
    lineColumn source offset
      = ((source.take offset).count '\n' + 1, ((lineBefore source offset).length : Int) + 1) := by
  have before := length_lineBefore_le source offset
  simp only [lineColumn, clampOffset_of_le bound, lineStart, Prod.mk.injEq, true_and]
  omega

/-- **The coordinates of an offset are those counted along everything before it**, from the first
line and the first column on. -/
theorem lineColumn_eq_advance (bound : offset ≤ source.length) :
    (((lineColumn source offset).1 : Int), (lineColumn source offset).2)
      = advance (source.take offset) 1 1 := by
  rw [lineColumn_of_le bound, lineBefore, advance, List.length_reverse]
  by_cases feed : '\n' ∈ source.take offset
  · rw [if_neg (Nat.ne_of_gt (List.count_pos_iff.2 feed))]
    simp only [Prod.mk.injEq, and_true]
    omega
  · rw [List.count_eq_zero.2 feed, if_pos rfl,
      takeWhile_eq_self (fun member => feed (List.mem_reverse.1 member)), List.length_reverse]
    simp only [Prod.mk.injEq]
    omega

/-- Counting along a piece leads from the coordinates of its start to those of its end. -/
theorem advance_lineColumn {length : Nat} (bound : offset + length ≤ source.length) :
    advance ((source.drop offset).take length) (lineColumn source offset).1
        (lineColumn source offset).2
      = (((lineColumn source (offset + length : Nat)).1 : Int),
          (lineColumn source (offset + length : Nat)).2) := by
  have here := @lineColumn_eq_advance source offset (by omega)
  rw [lineColumn_eq_advance bound, List.take_add, advance_append, ← here]

/-- The caret comes after as many blanks as the part of the line before the offset is long. -/
theorem caretSnippet_of_le (bound : offset ≤ source.length) :
    caretSnippet source offset
      = lineAt source offset
        ++ '\n' :: List.replicate (lineBefore source offset).length ' ' ++ ['^'] := by
  have before := length_lineBefore_le source offset
  have blanks : ((offset : Int) - lineStart source offset).toNat
      = (lineBefore source offset).length := by
    rw [lineStart]
    omega
  simp only [caretSnippet, clampOffset_of_le bound, blanks]

/-- The column of an offset in a text counts the blanks before the caret, and one more. -/
theorem exists_caret (bound : offset ≤ source.length) :
    ∃ blanks : Nat, (lineColumn source offset).2 = blanks + 1
      ∧ caretSnippet source offset
        = lineAt source offset ++ '\n' :: List.replicate blanks ' ' ++ ['^'] := by
  refine ⟨(lineBefore source offset).length, ?_, caretSnippet_of_le bound⟩
  rw [lineColumn_of_le bound]

/-- The character at an offset stands in its line behind the part before the offset. -/
theorem getElem?_lineAt {c : Char} (here : source[offset]? = some c) (ink : c ≠ '\n') :
    (lineAt source offset)[(lineBefore source offset).length]? = some c := by
  obtain ⟨inside, same⟩ := List.getElem?_eq_some_iff.1 here
  have goesOn : source.drop offset = c :: source.drop (offset + 1) := by
    rw [List.drop_eq_getElem_cons inside, same]
  have inLine : isInLine c := bne_iff_ne.2 ink
  simp only [lineAt, clampOffset_of_le (Nat.le_of_lt inside), lineAfter, goesOn]
  rw [List.takeWhile_cons_of_pos inLine, List.getElem?_append_right (Nat.le_refl _), Nat.sub_self,
    List.getElem?_cons_zero]

end Coordinates

/-! ## The lines of a text -/

/-- A text has one more line than line feeds. -/
theorem length_splitOn (text : List Char) :
    (text.splitOn '\n').length = text.count '\n' + 1 := by
  induction text with
  | nil => rfl
  | cons c text inductionHypothesis =>
    rw [List.splitOn_cons_eq_if_modifyHead, List.count_cons]
    split
    · rw [List.length_cons, inductionHypothesis]
    · rw [List.length_modifyHead, inductionHypothesis, Nat.add_zero]

/-- The first line of a text. -/
theorem getElem?_splitOn_zero (text : List Char) :
    (text.splitOn '\n')[0]? = some (text.takeWhile isInLine) := by
  induction text with
  | nil => rfl
  | cons c text inductionHypothesis =>
    rw [List.splitOn_cons_eq_if_modifyHead]
    split
    · rename_i feed
      rw [List.takeWhile_cons_of_neg (by simp [isInLine, eq_of_beq feed]), List.getElem?_cons_zero]
    · rename_i ink
      rw [List.takeWhile_cons_of_pos (by simpa [isInLine] using ink), List.getElem?_modifyHead,
        if_pos rfl, inductionHypothesis, Option.map_some]

/-- The lines of a text, with a line feed behind each of them, are one character longer than the
text, which has none behind the last line. -/
theorem sum_length_splitOn (text : List Char) :
    ((text.splitOn '\n').map (·.length + 1)).sum = text.length + 1 := by
  induction text with
  | nil => rfl
  | cons c text inductionHypothesis =>
    rw [List.splitOn_cons_eq_if_modifyHead]
    split
    · rw [List.map_cons, List.sum_cons, inductionHypothesis, List.length_nil, List.length_cons]
      omega
    · obtain ⟨line, lines, cut⟩ := List.exists_cons_of_ne_nil (List.splitOn_ne_nil '\n' text)
      rw [cut, List.map_cons, List.sum_cons] at inductionHypothesis
      rw [cut, List.modifyHead_cons, List.map_cons, List.sum_cons, List.length_cons,
        List.length_cons]
      omega

/-- **A piece of a text is some full lines and the start of another one**, on which the text goes on
behind the piece. -/
theorem exists_full_lines (early : List Char) :
    ∃ (full : List (List Char)) (line : List Char),
      (∀ late, (early ++ late).splitOn '\n' = full ++ (line ++ late).splitOn '\n')
        ∧ early.count '\n' = full.length
        ∧ (full.map (·.length + 1)).sum + line.length = early.length
        ∧ '\n' ∉ line ∧ early.reverse.takeWhile isInLine = line.reverse := by
  by_cases feed : '\n' ∈ early
  · -- the line starts behind the last line feed
    obtain ⟨line, before, cut, last⟩ := List.eq_append_cons_of_mem (List.mem_reverse.2 feed)
    have whole : early = before.reverse ++ '\n' :: line.reverse := by
      rw [← List.reverse_reverse early, cut, List.reverse_append, List.reverse_cons,
        List.append_assoc, List.singleton_append]
    have clean : '\n' ∉ line.reverse := fun member => last (List.mem_reverse.1 member)
    refine ⟨before.reverse.splitOn '\n', line.reverse, fun late => ?_, ?_, ?_, clean, ?_⟩
    · rw [whole, List.append_assoc, List.cons_append, List.splitOn_append_cons_self]
    · rw [whole, List.count_append, List.count_cons_self, List.count_eq_zero.2 clean,
        length_splitOn]
    · rw [whole, sum_length_splitOn, List.length_append, List.length_cons]
      omega
    · rw [cut, takeWhile_append_of_not_mem last, List.takeWhile_cons_of_neg (by decide),
        List.append_nil, List.reverse_reverse]
  · have clean : '\n' ∉ early.reverse := fun member => feed (List.mem_reverse.1 member)
    exact ⟨[], early, fun _ => rfl, List.count_eq_zero.2 feed, Nat.zero_add _, feed,
      takeWhile_eq_self clean⟩

/-- The line that holds the place between two pieces of a text comes after as many lines as the
first piece has line feeds. -/
theorem getElem?_splitOn_count (early late : List Char) :
    ((early ++ late).splitOn '\n')[early.count '\n']?
      = some ((early.reverse.takeWhile isInLine).reverse ++ late.takeWhile isInLine) := by
  obtain ⟨full, line, cut, count, -, clean, start⟩ := exists_full_lines early
  rw [cut, count, List.getElem?_append_right (Nat.le_refl _), Nat.sub_self, getElem?_splitOn_zero,
    takeWhile_append_of_not_mem clean, start, List.reverse_reverse]

/-- The lines before the one that goes on behind a piece of a text, with their line feeds, and the
start of that line are as long as the piece. -/
theorem sum_length_take_splitOn (early late : List Char) :
    ((((early ++ late).splitOn '\n').take (early.count '\n')).map (·.length + 1)).sum
      + (early.reverse.takeWhile isInLine).length = early.length := by
  obtain ⟨full, line, cut, count, length, -, start⟩ := exists_full_lines early
  rw [cut, count, List.take_left, start, List.length_reverse, length]

/-- **The line shown for an offset is the one that its line number says.** -/
theorem getElem?_splitOn_lineColumn {source : List Char} {offset : Nat}
    (bound : offset ≤ source.length) :
    (source.splitOn '\n')[(lineColumn source offset).1 - 1]? = some (lineAt source offset) := by
  have shown := getElem?_splitOn_count (source.take offset) (source.drop offset)
  rw [List.take_append_drop] at shown
  simp only [lineColumn_of_le bound, lineAt, clampOffset_of_le bound, lineBefore, lineAfter]
  exact shown

/-! ## Line, column and caret -/

section Exact

variable {source : List Char} {offset : Nat}

/-- The line of an offset is one line. -/
theorem not_mem_lineAt (source : List Char) (offset : Int) : '\n' ∉ lineAt source offset := by
  have notInLine : isInLine '\n' ≠ true := by decide
  rw [lineAt, List.mem_append, lineBefore, List.mem_reverse, lineAfter]
  rintro (before | behind)
  · exact notInLine (List.mem_takeWhile_imp before)
  · exact notInLine (List.mem_takeWhile_imp behind)

/-- The part of the line before an offset is a part of the line. -/
theorem length_lineBefore_le_lineAt (bound : offset ≤ source.length) :
    (lineBefore source offset).length ≤ (lineAt source offset).length := by
  rw [lineAt, clampOffset_of_le bound, List.length_append]
  exact Nat.le_add_right _ _

/-- The lines before the one of an offset, with their line feeds, and the part of this line before
the offset are as long as the offset says. -/
theorem sum_length_lines_before (bound : offset ≤ source.length) :
    (((source.splitOn '\n').take ((lineColumn source offset).1 - 1)).map (·.length + 1)).sum
      + (lineBefore source offset).length = offset := by
  have lengths := sum_length_take_splitOn (source.take offset) (source.drop offset)
  rw [List.take_append_drop, List.length_take_of_le bound] at lengths
  rw [lineColumn_of_le bound, lineBefore, List.length_reverse]
  exact lengths

/-- **A later offset is in a later line**, or further behind in the same line. -/
theorem lineColumn_lt {first second : Nat} (less : first < second)
    (bound : second ≤ source.length) :
    Prod.Lex (· < ·) (· < ·) (lineColumn source first) (lineColumn source second) := by
  obtain ⟨length, rfl⟩ := Nat.exists_eq_add_of_le (Nat.le_of_lt less)
  have size : ((source.drop first).take length).length = length := by
    rw [List.length_take, List.length_drop]
    omega
  -- between the two offsets there is a line feed, or only the column is counted along
  have counted := advance_lineColumn bound
  rw [advance, size] at counted
  rw [Prod.lex_def]
  split at counted
  · obtain ⟨line, column⟩ := Prod.mk.inj counted
    exact .inr ⟨by omega, by omega⟩
  · obtain ⟨line, -⟩ := Prod.mk.inj counted
    exact .inl (by omega)

/-- Offsets in the same line and the same column are the same. -/
theorem lineColumn_injective {first second : Nat} (firstBound : first ≤ source.length)
    (secondBound : second ≤ source.length)
    (same : lineColumn source first = lineColumn source second) : first = second := by
  have irreflexive (place : Nat × Int) : ¬ Prod.Lex (· < ·) (· < ·) place place := by
    rw [Prod.lex_def]
    rintro (less | ⟨-, less⟩)
    · exact Nat.lt_irrefl _ less
    · exact Int.lt_irrefl _ less
  obtain less | rfl | less := Nat.lt_trichotomy first second
  · exact absurd (same ▸ lineColumn_lt less secondBound) (irreflexive _)
  · rfl
  · exact absurd (same ▸ lineColumn_lt less firstBound) (irreflexive _)

/-- **Line, column and caret of an offset are exact.** The line shown is the one that its number
says among the pieces of the text between line feeds, and there is no line feed in it. The column is
one of the line or the next one behind it, and the caret comes after one blank less than the column
says. The lines before, each with its line feed, and the columns before are together as long as the
offset says. A later offset has a later line, or a later column in the same line, so that different
offsets have different places. -/
theorem line_column_and_caret_are_exact (source : List Char) :
    (∀ offset ≤ source.length, ∃ (line column : Nat) (shown : List Char),
        lineColumn source offset = (line, (column : Int))
          ∧ 1 ≤ line ∧ (source.splitOn '\n')[line - 1]? = some shown ∧ '\n' ∉ shown
          ∧ 1 ≤ column ∧ column ≤ shown.length + 1
          ∧ caretSnippet source offset
            = shown ++ '\n' :: List.replicate (column - 1) ' ' ++ ['^']
          ∧ (((source.splitOn '\n').take (line - 1)).map (·.length + 1)).sum + (column - 1)
            = offset)
      ∧ (∀ first second : Nat, first < second → second ≤ source.length →
          Prod.Lex (· < ·) (· < ·) (lineColumn source first) (lineColumn source second))
      ∧ ∀ first ≤ source.length, ∀ second ≤ source.length,
          lineColumn source first = lineColumn source second → first = second := by
  refine ⟨fun offset bound => ?_, fun _ _ => lineColumn_lt, fun _ firstBound _ secondBound =>
    lineColumn_injective firstBound secondBound⟩
  have place := lineColumn_of_le bound
  have lengths := sum_length_lines_before bound
  have shown := getElem?_splitOn_lineColumn bound
  rw [place] at lengths shown
  exact ⟨_, _, lineAt source offset, place, Nat.succ_pos _, shown, not_mem_lineAt source offset,
    Nat.succ_pos _, Nat.succ_le_succ (length_lineBefore_le_lineAt bound), caretSnippet_of_le bound,
    lengths⟩

/-- A text with an empty line and with nothing behind its last line feed. -/
def feedText : List Char := ['a', 'b', '\n', '\n']

/-- The places on a line feed, on an empty line and behind the last line feed: the caret of the last
one stands below an empty line. -/
theorem feedText_places :
    lineColumn feedText (2 : Nat) = (1, 3) ∧ lineColumn feedText (3 : Nat) = (2, 1)
      ∧ lineColumn feedText (4 : Nat) = (3, 1)
      ∧ (4 ≤ feedText.length ∧ (feedText.splitOn '\n')[2]? = some []
        ∧ caretSnippet feedText (4 : Nat) = ['\n', '^']
        ∧ (((feedText.splitOn '\n').take 2).map (·.length + 1)).sum = 4)
      ∧ Prod.Lex (· < ·) (· < ·) (lineColumn feedText (2 : Nat)) (lineColumn feedText (3 : Nat))
      ∧ lineColumn feedText (3 : Nat) ≠ lineColumn feedText (4 : Nat) := by
  have known : lineColumn feedText (4 : Nat) = (3, 1) := by decide
  obtain ⟨places, later, different⟩ := line_column_and_caret_are_exact feedText
  obtain ⟨line, column, shown, place, -, found, -, -, -, caret, lengths⟩ := places 4 (by decide)
  obtain ⟨rfl, one⟩ := Prod.mk.inj (place.symm.trans known)
  obtain rfl := Int.natCast_inj.1 one
  have empty : shown = [] := Option.some.inj (found.symm.trans (by decide))
  rw [empty] at caret found
  exact ⟨by decide, by decide, known, ⟨by decide, found, caret, lengths⟩,
    later 2 3 (by decide) (by decide),
    fun same => absurd (different 3 (by decide) 4 (by decide) same) (by decide)⟩

end Exact

end Peg.Text
