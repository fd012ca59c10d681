/-! # Tables of code points

A Unicode property is kept as a sorted list of closed ranges of code points. -/

namespace Peg.Text

/-- A set of code points as a sorted list of closed ranges. -/
abbrev CodeRanges := List (Nat × Nat)

/-- The code point lies in one of the ranges; a range that starts behind it ends the search. -/
def CodeRanges.holds (code : Nat) : CodeRanges → Bool
  | [] => false
  | (first, last) :: others => first ≤ code && (code ≤ last || CodeRanges.holds code others)

/-- The character lies in one of the ranges. -/
def CodeRanges.covers (ranges : CodeRanges) (c : Char) : Bool := CodeRanges.holds c.toNat ranges

end Peg.Text
