import Peg.Text.Blank
import Peg.Text.LetterCase
import Peg.Text.Word

/-! # Character classes

The sets of characters that a pattern can name, and the modes under which a character belongs to
one: the dialect decides what a blank and a word character are, the ASCII mode restricts the named
sets to ASCII, and with case ignored a character stands for all its case variants. -/

namespace Peg.Pattern

open Peg.Text

/-- The two dialects of patterns. They differ in what counts as a blank or a word character, in a
few corners of the notation and in how a pattern is written out. -/
inductive Dialect where
  /-- The full dialect, with Unicode properties. -/
  | full
  /-- The classic dialect. -/
  | classic
deriving DecidableEq, Repr

/-- How the characters of a pattern are read. -/
structure Mode where
  /-- The dialect of the pattern. -/
  dialect : Dialect
  /-- The named sets hold ASCII characters only. -/
  ascii : Bool
  /-- Characters that differ in case only are the same. -/
  ignoreCase : Bool

/-- The sets of characters that have a name. -/
inductive NamedSet where
  /-- Decimal digits. -/
  | digit
  /-- Word characters. -/
  | word
  /-- Blanks. -/
  | blank
  /-- Letters. -/
  | letter
  /-- Combining marks. -/
  | mark
  /-- Numerals of any kind. -/
  | numeral
  /-- Characters that may continue an identifier. -/
  | identifier
deriving DecidableEq, Repr

/-- Membership in a named set, without the restriction to ASCII. The classic dialect knows the
characters of the older edition only. -/
def NamedSet.holds (dialect : Dialect) : NamedSet → Char → Bool
  | .digit, c =>
    match dialect with
    | .full => isDigit c
    | .classic => isClassicDigit c
  | .word, c =>
    match dialect with
    | .full => isWord c
    | .classic => isClassicWord c
  | .blank, c =>
    match dialect with
    | .full => isBlank c
    | .classic => isBlankOrSeparator c
  | .letter, c => isLetter c
  | .mark, c => isMark c
  | .numeral, c => isDigit c || letterNumberRanges.covers c || otherNumberRanges.covers c
  | .identifier, c => isIdentifierContinue c

/-- Membership in a named set restricted to ASCII. -/
def NamedSet.holdsAscii : NamedSet → Char → Bool
  | .digit, c => c.isDigit
  | .word, c => isAsciiWord c
  | .blank, c => isAsciiBlank c
  | .letter, c => c.isAlpha
  | .mark, _ => false
  | .numeral, c => c.isDigit
  | .identifier, c => isAsciiWord c

/-- One item of a class. -/
inductive ClassItem where
  /-- The code points from `first` to `last`. -/
  | range (first last : Nat)
  /-- A named set, or all characters outside it. -/
  | named (set : NamedSet) (negated : Bool)
deriving DecidableEq, Repr

/-- A class: the characters of its items, or all others. -/
structure CharClass where
  /-- The class holds what none of the items holds. -/
  negated : Bool
  /-- The items. -/
  items : List ClassItem
deriving DecidableEq, Repr

/-- The class of one character. -/
def CharClass.one (c : Char) : CharClass := ⟨false, [.range c.toNat c.toNat]⟩

/-- The class of every character. -/
def CharClass.all : CharClass := ⟨true, []⟩

/-- The class of every character but the line feed. -/
def CharClass.inLine : CharClass := ⟨true, [.range 10 10]⟩

/-- The other case of an ASCII letter. -/
def asciiOtherCases (c : Char) : List Char :=
  if c.isUpper then [c.toLower] else if c.isLower then [c.toUpper] else []

/-- The dotted and the dotless i. Folding leaves them apart from the plain letter; the classic
dialect takes all four for one letter, the full one only relates the dotted capital to the small
letter and the dotless small letter to the capital. -/
def dottedCases : Dialect → Char → List Char
  | .full, c =>
    match c.toNat with
    | 0x49 => [Char.ofNat 0x131]
    | 0x69 => [Char.ofNat 0x130]
    | 0x130 => ['i']
    | 0x131 => ['I']
    | _ => []
  | .classic, c =>
    if [0x49, 0x69, 0x130, 0x131].contains c.toNat then
      ['I', 'i', Char.ofNat 0x130, Char.ofNat 0x131]
    else []

/-- The characters that differ from a given one in case only. The classic dialect knows those of
the older edition. -/
def foldedCases : Dialect → Char → List Char
  | .full, c => otherCases c
  | .classic, c => if isPrintable c then (otherCases c).filter isPrintable else []

/-- The characters that a given character stands for. -/
def Mode.variants (mode : Mode) (c : Char) : List Char :=
  if !mode.ignoreCase then [c]
  else if mode.ascii then c :: asciiOtherCases c
  else c :: foldedCases mode.dialect c ++ dottedCases mode.dialect c

/-- Membership in a named set. -/
def Mode.holds (mode : Mode) (set : NamedSet) (c : Char) : Bool :=
  if mode.ascii then set.holdsAscii c else set.holds mode.dialect c

/-- A character belongs to an item of a class. For a range, any of its variants may lie in it. A
named set asks for the character itself, but among several items of a class of the full dialect any
of its variants will do. -/
def ClassItem.accepts (mode : Mode) (alone : Bool) (c : Char) : ClassItem → Bool
  | .range first last => (mode.variants c).any fun variant =>
    first ≤ variant.toNat && variant.toNat ≤ last
  | .named set negated =>
    (if alone || mode.dialect == .classic then mode.holds set c
      else (mode.variants c).any (mode.holds set)) != negated

/-- A character belongs to a class when it belongs to an item, or, for a negated class, to none. -/
def CharClass.accepts (mode : Mode) (cls : CharClass) (c : Char) : Bool :=
  match cls.items with
  | [item] => item.accepts mode true c != cls.negated
  | items => items.any (·.accepts mode false c) != cls.negated

end Peg.Pattern
