import Peg.Text.Letter
import Peg.Text.Digit

/-! # Word characters and identifiers

Which characters make up a word. The full set takes letters, marks, digits, letter-like numerals,
circled letters, connector punctuation and the two joiners; the classic set takes letters, all
numerals and the underscore, of the older edition only. The characters that may continue an
identifier (the XID_Continue property) differ from the full set in two short lists. -/

namespace Peg.Text

/-- Connector punctuation: general category Pc. -/
def connectorRanges : CodeRanges :=
  [(0x5F, 0x5F), (0x203F, 0x2040), (0x2054, 0x2054), (0xFE33, 0xFE34), (0xFE4D, 0xFE4F),
   (0xFF3F, 0xFF3F)]

/-- Symbols that count as alphabetic: the circled and squared Latin letters. -/
def circledLetterRanges : CodeRanges :=
  [(0x24B6, 0x24E9), (0x1F130, 0x1F149), (0x1F150, 0x1F169), (0x1F170, 0x1F189)]

/-- The zero width non-joiner and the zero width joiner. -/
def joinerRanges : CodeRanges := [(0x200C, 0x200D)]

/-- A word character: alphabetic, a mark, a decimal digit, a connector or a joiner. -/
def isWord (c : Char) : Bool :=
  isLetter c || isDigit c || connectorRanges.covers c || isMark c || letterNumberRanges.covers c
    || circledLetterRanges.covers c || joinerRanges.covers c

/-- A classic word character: a letter, a numeral of any kind or the underscore. -/
def isClassicWord (c : Char) : Bool :=
  isPrintable c
    && (isLetter c || isDigit c || c == '_' || letterNumberRanges.covers c
      || otherNumberRanges.covers c)

/-- An ASCII word character: a letter, a digit or the underscore. -/
def isAsciiWord (c : Char) : Bool := c.isAlphanum || c == '_'

/-- Word characters that cannot continue an identifier. -/
def wordOnlyRanges : CodeRanges :=
  [(0x37A, 0x37A), (0x488, 0x489), (0x1ABE, 0x1ABE), (0x20DD, 0x20E0), (0x20E2, 0x20E4),
   (0x24B6, 0x24E9), (0x2E2F, 0x2E2F), (0xA670, 0xA672), (0xFC5E, 0xFC63), (0xFDFA, 0xFDFB),
   (0xFE70, 0xFE70), (0xFE72, 0xFE72), (0xFE74, 0xFE74), (0xFE76, 0xFE76), (0xFE78, 0xFE78),
   (0xFE7A, 0xFE7A), (0xFE7C, 0xFE7C), (0xFE7E, 0xFE7E), (0x1F130, 0x1F149), (0x1F150, 0x1F169),
   (0x1F170, 0x1F189)]

/-- Characters that can continue an identifier and are no word characters. -/
def identifierOnlyRanges : CodeRanges :=
  [(0xB7, 0xB7), (0x387, 0x387), (0x1369, 0x1371), (0x19DA, 0x19DA), (0x2118, 0x2118),
   (0x212E, 0x212E), (0x30FB, 0x30FB), (0xFF65, 0xFF65)]

/-- The XID_Continue property: the character may continue an identifier. -/
def isIdentifierContinue (c : Char) : Bool :=
  (isWord c && !wordOnlyRanges.covers c) || identifierOnlyRanges.covers c

/-! ## Names -/

/-- Letters and letter-like numerals that cannot start a name. -/
def innerLetterRanges : CodeRanges :=
  [(0x37A, 0x37A), (0xE33, 0xE33), (0xEB3, 0xEB3), (0x2E2F, 0x2E2F), (0xFC5E, 0xFC63),
   (0xFDFA, 0xFDFB), (0xFE70, 0xFE70), (0xFE72, 0xFE72), (0xFE74, 0xFE74), (0xFE76, 0xFE76),
   (0xFE78, 0xFE78), (0xFE7A, 0xFE7A), (0xFE7C, 0xFE7C), (0xFE7E, 0xFE7E), (0xFF9E, 0xFF9F)]

/-- Other characters that can start a name. -/
def nameStartRanges : CodeRanges := [(0x1885, 0x1886), (0x2118, 0x2118), (0x212E, 0x212E)]

/-- The character may start a name: the underscore, or the XID_Start property of the older
edition. -/
def isNameStart (c : Char) : Bool :=
  c == '_'
    || (isPrintable c
      && (((isLetter c || letterNumberRanges.covers c) && !innerLetterRanges.covers c)
        || nameStartRanges.covers c))

/-- The katakana middle dots, which the older edition does not allow in names. -/
def middleDotRanges : CodeRanges := [(0x30FB, 0x30FB), (0xFF65, 0xFF65)]

/-- The character may continue a name: the XID_Continue property of the older edition. -/
def isNameContinue (c : Char) : Bool :=
  isPrintable c && isIdentifierContinue c && !middleDotRanges.covers c

/-- A text is a name when it starts like one and goes on like one. -/
def isName : List Char → Bool
  | [] => false
  | first :: others => isNameStart first && others.all isNameContinue

end Peg.Text
