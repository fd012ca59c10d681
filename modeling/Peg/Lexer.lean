import Peg.Action

/-! # Lexical analysis

A lexer cuts a text into tokens. At each place it first skips what is to be ignored, then tries the
keywords, longest first, then the token patterns, of which the longest match wins and the first
declared one among equals. A keyword that has an identifier character in it must not be followed by
another one. -/

namespace Peg

/-- A lexer. -/
structure Lexer where
  /-- The token patterns with the names of their kinds. -/
  tokens : List (List Char × Pattern)
  /-- What is skipped. -/
  ignored : List Pattern
  /-- The keywords, longest first. -/
  keywords : List (List Char)

namespace Lexer

/-- A text is one character that may continue an identifier. -/
def isIdentifierText : List Char → Bool
  | [c] => Text.isIdentifierContinue c
  | _ => false

/-- A keyword is word-like when one of its characters may continue an identifier. -/
def isWordLike (keyword : List Char) : Bool := keyword.any Text.isIdentifierContinue

/-- Keywords without empty ones and repetitions, longest first. -/
def arrange (keywords : List (List Char)) : List (List Char) :=
  (keywords.filter (!·.isEmpty)).eraseDups.mergeSort fun first second =>
    second.length ≤ first.length

/-- Makes a lexer; the keywords may come in any order. -/
def make (tokens : List (List Char × Pattern)) (ignored : List Pattern)
    (keywords : List (List Char)) : Lexer :=
  ⟨tokens, ignored, arrange keywords⟩

/-- Reads the patterns of a lexer and makes it. -/
def compile (tokens : List (List Char × PatternOrigin)) (ignored : List PatternOrigin)
    (keywords : List (List Char)) : Except Fault Lexer := do
  let tokens ← tokens.mapM fun (kind, origin) => do return (kind, ← origin.compile "")
  let ignored ← ignored.mapM fun origin => origin.compile ""
  return make tokens ignored keywords

/-- The length of a pattern's match; zero if it does not match. A pattern for bytes cannot be used
on text. -/
def lengthOf (pattern : Pattern) (before rest : List Char) : Except Fault Nat :=
  match pattern.source with
  | .bytes _ => .error .wrongKind
  | .text _ => .ok ((pattern.matchLength? before rest).getD 0)

/-- The text before a place, its last character first, after reading some more characters. -/
def passed (before read : List Char) : List Char := read.reverse ++ before

/-- One round through the ignored patterns: how many characters they skip in turn. -/
def skipRound (before rest : List Char) : List Pattern → Except Fault Nat
  | [] => .ok 0
  | pattern :: patterns => do
    let length ← lengthOf pattern before rest
    let more ← skipRound (passed before (rest.take length)) (rest.drop length) patterns
    return length + more

/-- Skips in rounds until one skips nothing or the text ends. -/
def skip (ignored : List Pattern) (before rest : List Char) : Except Fault Nat :=
  match rest with
  | [] => .ok 0
  | first :: others =>
    match skipRound before (first :: others) ignored with
    | .error fault => .error fault
    | .ok 0 => .ok 0
    | .ok (length + 1) =>
      match skip ignored (passed before ((first :: others).take (length + 1)))
          (others.drop length) with
      | .error fault => .error fault
      | .ok more => .ok (length + 1 + more)
termination_by rest.length
decreasing_by
  simp only [List.length_cons, List.length_drop]
  omega

/-- The keyword may stand at the start of the text. -/
def admits (keyword rest : List Char) : Bool :=
  keyword.isPrefixOf rest
    && !(isWordLike keyword && (rest.drop keyword.length).head?.any Text.isIdentifierContinue)

/-- The kind and the lexeme of the longest match; the first declared one wins among equals. -/
def longest (before rest : List Char) :
    Option (List Char × Nat) → List (List Char × Pattern) →
      Except Fault (Option (List Char × Nat))
  | best, [] => .ok best
  | best, (kind, pattern) :: others => do
    let length ← lengthOf pattern before rest
    let known := best.elim 0 (·.2)
    longest before rest (if known < length then some (kind, length) else best) others

/-- The kind and the length of the token at the start of the text. -/
def nextToken (lexer : Lexer) (before rest : List Char) :
    Except Fault (Option (List Char × Nat)) :=
  match lexer.keywords.find? fun keyword => admits keyword rest with
  | some keyword => .ok (some (keyword, keyword.length))
  | none => longest before rest none lexer.tokens

/-- Cuts the text after a place into tokens. `source` is the whole text, `offset` the place, and
`line` and `column` are its coordinates. -/
def scan (lexer : Lexer) (source : List Char) (before rest : List Char)
    (offset : Nat) (line column : Int) : Except Fault (List Token) :=
  match rest with
  | [] => .ok []
  | first :: others =>
    match skip lexer.ignored before (first :: others) with
    | .error fault => .error fault
    | .ok (length + 1) =>
      let skipped := (first :: others).take (length + 1)
      let (nextLine, nextColumn) := Text.advance skipped line column
      scan lexer source (passed before skipped) (others.drop length) (offset + (length + 1))
        nextLine nextColumn
    | .ok 0 =>
      match lexer.nextToken before (first :: others) with
      | .error fault => .error fault
      | .ok (some (kind, length + 1)) =>
        let text := (first :: others).take (length + 1)
        let (nextLine, nextColumn) := Text.advance text line column
        match scan lexer source (passed before text) (others.drop length) (offset + (length + 1))
            nextLine nextColumn with
        | .error fault => .error fault
        | .ok tokens => .ok (⟨kind, text, line, column, offset⟩ :: tokens)
      | .ok _ => .error (.unexpectedChar source offset line column)
termination_by rest.length
decreasing_by
  all_goals simp only [List.length_cons, List.length_drop]
  all_goals omega

/-- Cuts a text into tokens. -/
def tokenize (lexer : Lexer) (text : List Char) : Except Fault (List Token) :=
  lexer.scan text [] text 0 1 1

end Lexer

end Peg
