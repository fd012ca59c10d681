import Peg.Pattern.Reader
import Peg.Pattern.Search
import Peg.Text.Quoted

/-! # Patterns

A pattern finds matches in texts, and it knows the text it was read from, its dialect and its flags.
Two patterns are equal when these three agree. A pattern that is read finds its matches by the search
for a regular expression; one that is given may find them in any other way. -/

namespace Peg

open Pattern

/-- What a pattern was read from: text, to be matched with text, or bytes, to be matched with
bytes. -/
inductive PatternSource where
  /-- A pattern for text. -/
  | text (content : List Char)
  /-- A pattern for bytes. -/
  | bytes (content : List UInt8)
deriving DecidableEq, Repr

/-- The characters of the source; a byte counts as the character with its code. -/
def PatternSource.chars : PatternSource → List Char
  | .text content => content
  | .bytes content => Text.ofBytes content

/-- The pattern is one for bytes. -/
def PatternSource.isBytes : PatternSource → Bool
  | .text _ => false
  | .bytes _ => true

/-- A pattern. -/
structure Pattern where
  /-- The dialect it is written in. -/
  dialect : Dialect
  /-- What it was read from. -/
  source : PatternSource
  /-- Its flags. -/
  flags : Flags
  /-- The length of its preferred match at a place of a text, given the text before the place, its
  last character first, and the text after it. A match never reaches past the end. -/
  find : (before rest : List Char) → Option { length : Nat // length ≤ rest.length }

namespace Pattern

instance : BEq Pattern where
  beq first second :=
    first.dialect == second.dialect && first.source == second.source
      && first.flags == second.flags

/-- The mode in which a pattern tests characters. A pattern for bytes knows ASCII only. -/
def modeOf (dialect : Dialect) (source : PatternSource) (flags : Flags) : Mode where
  dialect := dialect
  ascii := flags.ascii || source.isBytes
  ignoreCase := flags.ignoreCase

/-- The pattern that searches for the preferred match of a regular expression. -/
def ofRegex (dialect : Dialect) (source : PatternSource) (flags : Flags) (regex : Regex) :
    Pattern where
  dialect := dialect
  source := source
  flags := flags
  find before rest :=
    (regex.endOfMatch? (modeOf dialect source flags) ⟨before.head?, rest, 0⟩).pmap
      (fun place bound => ⟨place.offset, bound⟩) fun _ => Regex.offset_le_of_endOfMatch?

/-- Reads a pattern. -/
def compile (dialect : Dialect) (source : PatternSource) (flags : Flags) :
    Except PatternFault Pattern := do
  let regex ← readRegex ⟨dialect, flags, source.isBytes⟩ source.chars
  return .ofRegex dialect source flags regex

/-- The length of the preferred match at a place of a text, given the text before the place, its
last character first. -/
def matchLength? (pattern : Pattern) (before rest : List Char) : Option Nat :=
  (pattern.find before rest).map (·.val)

/-- A match never reaches past the end. -/
theorem matchLength?_le {pattern : Pattern} {before rest : List Char} {n : Nat}
    (found : pattern.matchLength? before rest = some n) : n ≤ rest.length := by
  obtain ⟨length, -, rfl⟩ := Option.map_eq_some_iff.1 found
  exact length.property

/-- A match of a regular expression is as long as the search for it has moved. -/
theorem matchLength?_ofRegex (dialect : Dialect) (source : PatternSource) (flags : Flags)
    (regex : Regex) (before rest : List Char) :
    (ofRegex dialect source flags regex).matchLength? before rest
      = (regex.endOfMatch? (modeOf dialect source flags) ⟨before.head?, rest, 0⟩).map
        (·.offset) := by
  rw [matchLength?, ofRegex, Option.map_pmap, Option.pmap_eq_map]

/-- The names of the flags that are set, in the order in which the dialect lists them. -/
def flagNames (pattern : Pattern) : List String :=
  let ascii := pattern.flags.ascii
  let flags := pattern.flags
  let listed : List (Bool × String) :=
    match pattern.dialect with
    | .full =>
      [(ascii || pattern.source.isBytes, "regex.A"), (flags.dotAll, "regex.S"),
        (flags.ignoreCase, "regex.I"), (flags.multiLine, "regex.M"), (flags.verbose, "regex.X"),
        (true, "regex.V0")]
    | .classic =>
      [(flags.ignoreCase, "re.IGNORECASE"), (flags.multiLine, "re.MULTILINE"),
        (flags.dotAll, "re.DOTALL"), (flags.verbose, "re.VERBOSE"), (ascii, "re.ASCII")]
  (listed.filter (·.1)).map (·.2)

/-- The source between quotes. -/
def writtenSource (pattern : Pattern) : String :=
  match pattern.source with
  | .text content => Text.quoted content
  | .bytes content => Text.quotedBytes content

/-- The written form of a pattern. The classic dialect shows 200 characters of the source. -/
def written (pattern : Pattern) : String :=
  match pattern.dialect with
  | .full =>
    "regex.Regex(" ++ pattern.writtenSource ++ ", flags="
      ++ " | ".intercalate pattern.flagNames ++ ")"
  | .classic =>
    let source := String.ofList (pattern.writtenSource.toList.take 200)
    match pattern.flagNames with
    | [] => "re.compile(" ++ source ++ ")"
    | names => "re.compile(" ++ source ++ ", " ++ "|".intercalate names ++ ")"

/-- The pattern as it stands in messages: its source between slashes. -/
def described (pattern : Pattern) : String :=
  "/" ++ String.ofList pattern.source.chars ++ "/"

end Pattern

end Peg
