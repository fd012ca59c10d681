import Peg.Parser

/-! # Descriptions of parsers

A description says how to build a parser: patterns by their text, rules by their names. Building
one reads the patterns, checks the numbers of parts and looks the names up in a grammar.

The body of a deferred rule is a description, too. Building it may add rules of its own and mention
names of the current grammar, which makes rules for them. It binds no rule of the current grammar,
resolves none and runs no parser; a grammar that it defines is one of its own (`within`). -/

namespace Peg

open Pattern

/-- Where the pattern of a token comes from. -/
inductive PatternOrigin where
  /-- A text or bytes, still to be read. -/
  | source (content : PatternSource)
  /-- A pattern that has a dialect and flags of its own. -/
  | compiled (dialect : Dialect) (content : PatternSource) (flags : Flags)
  /-- Something that is no pattern. -/
  | other

/-- How to build a parser. -/
inductive Description where
  /-- The text matched by a pattern, with flag letters. -/
  | token (origin : PatternOrigin) (flags : String)
  /-- A fixed sequence. -/
  | literal (text : Value)
  /-- Any other terminal. -/
  | terminal (leaf : Terminal)
  /-- All parsers in order. -/
  | sequence (parts : List Description)
  /-- The first parser that matches. -/
  | choice (parts : List Description)
  /-- Zero or more times. -/
  | star (body : Description)
  /-- One or more times. -/
  | plus (body : Description)
  /-- The parser, or a fixed value in its place. -/
  | optional (body : Description) (absent : Value)
  /-- Looks ahead. -/
  | ahead (body : Description)
  /-- Looks ahead for the opposite. -/
  | notAhead (body : Description)
  /-- Applies a named function. -/
  | transform (body : Description) (name : String) (function : Value → Except Fault Value)
  /-- Parses the value of its body with a second parser. -/
  | nested (body inner : Description) (form : NestedForm)
  /-- Shows its body in traces under a name. -/
  | traced (name : String) (body : Description)
  /-- The rule of a name in the current grammar. -/
  | reference (name : String)
  /-- A parser kept under a name. -/
  | saved (name : String)
  /-- A new rule, bound at once. -/
  | rule (name : String) (body : Description)
  /-- A new rule whose body is built when it first runs. -/
  | deferred (name : String) (body : Description)
  /-- A rule of a grammar of its own, given by the bindings of its rules in order. -/
  | within (rules : List (String × Description)) (name : String)
  /-- A fixed number of elements, written by hand. -/
  | take (count : Int)
  /-- Fails at an offset, written by hand. The payload may turn out to be a fault. -/
  | failAt (payload : Except Fault Value) (offset : Int)
  /-- Matches a limited number of times, written by hand. -/
  | tiring (limit : Int)
  /-- A value in the place of a parser. -/
  | constant (value : Value)
  /-- A parser that cannot be made, because one of its parts is a fault. The parts before that one
  are built first. -/
  | broken (parts : List Description) (fault : Fault)

instance : Inhabited Description := ⟨.constant .null⟩

/-- The flag that a letter stands for, added to the given ones. -/
def addFlag? (flags : Flags) : Char → Option Flags
  | 'i' => some { flags with ignoreCase := true }
  | 'm' => some { flags with multiLine := true }
  | 's' => some { flags with dotAll := true }
  | 'x' => some { flags with verbose := true }
  | 'A' => some { flags with ascii := true }
  | _ => none

/-- Reads flag letters; the first unknown one is a fault. -/
def readFlags (letters : List Char) : Except Fault Flags :=
  letters.foldlM (fun flags letter =>
    match addFlag? flags letter with
    | some more => .ok more
    | none => .error (.grammar (.unknownFlag letter))) {}

/-- Reads a pattern; a malformed one is a fault. -/
def compilePattern (dialect : Dialect) (source : PatternSource) (flags : Flags) :
    Except Fault Pattern :=
  match Pattern.compile dialect source flags with
  | .ok pattern => .ok pattern
  | .error .malformed => .error .malformedPattern
  | .error .countTooLarge => .error .repetitionTooLarge

/-- The pattern of a token. Flags go with a text only: a pattern has its own. -/
def PatternOrigin.compile (origin : PatternOrigin) (letters : String) : Except Fault Pattern := do
  match origin with
  | .compiled dialect content flags =>
    let pattern ← compilePattern dialect content flags
    if letters.isEmpty then return pattern
    else throw (.grammar (.flagsForCompiled letters pattern))
  | .source content =>
    let flags ← readFlags letters.toList
    compilePattern .full content flags
  | .other =>
    let _ ← readFlags letters.toList
    throw .wrongKind

end Peg
