import Peg.Lexer
import Peg.Parse

/-! # Calculators and other small grammars

Arithmetic with the four operations, parentheses and unary minus, once over text and once over
lexical tokens; nested parentheses, whose value is their depth; and three numbers in a row. -/

namespace Peg.Calculator

open Description

/-- The pattern of a row of digits. -/
def digitsPattern : String := "\\d+"

/-- The pattern of a number: digits, and more digits after a point. -/
def numberPattern : String := "\\d+(?:\\.\\d+)?"

/-- A token with the given pattern and no flags. -/
def tokenOf (pattern : String) : Description :=
  .token (.source (.text pattern.toList)) ""

/-- A numeral with a point is a double, any other an integer. -/
def readNumber : Value → Except Fault Value
  | .str text => if text.contains '.' then Value.toFloat (.str text) else Value.toInteger (.str text)
  | _ => .error .wrongKind

/-- A pattern after blanks; the value is what the pattern matched. -/
def lexeme (pattern : String) : Description :=
  .transform (.sequence [tokenOf "\\s*", tokenOf pattern]) "_second" (Value.elementAt 1)

/-- The rules of a calculator, given its terminals:

    calc   <- expr end
    expr   <- term (("+" / "-") term)*
    term   <- unary (("*" / "/") unary)*
    unary  <- "-" unary / factor
    factor <- number / "(" expr ")" -/
def rules (number sum product minus left right finish : Description) :
    List (String × Description) :=
  let expr := reference "expr"
  let term := reference "term"
  let unary := reference "unary"
  let factor := reference "factor"
  [("calc", .transform (.sequence [expr, finish]) "<lambda>" (Value.elementAt 0)),
    ("expr", .transform (.sequence [term, .star (.sequence [sum, term])]) "_fold"
      Action.foldOperators),
    ("term", .transform (.sequence [unary, .star (.sequence [product, unary])]) "_fold"
      Action.foldOperators),
    ("unary", .choice [.transform (.sequence [minus, unary]) "<lambda>"
      (fun value => do (← value.elementAt 1).negate), factor]),
    ("factor", .choice [number, .transform (.sequence [left, expr, right]) "_second"
      (Value.elementAt 1)])]

/-- The rules of the calculator over text. Blanks may stand before each token and at the end. -/
def textRules : List (String × Description) :=
  rules (.transform (lexeme numberPattern) "_number" readNumber)
    (lexeme "[\\+\\-]") (lexeme "[\\*/]") (lexeme "[\\-]") (lexeme "\\(") (lexeme "\\)")
    (.sequence [tokenOf "\\s*", .terminal .endOfInput])

/-- The keyword tokens of an operator that is one of several characters. -/
def operatorToken (operators : List Char) : Description :=
  let body := match operators.map fun c => Description.terminal (.keyword [c]) with
    | [only] => only
    | several => .choice several
  .transform body "<lambda>" Value.lexeme

/-- The rules of the calculator over tokens. -/
def tokenRules : List (String × Description) :=
  rules
    (.transform (.terminal (.ofKind "NUMBER".toList)) "<lambda>"
      fun value => do readNumber (← value.lexeme))
    (operatorToken ['+', '-']) (operatorToken ['*', '/']) (operatorToken ['-'])
    (.terminal (.keyword ['('])) (.terminal (.keyword [')'])) (.terminal .endOfInput)

/-- The lexer of the calculator over tokens. -/
def lexer : Except Fault Lexer :=
  Lexer.compile [("NUMBER".toList, .source (.text numberPattern.toList))]
    [.source (.text "\\s+".toList)] [['+'], ['-'], ['*'], ['/'], ['('], [')']]

/-- Cuts a text into the tokens of the calculator. -/
def tokenize (text : List Char) : Except Fault (List Token) := do (← lexer).tokenize text

/-- Nested parentheses; the value is the depth. -/
def parensRules : List (String × Description) :=
  [("parens", .transform
    (.sequence [.literal (.str ['(']), .optional (reference "parens") (.int 0),
      .literal (.str [')'])])
    "<lambda>" fun value => do (← value.elementAt 1).add (.int 1))]

/-- Three integers with blanks between them. -/
def triplet : Description :=
  let number : Description := .transform (tokenOf digitsPattern) "int" Value.toInteger
  let blanks := tokenOf "\\s*"
  .sequence [number, blanks, number, blanks, number]

/-- The workspace in which the rules of a grammar are bound. -/
def workspaceOf (rules : List (String × Description)) : Except Fault Workspace :=
  match (Description.buildRules rules).run.run {} with
  | (.ok (), workspace) => .ok workspace
  | (.error fault, _) => .error fault

/-- A report without events. -/
def faultReport (fault : Fault) : Report α := ⟨.error fault, [], {}⟩

/-- Parses an input from a rule of a grammar. -/
def parseWith (fuel : Nat) (rules : List (String × Description)) (start : Option String)
    (input : Value) (tracer : Option Tracer := none) : Option (Report Success) :=
  match workspaceOf rules with
  | .error fault => some (faultReport fault)
  | .ok workspace =>
    match (startRule start).run.run workspace with
    | (.error fault, _) => some (faultReport fault)
    | (.ok parser, ready) => parse fuel ready parser input tracer

/-- Evaluates an expression over text. -/
def parseText (fuel : Nat) (input : Value) (start : Option String)
    (tracer : Option Tracer := none) : Option (Report Success) :=
  parseWith fuel textRules start input tracer

/-- Evaluates an expression over tokens. -/
def parseTokens (fuel : Nat) (tokens : List Token) (start : Option String)
    (tracer : Option Tracer := none) : Option (Report Success) :=
  parseWith fuel tokenRules start (.tuple (tokens.map .token)) tracer

/-- Measures nested parentheses. -/
def parseParens (fuel : Nat) (input : Value) (start : Option String)
    (tracer : Option Tracer := none) : Option (Report Success) :=
  parseWith fuel parensRules start input tracer

/-- Reads three integers. -/
def parseTriplet (fuel : Nat) (input : Value) (tracer : Option Tracer := none) :
    Option (Report Success) :=
  match triplet.build.run.run {} with
  | (.error fault, _) => some (faultReport fault)
  | (.ok parser, workspace) => parse fuel workspace parser input tracer

end Peg.Calculator
