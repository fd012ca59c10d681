import Peg.Trace

/-! # Parsers

A parser is an expression: terminals that look at the input, and combinators that only decide what
runs next. Rules are referred to by the number of their cell, so expressions are finite even when
a grammar is recursive. -/

namespace Peg

/-- What a terminal finds at the start of its input. -/
inductive Verdict where
  /-- A value, and the input after it. -/
  | matched (value rest : Value)
  /-- Something else than the expected payload. -/
  | missed (payload : Value)

/-- The terminals. -/
inductive Terminal where
  /-- The text matched by a pattern. -/
  | token (pattern : Pattern)
  /-- A fixed sequence. -/
  | literal (text : Value)
  /-- One element that passes a test. -/
  | satisfy (test : Value → Except Fault Bool) (expected : Value)
  /-- The end of the input. -/
  | endOfInput
  /-- Always matches, reading nothing. -/
  | succeed (value : Value)
  /-- Never matches. -/
  | fail (payload : Value)
  /-- A lexical token of a kind, under a label of its own. -/
  | lexical (label : String) (kind : List Char)

namespace Terminal

/-- One element equal to a value. -/
def item (value : Value) : Terminal := .satisfy (fun element => .ok (element.same value)) value

/-- Any one element. -/
def anyItem : Terminal := .satisfy (fun _ => .ok true) (.ofString "<any>")

/-- A lexical token of a kind. -/
def ofKind (kind : List Char) : Terminal :=
  .lexical ("kind(" ++ String.ofList kind ++ ")") kind

/-- A keyword. -/
def keyword (text : List Char) : Terminal := .lexical ("keyword(" ++ Text.quoted text ++ ")") text

/-- The label of a terminal in traces. -/
def label : Terminal → String
  | .token pattern => "token(" ++ pattern.described ++ ")"
  | .literal text => "literal(" ++ text.written ++ ")"
  | .satisfy _ expected => "satisfy(" ++ expected.written ++ ")"
  | .endOfInput => "end_of_input"
  | .succeed _ => "succeed_with"
  | .fail _ => "fail_with"
  | .lexical label _ => label

/-- Matches a pattern at the start of text or bytes of its own kind. -/
def matchPattern (pattern : Pattern) (input : Value) : Except Fault Verdict :=
  match pattern.source, input with
  | .text _, .str text =>
    match pattern.matchLength? [] text with
    | some length => .ok (.matched (.str (text.take length)) (.str (text.drop length)))
    | none => .ok (.missed (.pattern pattern))
  | .bytes _, .bytes content =>
    match pattern.matchLength? [] (Text.ofBytes content) with
    | some length => .ok (.matched (.bytes (content.take length)) (.bytes (content.drop length)))
    | none => .ok (.missed (.pattern pattern))
  | _, _ => .error .notText

/-- The first element, if it passes the test. -/
def matchElement (test : Value → Except Fault Bool) (expected input : Value) :
    Except Fault Verdict :=
  if input.isSequence then
    match input.head? with
    | none => .ok (.missed expected)
    | some element => do
      if ← test element then return .matched element (input.drop 1)
      else return .missed expected
  else .error .wrongKind

/-- The element is a lexical token of the kind. -/
def isOfKind (kind : List Char) : Value → Except Fault Bool
  | .token lexeme => .ok (lexeme.kind == kind)
  | _ => .error .missingAttribute

/-- What a terminal finds at the start of an input. -/
def verdict : Terminal → Value → Except Fault Verdict
  | .token pattern, input => matchPattern pattern input
  | .literal text, input =>
    if input.isSequence then
      let start := input.take text.length
      .ok (if start.same text then .matched start (input.drop text.length) else .missed text)
    else .error .wrongKind
  | .satisfy test expected, input => matchElement test expected input
  | .endOfInput, input =>
    if input.isSequence then
      .ok (if input.length = 0 then .matched .null input
        else .missed (.ofString "<end of input>"))
    else .error .wrongKind
  | .succeed value, input => .ok (.matched value input)
  | .fail payload, _ => .ok (.missed payload)
  | .lexical _ kind, input => matchElement (isOfKind kind) (.str kind) input

end Terminal

/-- How a parser ends: with a value and the input after it, or with a payload and the input it
gives back. -/
inductive Outcome where
  /-- The parser matched. -/
  | ok (value rest : Value)
  /-- The parser failed. -/
  | fail (payload rest : Value)

/-- A terminal written by hand. It has no label, no trace sees it, and its failures are not noted.
It may remember its calls; whatever it remembers, its answer is a function of the inputs it was
called on. -/
structure Foreign where
  /-- The number under which the inputs of its calls are kept, if it remembers them. -/
  memory : Option Nat
  /-- The answer to an input, given the inputs of the earlier calls, latest first. -/
  respond : List Value → Value → Except Fault Outcome

namespace Foreign

/-- A fixed number of elements. -/
def take (count : Int) : Foreign where
  memory := none
  respond _ input :=
    if input.isSequence then
      if (input.length : Int) < count then .ok (.fail (.ofString "take") input)
      else
        let place := Text.clampOffset input.length count
        .ok (.ok (input.take place) (input.drop place))
    else .error .wrongKind

/-- Fails, reporting the input from an offset on as its rest. The payload may turn out to be a
fault. -/
def failAt (payload : Except Fault Value) (offset : Int) : Foreign where
  memory := none
  respond _ input := do
    let found ← payload
    if input.isSequence then
      .ok (.fail found (input.drop (Text.clampOffset input.length offset)))
    else .error .wrongKind

/-- Matches nothing until it has been called more than `limit` times. -/
def tiring (memory : Nat) (limit : Int) : Foreign where
  memory := some memory
  respond earlier input :=
    if limit < (earlier.length : Int) + 1 then .ok (.fail (.ofString "tired") input)
    else .ok (.ok .null input)

end Foreign

/-- What a nested parse makes of its outcome. -/
inductive NestedForm where
  /-- The value alone; a failure is a fault. -/
  | result
  /-- A list that tells success from failure, with the value and the rest. -/
  | outcome

/-- The name of a nested parse in labels. -/
def NestedForm.name : NestedForm → String
  | .result => "subparse"
  | .outcome => "suboutcome"

/-- A parser. -/
inductive Parser where
  /-- A terminal. -/
  | terminal (leaf : Terminal)
  /-- A terminal written by hand. -/
  | foreign (leaf : Foreign)
  /-- All parsers in order. -/
  | sequence (first : Parser) (others : List Parser)
  /-- The first parser that matches. -/
  | choice (first : Parser) (others : List Parser)
  /-- Zero or more times. -/
  | star (body : Parser)
  /-- One or more times. -/
  | plus (body : Parser)
  /-- The parser, or a fixed value in its place. -/
  | optional (body : Parser) (absent : Value)
  /-- Looks ahead: matches like its body and reads nothing. -/
  | ahead (body : Parser)
  /-- Looks ahead: matches when its body does not. -/
  | notAhead (body : Parser)
  /-- Applies a named function to the value of its body. -/
  | transform (body : Parser) (name : String) (function : Value → Except Fault Value)
  /-- Parses the value of its body with a second parser. -/
  | nested (body inner : Parser) (form : NestedForm)
  /-- Shows its body in traces under a name. -/
  | traced (name : String) (body : Parser)
  /-- The rule in a cell. -/
  | rule (cell : Nat)
  /-- A value in the place of a parser; it cannot run. -/
  | constant (value : Value)

namespace Parser

/-- The label under which a parser shows in traces. Rules show under their names, which their
cells hold. -/
def label? : Parser → Option String
  | .terminal leaf => some leaf.label
  | .foreign _ => none
  | .sequence .. => some "sequence"
  | .choice .. => some "choice"
  | .star _ => some "star"
  | .plus _ => some "plus"
  | .optional .. => some "optional"
  | .ahead _ => some "and_predicate"
  | .notAhead _ => some "not_predicate"
  | .transform _ name _ => some ("transform(" ++ name ++ ")")
  | .nested _ _ form => some ("transform(" ++ form.name ++ ")")
  | .traced name _ => some name
  | .rule _ => none
  | .constant _ => none

/-- The value that stands in the place of a parser. -/
def constant? : Parser → Option Value
  | .constant value => some value
  | _ => none

end Parser

end Peg
