import Peg.Failure

/-! # Faults

Everything that can stop a computation, as one type of causes. The class and the wording of each
cause stand in `Fault.className` and `Fault.message?`. -/

namespace Peg

/-- What is wrong with a grammar. -/
inductive GrammarFault where
  /-- A combinator for several parsers was given fewer than two. -/
  | tooFewParsers (combinator : String) (count : Nat)
  /-- A flag letter is unknown. -/
  | unknownFlag (letter : Char)
  /-- Flags were given for a pattern that has its own. -/
  | flagsForCompiled (flags : String) (pattern : Pattern)
  /-- A rule was bound a second time. -/
  | alreadyDefined (name : String)
  /-- A rule was bound to something that is no parser. -/
  | boundToNonParser (name : String) (value : Value)
  /-- A rule without a definition was used. -/
  | undefinedRule (name : String)
  /-- A deferred definition produced something that is no parser. -/
  | resolvedToNonParser (name : String) (value : Value)
  /-- A rule name is that of a member of grammars. -/
  | shadowsMember (name : String)
  /-- The grammar has no start rule. -/
  | noRules
  /-- Rules are mentioned and not defined. -/
  | undefinedRules (names : List String)
  /-- The start rule is not defined. -/
  | undefinedStart (name : String)

/-- The wording of a fault of a grammar. -/
def GrammarFault.message : GrammarFault → String
  | .tooFewParsers combinator count => s!"{combinator} needs at least two parsers, got {count}"
  | .unknownFlag letter =>
    "unknown regex flag " ++ Text.quoted [letter] ++ " (expected one of imsxA)"
  | .flagsForCompiled flags pattern =>
    "flags " ++ Text.quoted flags.toList ++ " given for an already compiled pattern "
      ++ pattern.described
  | .alreadyDefined name => s!"PEG: rule '{name}' is already defined"
  | .boundToNonParser name value =>
    s!"PEG: rule '{name}' must be bound to a parser, got " ++ value.written
  | .undefinedRule name => s!"PEG: undefined rule '{name}'"
  | .resolvedToNonParser name value =>
    s!"PEG: rule '{name}' resolved to a non-parser " ++ value.written
  | .shadowsMember name =>
    s!"PEG: rule name '{name}' shadows a Grammar attribute; use g["
      ++ Text.quoted name.toList ++ "] instead"
  | .noRules => "PEG: empty grammar (no rule defined)"
  | .undefinedRules names =>
    "PEG: undefined rule(s): " ++ ", ".intercalate (names.map fun name => s!"'{name}'")
  | .undefinedStart name => s!"PEG: start rule '{name}' is not defined"

/-- Which sequence an index fell outside of. -/
inductive IndexedKind where
  /-- A list. -/
  | list
  /-- A tuple. -/
  | tuple
  /-- A text. -/
  | text
  /-- A row of bytes. -/
  | bytes

/-- What can stop a computation. -/
inductive Fault where
  /-- The grammar is malformed. -/
  | grammar (fault : GrammarFault)
  /-- The parse failed as a whole. -/
  | parse (failure : Failure)
  /-- No token starts at a place of a text. -/
  | unexpectedChar (source : List Char) (offset : Nat) (line column : Int)
  /-- A pattern is malformed. -/
  | malformedPattern
  /-- A repetition in a pattern has too high a count. -/
  | repetitionTooLarge
  /-- A value of the wrong kind was used. -/
  | wrongKind
  /-- A pattern was held against something that is no text. -/
  | notText
  /-- Only one of the two final continuations was given. -/
  | unpairedContinuations
  /-- A value lacks the attribute asked for. -/
  | missingAttribute
  /-- A private attribute of a grammar does not exist. -/
  | privateAttribute (name : String)
  /-- A name is not in a table; the name is given as written. -/
  | unknownKey (key : String)
  /-- An index fell outside a sequence. -/
  | outOfRange (kind : IndexedKind)
  /-- A text, given as written, is no integer. -/
  | notAnInteger (text : String)
  /-- An integer numeral has too many digits. -/
  | integerTooLong (digits : Nat)
  /-- An integer has too many digits to be written. -/
  | integerUnwritable
  /-- A text, given as written, is no decimal numeral. -/
  | notAFloat (text : String)
  /-- The value that is not a number has no integer part. -/
  | nanToInteger
  /-- Infinity has no integer part. -/
  | infinityToInteger
  /-- Too few items to take apart. -/
  | tooFewItems (count : Nat)
  /-- Too many items to take apart. -/
  | tooManyItems
  /-- The extreme of nothing was asked for. -/
  | emptyExtreme (function : String)
  /-- A function that always fails was called. -/
  | boom
  /-- A predicate that always fails was called. -/
  | predicate
  /-- A tracer refused an event. -/
  | tracer (kind name : String)
  /-- Division by the integer zero. -/
  | divisionByZero
  /-- Division by zero where one operand is a double. -/
  | floatDivisionByZero
  /-- An integer is too large for a double. -/
  | integerTooLargeForFloat
  /-- A quotient is too large for a double. -/
  | quotientTooLarge
  /-- A count does not fit into a machine word. -/
  | countOutOfRange
  /-- A sequence would be longer than a machine word can tell. -/
  | repeatedTooLong (kind : IndexedKind)
  /-- A sequence would not fit into memory. -/
  | outOfMemory

namespace Fault

/-- The class of a fault. -/
def className : Fault → String
  | .grammar _ => "GrammarError"
  | .parse _ => "ParseFailure"
  | .unexpectedChar .. => "SyntaxError"
  | .malformedPattern => "regex.error"
  | .wrongKind | .notText | .unpairedContinuations => "TypeError"
  | .missingAttribute | .privateAttribute _ => "AttributeError"
  | .unknownKey _ => "KeyError"
  | .outOfRange _ => "IndexError"
  | .notAnInteger _ | .integerTooLong _ | .integerUnwritable | .notAFloat _ | .nanToInteger
  | .tooFewItems _ | .tooManyItems | .emptyExtreme _ | .boom | .predicate
  | .tracer .. => "ValueError"
  | .divisionByZero | .floatDivisionByZero => "ZeroDivisionError"
  | .infinityToInteger | .integerTooLargeForFloat | .quotientTooLarge | .repetitionTooLarge
  | .countOutOfRange | .repeatedTooLong _ => "OverflowError"
  | .outOfMemory => "MemoryError"

/-- The message of an index outside a sequence. -/
def outOfRangeMessage : IndexedKind → String
  | .list => "list index out of range"
  | .tuple => "tuple index out of range"
  | .text => "string index out of range"
  | .bytes => "index out of range"

/-- The message of a sequence that is repeated too often. -/
def repeatedTooLongMessage : IndexedKind → String
  | .bytes => "repeated bytes are too long"
  | _ => "repeated string is too long"

/-- The advice at the end of a message about too many digits. -/
def digitLimitAdvice : String := "; use sys.set_int_max_str_digits() to increase the limit"

/-- The message of a fault; `none` where the class says it all. -/
def message? : Fault → Option String
  | .grammar fault => some fault.message
  | .parse failure => some failure.message
  | .unexpectedChar source offset line column =>
    some ("Unexpected char " ++ Text.quoted ((source.drop offset).take 1)
      ++ s!" at {line}:{column}\n" ++ String.ofList (Text.caretSnippet source offset))
  | .malformedPattern | .wrongKind | .missingAttribute => none
  | .notText => some "expected string or buffer"
  | .unpairedContinuations => some "parse(): succeed and fail must be given together"
  | .privateAttribute name => some name
  | .unknownKey key => some key
  | .outOfRange kind => some (outOfRangeMessage kind)
  | .notAnInteger text => some ("invalid literal for int() with base 10: " ++ text)
  | .integerTooLong digits =>
    some (s!"Exceeds the limit ({Number.digitLimit} digits) for integer string conversion: "
      ++ s!"value has {digits} digits" ++ digitLimitAdvice)
  | .integerUnwritable =>
    some (s!"Exceeds the limit ({Number.digitLimit} digits) for integer string conversion"
      ++ digitLimitAdvice)
  | .notAFloat text => some ("could not convert string to float: " ++ text)
  | .nanToInteger => some "cannot convert float NaN to integer"
  | .infinityToInteger => some "cannot convert float infinity to integer"
  | .tooFewItems count => some s!"not enough values to unpack (expected 2, got {count})"
  | .tooManyItems => some "too many values to unpack (expected 2)"
  | .emptyExtreme function => some (function ++ "() arg is an empty sequence")
  | .boom => some "boom"
  | .predicate => some "predicate"
  | .tracer kind name => some s!"tracer {kind} {name}"
  | .divisionByZero => some "division by zero"
  | .floatDivisionByZero => some "float division by zero"
  | .integerTooLargeForFloat => some "int too large to convert to float"
  | .quotientTooLarge => some "integer division result too large for a float"
  | .repetitionTooLarge => some "the repetition number is too large"
  | .countOutOfRange => some "cannot fit 'int' into an index-sized integer"
  | .repeatedTooLong kind => some (repeatedTooLongMessage kind)
  | .outOfMemory => some ""

end Fault

/-- The written form of a value, or a fault if it has none. -/
def Value.write (value : Value) : Except Fault String :=
  if value.isWritable then .ok value.written else .error .integerUnwritable

namespace Failure

/-- The offset of a failure: what of the whole input comes before the unconsumed part. -/
def positionIn (source unconsumed : Value) : Except Fault Int :=
  if source.isSequence && unconsumed.isSequence then
    .ok ((source.length : Int) - unconsumed.length)
  else .error .wrongKind

/-- The list of alternatives: the given ones, or `expected` alone if there are none. -/
def alternativesOr (expected alternatives : Value) : Except Fault (List Value) :=
  if alternatives.truthy then
    match alternatives.elements? with
    | some items => .ok items
    | none => .error .wrongKind
  else .ok [expected]

/-- Puts a failure together. Parts that are null fall back: what was expected to the result, the
alternatives to what was expected, and the rewound input to the unconsumed one. Without the whole
input there is no position. -/
def report (result unconsumed source expected rewound alternatives : Value) :
    Except Fault Failure := do
  let first := match expected with
    | .null => result
    | value => value
  let options ← alternativesOr first alternatives
  let position ← match source with
    | .null => pure none
    | _ => some <$> positionIn source unconsumed
  let lineColumn := match source, position with
    | .str text, some offset => some (Text.lineColumn text offset)
    | _, _ => none
  let start := match rewound with
    | .null => unconsumed
    | value => value
  if Value.areWritable options && (position.isSome || result.isWritable) then
    return ⟨result, unconsumed, first, options, start, source, position, lineColumn⟩
  else throw .integerUnwritable

end Failure

end Peg
