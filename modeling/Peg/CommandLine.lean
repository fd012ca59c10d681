import Peg.Calculator
import Peg.CommandLine.Arguments
import Peg.CommandLine.Folder

/-! # The command line

Carries out a command: reads its text, runs a grammar and prints the result, or prints what went
wrong. A trace goes to the error output as well. -/

namespace Peg.CommandLine

/-- How a command ends. -/
inductive CommandEnd where
  /-- The arguments were not carried out; the message goes to the error output. -/
  | stopped (code : Nat) (message : String)
  /-- The command ended with a code. -/
  | returned (code : Nat) (output errors : String)
  /-- A fault escaped while the result was printed. -/
  | escaped (fault : Fault) (output errors : String)

/-- What goes wrong within a command. -/
inductive CommandFault where
  /-- The text cannot be read. -/
  | unreadable (cause : ReadFault)
  /-- The grammar cannot be run. -/
  | failed (cause : Fault)

/-- The report of a fault. -/
def CommandFault.report : CommandFault → String
  | .unreadable cause => s!"[ERROR] {cause.className} {cause.message}\n"
  | .failed (.parse failure) => s!"[PARSE ERROR]\n{failure.message}\n"
  | .failed cause =>
    let message := cause.message?.getD ""
    match cause with
    | .grammar _ | .unexpectedChar .. => s!"[SYNTAX ERROR]\n{message}\n"
    | _ => s!"[ERROR] {cause.className} {message}\n"

/-- The text of a command, given how files are read; `none` if there is no text. -/
def Origin.read (readFile : List Char → Except ReadFault (List UInt8)) :
    Origin → Except ReadFault (Option (List Char))
  | .text content => .ok content
  | .file none => .error .noPath
  | .file (some path) => do
    match Text.decodeUtf8 (← readFile path) with
    | .ok decoded => return some (Text.normalizeLineEndings decoded)
    | .error error => throw (.undecodable error)

/-- What a grammar runs on: the text, or an empty list if there is none. -/
def inputOf : Option (List Char) → Value
  | some text => .str text
  | none => .list []

/-- The tracer of a command. -/
def Command.tracer? (command : Command) : Option Tracer :=
  if command.debug then some .printing else none

/-- A line of the error output that only a trace shows. -/
def Command.debugLine (command : Command) (line : String) : String :=
  if command.debug then "[DEBUG] " ++ line ++ "\n" else ""

/-- The result of a run: what was reported before, the trace, and the answer turned into a
result. -/
def finish (before : String) (report : Option (Report Success))
    (result : Success → Except Fault Value) : String × Except CommandFault Value :=
  match report with
  | none => (before, .error (.failed .wrongKind))
  | some report =>
    let answer := match report.answer.bind result with
      | .ok value => .ok value
      | .error fault => .error (.failed fault)
    (before ++ eventLines "  " report.events, answer)

/-- Runs a calculator. -/
def Command.calculate (command : Command) (fuel : Nat) (text : Option (List Char)) :
    String × Except CommandFault Value :=
  if command.tokens then
    match Calculator.tokenize (text.getD []) with
    | .error fault => ("", .error (.failed fault))
    | .ok tokens =>
      finish (command.debugLine s!"tokens={tokens.length}")
        (Calculator.parseTokens fuel tokens none command.tracer?) fun success => .ok success.result
  else
    finish "" (Calculator.parseText fuel (inputOf text) none command.tracer?) fun success =>
      .ok success.result

/-- The unconsumed input as it stands in a result. -/
def unconsumedNote (success : Success) : Except Fault String := do
  return " unconsumed=" ++ (← success.unconsumed.write)

/-- Runs the grammar of a command on a text: the error output and the result. -/
def Command.evaluate (command : Command) (fuel : Nat) (text : Option (List Char)) :
    String × Except CommandFault Value :=
  match command.name with
  | .calc => command.calculate fuel text
  | .triplet =>
    finish "" (Calculator.parseTriplet fuel (inputOf text) command.tracer?) fun success => do
      return .ofString ((← success.result.write) ++ (← unconsumedNote success))
  | .parens =>
    finish "" (Calculator.parseParens fuel (inputOf text) none command.tracer?) fun success => do
      return .ofString ("depth=" ++ (← success.result.write) ++ (← unconsumedNote success))

/-- Carries out a command. -/
def Command.execute (command : Command) (fuel : Nat)
    (readFile : List Char → Except ReadFault (List UInt8)) : CommandEnd :=
  match command.origin.read readFile with
  | .error fault => .returned 2 "" (CommandFault.unreadable fault).report
  | .ok text =>
    let ready := command.debugLine s!"input ready | chars={(inputOf text).length}"
    match command.evaluate fuel text with
    | (errors, .error fault) => .returned 2 "" (ready ++ errors ++ fault.report)
    | (errors, .ok value) =>
      if value.isWritable then .returned 0 (value.printed ++ "\n") (ready ++ errors)
      else .escaped .integerUnwritable "" (ready ++ errors)

/-- Reads arguments and carries out the command. -/
def runArguments (fuel : Nat) (readFile : List Char → Except ReadFault (List UInt8))
    (arguments : List (List Char)) : CommandEnd :=
  match readArguments arguments with
  | .ok command => command.execute fuel readFile
  | .error .help => .stopped 0 ""
  | .error (.usage program message) => .stopped 2 (program ++ ": error: " ++ message ++ "\n")

end Peg.CommandLine
