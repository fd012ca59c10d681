import Peg.Action
import Peg.Calculator
import Peg.CommandLine
import Peg.CommandLine.Arguments
import Peg.CommandLine.Folder
import Peg.Description
import Peg.Failure
import Peg.Fault
import Peg.Lexer
import Peg.Machine
import Peg.Main
import Peg.Number.Binary
import Peg.Number.Numeral
import Peg.Number.Shortest
import Peg.Parse
import Peg.Parser
import Peg.Pattern
import Peg.Pattern.CharClass
import Peg.Pattern.Reader
import Peg.Pattern.Regex
import Peg.Pattern.Search
import Peg.Proofs.Accounting
import Peg.Proofs.BuiltIn
import Peg.Proofs.Calculator.Answers
import Peg.Proofs.Calculator.Arithmetic
import Peg.Proofs.Calculator.Cut
import Peg.Proofs.Calculator.FrontEnd
import Peg.Proofs.Calculator.Impasse
import Peg.Proofs.Calculator.Parens
import Peg.Proofs.Calculator.Prefix
import Peg.Proofs.Calculator.Reading
import Peg.Proofs.Calculator.Scannerless
import Peg.Proofs.Calculator.Sentence
import Peg.Proofs.Calculator.Tokenised
import Peg.Proofs.Calculator.Tokens
import Peg.Proofs.CallTree
import Peg.Proofs.Calls
import Peg.Proofs.CheckedGrammar
import Peg.Proofs.Checkpoints
import Peg.Proofs.CommandLine
import Peg.Proofs.Composition
import Peg.Proofs.DerivedForms
import Peg.Proofs.Diagnosis
import Peg.Proofs.Edit
import Peg.Proofs.EmptyMatch
import Peg.Proofs.Equality
import Peg.Proofs.Evaluation
import Peg.Proofs.FailurePlace
import Peg.Proofs.Flattening
import Peg.Proofs.Footprint
import Peg.Proofs.GrammarFrame
import Peg.Proofs.GreedyMatch
import Peg.Proofs.Growth
import Peg.Proofs.History
import Peg.Proofs.Ledger
import Peg.Proofs.Lexer.Coordinates
import Peg.Proofs.Lexer.Coverage
import Peg.Proofs.Lexer.KeywordTable
import Peg.Proofs.Lexer.MatchingOrder
import Peg.Proofs.Lexer.Place
import Peg.Proofs.Lexer.Scan
import Peg.Proofs.Likeness
import Peg.Proofs.Lockstep
import Peg.Proofs.LookAhead
import Peg.Proofs.Notes
import Peg.Proofs.Observation
import Peg.Proofs.Origin
import Peg.Proofs.Position
import Peg.Proofs.QuietParse
import Peg.Proofs.Reachable
import Peg.Proofs.Rebuilding
import Peg.Proofs.RecordMerge
import Peg.Proofs.Rejection
import Peg.Proofs.Repetition
import Peg.Proofs.Rest
import Peg.Proofs.Retracing
import Peg.Proofs.Run
import Peg.Proofs.Simulation
import Peg.Proofs.SingleAssignment
import Peg.Proofs.StartRule
import Peg.Proofs.State
import Peg.Proofs.Termination
import Peg.Proofs.Trampoline
import Peg.Proofs.Unfolding
import Peg.Proofs.Visits
import Peg.Proofs.WellFormed
import Peg.Record
import Peg.Session
import Peg.Text.Blank
import Peg.Text.CodeRange
import Peg.Text.Digit
import Peg.Text.Letter
import Peg.Text.LetterCase
import Peg.Text.Line
import Peg.Text.Position
import Peg.Text.Printable
import Peg.Text.Quoted
import Peg.Text.Utf8
import Peg.Text.Word
import Peg.Trace
import Peg.Trampoline
import Peg.Value
import Peg.Value.Arithmetic
import Peg.Value.Conversion
import Peg.Value.Order
import Peg.Value.Written
import Peg.Workspace
