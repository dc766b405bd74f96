import ServiceSyntax.CommandLine.Arguments
import ServiceSyntax.CommandLine.Request
import ServiceSyntax.CommandLine.Run
import ServiceSyntax.Decimal.Double
import ServiceSyntax.Decimal.Numeral
import ServiceSyntax.Decimal.Shortest
import ServiceSyntax.Diagnostic.Context
import ServiceSyntax.Diagnostic.EditDistance
import ServiceSyntax.Diagnostic.Message
import ServiceSyntax.Diagnostic.Scope
import ServiceSyntax.Diagnostic.Suggestion
import ServiceSyntax.Files.Host
import ServiceSyntax.Files.Path
import ServiceSyntax.Files.Tree
import ServiceSyntax.Main
import ServiceSyntax.Parse.Cursor
import ServiceSyntax.Parse.Parser
import ServiceSyntax.Parse.Vocabulary
import ServiceSyntax.Proofs.Lexis.Gap
import ServiceSyntax.Proofs.Lexis.Lexeme
import ServiceSyntax.Proofs.Lexis.Literal
import ServiceSyntax.Proofs.Lexis.Printed
import ServiceSyntax.Proofs.Lexis.Reading
import ServiceSyntax.Proofs.Parse.Advance
import ServiceSyntax.Proofs.Parse.Replay
import ServiceSyntax.Proofs.Scan.Look
import ServiceSyntax.Proofs.Scan.Munch
import ServiceSyntax.Proofs.Scan.Next
import ServiceSyntax.Proofs.Scan.Place
import ServiceSyntax.Proofs.Scan.Rescan
import ServiceSyntax.Proofs.Scan.Span
import ServiceSyntax.Proofs.Scan.Tokenize
import ServiceSyntax.Proofs.Text.Classes
import ServiceSyntax.Proofs.Text.Position
import ServiceSyntax.Report.Json
import ServiceSyntax.Report.Tokens
import ServiceSyntax.Report.Vocabulary
import ServiceSyntax.Scan.Automaton
import ServiceSyntax.Scan.Pending
import ServiceSyntax.Scan.Scanner
import ServiceSyntax.Scan.Source
import ServiceSyntax.Scan.Tokens
import ServiceSyntax.Text.Base64
import ServiceSyntax.Text.Blank
import ServiceSyntax.Text.Digit
import ServiceSyntax.Text.Letter
import ServiceSyntax.Text.Lines
import ServiceSyntax.Text.Printable
import ServiceSyntax.Text.Quoted
import ServiceSyntax.Text.Ranges
import ServiceSyntax.Text.Search
import ServiceSyntax.Text.Slice
import ServiceSyntax.Text.Utf8
import ServiceSyntax.Token.Basic
import ServiceSyntax.Token.Kind
import ServiceSyntax.Vocabulary.Load
import ServiceSyntax.Vocabulary.Packaged
import ServiceSyntax.Vocabulary.Registry
import ServiceSyntax.Vocabulary.Scope
import ServiceSyntax.Vocabulary.Session
import ServiceSyntax.Yaml.Assembly
import ServiceSyntax.Yaml.Document
import ServiceSyntax.Yaml.Key
import ServiceSyntax.Yaml.Layout
import ServiceSyntax.Yaml.Lexeme
import ServiceSyntax.Yaml.Merge
import ServiceSyntax.Yaml.Node
import ServiceSyntax.Yaml.Reader
import ServiceSyntax.Yaml.Scalar
import ServiceSyntax.Yaml.Tag
import ServiceSyntax.Yaml.Timestamp
import ServiceSyntax.Yaml.Token
import ServiceSyntax.Yaml.Value
import ServiceSyntax.Proofs.Scan.Course
import ServiceSyntax.Proofs.Scan.Layout
import ServiceSyntax.Proofs.Parse.Layout
import ServiceSyntax.Proofs.Text.Lines
import ServiceSyntax.Proofs.Scan.Steady
import ServiceSyntax.Proofs.Scan.Counted
import ServiceSyntax.Proofs.Scan.Beneath
import ServiceSyntax.Proofs.Scan.Retained
import ServiceSyntax.Proofs.Parse.LineBreak
import ServiceSyntax.Proofs.Parse.Call
import ServiceSyntax.Proofs.Parse.Run
import ServiceSyntax.Proofs.Parse.Production
import ServiceSyntax.Proofs.Parse.Attempt
import ServiceSyntax.Proofs.Parse.Ahead
import ServiceSyntax.Proofs.Parse.Follow
import ServiceSyntax.Proofs.Parse.Detour
import ServiceSyntax.Proofs.Scan.Resync
import ServiceSyntax.Proofs.Diagnostic.Excerpt
import ServiceSyntax.Proofs.Diagnostic.EditDistance
import ServiceSyntax.Proofs.Parse.Holding
import ServiceSyntax.Proofs.Parse.Placed
import ServiceSyntax.Proofs.Parse.Orderly
import ServiceSyntax.Proofs.Parse.Reading
import ServiceSyntax.Proofs.Diagnostic.Further
import ServiceSyntax.Proofs.Parse.Trace
import ServiceSyntax.Proofs.Parse.Discipline
import ServiceSyntax.Proofs.Text.Encoding
import ServiceSyntax.Proofs.Scan.Encoded
import ServiceSyntax.Proofs.Scan.Listing
import ServiceSyntax.Proofs.Scan.Order
import ServiceSyntax.Proofs.CommandLine.Tokens
import ServiceSyntax.Proofs.Vocabulary.Load
import ServiceSyntax.Proofs.Vocabulary.Registrations
import ServiceSyntax.Proofs.Vocabulary.History
import ServiceSyntax.Proofs.Vocabulary.Occurrences
import ServiceSyntax.Proofs.Yaml.Equality
import ServiceSyntax.Proofs.Vocabulary.Merge
import ServiceSyntax.Proofs.Vocabulary.Document
import ServiceSyntax.Proofs.CommandLine.Keywords
import ServiceSyntax.Proofs.Diagnostic.Caret
import ServiceSyntax.Proofs.Scan.Offence
import ServiceSyntax.Proofs.Scan.Consumed
import ServiceSyntax.Proofs.Diagnostic.Correction
import ServiceSyntax.Proofs.Diagnostic.Construct
import ServiceSyntax.Proofs.Scan.Written
import ServiceSyntax.Proofs.Parse.Mismatch
import ServiceSyntax.Proofs.Parse.Consumption
import ServiceSyntax.Proofs.Lexis.Pieces
import ServiceSyntax.Proofs.Lexis.Joined
import ServiceSyntax.Proofs.Scan.Met
import ServiceSyntax.Proofs.Scan.Joined
import ServiceSyntax.Proofs.Scan.Breaks
import ServiceSyntax.Proofs.Text.LastLine
import ServiceSyntax.Proofs.Scan.EndOfFile
import ServiceSyntax.Proofs.Scan.Turns
import ServiceSyntax.Proofs.Scan.Completion
import ServiceSyntax.Proofs.Parse.Injection
import ServiceSyntax.Proofs.Diagnostic.FileEnd
import ServiceSyntax.Proofs.Parse.FileEnd
