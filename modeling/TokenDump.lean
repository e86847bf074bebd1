import TokenDump.CommandLine.Options
import TokenDump.CommandLine.Run
import TokenDump.Decimal.Binary64
import TokenDump.Decimal.Digits
import TokenDump.Decimal.Shortest
import TokenDump.Dump.Basic
import TokenDump.Dump.Buffered
import TokenDump.Dump.Error
import TokenDump.Dump.File
import TokenDump.Dump.InPlace
import TokenDump.Dump.Line
import TokenDump.Dump.Writer
import TokenDump.Fault
import TokenDump.Interchange
import TokenDump.Json.Decode
import TokenDump.Json.Parser
import TokenDump.Json.Value
import TokenDump.Lexer.Basic
import TokenDump.Lexer.Lexeme
import TokenDump.Lexer.Scan
import TokenDump.Lexer.Tally
import TokenDump.Lexer.Trivia
import TokenDump.Log.Code
import TokenDump.Log.Details
import TokenDump.Log.Event
import TokenDump.Log.Journal
import TokenDump.Log.Level
import TokenDump.Log.Recorder
import TokenDump.Log.Setup
import TokenDump.Log.Timestamp
import TokenDump.Main
import TokenDump.Position
import TokenDump.Settings.Basic
import TokenDump.Settings.Document
import TokenDump.Settings.Environment
import TokenDump.Source.Cursor
import TokenDump.Source.Error
import TokenDump.Source.Feed
import TokenDump.Span
import TokenDump.Storage.Folder
import TokenDump.Text.Escape
import TokenDump.Text.Utf8
import TokenDump.Token.Basic
import TokenDump.Token.Kind
import TokenDump.Toml.Parser
import TokenDump.Toml.Scalar
import TokenDump.Toml.Table
import TokenDump.Toml.Text
import TokenDump.Toml.Value
import TokenDump.Unicode.Alphabetic
import TokenDump.Unicode.GraphemeExtend
import TokenDump.Unicode.Lowercase
import TokenDump.Unicode.Numeric
import TokenDump.Unicode.Property
import TokenDump.Unicode.Unprintable
import TokenDump.Proofs.Grammar
import TokenDump.Proofs.Passing
import TokenDump.Proofs.PassingGaps
import TokenDump.Proofs.PassingLexemes
import TokenDump.Proofs.Calls
import TokenDump.Proofs.Coordinates
import TokenDump.Proofs.Segmentation
import TokenDump.Proofs.Delivery
import TokenDump.Proofs.Buffering
import TokenDump.Proofs.Undecodable
import TokenDump.Proofs.Session
import TokenDump.Proofs.TerminalStates
import TokenDump.Proofs.Requests
import TokenDump.Proofs.Dumping
import TokenDump.Proofs.Boundaries
import TokenDump.Proofs.Respelling
import TokenDump.Proofs.TriviaModes
import TokenDump.Proofs.Lines
import TokenDump.Proofs.Willing
import TokenDump.Proofs.JsonRoundTrip
import TokenDump.Proofs.OutputLines
import TokenDump.Proofs.JsonLines
import TokenDump.Proofs.TextLines
import TokenDump.Proofs.Stability
import TokenDump.Proofs.Counting
import TokenDump.Proofs.Courses
import TokenDump.Proofs.Comments
import TokenDump.Proofs.Unmetered
import TokenDump.Proofs.EndReports
import TokenDump.Proofs.Folders
import TokenDump.Proofs.FileDumps
import TokenDump.Proofs.Destinations
import TokenDump.Proofs.UniqueKeys
import TokenDump.Proofs.Records
import TokenDump.Proofs.Shapes
import TokenDump.Proofs.Precedence
import TokenDump.Proofs.Observation
import TokenDump.Proofs.Reporting
import TokenDump.Proofs.ScanEvents
import TokenDump.Proofs.DumpEvents
import TokenDump.Proofs.Contents
import TokenDump.Proofs.Outcomes
import TokenDump.Proofs.Retention
import TokenDump.Proofs.Bracketing
import TokenDump.Proofs.Pulling
import TokenDump.Proofs.Verbosity
import TokenDump.Proofs.Decoding
import TokenDump.Proofs.Retrying
import TokenDump.Proofs.Trails
import TokenDump.Proofs.Termination
import TokenDump.Proofs.Details
import TokenDump.Proofs.Timestamps
import TokenDump.Proofs.LogLines
import TokenDump.Proofs.FieldOrder
import TokenDump.Proofs.GivenNames
import TokenDump.Proofs.Flushing
import TokenDump.Proofs.Cutting
