import MediaHash.Check.Exit
import MediaHash.Check.Lines
import MediaHash.Check.Manifest
import MediaHash.Claim
import MediaHash.Command.Arguments
import MediaHash.Command.Result
import MediaHash.Command.Run
import MediaHash.Config.Basic
import MediaHash.Config.Toml
import MediaHash.Criteria
import MediaHash.Digest.Blocks
import MediaHash.Digest.Hasher
import MediaHash.Digest.Md5
import MediaHash.Digest.Schedule
import MediaHash.Digest.Sha1
import MediaHash.Digest.XxHash
import MediaHash.Encoding.Marked
import MediaHash.Encoding.Utf16
import MediaHash.Encoding.Utf8
import MediaHash.ExitCode
import MediaHash.Expectation
import MediaHash.Fault
import MediaHash.FileTree
import MediaHash.Grid
import MediaHash.HashType
import MediaHash.Json.Lexer
import MediaHash.Json.Numeral
import MediaHash.Json.Parser
import MediaHash.Json.Record
import MediaHash.Json.Value
import MediaHash.Keyed
import MediaHash.Listing.Basic
import MediaHash.Listing.File
import MediaHash.Listing.Line
import MediaHash.Main
import MediaHash.Manifest.Basic
import MediaHash.Manifest.File
import MediaHash.Manifest.Record
import MediaHash.Proofs.Check.Agreement
import MediaHash.Proofs.Check.Captured
import MediaHash.Proofs.Check.Comparison
import MediaHash.Proofs.Check.Completeness
import MediaHash.Proofs.Check.Consistency
import MediaHash.Proofs.Check.Deciding
import MediaHash.Proofs.Check.Escalation
import MediaHash.Proofs.Check.Matching
import MediaHash.Proofs.Check.Passing
import MediaHash.Proofs.Check.Searching
import MediaHash.Proofs.Check.Subjects
import MediaHash.Proofs.Command.DefaultHashing
import MediaHash.Proofs.Command.ManifestCheck
import MediaHash.Proofs.Command.SequenceDocument
import MediaHash.Proofs.Command.Settings
import MediaHash.Proofs.Config.Document
import MediaHash.Proofs.Config.Environment
import MediaHash.Proofs.Config.Loading
import MediaHash.Proofs.Digest.Families
import MediaHash.Proofs.Digest.Scheduling
import MediaHash.Proofs.Digest.Streaming
import MediaHash.Proofs.Digest.Writing
import MediaHash.Proofs.Encoding.Marked
import MediaHash.Proofs.Encoding.Ordering
import MediaHash.Proofs.Encoding.Utf16
import MediaHash.Proofs.Encoding.Utf8
import MediaHash.Proofs.Expectation.Demand
import MediaHash.Proofs.Expectation.Listing
import MediaHash.Proofs.Expectation.Lookup
import MediaHash.Proofs.Expectation.Run
import MediaHash.Proofs.Items.Grouping
import MediaHash.Proofs.Items.Steps
import MediaHash.Proofs.Json.Lexing
import MediaHash.Proofs.Json.Numerals
import MediaHash.Proofs.Json.Records
import MediaHash.Proofs.Json.Writing
import MediaHash.Proofs.Listing.Composition
import MediaHash.Proofs.Listing.Grammar
import MediaHash.Proofs.Listing.PerPath
import MediaHash.Proofs.Listing.RoundTrip
import MediaHash.Proofs.Manifest.Digests
import MediaHash.Proofs.Manifest.Paths
import MediaHash.Proofs.Manifest.Reading
import MediaHash.Proofs.Manifest.Recording
import MediaHash.Proofs.Scenario.Acceptance
import MediaHash.Proofs.Scenario.FailureRun
import MediaHash.Proofs.Scenario.RoundTrip
import MediaHash.Proofs.Scenario.SearchBound
import MediaHash.Proofs.Scenario.SequenceRun
import MediaHash.Proofs.Sequence.Canonical
import MediaHash.Proofs.Sequence.DistinctNames
import MediaHash.Proofs.Sequence.Filling
import MediaHash.Proofs.Sequence.Grammar
import MediaHash.Proofs.Sequence.Membership
import MediaHash.Proofs.Sequence.Naming
import MediaHash.Proofs.Sequence.Subtraction
import MediaHash.Proofs.Sequence.SubtractionInWords
import MediaHash.Proofs.Sequence.Writing
import MediaHash.Proofs.Text.Classes
import MediaHash.Proofs.Text.Letters
import MediaHash.Proofs.Text.LineEnds
import MediaHash.Proofs.Text.Lines
import MediaHash.Proofs.Text.Numerals
import MediaHash.Proofs.Text.Pattern
import MediaHash.Proofs.Text.Splitting
import MediaHash.Proofs.Text.Trimming
import MediaHash.Proofs.Xml.Names
import MediaHash.Proofs.Xml.Places
import MediaHash.ReportMode
import MediaHash.Scenario
import MediaHash.Scenario.Json
import MediaHash.Sequence.Basic
import MediaHash.Sequence.Json
import MediaHash.Sequence.Names
import MediaHash.Sequence.Run
import MediaHash.Sequence.Token
import MediaHash.Text.Ascending
import MediaHash.Text.Binary
import MediaHash.Text.Blank
import MediaHash.Text.Cluster
import MediaHash.Text.Cluster.Ranges
import MediaHash.Text.CodePoint
import MediaHash.Text.Decimal
import MediaHash.Text.Letters
import MediaHash.Text.Lines
import MediaHash.Text.Search
import MediaHash.Text.Sixteen
import MediaHash.Text.Split
import MediaHash.Text.Width
import MediaHash.Text.Width.Joining
import MediaHash.Text.Width.Ranges
import MediaHash.Text.Word
import MediaHash.Text.Wrap
import MediaHash.Toml.Document
import MediaHash.Toml.Reader
import MediaHash.Verdict
import MediaHash.Verdict.Json
import MediaHash.Xml.Character
import MediaHash.Xml.Fault
import MediaHash.Xml.Lexeme
import MediaHash.Xml.Node
