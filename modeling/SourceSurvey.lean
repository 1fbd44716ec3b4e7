import SourceSurvey.Analysis.Basic
import SourceSurvey.Analysis.Document
import SourceSurvey.Annotation
import SourceSurvey.Cache.Index
import SourceSurvey.Cache.Memory
import SourceSurvey.Charset.Decode
import SourceSurvey.Charset.Labels
import SourceSurvey.Charset.Meta
import SourceSurvey.Charset.MultiByte
import SourceSurvey.Charset.SingleByte
import SourceSurvey.Charset.Sniff
import SourceSurvey.Charset.Table.Big5
import SourceSurvey.Charset.Table.Gbk
import SourceSurvey.Charset.Table.Hangul
import SourceSurvey.Charset.Table.Jis0208
import SourceSurvey.Charset.Table.Jis0212
import SourceSurvey.Collaborator
import SourceSurvey.CommandLine.Command
import SourceSurvey.CommandLine.Run
import SourceSurvey.Configuration.Basic
import SourceSurvey.Configuration.Conversion
import SourceSurvey.Configuration.EnvFile
import SourceSurvey.Configuration.Flags
import SourceSurvey.Configuration.Layers
import SourceSurvey.Configuration.Load
import SourceSurvey.Configuration.Number
import SourceSurvey.Console.Log
import SourceSurvey.Console.Monitor
import SourceSurvey.Datum.Basic
import SourceSurvey.Datum.Json
import SourceSurvey.Datum.JsonFault
import SourceSurvey.Datum.Yaml.Parser
import SourceSurvey.Datum.Yaml.Printer
import SourceSurvey.Datum.Yaml.Scalar
import SourceSurvey.Decimal
import SourceSurvey.Duration
import SourceSurvey.Explanation.Basic
import SourceSurvey.Explanation.Excerpt
import SourceSurvey.FileTree
import SourceSurvey.Fingerprint
import SourceSurvey.Generation.Chat
import SourceSurvey.Generation.Command
import SourceSurvey.Generation.Provider
import SourceSurvey.Generation.Shell
import SourceSurvey.Golang.Grammar
import SourceSurvey.Golang.Outline
import SourceSurvey.Golang.Token
import SourceSurvey.Ignore.Glob
import SourceSurvey.Ignore.Pattern
import SourceSurvey.Instant
import SourceSurvey.Inventory
import SourceSurvey.Language.Classifier
import SourceSurvey.Language.Corroboration
import SourceSurvey.Language.Declared
import SourceSurvey.Language.Identification
import SourceSurvey.Line.Basic
import SourceSurvey.Line.Constructs
import SourceSurvey.Line.Lexer
import SourceSurvey.Line.Scan
import SourceSurvey.Main
import SourceSurvey.Naming
import SourceSurvey.Path
import SourceSurvey.Profile.Basic
import SourceSurvey.Profile.Curly
import SourceSurvey.Profile.Modern
import SourceSurvey.Profile.Registry
import SourceSurvey.Profile.Scripting
import SourceSurvey.Proofs.Analysis.Documented
import SourceSurvey.Proofs.Analysis.Steps
import SourceSurvey.Proofs.Annotation.Comment
import SourceSurvey.Proofs.Annotation.Literals
import SourceSurvey.Proofs.Annotation.Rescan
import SourceSurvey.Proofs.Annotation.Slots
import SourceSurvey.Proofs.Annotation.Stability
import SourceSurvey.Proofs.Line.Literal
import SourceSurvey.Proofs.Line.Reading
import SourceSurvey.Proofs.Line.Walk
import SourceSurvey.Proofs.Path
import SourceSurvey.Proofs.Profile.Markers
import SourceSurvey.Proofs.Summary
import SourceSurvey.Proofs.Text.Captures
import SourceSurvey.Proofs.Text.Glyphs
import SourceSurvey.Proofs.Text.Lines
import SourceSurvey.Proofs.Text.Search
import SourceSurvey.Repository.Basic
import SourceSurvey.Repository.Rename
import SourceSurvey.Scan.Engine
import SourceSurvey.Scan.File
import SourceSurvey.Scan.Options
import SourceSurvey.Scan.Pipeline
import SourceSurvey.Scan.Report
import SourceSurvey.Scan.Vendored
import SourceSurvey.Scan.Walk
import SourceSurvey.Service.Basic
import SourceSurvey.Service.Metrics
import SourceSurvey.Service.Server
import SourceSurvey.Summary
import SourceSurvey.Text.Bytes
import SourceSurvey.Text.Letter
import SourceSurvey.Text.Pattern
import SourceSurvey.Text.Quoted
import SourceSurvey.Text.Utf8
import SourceSurvey.TokenBucket
import SourceSurvey.Proofs.Scan.Pipeline
import SourceSurvey.Proofs.Scan.Progress
import SourceSurvey.Proofs.Scan.Report
import SourceSurvey.Proofs.FileTree
import SourceSurvey.Proofs.Scan.Walk
import SourceSurvey.Proofs.Scan.Schedule
import SourceSurvey.Proofs.Scan.File
import SourceSurvey.Proofs.Console.Monitor
import SourceSurvey.Proofs.Scan.Events
import SourceSurvey.Proofs.Scan.Engine
import SourceSurvey.Proofs.Ignore
import SourceSurvey.Proofs.Scan.Pruning
import SourceSurvey.Proofs.Scan.Sources
import SourceSurvey.Proofs.Language.Merge
import SourceSurvey.Proofs.Text.Encoding
import SourceSurvey.Proofs.Text.Numeral
import SourceSurvey.Proofs.Analysis.Settings
import SourceSurvey.Proofs.Datum.Json
import SourceSurvey.Proofs.Cache.Index
import SourceSurvey.Proofs.Cache.Persist
import SourceSurvey.Proofs.Datum.Yaml.Scalar
import SourceSurvey.Proofs.Datum.Yaml.Record
import SourceSurvey.Proofs.Analysis.Document
import SourceSurvey.Proofs.Scan.Pass
import SourceSurvey.Proofs.Scan.History
import SourceSurvey.Proofs.Analysis.Elaboration
import SourceSurvey.Proofs.Analysis.Failures
import SourceSurvey.Proofs.Service.Responses
import SourceSurvey.Proofs.Instant
import SourceSurvey.Proofs.Cache.Shared
import SourceSurvey.Proofs.Scan.Hits
import SourceSurvey.Proofs.Annotation.Body
import SourceSurvey.Proofs.Language.Spelling
import SourceSurvey.Proofs.FileTree.Directory
import SourceSurvey.Proofs.Cache.Attempt
import SourceSurvey.Proofs.Datum.Spelling
import SourceSurvey.Proofs.Service.Admission
import SourceSurvey.Proofs.Line.Concatenation
import SourceSurvey.Proofs.Text.Terminators
import SourceSurvey.Proofs.Annotation.Terminators
import SourceSurvey.Proofs.Text.Match
import SourceSurvey.Proofs.Line.Keywords
import SourceSurvey.Proofs.Text.LineEnd
import SourceSurvey.Proofs.Language.Terminators
import SourceSurvey.Proofs.Line.Partition
import SourceSurvey.Proofs.Console.Messages
import SourceSurvey.Proofs.Inventory.Scanned
import SourceSurvey.Proofs.Inventory.Outlined
import SourceSurvey.Scan.Document
import SourceSurvey.Proofs.Language.Fit
import SourceSurvey.Proofs.Inventory.Docstring
import SourceSurvey.Proofs.Text.Validity
import SourceSurvey.Proofs.Text.Pieces
import SourceSurvey.Proofs.Analysis.Reading
import SourceSurvey.Proofs.Scan.Document
import SourceSurvey.Proofs.Explanation.Excerpt
import SourceSurvey.Proofs.Language.Annotated
import SourceSurvey.Proofs.Line.Names
import SourceSurvey.Proofs.Datum.JsonFault
import SourceSurvey.Proofs.Generation.Command
import SourceSurvey.Proofs.Fingerprint
import SourceSurvey.Proofs.Naming
import SourceSurvey.Proofs.Line.Turns
import SourceSurvey.Proofs.Language.Evidence
