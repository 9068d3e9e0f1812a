import Surveyor.Analyzer
import Surveyor.Asset
import Surveyor.Audit
import Surveyor.Cache
import Surveyor.Command
import Surveyor.Disk
import Surveyor.Environment
import Surveyor.Fields
import Surveyor.FileKind
import Surveyor.FileStats
import Surveyor.Glob
import Surveyor.Graph.Basic
import Surveyor.Graph.Build
import Surveyor.Graph.Cluster
import Surveyor.Host
import Surveyor.IgnoreRule
import Surveyor.Imports.Alias
import Surveyor.Imports.Resolution
import Surveyor.Imports.Specifier
import Surveyor.Json.Commented
import Surveyor.Json.Display
import Surveyor.Json.Printer
import Surveyor.Json.Reader
import Surveyor.Json.Token
import Surveyor.Json.Value
import Surveyor.Keyword
import Surveyor.Leading
import Surveyor.Listing
import Surveyor.Log
import Surveyor.Logging
import Surveyor.Manifest
import Surveyor.Marker
import Surveyor.Metrics.Declaration
import Surveyor.Metrics.Endpoint
import Surveyor.Metrics.Measure
import Surveyor.Number.Binary64
import Surveyor.Number.Numeral
import Surveyor.Number.Shortest
import Surveyor.Path
import Surveyor.Progress.Measure
import Surveyor.Progress.Rubric
import Surveyor.Progress.Rubrics
import Surveyor.Progress.Score
import Surveyor.Proofs.Graph.Construction
import Surveyor.Proofs.Graph.Linking
import Surveyor.Proofs.Graph.Neighbourhood
import Surveyor.Proofs.Graph.Rebuilding
import Surveyor.Proofs.Imports.Resolution
import Surveyor.Proofs.Listing.Walk
import Surveyor.Proofs.Listing.Scan
import Surveyor.Proofs.Tree
import Surveyor.Proofs.Sequence
import Surveyor.Readme
import Surveyor.Reply
import Surveyor.Review
import Surveyor.Roadmap
import Surveyor.Runner
import Surveyor.Settings
import Surveyor.Snapshot
import Surveyor.Stack
import Surveyor.Text.Blank
import Surveyor.Text.Casing
import Surveyor.Text.Digit
import Surveyor.Text.Lines
import Surveyor.Text.Printable
import Surveyor.Text.Quoted
import Surveyor.Text.Scan
import Surveyor.Text.Search
import Surveyor.Text.WordCharacter
import Surveyor.Yaml.BlockText
import Surveyor.Yaml.Cursor
import Surveyor.Yaml.Document
import Surveyor.Yaml.Fault
import Surveyor.Yaml.Node
import Surveyor.Yaml.PlainText
import Surveyor.Yaml.QuotedText
import Surveyor.Yaml.ScalarValue
import Surveyor.Yaml.Tag
import Surveyor.Yaml.TagText
import Surveyor.Yaml.Token
import Surveyor.Yaml.Value
import Surveyor.Proofs.Path
import Surveyor.Proofs.Graph.Reordering
import Surveyor.Proofs.Graph.Deepening
import Surveyor.Proofs.Environment.Descriptions
import Surveyor.Proofs.Json.Lexeme
import Surveyor.Proofs.Json.Decoration
import Surveyor.Proofs.Json.Reading
import Surveyor.Proofs.Location
import Surveyor.Proofs.Cache
import Surveyor.Proofs.Settings
import Surveyor.Proofs.Analyzer.Survey
import Surveyor.Proofs.Json.Overlong
import Surveyor.Proofs.Analyzer.Analysis
import Surveyor.Proofs.Analyzer.Session
import Surveyor.Proofs.Number.Rounding
import Surveyor.Proofs.Progress.Score
import Surveyor.Proofs.Progress.Scoring
import Surveyor.Proofs.Progress.Answers
import Surveyor.Proofs.Progress.Balance
import Surveyor.Proofs.Stack
import Surveyor.Proofs.Fields
import Surveyor.Proofs.Json.Distinct
import Surveyor.Proofs.Progress.Growth
import Surveyor.Proofs.Roadmap
import Surveyor.Proofs.Text
import Surveyor.Proofs.Imports.Program
import Surveyor.Proofs.Audit
import Surveyor.Proofs.Audit.Isolation
import Surveyor.Proofs.Path.Joining
import Surveyor.Proofs.Imports.Alias
import Surveyor.Proofs.Imports.Detour
import Surveyor.Proofs.Graph.Keyword
import Surveyor.Proofs.Readme
import Surveyor.Proofs.Review.Files
import Surveyor.Proofs.Review.Verdict
import Surveyor.Proofs.Cache.History
import Surveyor.Proofs.Settings.Independence
import Surveyor.Proofs.Metrics.Endpoint
import Surveyor.Proofs.Metrics.Note
import Surveyor.Proofs.FileStats
import Surveyor.Proofs.Asset
import Surveyor.Proofs.Logging
import Surveyor.Proofs.Marker
