import TrafficDigest.Calendar
import TrafficDigest.CommandLine
import TrafficDigest.CommandLine.Notice
import TrafficDigest.CommandLine.Run
import TrafficDigest.CommandLine.Scan
import TrafficDigest.CommandLine.Setting
import TrafficDigest.CommandLine.Usage
import TrafficDigest.Csv.Reader
import TrafficDigest.Digest
import TrafficDigest.Digest.Summary
import TrafficDigest.Digest.Summary.Reader
import TrafficDigest.Exclusions
import TrafficDigest.Explorer
import TrafficDigest.Explorer.Reader
import TrafficDigest.Fetch
import TrafficDigest.Fetch.History
import TrafficDigest.Fetch.Memory
import TrafficDigest.Fetch.Schedule
import TrafficDigest.Fetch.Trace
import TrafficDigest.FileSystem
import TrafficDigest.Flow
import TrafficDigest.Flow.Document
import TrafficDigest.Http
import TrafficDigest.Http.Course
import TrafficDigest.Http.Recording
import TrafficDigest.Instant
import TrafficDigest.Instant.Reader
import TrafficDigest.Json
import TrafficDigest.Json.Decode
import TrafficDigest.Json.Reader
import TrafficDigest.Json.Token
import TrafficDigest.Label
import TrafficDigest.Main
import TrafficDigest.OrderedMap
import TrafficDigest.Pce.Client
import TrafficDigest.Pce.Config
import TrafficDigest.Pce.Document
import TrafficDigest.Pce.Engine
import TrafficDigest.Proofs.Calendar
import TrafficDigest.Proofs.Calendar.Order
import TrafficDigest.Proofs.CommandLine.Course
import TrafficDigest.Proofs.CommandLine.Key
import TrafficDigest.Proofs.CommandLine.Output
import TrafficDigest.Proofs.CommandLine.Validation
import TrafficDigest.Proofs.Csv.Line
import TrafficDigest.Proofs.Csv.Prefix
import TrafficDigest.Proofs.Csv.RoundTrip
import TrafficDigest.Proofs.Digest.Count
import TrafficDigest.Proofs.Digest.Group
import TrafficDigest.Proofs.Digest.Lossless
import TrafficDigest.Proofs.Digest.Ranking
import TrafficDigest.Proofs.Exclusions
import TrafficDigest.Proofs.Exclusions.Line
import TrafficDigest.Proofs.Exclusions.Rendering
import TrafficDigest.Proofs.Explorer
import TrafficDigest.Proofs.Explorer.Interface
import TrafficDigest.Proofs.Fetch.Complete
import TrafficDigest.Proofs.Fetch.Confluence
import TrafficDigest.Proofs.Fetch.Cost
import TrafficDigest.Proofs.Fetch.Failure
import TrafficDigest.Proofs.Fetch.Invariant
import TrafficDigest.Proofs.Fetch.SplitTree
import TrafficDigest.Proofs.Fetch.Step
import TrafficDigest.Proofs.Fetch.Summary
import TrafficDigest.Proofs.Fetch.Threshold
import TrafficDigest.Proofs.Fetch.Windows
import TrafficDigest.Proofs.FileSystem
import TrafficDigest.Proofs.Group
import TrafficDigest.Proofs.Instant.Millis
import TrafficDigest.Proofs.Instant.Text
import TrafficDigest.Proofs.Json.Decode
import TrafficDigest.Proofs.Json.Reader
import TrafficDigest.Proofs.Json.Spelling
import TrafficDigest.Proofs.Pce.Ask
import TrafficDigest.Proofs.Pce.Body
import TrafficDigest.Proofs.Pce.Collection
import TrafficDigest.Proofs.Pce.Credentials
import TrafficDigest.Proofs.Pce.Directory
import TrafficDigest.Proofs.Pce.Flow
import TrafficDigest.Proofs.Pce.Interval
import TrafficDigest.Proofs.Pce.Page
import TrafficDigest.Proofs.Pce.Refinement
import TrafficDigest.Proofs.Query.Date
import TrafficDigest.Proofs.Query.Revision
import TrafficDigest.Proofs.Sum
import TrafficDigest.Proofs.Text.Decimal
import TrafficDigest.Proofs.Window.Tiling
import TrafficDigest.Query
import TrafficDigest.Query.Intent
import TrafficDigest.Report
import TrafficDigest.Sum
import TrafficDigest.Table
import TrafficDigest.Text
import TrafficDigest.Text.Utf8
import TrafficDigest.Text.Width
import TrafficDigest.Text.Width.Tables
import TrafficDigest.Toml
import TrafficDigest.Toml.Number
import TrafficDigest.Toml.Reader
import TrafficDigest.Toml.Text
import TrafficDigest.Verdict
import TrafficDigest.Window
import TrafficDigest.Workload
