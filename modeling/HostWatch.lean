import HostWatch.Alert.Alert
import HostWatch.Alert.Basic
import HostWatch.Alert.Filter
import HostWatch.Calendar
import HostWatch.Console.Call
import HostWatch.Console.Command
import HostWatch.Console.CommandLine
import HostWatch.Console.Connection
import HostWatch.Console.Discovery
import HostWatch.Console.Report
import HostWatch.Console.Style
import HostWatch.Daemon.Basic
import HostWatch.Daemon.Counting
import HostWatch.Daemon.Life
import HostWatch.Daemon.Methods
import HostWatch.Daemon.Params
import HostWatch.Daemon.Reload
import HostWatch.Daemon.Station
import HostWatch.Decimal.Binary
import HostWatch.Decimal.Fixed
import HostWatch.Decimal.Shortest
import HostWatch.Health
import HostWatch.Host.Cpu
import HostWatch.Host.Files
import HostWatch.Host.Live
import HostWatch.Host.Packages
import HostWatch.Host.Tree
import HostWatch.Inference.Address
import HostWatch.Inference.Basic
import HostWatch.Inference.Client
import HostWatch.Inference.Echo
import HostWatch.Inference.Scripted
import HostWatch.Json.Cursor
import HostWatch.Json.Fault
import HostWatch.Json.Number
import HostWatch.Json.Printer
import HostWatch.Json.Reader
import HostWatch.Json.Shape
import HostWatch.Json.Text
import HostWatch.Json.Value
import HostWatch.LogLevel
import HostWatch.Main
import HostWatch.Monitor.Analysis
import HostWatch.Monitor.Cycle
import HostWatch.Monitor.Enrichment
import HostWatch.Monitor.Journal
import HostWatch.Monitor.Patrol
import HostWatch.Monitor.Reading
import HostWatch.Monitor.Scripted
import HostWatch.Monitor.Shift
import HostWatch.Monitor.Station
import HostWatch.Monitor.Steady
import HostWatch.Monitor.Threshold
import HostWatch.NameMap
import HostWatch.OsError
import HostWatch.Path
import HostWatch.Proofs.Alert.Documents
import HostWatch.Proofs.Alert.RoundTrip
import HostWatch.Proofs.Console.Alerts
import HostWatch.Proofs.Console.Calls
import HostWatch.Proofs.Console.Health
import HostWatch.Proofs.Console.Params
import HostWatch.Proofs.Daemon.Counts
import HostWatch.Proofs.Daemon.Exchange
import HostWatch.Proofs.Daemon.Listing
import HostWatch.Proofs.Daemon.Overlap
import HostWatch.Proofs.Daemon.Reload
import HostWatch.Proofs.Daemon.Waiting
import HostWatch.Proofs.Decimal.Overflow
import HostWatch.Proofs.Decimal.ShortestDigits
import HostWatch.Proofs.Health.Documents
import HostWatch.Proofs.Host.CpuTime
import HostWatch.Proofs.Host.UpdateChecks
import HostWatch.Proofs.Host.Upgrades
import HostWatch.Proofs.Inference.Answers
import HostWatch.Proofs.Inference.Echoes
import HostWatch.Proofs.Json.Balance
import HostWatch.Proofs.Json.Containers
import HostWatch.Proofs.Json.Cut
import HostWatch.Proofs.Json.CutNumbers
import HostWatch.Proofs.Json.CutValues
import HostWatch.Proofs.Json.FloatText
import HostWatch.Proofs.Json.Lexical
import HostWatch.Proofs.Json.LexicalRecords
import HostWatch.Proofs.Json.Literals
import HostWatch.Proofs.Json.Numbers
import HostWatch.Proofs.Json.Numerals
import HostWatch.Proofs.Json.Objects
import HostWatch.Proofs.Json.PlainTexts
import HostWatch.Proofs.Json.QuotedText
import HostWatch.Proofs.Json.Records
import HostWatch.Proofs.Json.RoundTrip
import HostWatch.Proofs.Json.TextMap
import HostWatch.Proofs.Json.Written
import HostWatch.Proofs.Monitor.Completion
import HostWatch.Proofs.Monitor.Journal
import HostWatch.Proofs.Monitor.Ledger
import HostWatch.Proofs.Monitor.Patrol
import HostWatch.Proofs.Monitor.Raising
import HostWatch.Proofs.Monitor.Retention
import HostWatch.Proofs.Monitor.Shift
import HostWatch.Proofs.Monitor.Standing
import HostWatch.Proofs.Monitor.Tasks
import HostWatch.Proofs.Monitor.Undisturbed
import HostWatch.Proofs.RateLimiter.Windows
import HostWatch.Proofs.Rpc.Binding
import HostWatch.Proofs.Rpc.Ids
import HostWatch.Proofs.Rpc.Pieces
import HostWatch.Proofs.Rpc.Requests
import HostWatch.Proofs.Rpc.Responses
import HostWatch.Proofs.Rpc.Serving
import HostWatch.Proofs.Settings.Valid
import HostWatch.Proofs.Store.Bulk
import HostWatch.Proofs.Store.Census
import HostWatch.Proofs.Store.Contents
import HostWatch.Proofs.Store.Created
import HostWatch.Proofs.Store.History
import HostWatch.Proofs.Store.Listing
import HostWatch.Proofs.Store.Recount
import HostWatch.Proofs.Store.Rows
import HostWatch.Proofs.Text.Lines
import HostWatch.Proofs.Text.Occurs
import HostWatch.RateLimiter
import HostWatch.RateLimiter.Log
import HostWatch.Rpc.Code
import HostWatch.Rpc.Connection
import HostWatch.Rpc.Handler
import HostWatch.Rpc.Message
import HostWatch.Rpc.Server
import HostWatch.Rpc.Socket
import HostWatch.Settings.Basic
import HostWatch.Settings.File
import HostWatch.Settings.Objection
import HostWatch.Shutdown
import HostWatch.Store.Basic
import HostWatch.Store.Counters
import HostWatch.Store.Fresh
import HostWatch.Store.Query
import HostWatch.Store.Row
import HostWatch.Store.Run
import HostWatch.Text.Blank
import HostWatch.Text.Caseless
import HostWatch.Text.Quoted
import HostWatch.Text.Unprintable
import HostWatch.Text.Utf8
import HostWatch.Toml.Document
import HostWatch.Toml.Node
import HostWatch.Toml.Scalar
