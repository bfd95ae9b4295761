import Telemetry.Call.Script
import Telemetry.Coalesce.Cache
import Telemetry.Coalesce.CacheSession
import Telemetry.Coalesce.CachedSource
import Telemetry.Coalesce.CallGroup
import Telemetry.Coalesce.CallSession
import Telemetry.Coalesce.Shared
import Telemetry.Collector.Collection
import Telemetry.Collector.Exposition
import Telemetry.Collector.FanOut
import Telemetry.Collector.HttpProvider
import Telemetry.Collector.Loop
import Telemetry.Collector.Provider
import Telemetry.Collector.Routes
import Telemetry.Collector.Series
import Telemetry.Collector.Session
import Telemetry.CommandLine.LogFilter
import Telemetry.CommandLine.Options
import Telemetry.CommandLine.Program
import Telemetry.Config.Collector
import Telemetry.Config.Daemon
import Telemetry.Config.Section
import Telemetry.Daemon.Api
import Telemetry.Daemon.Scheduler
import Telemetry.Daemon.Session
import Telemetry.Daemon.Task
import Telemetry.Enumeration
import Telemetry.Error
import Telemetry.Http.Form
import Telemetry.Http.Listen
import Telemetry.Http.Message
import Telemetry.Inventory.Build
import Telemetry.Inventory.Inspection
import Telemetry.Inventory.Label
import Telemetry.Json.Basic
import Telemetry.Json.Reader
import Telemetry.Json.Writer
import Telemetry.Main
import Telemetry.Model.Hardware
import Telemetry.Model.Kind
import Telemetry.Model.Report
import Telemetry.Model.Snapshot
import Telemetry.Model.Wire
import Telemetry.Number.Binary64
import Telemetry.Number.Digits
import Telemetry.Number.ShortestDecimal
import Telemetry.Proofs.Chronology
import Telemetry.Proofs.Coalesce.Answers
import Telemetry.Proofs.Coalesce.CacheSession
import Telemetry.Proofs.Coalesce.CachedSource
import Telemetry.Proofs.Coalesce.CallGroup
import Telemetry.Proofs.Coalesce.CallSession
import Telemetry.Proofs.Coalesce.Deduplication
import Telemetry.Proofs.Coalesce.Privacy
import Telemetry.Proofs.Coalesce.Shared
import Telemetry.Proofs.Coalesce.SingleFlight
import Telemetry.Proofs.Collector.Accounting
import Telemetry.Proofs.Collector.Collection
import Telemetry.Proofs.Collector.Events
import Telemetry.Proofs.Collector.Exposition
import Telemetry.Proofs.Collector.Failures
import Telemetry.Proofs.Collector.Invariant
import Telemetry.Proofs.Collector.Isolation
import Telemetry.Proofs.Collector.Lane
import Telemetry.Proofs.Collector.Provider
import Telemetry.Proofs.Collector.Series
import Telemetry.Proofs.Collector.Shutdown
import Telemetry.Proofs.Collector.Succession
import Telemetry.Proofs.Config.Construction
import Telemetry.Proofs.Daemon.CurrentValues
import Telemetry.Proofs.Daemon.Deadlines
import Telemetry.Proofs.Daemon.Events
import Telemetry.Proofs.Daemon.Failures
import Telemetry.Proofs.Daemon.Freshness
import Telemetry.Proofs.Daemon.Listings
import Telemetry.Proofs.Daemon.Loops
import Telemetry.Proofs.Daemon.Persistence
import Telemetry.Proofs.Daemon.Polling
import Telemetry.Proofs.Daemon.Pruning
import Telemetry.Proofs.Daemon.RequestTurns
import Telemetry.Proofs.Daemon.Responses
import Telemetry.Proofs.Daemon.Surveys
import Telemetry.Proofs.Daemon.Window
import Telemetry.Proofs.Inventory.Clash
import Telemetry.Proofs.Inventory.Label
import Telemetry.Proofs.Inventory.Stability
import Telemetry.Proofs.Inventory.Thermal
import Telemetry.Proofs.Json.RoundTrip
import Telemetry.Proofs.Model.Join
import Telemetry.Proofs.Model.Snapshot
import Telemetry.Proofs.Model.Wire
import Telemetry.Proofs.Number.Binary64
import Telemetry.Proofs.Number.Digits
import Telemetry.Proofs.Number.ShortestDecimal
import Telemetry.Proofs.Retry.Attempts
import Telemetry.Proofs.Retry.Characterisation
import Telemetry.Proofs.Service.Cycle
import Telemetry.Proofs.Service.Endings
import Telemetry.Proofs.Service.Failures
import Telemetry.Proofs.Service.Freshness
import Telemetry.Proofs.Service.History
import Telemetry.Proofs.Service.Retention
import Telemetry.Proofs.Service.Survey
import Telemetry.Proofs.Service.Window
import Telemetry.Proofs.Store.Log
import Telemetry.Proofs.Store.View
import Telemetry.Proofs.Text.Utf8
import Telemetry.Proofs.Time.Calendar
import Telemetry.Proofs.Time.Difference
import Telemetry.Proofs.Time.Ticker
import Telemetry.Proofs.Time.Timestamp
import Telemetry.Retry.Backoff
import Telemetry.Retry.Policy
import Telemetry.Service.Cycle
import Telemetry.Service.Inspector
import Telemetry.Service.Poller
import Telemetry.Service.Retention
import Telemetry.Service.Survey
import Telemetry.Service.World
import Telemetry.SortedMap
import Telemetry.Store.Basic
import Telemetry.Text.Blank
import Telemetry.Text.Printable
import Telemetry.Text.Quoted
import Telemetry.Text.Similarity
import Telemetry.Time.Calendar
import Telemetry.Time.Delta
import Telemetry.Time.Instant
import Telemetry.Time.Span
import Telemetry.Time.Ticker
import Telemetry.Time.Timestamp
import Telemetry.Toml.Basic
import Telemetry.Toml.Reader
