import Liveness.Time.Timestamp
import Liveness.Numeric.Decimal
import Liveness.Text.Integer
import Liveness.Console.Width
import Liveness.Json.Parser
import Liveness.Json.Printer
import Liveness.Store.Table
import Liveness.Fleet.Registry
import Liveness.Fleet.Aggregation
import Liveness.Freshness.Primary
import Liveness.Freshness.Secondary
import Liveness.Reachability.Cache
import Liveness.Reachability.Http
import Liveness.Explorer.Stores
import Liveness.Settings.Sources
import Liveness.Fleet.ServiceFile
import Liveness.Scheduler.Basic
import Liveness.Console.Renderer
import Liveness.Console.Terminal
import Liveness.CommandLine.Arguments
import Liveness.CommandLine.Session
import Liveness.Monitor.Rehearsal
import Liveness.Main
import Liveness.Proofs.Numeric.PaddedDigits
import Liveness.Proofs.Time.Calendar
import Liveness.Proofs.Time.WallTime
import Liveness.Proofs.Time.TimestampText
import Liveness.Proofs.Json.Numbers
import Liveness.Proofs.Json.Strings
import Liveness.Proofs.Json.FloatText
import Liveness.Proofs.Json.RoundTrip
import Liveness.Proofs.Store.Log
import Liveness.Proofs.Outcome
import Liveness.Proofs.Store.Refinement
import Liveness.Proofs.Fleet.Aggregation
import Liveness.Proofs.Fleet.Retention
import Liveness.Proofs.Store.Readability
import Liveness.Proofs.Store.Metadata
import Liveness.Proofs.Store.Transactions
import Liveness.Proofs.Fleet.Interleavings
import Liveness.Proofs.Scheduler.Lane
import Liveness.Proofs.Scheduler.Moves
import Liveness.Proofs.Scheduler.Iterations
import Liveness.Proofs.Scheduler.Reports
import Liveness.Proofs.Scheduler.InFlight
import Liveness.Proofs.Scheduler.Progress
import Liveness.Proofs.Scheduler.Execution
import Liveness.Proofs.Scheduler.Courses
import Liveness.Proofs.Scheduler.Verdicts
import Liveness.Proofs.Scheduler.Isolation
import Liveness.Proofs.Scheduler.Reporting
import Liveness.Proofs.Scheduler.Rows
import Liveness.Proofs.Scheduler.Provenance
import Liveness.Proofs.Scheduler.Stopping
import Liveness.Proofs.Time.TextOrder
import Liveness.Proofs.Time.FixedForm
import Liveness.Proofs.Chain.SlotTimes
import Liveness.Proofs.Text.Utf8
import Liveness.Proofs.Database.Paths
import Liveness.Proofs.Database.Addresses
import Liveness.Proofs.Explorer.Reading
import Liveness.Proofs.Monitor.Statuses
import Liveness.Proofs.Scheduler.Round
import Liveness.Proofs.Scheduler.Rounds
import Liveness.Proofs.Console.Terminal
import Liveness.Proofs.CommandLine.Once
import Liveness.Proofs.Freshness.Clock
import Liveness.Proofs.Freshness.Primary
import Liveness.Proofs.Freshness.Staleness
import Liveness.Proofs.Explorer.Freshness
import Liveness.Proofs.Reachability.Endpoints
import Liveness.Proofs.Fleet.Calls
import Liveness.Proofs.Fleet.Registry
import Liveness.Proofs.Scheduler.Cadence
import Liveness.Proofs.Fleet.Latest
import Liveness.Proofs.Yaml.Telling
import Liveness.Proofs.Fleet.ServiceFile
import Liveness.Proofs.Explorer.Maxima
import Liveness.Proofs.Numeric.Rounding
import Liveness.Proofs.Time.Ages
