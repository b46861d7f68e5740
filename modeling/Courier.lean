import Courier.Url.Parser
import Courier.Json.Printer
import Courier.Json.Record
import Courier.Http.Status
import Courier.Http.Headers
import Courier.Time
import Courier.Failure
import Courier.Request.Builder
import Courier.Response
import Courier.Config.Document
import Courier.Log
import Courier.Attempt
import Courier.Retry
import Courier.Retry.Strategy
import Courier.SlotPool
import Courier.Completion
import Courier.Ledger
import Courier.Cache
import Courier.Engine
import Courier.Report
import Courier.Response.Item
import Courier.Registry
import Courier.Resolver
import Courier.Proofs.Json.Texts
import Courier.Proofs.Json.Spelling
import Courier.Proofs.Config.Documents
import Courier.Proofs.Cache.Entries
import Courier.Proofs.Cache.History
import Courier.Proofs.Cache.Operations
import Courier.Proofs.Cache.Views
import Courier.Proofs.Cache.Moves
import Courier.Proofs.Cache.Tracking
import Courier.Proofs.Cache.SingleFlight
import Courier.Proofs.Cache.Answers
import Courier.Proofs.Cache.FailedLoads
import Courier.Proofs.Cache.Freshness
import Courier.Proofs.Cache.ReadOrder
import Courier.Proofs.Cache.Room
import Courier.Proofs.Cache.Cleanup
import Courier.Proofs.Cache.Redundancy
import Courier.Proofs.Cache.Mirrors
import Courier.Proofs.Cache.Isolation
import Courier.Proofs.Cache.Counting
import Courier.Proofs.Cache.Tally
import Courier.Proofs.Cache.Eviction
import Courier.Proofs.Engine.CacheSide
import Courier.Proofs.Engine.Runs
import Courier.Proofs.Engine.Histories
import Courier.Proofs.Program.Conversations
import Courier.Proofs.Attempt.Outcomes
import Courier.Proofs.Retry.Course
import Courier.Proofs.Retry.Trace
import Courier.Proofs.Pool.Places
import Courier.Proofs.Future.Decisions
import Courier.Proofs.Future.Driving
import Courier.Proofs.Program.Stages
import Courier.Proofs.Program.Gates
import Courier.Proofs.Engine.Rests
import Courier.Proofs.Engine.Turns
import Courier.Proofs.Engine.Acts
import Courier.Proofs.Engine.Standing
import Courier.Proofs.Engine.StandingKept
import Courier.Proofs.Engine.Awaiting
import Courier.Proofs.Engine.Onward
import Courier.Proofs.Engine.Clients
import Courier.Proofs.Engine.Futures
import Courier.Proofs.Engine.Drivers
import Courier.Proofs.Engine.Slots
import Courier.Proofs.Engine.Shutdown
import Courier.Proofs.Program.Timing
import Courier.Proofs.Program.Sinks
import Courier.Proofs.Attempt.Observation
import Courier.Proofs.Engine.LoaderCalls
import Courier.Proofs.Engine.Provenance
import Courier.Proofs.Program.Junctures
import Courier.Proofs.Engine.Attribution
import Courier.Proofs.Engine.Cancelling
import Courier.Proofs.Program.Beside
import Courier.Proofs.Engine.Beside
import Courier.Proofs.Engine.CachedCallers
import Courier.Proofs.Registry.Sharing
import Courier.Proofs.Request.Sorted
import Courier.Proofs.Request.Identity
import Courier.Proofs.Attempt.Timings
import Courier.Proofs.Attempt.Phases
import Courier.Proofs.Program.Books
import Courier.Proofs.Program.Vouching
import Courier.Proofs.Program.Dockets
import Courier.Proofs.Engine.Jottings
import Courier.Proofs.Engine.Duties
import Courier.Proofs.Engine.Rolls
import Courier.Proofs.Engine.Attempts
import Courier.Proofs.Engine.Bypass
import Courier.Proofs.Retry.Backoff
import Courier.Proofs.Program.Maps
import Courier.Proofs.Program.Asides
import Courier.Proofs.Retry.FastPath
import Courier.Proofs.Retry.Finality
import Courier.Proofs.Transport.Protocol
import Courier.Proofs.Cache.MeanLoad
import Courier.Proofs.Time.Calendar
import Courier.Proofs.Time.Instants
import Courier.Proofs.Attempt.Lines
import Courier.Proofs.Engine.TaskSide
import Courier.Proofs.Engine.Cleaner
import Courier.Proofs.Engine.OneCleaner
import Courier.Proofs.Engine.CleanupSchedule
