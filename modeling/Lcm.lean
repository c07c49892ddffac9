import Lcm.Library.StepSystem
import Lcm.Library.Except
import Lcm.Library.OrderedTable
import Lcm.Library.KeyedTable
import Lcm.Library.LinkTable
import Lcm.Library.Folded
import Lcm.Library.Segments
import Lcm.Library.SortedBy
import Lcm.Library.Json
import Lcm.Library.SoloProcess
import Lcm.Library.Prefixes
import Lcm.Text.JsString
import Lcm.Text.JsNumber
import Lcm.Text.Uuid
import Lcm.Text.JsDate
import Lcm.Store.Messages
import Lcm.Store.Summaries
import Lcm.Compaction.Summarize
import Lcm.Compaction.Selection
import Lcm.Compaction.Passes
import Lcm.Compaction.System
import Lcm.Compaction.FreshTail
import Lcm.Compaction.Sweep
import Lcm.Compaction.Coverage
import Lcm.Compaction.PassCoverage
import Lcm.Compaction.Refinement
import Lcm.Compaction.Phases
import Lcm.Compaction.Simulation
import Lcm.Compaction.Lossless
import Lcm.Compaction.FreshTailRuns
import Lcm.Compaction.PassGrowth
import Lcm.Compaction.SweepRules
import Lcm.Compaction.SweepBounds
import Lcm.Compaction.SweepGrowth
import Lcm.Compaction.Metadata
import Lcm.Retrieval.Expand
import Lcm.PostgreSql.SummaryContext
import Lcm.PostgreSql.SharedPasses
import Lcm.PostgreSql.Coordination
import Lcm.PostgreSql.Leases
import Lcm.PostgreSql.LeaseFencing
import Lcm.PassiveEvents.Payload
import Lcm.PassiveEvents.Inbox
import Lcm.PassiveEvents.Repository
import Lcm.PassiveEvents.Transitions
import Lcm.PassiveEvents.Claims
import Lcm.PassiveEvents.ClaimFencing
import Lcm.PassiveEvents.ClaimRuns
import Lcm.PassiveEvents.Replays
import Lcm.Hooks.EventsDb
import Lcm.Hooks.EventEnvelopes
import Lcm.Migration.Manifest
import Lcm.Migration.Protocol
import Lcm.Migration.RoundTrip
import Lcm.Migration.Steps
import Lcm.Migration.Runs
import Lcm.Migration.Canonical
import Lcm.Session.Order
import Lcm.Session.Slots
import Lcm.Session.Transcript
import Lcm.Daemon.InvocationCoordinator
import Lcm.Daemon.InvocationSystem
import Lcm.Daemon.InvocationDrain
import Lcm.Daemon.InvocationSafety
import Lcm.Daemon.InvocationRuns
import Lcm.Daemon.PassiveEventUploads
import Lcm.Migration.Successor
import Lcm.Publication.Consumers
import Lcm.Publication.Leases
import Lcm.Publication.GuardedFiles
import Lcm.Publication.AppendOrder
import Lcm.Store.PromotedMirror
import Lcm.Locks.PrivateMutationLock
import Lcm.Locks.PrivateMutationLockSafety
import Lcm.Library.Savepoints
import Lcm.Store.Promoted
import Lcm.Library.Processes
import Lcm.Text.SqliteText
import Lcm.Migration.Receipts
import Lcm.Migration.ReceiptRecords
import Lcm.Hooks.OutboxQueries
import Lcm.Migration.QueueClassification
import Lcm.Promotion.Deduplication
import Lcm.Promotion.PromoteEvents
import Lcm.Promotion.PromotionSystem
import Lcm.Promotion.PromotionSteps
import Lcm.Promotion.ReceiptedPromotion
import Lcm.Portable.Records
import Lcm.Portable.Stream
import Lcm.Portable.Source
import Lcm.Portable.Scans
import Lcm.Portable.Batches
import Lcm.PostgreSql.StorableSummaries
import Lcm.Library.OrderCodes
import Lcm.Text.Utf8
import Lcm.Library.Acyclic
import Lcm.Library.ChunkScan
import Lcm.Library.Ranks
import Lcm.Portable.IndexOrder
import Lcm.Portable.Index
import Lcm.Portable.Acyclicity
import Lcm.Portable.IndexedOrder
import Lcm.Portable.Occurrences
import Lcm.Store.ContextReplacement
import Lcm.PostgreSql.ContextReplacement
import Lcm.Library.RangeMerge
import Lcm.Scrub.ConsumingRanges
import Lcm.Scrub.ScanCoverage
import Lcm.Scrub.ScrubEngine
import Lcm.Codex.Transcript
import Lcm.Codex.TranscriptGrowth
import Lcm.Library.JsonSpace
import Lcm.Library.Pieces
import Lcm.Text.Utf8Decoder
import Lcm.Codex.CutoffOrdinal
import Lcm.Codex.Restoration
import Lcm.Codex.ReferencedHistory
import Lcm.Codex.RestorationProof
import Lcm.Codex.NativeReader
import Lcm.Codex.NativeReading
import Lcm.Text.Utf8Encoding
import Lcm.Codex.NativePositions
import Lcm.Daemon.PassiveEventProcessor
import Lcm.Daemon.NotifiedProjects
import Lcm.Daemon.NotifiedProjectRuns
import Lcm.Hooks.EventIdentifiers
import Lcm.Daemon.PassiveEventReplication
import Lcm.Daemon.UploadSettlement
import Lcm.Daemon.UploadDispositions
import Lcm.Session.CodexLineage
import Lcm.Session.SessionRows
import Lcm.Session.LineageDecision
import Lcm.Session.LineageRuns
import Lcm.Library.JsonNames
import Lcm.Codex.UniqueObjectKeys
import Lcm.Session.ClaudeTranscript
import Lcm.Codex.TranscriptLines
import Lcm.Library.AloneRuns
import Lcm.Compaction.FirstPass
import Lcm.Compaction.BatchDiscovery
import Lcm.Compaction.BatchAgreement
import Lcm.Library.UndisturbedSessions
import Lcm.Store.PromotedSearch
import Lcm.Store.PromotedEffects
import Lcm.Promotion.Convergence
import Lcm.Promotion.SqliteMemories
import Lcm.PostgreSql.PromotedMemories
import Lcm.Promotion.ConvergentRuns
import Lcm.Library.JsonSize
import Lcm.Text.PlainText
import Lcm.Cutover.Sets
import Lcm.Cutover.Maintenance
import Lcm.Cutover.Sizes
import Lcm.Cutover.Capacity
import Lcm.Cutover.Runs
import Lcm.Cutover.CapacityBound
import Lcm.Cutover.CapacityRuns
import Lcm.Cutover.Entries
import Lcm.Cutover.Holds
