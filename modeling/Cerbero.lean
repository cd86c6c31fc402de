import Cerbero.Api.Following
import Cerbero.Api.Lists
import Cerbero.Contracts.Agreement
import Cerbero.Contracts.Basic
import Cerbero.Contracts.Countable
import Cerbero.Contracts.Envelope
import Cerbero.Contracts.Finding
import Cerbero.Contracts.NormalizedEvent
import Cerbero.Contracts.ProstStruct
import Cerbero.Contracts.Protobuf
import Cerbero.Contracts.Signal
import Cerbero.Contracts.UuidText
import Cerbero.Contracts.Validation
import Cerbero.Detection.BatchRuns
import Cerbero.Detection.BruteForce
import Cerbero.Detection.Event
import Cerbero.Detection.EventCompiler
import Cerbero.Detection.ExpressionMeaning
import Cerbero.Detection.Ledger
import Cerbero.Detection.LogicalKey
import Cerbero.Detection.LoginEvents
import Cerbero.Detection.LoginRows
import Cerbero.Detection.MatchPromise
import Cerbero.Detection.Materialize
import Cerbero.Detection.MaterializeExact
import Cerbero.Detection.MvpBatch
import Cerbero.Detection.MvpRules
import Cerbero.Detection.MvpSequence
import Cerbero.Detection.Repository
import Cerbero.Detection.Restamp
import Cerbero.Detection.Sequence
import Cerbero.Detection.SequenceExact
import Cerbero.Detection.SequenceFirst
import Cerbero.Detection.SequenceGroups
import Cerbero.Detection.SequenceGrowth
import Cerbero.Detection.SequenceOrder
import Cerbero.Detection.SequenceSelect
import Cerbero.Detection.SigmaBursts
import Cerbero.Detection.SigmaImport
import Cerbero.Detection.SigmaTimespan
import Cerbero.Detection.Tenants
import Cerbero.Detection.Threshold
import Cerbero.Detection.ThresholdCompiler
import Cerbero.Detection.ThresholdExact
import Cerbero.Detection.ThresholdGroups
import Cerbero.Detection.ThresholdGrowth
import Cerbero.Detection.ThresholdOrder
import Cerbero.Ingest.Admission
import Cerbero.Ingest.Core
import Cerbero.Ingest.CursorFile
import Cerbero.Ingest.CutOff
import Cerbero.Ingest.Export
import Cerbero.Ingest.HttpBody
import Cerbero.Ingest.HttpHandler
import Cerbero.Ingest.HttpRuns
import Cerbero.Ingest.HttpStages
import Cerbero.Ingest.SourceGap
import Cerbero.Ingest.Stream
import Cerbero.Ingest.StreamRoundTrip
import Cerbero.Ingest.SyslogCalls
import Cerbero.Ingest.SyslogFraming
import Cerbero.Ingest.SyslogTcp
import Cerbero.Lib.Base64
import Cerbero.Lib.Buffers
import Cerbero.Lib.ByteIndex
import Cerbero.Lib.ByteReader
import Cerbero.Lib.Calendar
import Cerbero.Lib.CalendarYears
import Cerbero.Lib.Clause
import Cerbero.Lib.Decimal
import Cerbero.Lib.EarliestBurst
import Cerbero.Lib.EarliestWindow
import Cerbero.Lib.Fallible
import Cerbero.Lib.FileTree
import Cerbero.Lib.Greedy
import Cerbero.Lib.HighWater
import Cerbero.Lib.Json
import Cerbero.Lib.JsonOrder
import Cerbero.Lib.JsonScanner
import Cerbero.Lib.JsonSearch
import Cerbero.Lib.JsonText
import Cerbero.Lib.JsonTree
import Cerbero.Lib.Keyset
import Cerbero.Lib.KeysetGrowth
import Cerbero.Lib.Leader
import Cerbero.Lib.MediaType
import Cerbero.Lib.Message
import Cerbero.Lib.Program
import Cerbero.Lib.Rerun
import Cerbero.Lib.RowLock
import Cerbero.Lib.Separated
import Cerbero.Lib.Serial
import Cerbero.Lib.Sha256
import Cerbero.Lib.SlidingWindow
import Cerbero.Lib.SortedMap
import Cerbero.Lib.Stateful
import Cerbero.Lib.TabSeparated
import Cerbero.Lib.Text
import Cerbero.Lib.ThreeValued
import Cerbero.Lib.Trace
import Cerbero.Lib.UniqueKey
import Cerbero.Lib.Urlencoded
import Cerbero.Lib.UuidV7
import Cerbero.Normalizer.CanonicalJson
import Cerbero.Normalizer.Core
import Cerbero.Normalizer.DeadLetter
import Cerbero.Normalizer.DeadLetterIdentity
import Cerbero.Normalizer.Delivery
import Cerbero.Normalizer.DerivationKey
import Cerbero.Normalizer.Journald
import Cerbero.Normalizer.JournaldRoundTrip
import Cerbero.Normalizer.JournaldSelection
import Cerbero.Normalizer.JsonLimits
import Cerbero.Normalizer.LinuxSshd
import Cerbero.Normalizer.Mapping
import Cerbero.Normalizer.NearestYear
import Cerbero.Normalizer.Parser
import Cerbero.Normalizer.ParserFormats
import Cerbero.Normalizer.ParserSelection
import Cerbero.Normalizer.Preflight
import Cerbero.Normalizer.ProbePromise
import Cerbero.Normalizer.RawReader
import Cerbero.Normalizer.Rederivation
import Cerbero.Normalizer.RetryReference
import Cerbero.Normalizer.RetryRefinement
import Cerbero.Normalizer.RetrySafety
import Cerbero.Normalizer.RetryState
import Cerbero.Normalizer.Rfc3164Timestamp
import Cerbero.Normalizer.Rfc5424RoundTrip
import Cerbero.Normalizer.Runtime
import Cerbero.Normalizer.SourceTime
import Cerbero.Normalizer.SourceTimeSpec
import Cerbero.Normalizer.SshdLine
import Cerbero.Normalizer.StoredRow
import Cerbero.Normalizer.SyslogRfc5424
import Cerbero.Operational.AuditChain
import Cerbero.Operational.CaseNumbers
import Cerbero.Operational.ClosedCase
import Cerbero.Operational.History
import Cerbero.Operational.Mutations
import Cerbero.Operational.Records
import Cerbero.Operational.Service
import Cerbero.Preserver.AckSafety
import Cerbero.Preserver.CommitCalls
import Cerbero.Preserver.CommitRace
import Cerbero.Preserver.Contract
import Cerbero.Preserver.Convergence
import Cerbero.Preserver.Core
import Cerbero.Preserver.Disposition
import Cerbero.Preserver.Invariant
import Cerbero.Preserver.Locator
import Cerbero.Preserver.Metadata
import Cerbero.Preserver.RawStore
import Cerbero.Preserver.RawStoreExact
import Cerbero.Preserver.RawStoreRun
import Cerbero.Preserver.RawStoreSafety
import Cerbero.Preserver.Redelivery
import Cerbero.Preserver.SegmentRuns
import Cerbero.Preserver.World
import Cerbero.Search.ClickHouse
import Cerbero.Search.Compile
import Cerbero.Search.Complement
import Cerbero.Search.Cursor
import Cerbero.Search.EventList
import Cerbero.Search.Isolation
import Cerbero.Search.Pagination
import Cerbero.Search.Query
import Cerbero.Search.QueryGrammar
import Cerbero.Search.QueryParser
import Cerbero.Search.Request
import Cerbero.Search.Response
import Cerbero.Search.Store
import Cerbero.Search.StringLiterals
import Cerbero.Search.Time
import Cerbero.Search.TokenIndex
import Cerbero.Search.UuidLiterals
import Cerbero.Worker.Lineage
import Cerbero.Worker.Replay
import Cerbero.Worker.ReplayBudget
import Cerbero.Worker.ReplayOutcomes
