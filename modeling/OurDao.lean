import OurDao.Faults
import OurDao.Keyset
import OurDao.Reorder
import OurDao.Table
import OurDao.Json
import OurDao.Utf16
import OurDao.JsNumber
import OurDao.Events
import OurDao.Tables
import OurDao.Handlers
import OurDao.Effects
import OurDao.Database
import OurDao.Runtime
import OurDao.Ingest
import OurDao.Rebuild
import OurDao.Poller
import OurDao.ExactlyOnce
import OurDao.LiveFold
import OurDao.Frames
import OurDao.Rpc
import OurDao.Cursor
import OurDao.Forks
import OurDao.Quarantine
import OurDao.Threshold
import OurDao.Leaves
import OurDao.Books
import OurDao.Closings
import OurDao.Worker
import OurDao.Recovery
import OurDao.Auth
import OurDao.Routes
import OurDao.Notifications
import OurDao.Numerals
import OurDao.Feed
import OurDao.Stream
import OurDao.OnePass
import OurDao.Repoint
import OurDao.Exchange
import OurDao.Converge
import OurDao.Rewind
import OurDao.Proposals
import OurDao.ActiveLoans
import OurDao.Socket
import OurDao.Runs
import OurDao.StreamCaps
import OurDao.NonceStores
import OurDao.QuarantineRestarts
import OurDao.CoarseCursor
import OurDao.LedgerFeeds
import OurDao.StablePages
import OurDao.FeedWrites
import OurDao.HistoricalPages
import OurDao.Migrations
import OurDao.MigrationRuns
import OurDao.ReadCache
import OurDao.MemberWrites
import OurDao.MemberCaches
import OurDao.HistoryCache
import OurDao.ReorgSignals
import OurDao.SharedListener
import OurDao.NonceCaps
import OurDao.FoldPoint
import OurDao.Backoff
import OurDao.FailedEvents
import OurDao.PollingOrder
import OurDao.NonceCounts
import OurDao.JsonText
import OurDao.SseClients
import OurDao.StreamCloses
import OurDao.NotifyPayloads
import OurDao.ChannelQueries
import OurDao.AnnouncedChanges
import OurDao.Spellings
import OurDao.Redelivery
import OurDao.UnknownSymbols
import OurDao.ReadBack
import OurDao.ReplayCalls
import OurDao.FailureSchedule
import OurDao.ErrorEnvelope
import OurDao.StatsRequests
import OurDao.ReadMarking
import OurDao.NumericParams
import OurDao.SummaryJson
import OurDao.Timelines
import OurDao.Participation
import OurDao.FoldingSessions
import OurDao.Serializable
import OurDao.LoanHistory
import OurDao.Shutdown
import OurDao.PollSchedule
import OurDao.IdPages
import OurDao.TransactionPool
import OurDao.Readiness
