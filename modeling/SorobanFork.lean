import SorobanFork.AtomicSave
import SorobanFork.AuthTree
import SorobanFork.BalanceDelta
import SorobanFork.Batching
import SorobanFork.CacheFile
import SorobanFork.ClassicBalance
import SorobanFork.Clock
import SorobanFork.CoherentRequests
import SorobanFork.DealToken
import SorobanFork.Eager
import SorobanFork.ErrorReplies
import SorobanFork.Etch
import SorobanFork.FeeKinds
import SorobanFork.FeeSchedule
import SorobanFork.ForkOfFork
import SorobanFork.InsertedReads
import SorobanFork.LedgerMetadata
import SorobanFork.LiveUntil
import SorobanFork.Persistence
import SorobanFork.ReadModifyWrite
import SorobanFork.RebuiltAccounts
import SorobanFork.Restarts
import SorobanFork.Drift
import SorobanFork.Receipts
import SorobanFork.Retry
import SorobanFork.SecondRun
import SorobanFork.SeqNum
import SorobanFork.Shared
import SorobanFork.TokenBalance
import SorobanFork.TraceCalls
import SorobanFork.Backoff
import SorobanFork.HexText
import SorobanFork.TraceArgs
import SorobanFork.StartingSeq
import SorobanFork.ChangeBatch
import SorobanFork.Server.Channel
import SorobanFork.Server.Ledgers
import SorobanFork.Server.Lifecycle
import SorobanFork.Preflight
import SorobanFork.SharedFetches
import SorobanFork.BalanceRequests
import SorobanFork.ForkPoint
import SorobanFork.Transport
import SorobanFork.Workspace
