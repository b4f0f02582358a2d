import SakuraNetwork.Lib.ByteMemory
import SakuraNetwork.Lib.OrderedMap
import SakuraNetwork.Lib.SwapRemove
import SakuraNetwork.Lib.Statemachine
import SakuraNetwork.Lib.TransitionSystem
import SakuraNetwork.MessageDefinitions
import SakuraNetwork.SessionStatemachine
import SakuraNetwork.Process
import SakuraNetwork.Handler.ReplyHandler
import SakuraNetwork.Handler.MessageBlockerHandler
import SakuraNetwork.Handler.SessionHandler
import SakuraNetwork.MessagesProcessing.Sending
import SakuraNetwork.MultiblockIo
import SakuraNetwork.Session
import SakuraNetwork.Callbacks
import SakuraNetwork.MemoryBounds
import SakuraNetwork.FrameDecoding
import SakuraNetwork.Lib.Framing
import SakuraNetwork.ReceiveFraming
import SakuraNetwork.Effects
import SakuraNetwork.SessionLifecycle
import SakuraNetwork.Lib.Unwinding
import SakuraNetwork.RequestIsolation
import SakuraNetwork.Lib.Interleaving
import SakuraNetwork.Transfers
import SakuraNetwork.Rejection
import SakuraNetwork.Runs
import SakuraNetwork.Registry
import SakuraNetwork.SessionIdentity
import SakuraNetwork.CallbackGate
import SakuraNetwork.PendingReplies
import SakuraNetwork.ClosedSessions
import SakuraNetwork.DestroyedSessions
import SakuraNetwork.WaitingStarts
import SakuraNetwork.Handshakes
import SakuraNetwork.SessionIds
import SakuraNetwork.ReplyTimers
import SakuraNetwork.BlockerMemory
import SakuraNetwork.OutgoingParts
import SakuraNetwork.UninitialisedBytes
import SakuraNetwork.AwaitedReplies
import SakuraNetwork.ReplyObligation
import SakuraNetwork.CompleteTransfers
import SakuraNetwork.RequestWaits
import SakuraNetwork.BufferOwnership
import SakuraNetwork.BufferContents
import SakuraNetwork.FrameAlignment
import SakuraNetwork.DiscardedTransfers
import SakuraNetwork.SendResults
import SakuraNetwork.StreamEncoders
import SakuraNetwork.SessionIdRange
import SakuraNetwork.PendingKeys
import SakuraNetwork.Lib.SpinLock
import SakuraNetwork.LockedOperations
import SakuraNetwork.Locks
import SakuraNetwork.CloseAgreement
import SakuraNetwork.ReplyAgreement
import SakuraNetwork.Delivery
import SakuraNetwork.Lib.Simulation
import SakuraNetwork.MessageRuns
import SakuraNetwork.PairedRequests
import SakuraNetwork.Wire
import SakuraNetwork.WireRefinement
import SakuraNetwork.Lib.Amortised
import SakuraNetwork.Lib.Countdown
import SakuraNetwork.ReplyDeadlines
import SakuraNetwork.RequestDeadlines
import SakuraNetwork.Settling
import SakuraNetwork.ConnectionAtRest
import SakuraNetwork.HonestPeers
