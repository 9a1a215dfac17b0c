import Rdows.Lib.Outcome
import Rdows.Lib.Bytes
import Rdows.Lib.Utf8
import Rdows.Lib.Layout
import Rdows.Lib.AssocMap
import Rdows.Lib.Rank
import Rdows.Lib.Run
import Rdows.Lib.Window
import Rdows.Lib.Fifo
import Rdows.Lib.Probe
import Rdows.Lib.Dialogue
import Rdows.Lib.Script
import Rdows.Lib.Program
import Rdows.Lib.Confluence
import Rdows.Core.Basic
import Rdows.Core.Message
import Rdows.Core.RoundTrip
import Rdows.Core.DecodeSafety
import Rdows.Core.Extent
import Rdows.Core.Reencode
import Rdows.Wireshark.Dissector
import Rdows.Wireshark.Agreement
import Rdows.Wireshark.Heuristic
import Rdows.Client.Connection
import Rdows.Client.Verbs
import Rdows.Client.LocalMemory
import Rdows.Client.ScatterGather
import Rdows.Client.Completions
import Rdows.Client.QueueRuns
import Rdows.Client.Confinement
import Rdows.Kv.Slot
import Rdows.Kv.Store
import Rdows.Kv.StoreRefinement
import Rdows.Kv.Operations
import Rdows.Kv.Representation
import Rdows.Server.MemoryStore
import Rdows.Server.StoreInvariant
import Rdows.Server.StoreRefinement
import Rdows.Server.Session
import Rdows.Server.SessionPlan
import Rdows.Server.SessionSpec
import Rdows.Server.SessionLoop
import Rdows.Server.SessionRuns
import Rdows.Server.SessionAnswers
import Rdows.Server.AccessRights
import Rdows.Server.Bookkeeping
import Rdows.Server.Domains
import Rdows.Server.Writes
import Rdows.Server.RateLimit
import Rdows.Server.Noninterference
import Rdows.Server.Replay
import Rdows.Server.Admission
import Rdows.Server.Host
import Rdows.Server.Isolation
import Rdows.Server.Capacity
import Rdows.Server.Frames
import Rdows.Server.Replies
import Rdows.Server.Errors
import Rdows.Network.Basic
import Rdows.Network.Requests
import Rdows.Network.Agreement
import Rdows.Network.Moves
import Rdows.Network.Wire
import Rdows.Network.Unread
import Rdows.Network.Holdings
import Rdows.Network.Credits
import Rdows.Network.Regions
import Rdows.Network.Progress
import Rdows.Network.Sequential
import Rdows.Network.Schedules
import Rdows.Network.Direct
import Rdows.Network.Calls
import Rdows.Network.Transparency
import Rdows.Network.AddressSpace
import Rdows.Network.RemoteMemory
import Rdows.Network.Registration
import Rdows.Network.ReceiverNotReady
import Rdows.Kv.Remote
import Rdows.Kv.Api
import Rdows.Kv.Service
