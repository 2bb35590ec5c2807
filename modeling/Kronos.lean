import Kronos.Library.Bytes
import Kronos.Library.ArraySweep
import Kronos.Library.Access
import Kronos.Library.Batches
import Kronos.Library.Blocks
import Kronos.Library.BoundedBuffer
import Kronos.Library.IndexRelated
import Kronos.Library.KeyedList
import Kronos.Library.OpenAddressing
import Kronos.Library.ProbeMap
import Kronos.Library.ProbeChurn
import Kronos.Library.ProbeRoom
import Kronos.Library.ProbeWalks
import Kronos.Library.ProbeValues
import Kronos.Library.Chaining
import Kronos.Library.LockOrder
import Kronos.Library.RingBuffer
import Kronos.Library.Roster
import Kronos.Library.Since
import Kronos.Library.ThreadPool
import Kronos.Library.Transition
import Kronos.Library.CountedLoop
import Kronos.Library.Tiling
import Kronos.Library.KeyedRun
import Kronos.Frame.Format
import Kronos.Frame.RoundTrip
import Kronos.Frame.Rebuild
import Kronos.Frame.Stores
import Kronos.Frame.Parsers
import Kronos.Basic
import Kronos.Fragment.Split
import Kronos.Frame.Header
import Kronos.Fragment.Reassembler
import Kronos.Fragment.Session
import Kronos.Fragment.Feed
import Kronos.Fragment.Run
import Kronos.Fragment.Limits
import Kronos.Fragment.Message
import Kronos.Fragment.SplitFrames
import Kronos.Fragment.SplitEncoding
import Kronos.Fragment.SplitFlags
import Kronos.Fragment.SplitPool
import Kronos.Fragment.Packet
import Kronos.Ack.Tracker
import Kronos.Ack.Spec
import Kronos.Ack.CheckBuffers
import Kronos.Ack.RetryFrame
import Kronos.Ack.Pending
import Kronos.Ack.Stored
import Kronos.Ack.Backoff
import Kronos.Ack.FastRetransmit
import Kronos.Congestion.Controller
import Kronos.Congestion.Invariant
import Kronos.Server.State
import Kronos.Server.ConnectionMap
import Kronos.Server.MapChurn
import Kronos.Server.AddressIndex
import Kronos.Server.MapFailure
import Kronos.Server.Handlers
import Kronos.Server.AppFrame
import Kronos.Server.Send
import Kronos.Server.Retransmit
import Kronos.Server.System
import Kronos.Server.Heap
import Kronos.Server.Collect
import Kronos.Server.Channels
import Kronos.Server.SendSpec
import Kronos.Server.Membership
import Kronos.Server.Step
import Kronos.Server.Replies
import Kronos.Server.Presence
import Kronos.Server.Eviction
import Kronos.Server.Sections
import Kronos.Server.Lists
import Kronos.Server.Staleness
import Kronos.Server.History
import Kronos.Server.Stats
import Kronos.Server.Acknowledged
import Kronos.Server.InFlight
import Kronos.Server.Retries
import Kronos.Server.DeliveryFailure
import Kronos.Client.Connection
import Kronos.Client.Receive
import Kronos.Client.Wire
import Kronos.Client.Delivery
import Kronos.Client.Interleaving
import Kronos.Server.Stop
import Kronos.Server.Shutdown
import Kronos.Server.Broadcast
import Kronos.Client.Channels
import Kronos.Server.Threads
import Kronos.Server.Lifetime
import Kronos.Server.ConnectionIds
import Kronos.Server.Orphans
import Kronos.Server.StaleConnections
import Kronos.Server.Freeing
import Kronos.Server.Recipients
import Kronos.Server.BroadcastReach
import Kronos.Client.Outgoing
import Kronos.Client.Subscription
import Kronos.Client.Window
import Kronos.Client.SendFailure
import Kronos.Client.Backlog
import Kronos.Client.CallbackLength
import Kronos.Server.MessageQueue
import Kronos.Server.MessagePool
import Kronos.Server.StartFailure
import Kronos.Server.Locks
import Kronos.Server.PortTable
import Kronos.Server.PortInsertions
import Kronos.Server.Ports
import Kronos.Server.PortFailure
import Kronos.Server.Waiting
import Kronos.Server.PortFrame
import Kronos.Server.PacketIds
import Kronos.Ack.Registered
import Kronos.Server.Ledger
import Kronos.Client.OwnFrames
import Kronos.Client.Handover
import Kronos.Server.DatagramHeap
import Kronos.Client.Connect
import Kronos.Library.CellBlock
import Kronos.Array.Operations
import Kronos.Array.Refinement
import Kronos.Server.Datagrams
import Kronos.Library.WorkBound
import Kronos.Server.Joining
import Kronos.Server.Ending
import Kronos.Server.GettingThrough
import Kronos.Server.TearDown
import Kronos.Library.Lease
import Kronos.Server.Beats
import Kronos.Client.StayingConnected
import Kronos.Server.QueueMemory
import Kronos.Client.Calls
import Kronos.Server.StartCleanup
