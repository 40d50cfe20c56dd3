import Tcpshm.Memory
import Tcpshm.Serial
import Tcpshm.MsgHeader
import Tcpshm.PtcpQueue.Basic
import Tcpshm.PtcpQueue.Window
import Tcpshm.PtcpQueue.Refinement
import Tcpshm.PtcpQueue.Run
import Tcpshm.PtcpQueue.Crash
import Tcpshm.PtcpQueue.AckCrash
import Tcpshm.PtcpQueue.AckOrder
import Tcpshm.PtcpQueue.Check
import Tcpshm.Ring
import Tcpshm.Joined
import Tcpshm.Descriptors
import Tcpshm.KeepAlive
import Tcpshm.SpscVarQueue.Basic
import Tcpshm.SpscVarQueue.Layout
import Tcpshm.SpscVarQueue.Spans
import Tcpshm.SpscVarQueue.Fifo
import Tcpshm.SpscVarQueue.Crash
import Tcpshm.SpscVarQueue.Room
import Tcpshm.AllocExtent
import Tcpshm.PtcpConn.Basic
import Tcpshm.PtcpConn.Send
import Tcpshm.PtcpConn.Buffer
import Tcpshm.PtcpConn.Parse
import Tcpshm.PtcpConn.Receive
import Tcpshm.PtcpConn.Stream
import Tcpshm.PtcpConn.PendingAlloc
import Tcpshm.PtcpConn.AnyBytes
import Tcpshm.PtcpConn.FrontTotal
import Tcpshm.PtcpConn.DoRecv
import Tcpshm.PtcpConn.Times
import Tcpshm.Login.Basic
import Tcpshm.Login.Sync
import Tcpshm.Link.Acks
import Tcpshm.Link.Peer
import Tcpshm.Link.Flow
import Tcpshm.Link.Sending
import Tcpshm.Link.Steps
import Tcpshm.Link.Direction
import Tcpshm.Link.Reopen
import Tcpshm.Link.System
import Tcpshm.Link.Login
import Tcpshm.Link.Invariant
import Tcpshm.Link.Session
import Tcpshm.Link.Delivery
import Tcpshm.Link.Drain
import Tcpshm.Link.Wire
import Tcpshm.TcpShmConn.Basic
import Tcpshm.TcpShmConn.Calls
import Tcpshm.TcpShmConn.HbOnly
import Tcpshm.TcpShmConn.Files
import Tcpshm.TcpShmConn.Names
import Tcpshm.Server.Basic
import Tcpshm.Server.Group
import Tcpshm.Server.Login
import Tcpshm.Server.Slots
import Tcpshm.Server.Run
import Tcpshm.Server.Sweep
import Tcpshm.Server.Failed
import Tcpshm.Server.Transport
import Tcpshm.Server.Fds
import Tcpshm.Server.Owners
import Tcpshm.Server.Watch
import Tcpshm.Client.Basic
import Tcpshm.Client.Next
import Tcpshm.Client.Failed
import Tcpshm.Client.Transport
import Tcpshm.Client.Fds
import Tcpshm.Shm.System
import Tcpshm.Shm.Reset
import Tcpshm.Shm.Delivery
import Tcpshm.Link.Timed
import Tcpshm.Echo.Server
import Tcpshm.Echo.Client
import Tcpshm.Cluster.Basic
import Tcpshm.Cluster.Slot
import Tcpshm.Cluster.Invariant
import Tcpshm.Cluster.Login
import Tcpshm.Cluster.View
import Tcpshm.Cluster.Refinement
