import Tcpshm.Client.Failed
import Tcpshm.Server.Login
import Tcpshm.SpscVarQueue.Fifo

/-!
# Two processes on the same queues

A client and the server's connection for it, over shared memory. Both map the same two queues, and
a login may make each of them construct both queues anew, whatever the other one is doing.
-/

namespace Tcpshm

/-! ### Views of the memory -/

section View

variable {F : LoginFormat}

/-- The connection, where the queues it has mapped hold `send` and `recv` now. -/
def TcpShmConnection.view (c : TcpShmConnection F) (send recv : SPSCVarQueue) :
    TcpShmConnection F :=
  { c with
    shmSendq := c.shmSendq.map fun _ => send
    shmRecvq := c.shmRecvq.map fun _ => recv }

/-- The client, where the queues with `serverName` hold `send` and `recv` now. -/
def Client.view (cl : Client F) (serverName : Name F) (send recv : SPSCVarQueue) : Client F :=
  { cl with
    conn := if cl.conn.remoteName = serverName then cl.conn.view send recv else cl.conn
    disk := { cl.disk with
      shmSend := Function.update cl.disk.shmSend serverName send
      shmRecv := Function.update cl.disk.shmRecv serverName recv } }

/-- What the queues with `serverName` hold, mapped or not. -/
def Client.queueFiles (cl : Client F) (serverName : Name F) : QueueFiles :=
  if cl.conn.remoteName = serverName then cl.conn.contents (cl.disk.queueFiles serverName)
  else cl.disk.queueFiles serverName

end View

/-! ### The producer and the consumer -/

namespace SPSCVarQueue.Traffic

variable (R : RingSize)

/-- A call of the producer, or the user's stores into what `Alloc` has returned. -/
inductive Produces : Traffic → Traffic → Prop where
  | alloc {t : Traffic} (size : UInt16) (hsize : size.toNat + 8 ≤ 65535) :
      Produces t (t.alloc R size)
  | fill {t : Traffic} {u : Placed} (hu : t.pending = some u) (msgType : UInt16)
      (body : List MsgHeader) (hbody : body.length + 1 = words u.msg.size) :
      Produces t (t.fill u msgType body)
  | push {t : Traffic} {u : Placed} (hu : t.pending = some u) : Produces t (t.push R u)

/-- A call of the consumer. -/
inductive Consumes : Traffic → Traffic → Prop where
  | front {t : Traffic} : Consumes t (t.front R)
  | pop {t : Traffic} {p : Nat} (hp : t.fronted = some p) : Consumes t (t.pop R p)

/-- Nothing is on the way: what was pushed is popped, and what was allocated is pushed. -/
structure Quiet (t : Traffic) : Prop where
  unread : t.unread = []
  pending : t.pending = none

end SPSCVarQueue.Traffic

/-! ### The system -/

open SPSCVarQueue (Traffic)

/-- Where a login is: the client is outside of `Connect`; the server has got its login; or the
client has got the response. -/
inductive LoginStage (F : LoginFormat) where
  | idle
  | asking (header : MsgHeader) (msg : LoginMsg F)
  | answered (header : MsgHeader) (msg : LoginMsg F) (rspHeader : MsgHeader) (rsp : LoginRspMsg F)

/-- `live` from `OnClientLogon` on until the server finds the connection closed. -/
structure ShmSystem (F : LoginFormat) where
  client : Client F
  server : TcpShmConnection F
  live : Bool
  stage : LoginStage F
  toClient : Traffic
  toServer : Traffic

/-- The directions of messages. -/
inductive Direction where
  | toClient
  | toServer

namespace ShmSystem

variable {F : LoginFormat}

def traffic (s : ShmSystem F) : Direction → Traffic
  | .toClient => s.toClient
  | .toServer => s.toServer

section

variable (C Cs : Conf) (R : RingSize) (serverName : Name F)

/-- Both queues are new, and no process has mapped them. -/
def init (clientName : Name F) (disk : Disk F) (blk blk' : Mem MsgHeader) : ShmSystem F where
  client := .new C clientName disk
  server := .new Cs serverName
  live := false
  stage := .idle
  toClient := .init blk
  toServer := .init blk'

/-- The client as it sees the memory. -/
def clientView (s : ShmSystem F) : Client F := s.client.view serverName s.toServer.q s.toClient.q

/-- The client process has become `cl`. -/
def storeClient (s : ShmSystem F) (cl : Client F) : ShmSystem F :=
  { s with
    client := cl
    toClient := { s.toClient with q := (cl.queueFiles serverName).shmRecv }
    toServer := { s.toServer with q := (cl.queueFiles serverName).shmSend } }

/-- The server's connection as it sees the memory. -/
def serverView (s : ShmSystem F) : TcpShmConnection F := s.server.view s.toClient.q s.toServer.q

/-- What the files of the server hold. -/
def serverFiles (s : ShmSystem F) (ptcp : PTCPQueue) : QueueFiles :=
  ⟨ptcp, s.toClient.q, s.toServer.q⟩

/-- The server's connection has become `c`. -/
def storeServer (s : ShmSystem F) (c : TcpShmConnection F) : ShmSystem F :=
  { s with
    server := c
    toClient := { s.toClient with q := c.shmSendq.getD s.toClient.q }
    toServer := { s.toServer with q := c.shmRecvq.getD s.toServer.q } }

/-- `Connect` up to the login. -/
def connect (s : ShmSystem F) (env : ConnectEnv F) : ShmSystem F :=
  let prepared := (s.clientView serverName).prepare C env
  { s.storeClient serverName prepared.1 with
    stage := match prepared.2 with
      | .login header msg => .asking header msg
      | _ => .idle }

/-- `HandleLogin` in the memory. -/
def handleEnv (s : ShmSystem F) (env : HandleEnv) : HandleEnv :=
  { env with files := s.serverFiles env.files.ptcp }

/-- The server after `HandleLogin`. -/
def afterHandle (s : ShmSystem F) (header : MsgHeader) (msg : LoginMsg F) (out : Matched F) :
    ShmSystem F :=
  { s.storeServer out.conn with
    live := out.event = .clientLogon
    stage := if out.event = .sendFailed then .idle else .answered header msg out.header out.rsp }

/-- `Connect` from the response on. -/
def response (s : ShmSystem F) (env : ConnectEnv F) (header : MsgHeader) (msg : LoginMsg F)
    (fd : Int) (rspHeader : MsgHeader) (rsp : LoginRspMsg F) : Client F × ConnectOutcome F :=
  (s.clientView serverName).respond C env header msg fd
    (rspHeader.carry Cs.endian.isLittle C.endian.isLittle)
    (rsp.carry Cs.endian.isLittle C.endian.isLittle)

/-- `HandleLogin` calls `Reset`. -/
structure ServerResets (s : ShmSystem F) (login : LoginMsg F) (env : HandleEnv) : Prop where
  other : login.lastServerName ≠ serverName
  opened : (s.serverView.openFile login.useShm (s.serverFiles env.files.ptcp) env.errs).2 = none

/-- `Connect` calls `Reset`. -/
structure ClientResets (s : ShmSystem F) (env : ConnectEnv F) (rspHeader : MsgHeader)
    (rsp : LoginRspMsg F) : Prop where
  newName : s.client.NewName C (rspHeader.carry Cs.endian.isLittle C.endian.isLittle)
    (rsp.carry Cs.endian.isLittle C.endian.isLittle)
  opened : (((s.clientView serverName).rename rsp.serverName).openFile env.useShm env.newErrs).2 =
    none

/-- A step of one of the two processes, or the loss of a login or of its response. The first
argument says whether it constructs the queues anew. -/
inductive Step : Prop → ShmSystem F → ShmSystem F → Prop where
  | connect {s : ShmSystem F} {env : ConnectEnv F} (hshm : env.useShm = true)
      (hidle : s.stage = .idle) : Step False s (s.connect C serverName env)
  | handle {s : ShmSystem F} {header h : MsgHeader} {msg m : LoginMsg F} {fd now : Int}
      {env : HandleEnv} {out : Matched F} (hstage : s.stage = .asking header msg)
      (hlive : s.live = false)
      (hreceived : receiveLogin Cs (header.carry C.endian.isLittle Cs.endian.isLittle)
        (msg.carry C.endian.isLittle Cs.endian.isLittle) = some (h, m)) (hshm : m.useShm = true)
      (hmatched : s.serverView.handleMatched Cs serverName h m fd now (s.handleEnv env) = some out) :
      Step (s.ServerResets serverName m env) s (s.afterHandle header msg out)
  | refuse {s : ShmSystem F} {header : MsgHeader} {msg : LoginMsg F}
      (hstage : s.stage = .asking header msg) (errorMsg : String) :
      Step False s { s with
        stage := .answered header msg (rspHeader F Cs 0) ⟨0, 0, 2, serverName, errorMsg⟩ }
  | respond {s : ShmSystem F} {header rspHeader : MsgHeader} {msg : LoginMsg F}
      {rsp : LoginRspMsg F} {env : ConnectEnv F} (fd : Int) (hshm : env.useShm = true)
      (hstage : s.stage = .answered header msg rspHeader rsp) :
      Step (s.ClientResets C Cs serverName env rspHeader rsp) s
        { s.storeClient serverName (s.response C Cs serverName env header msg fd rspHeader rsp).1 with
          stage := .idle }
  | giveUp {s : ShmSystem F} : Step False s { s with stage := .idle }
  | pollTcp {s : ShmSystem F} (now : Int) (rs : List SendResult) (hb : SendResult)
      (res : ReadResult) : Step False s { s with client := s.client.pollTcp C now rs hb res }
  | tcpFront {s : ShmSystem F} (now : Int) (rs : List SendResult) (hb : SendResult)
      (res : ReadResult) : Step False s { s with server := (s.server.tcpFront Cs now rs hb res).1 }
  | disconnect {s : ShmSystem F} (h : s.server.tryCloseFd.2 = true) :
      Step False s { s with server := s.server.tryCloseFd.1, live := false }
  | clientSends {s : ShmSystem F} {t : Traffic} (hname : s.client.conn.remoteName = serverName)
      (hmapped : s.client.conn.sendsOn = .shm) (h : Traffic.Produces R s.toServer t) :
      Step False s { s with toServer := t }
  | clientReceives {s : ShmSystem F} {t : Traffic} (hname : s.client.conn.remoteName = serverName)
      (hmapped : s.client.conn.receivesOn = .shm) (h : Traffic.Consumes R s.toClient t) :
      Step False s { s with toClient := t }
  | serverSends {s : ShmSystem F} {t : Traffic} (hmapped : s.server.sendsOn = .shm)
      (h : Traffic.Produces R s.toClient t) : Step False s { s with toClient := t }
  | serverReceives {s : ShmSystem F} {t : Traffic} (hmapped : s.server.receivesOn = .shm)
      (h : Traffic.Consumes R s.toServer t) : Step False s { s with toServer := t }

def Runs : ShmSystem F → ShmSystem F → Prop :=
  Relation.ReflTransGen fun s s' => ∃ resets, Step C Cs R serverName resets s s'

/-- The runs in which the queues are constructed anew only while nothing is on the way in direction
`d`. -/
def Reaches (d : Direction) (s : ShmSystem F) : Prop :=
  ∃ clientName disk blk blk',
    Relation.ReflTransGen
      (fun s s' => ∃ resets, Step C Cs R serverName resets s s' ∧ (resets → (s.traffic d).Quiet))
      (init C Cs serverName clientName disk blk blk') s

end

end ShmSystem

end Tcpshm
