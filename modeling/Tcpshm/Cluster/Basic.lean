import Tcpshm.Link.System
import Tcpshm.Server.Transport

/-!
# One client of a server with many connections

The server with its pool, its groups and its new connections, and one client that logs on over TCP.
The other clients do what they want. What concerns this client is taken from the server's tables, and
has the form of a system of one client and one server.
-/

namespace Tcpshm

/-! ### The connection of a client -/

namespace Server

variable {F : LoginFormat}

/-- The connection with the client's name, if there is one in the group. -/
def slot (S : Server F) (gid : GroupId) (name : Name F) : Option Nat :=
  (S.grps gid).conns.find? fun c => decide ((S.pool c).remoteName = name)

/-- The connection over TCP; where there is none it is one that nothing was done to. -/
def connOf (C : Conf) (S : Server F) (gid : GroupId) (name : Name F) : PTCPConnection :=
  ((S.slot gid name).map fun c => (S.pool c).ptcpConn).getD (.new C)

def liveOf (S : Server F) (gid : GroupId) (name : Name F) : Bool :=
  (S.slot gid name).any fun c => decide (c ∈ (S.grps gid).live)

end Server

/-- The bytes that `Open` hands to the socket at the end of `handleMatched`. -/
def TcpShmConnection.handledSent {F : LoginFormat} (C : Conf) (serverName : Name F)
    (c : TcpShmConnection F) (header : MsgHeader) (login : LoginMsg F) (fd now : Int)
    (env : HandleEnv) : List UInt8 :=
  match c.openFile login.useShm env.files env.errs with
  | (_, some _) => []
  | (c, none) =>
    let sent (n : SeqNumbers) : List UInt8 :=
      (answerLogin C serverName (if login.lastServerName ≠ serverName then c.reset else c).ptcpConn n
        fd now env.sendOk env.sends).sent
    if login.lastServerName ≠ serverName then sent ⟨0, 0, 0, 0, 0, 0⟩
    else
      match c.getSeq C with
      | .ok ackSeq seqStart seqEnd =>
        sent ⟨ackSeq, seqStart, seqEnd, header.ackSeq, login.clientSeqStart, login.clientSeqEnd⟩
      | _ => []

/-- The bytes that `Open` hands to the socket in `HandleLogin`. -/
def Server.handledSent {F : LoginFormat} (C : Conf) (S : Server F) (header : MsgHeader)
    (login : LoginMsg F) (fd now : Int) (env : HandleEnv) : List UInt8 :=
  let gid : GroupId := ⟨login.useShm, env.grpid.toNat⟩
  match S.findSlot gid login.clientName with
  | some i =>
    let c := (S.grps gid).conns.getD i 0
    ((S.claim c login.clientName).pool c).handledSent C S.serverName header login fd now env
  | none => []

/-! ### The steps of the client -/

/-- The steps of a system that are the client's or the network's. -/
inductive System.ClientStep {F : LoginFormat} (H : Hosts F) : System F → System F → Prop where
  | client {s : System F} {ex : Exchanged} {P' : Peer} (hidle : s.connecting = .idle)
      (h : Peer.Step H.client s.toClient s.client ex P') :
      ClientStep H s { s with
        client := P'
        toClient := s.toClient.drop ex.read.length
        toServer := if s.joined then s.toServer ++ ex.sent else s.toServer }
  | connect {s s' : System F} (h : s.connect H = some s') : ClientStep H s s'
  | respond {s : System F} {r : TcpShmClient F × ConnectResult × List UInt8} (newBlk : Mem MsgHeader)
      (fd now : Int) (rs : List SendResult) (h : s.response H newBlk fd now rs = some r) :
      ClientStep H s (s.afterResponse newBlk r)
  | giveUp {s : System F} : ClientStep H s s.giveUp
  | crashClient {s : System F} : ClientStep H s (s.crashClient H)
  | crashRenamed {s : System F} {r : TcpShmClient F × ConnectResult × List UInt8}
      (newBlk : Mem MsgHeader) (fd now : Int) (rs : List SendResult)
      (h : s.response H newBlk fd now rs = some r) (hok : r.2.1 = .success)
      (hname : s.lastServerName ≠ r.1.serverName) : ClientStep H s (s.crashRenamed H newBlk r)
  | disconnectClient {s : System F} :
      ClientStep H s { s with client := s.client.withConn s.client.conn.tryCloseFd.1 }
  | cut {s : System F} (k l : Nat) : ClientStep H s (s.cut k l)

/-! ### The server and the client -/

/-- The server's connection with the client and whether it is live are in `server`, and so they do
not count in `link`. -/
structure Cluster (F : LoginFormat) where
  server : Server F
  link : System F

namespace Cluster

variable {F : LoginFormat} (H : Hosts F) (K : ServerConf) (R : RingSize) (gid : GroupId)

/-- What the client sees of the server. -/
def view (x : Cluster F) : System F :=
  { x.link with
    server := x.link.server.withConn (x.server.connOf H.server gid H.clientName)
    live := x.server.liveOf gid H.clientName }

/-- The server is started, and the files are new. -/
def init (clientBlk serverBlk : Mem MsgHeader) : Cluster F where
  server := .new H.server K H.serverName
  link := .init H H.serverName clientBlk serverBlk

/-- After `HandleLogin` for the client. The response to a login that succeeds is lost where it cannot
be sent. -/
def afterLogin (x : Cluster F) (out : ServerHandled F) (sent : List UInt8) : System F :=
  if out.logon then
    { x.link.answer (some (out.header, out.rsp)) with
      server := { x.link.server with fronted := none }
      joined := x.link.late.isEmpty
      toServer := []
      toClient := if x.link.late.isEmpty then sent else x.link.toClient }
  else x.link.answer (if out.rsp.status = 0 then none else some (out.header, out.rsp))

/-- What the server does for other clients, and `Start` and `accept`. -/
inductive Other (C : Conf) (name : Name F) : Server F → Server F → Prop where
  | start {S : Server F} (fd : Int) : Other C name S (S.start fd)
  | accept {S : Server F} (accepted now : Int) : Other C name S (S.accept K accepted now)
  | visit {S S' : Server F} {i : Nat} {now : Int} {recv : LoginRecv F} {env : HandleEnv}
      (hi : i < K.maxNewConnections) (h : S.visit C K i now recv env = some S')
      (hother : ∀ header msg header' login, recv = .login header msg →
        receiveLogin C header msg = some (header', login) → login.clientName ≠ name) :
      Other C name S S'
  | turn {S : Server F} {gid' : GroupId} {i c : Nat} (now : Int) (polls : Nat → Poll)
      (hg : gid' ∈ K.groupIds) (hi : i < (S.grps gid').liveCnt)
      (hc : (S.grps gid').conns[i]? = some c) (hother : S.slot gid name ≠ some c) :
      Other C name S (S.turn C gid' i now polls).1
  | call {S : Server F} {c : Nat} (e : TcpShmConnection.Call)
      (hnamed : (S.names c).isEmpty = false) (hother : S.slot gid name ≠ some c) :
      Other C name S (S.setConn c (e.run C R (S.pool c)))

/-- The steps of the server and the client. A login under the client's name is one that the client
has sent, and it goes to its group. -/
inductive Step : Cluster F → Cluster F → Prop where
  | client {x : Cluster F} {s' : System F} (h : System.ClientStep H (x.view H gid) s') :
      Step x ⟨x.server, s'⟩
  | serves {x : Cluster F} {c : Nat} {ex : Exchanged} {P' : Peer}
      (hc : x.server.slot gid H.clientName = some c)
      (h : Peer.Step H.server x.link.toServer (x.view H gid).server ex P') :
      Step x
        { server := x.server.setConn c { x.server.pool c with ptcpConn := P'.conn }
          link := { x.link with
            server := P'
            toServer := x.link.toServer.drop ex.read.length
            toClient := if x.link.joined then x.link.toClient ++ ex.sent else x.link.toClient } }
  | login {x : Cluster F} {header : MsgHeader} {login : LoginMsg F} {out : ServerHandled F} {i : Nat}
      (now : Int) (env : HandleEnv) (hi : i < K.maxNewConnections)
      (hfd : 0 ≤ (x.server.newConns i).fd) (hrecv : x.link.received H = some (header, login))
      (hname : login.clientName = H.clientName) (hgrp : env.grpid < 0 ∨ env.group login = gid)
      (hfile : env.files.ptcp = x.link.server.file)
      (hout : x.server.handleLogin H.server K header login (x.server.newConns i).fd now env =
        some out) :
      Step x
        { server := out.server.freeNewConn i
          link := x.afterLogin out
            (x.server.handledSent H.server header login (x.server.newConns i).fd now env) }
  | ignores {x : Cluster F} {i : Nat} (hi : i < K.maxNewConnections)
      (hfd : 0 ≤ (x.server.newConns i).fd) :
      Step x ⟨x.server.freeNewConn i, x.link.answer none⟩
  | turn {x : Cluster F} {i c : Nat} (now : Int) (polls : Nat → Poll)
      (hi : i < (x.server.grps gid).liveCnt) (hc : (x.server.grps gid).conns[i]? = some c)
      (hslot : x.server.slot gid H.clientName = some c) :
      Step x
        { server := (x.server.turn H.server gid i now polls).1
          link := if (x.server.turn H.server gid i now polls).2 then
              { x.link with joined := false, toServer := [] }
            else x.link }
  | restarts {x : Cluster F} : Step x ⟨.new H.server K H.serverName, (x.view H gid).crashServer H⟩
  | others {x : Cluster F} {S' : Server F} (h : Other K R gid H.server H.clientName x.server S') :
      Step x ⟨S', x.link⟩

inductive Reaches : Cluster F → Prop where
  | init (clientBlk serverBlk : Mem MsgHeader) : Reaches (init H K clientBlk serverBlk)
  | step {x x' : Cluster F} (h : Reaches x) (hstep : Step H K R gid x x') : Reaches x'

end Cluster

end Tcpshm
