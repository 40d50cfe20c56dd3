import Tcpshm.Link.Steps
import Tcpshm.Login.Sync

/-!
# A client and a server

Two processes, the connections between them, and the logins on the way. A login reaches the server
when all of its bytes have arrived there, in the order of the connections, and maybe only after the
client has given up on it.
-/

namespace Tcpshm

/-- What the two hosts are set up with. -/
structure Hosts (F : LoginFormat) where
  client : Conf
  server : Conf
  clientName : Name F
  serverName : Name F
  sameOrder : client.endian.toLittle = server.endian.toLittle
  named : serverName.isEmpty = false
  clientBuf_lt : client.tcpRecvBufMaxSize.toNat < 2 ^ 31
  serverBuf_lt : server.tcpRecvBufMaxSize.toNat < 2 ^ 31

/-- Where the client is in `Connect`: outside of it; waiting for the response to a login; or with
what it gets in response, which is nothing when the server closes the connection. -/
inductive Connecting (F : LoginFormat) where
  | idle
  | asking (header : MsgHeader) (msg : LoginMsg F)
  | answered (header : MsgHeader) (msg : LoginMsg F) (response : Option (MsgHeader × LoginRspMsg F))

/-- `late` are the logins the client has given up on and that the server will still see. `joined`
says whether the connection that is live at the server is the client's newest. -/
structure System (F : LoginFormat) where
  client : Peer
  server : Peer
  lastServerName : Name F
  connecting : Connecting F
  late : List (MsgHeader × LoginMsg F)
  live : Bool
  joined : Bool
  toServer : List UInt8
  toClient : List UInt8

namespace System

variable {F : LoginFormat} (H : Hosts F)

/-- New files on both sides; `lastServerName` is what the client remembers. -/
def init (lastServerName : Name F) (clientBlk serverBlk : Mem MsgHeader) : System F where
  client := ⟨.init clientBlk, .new H.client, none, [], [], []⟩
  server := ⟨.init serverBlk, .new H.server, none, [], [], []⟩
  lastServerName := lastServerName
  connecting := .idle
  late := []
  live := false
  joined := false
  toServer := []
  toClient := []

/-- The client of `tcpshm_client.h`. -/
def tcpShmClient (s : System F) : TcpShmClient F := ⟨H.clientName, s.lastServerName, s.client.conn⟩

/-- The logins the server will see. -/
def pending (s : System F) : List (MsgHeader × LoginMsg F) :=
  s.late ++ match s.connecting with
    | .asking header msg => [(header, msg)]
    | _ => []

/-! ### The login, step by step -/

/-- The first half of `Connect`. -/
def request (s : System F) : TcpShmClient F × LoginRequest F :=
  (s.tcpShmClient H).loginRequest H.client s.client.file

/-- `Connect` up to the response: the login is sent on a new connection, or there is an error. -/
def connect (s : System F) : Option (System F) :=
  match s.connecting, s.request H with
  | .idle, (cl, .login header msg) =>
    some { s with
      client := s.client.withConn cl.conn
      connecting := .asking header msg
      joined := false
      toClient := [] }
  | .idle, (cl, .error _) => some { s with client := s.client.withConn cl.conn }
  | _, _ => none

/-- The first login is off the server's hands; if the client still waits for it, it gets
`response`. -/
def answer (s : System F) (response : Option (MsgHeader × LoginRspMsg F)) : System F :=
  match s.late, s.connecting with
  | _ :: late, _ => { s with late := late }
  | [], .asking header msg => { s with connecting := .answered header msg response }
  | [], _ => s

/-- How `HandleLogin` refuses a login. -/
def refusal (errorMsg : String) : MsgHeader × LoginRspMsg F :=
  (rspHeader F H.server 0, ⟨0, 0, 2, H.serverName, errorMsg⟩)

/-- The first login as the server reads it. -/
def received (s : System F) : Option (MsgHeader × LoginMsg F) :=
  s.pending.head?.bind fun (header, msg) =>
    receiveLogin H.server (header.carry H.client.endian.isLittle H.server.endian.isLittle)
      (msg.carry H.client.endian.isLittle H.server.endian.isLittle)

/-- `HandleLogin` for the first login. -/
def handled (s : System F) (fd now : Int) (sendOk : Bool) (rs : List SendResult) :
    Option (LoginHandled F) :=
  (s.received H).bind fun (header, msg) =>
    handleLogin H.server H.serverName s.server.conn s.server.file header msg fd now sendOk rs

/-- The server after `HandleLogin`. After a login nothing of an older connection is popped. -/
def afterHandle (s : System F) (r : LoginHandled F) : System F :=
  match r.event with
  | .clientLogon =>
    { s.answer (some (r.header, r.rsp)) with
      server := { s.server with conn := r.conn, fronted := none }
      live := true
      joined := s.late.isEmpty
      toServer := []
      toClient := if s.late.isEmpty then r.sent else s.toClient }
  | .sendFailed => { s.answer none with server := s.server.withConn r.conn }
  | _ => { s.answer (some (r.header, r.rsp)) with server := s.server.withConn r.conn }

/-- The server handles the first login. -/
def handle (s : System F) (fd now : Int) (sendOk : Bool) (rs : List SendResult) :
    Option (System F) :=
  if s.live then (s.received H).map fun _ => s.answer (some (refusal H "Already loggned on"))
  else (s.handled H fd now sendOk rs).map s.afterHandle

/-- The second half of `Connect`, when there is a response; the file for a new server name is
new. -/
def response (s : System F) (newBlk : Mem MsgHeader) (fd now : Int) (rs : List SendResult) :
    Option (TcpShmClient F × ConnectResult × List UInt8) :=
  match s.connecting with
  | .answered header msg (some (rspHeader, rsp)) =>
    some ((s.tcpShmClient H).loginResponse H.client header msg
      (rspHeader.carry H.server.endian.isLittle H.client.endian.isLittle)
      (rsp.carry H.server.endian.isLittle H.client.endian.isLittle) (.init newBlk) fd now rs)
  | _ => none

/-- The client on a new file. -/
def anew (newBlk : Mem MsgHeader) (conn : PTCPConnection) : Peer :=
  ⟨.init newBlk, conn, none, [], [], []⟩

/-- The client after `Connect`. -/
def afterResponse (s : System F) (newBlk : Mem MsgHeader)
    (r : TcpShmClient F × ConnectResult × List UInt8) : System F :=
  if r.2.1 = .success then
    { s with
      client := if s.lastServerName = r.1.serverName then
          { s.client with conn := r.1.conn, fronted := none }
        else anew newBlk r.1.conn
      lastServerName := r.1.serverName
      connecting := .idle
      toServer := if s.joined then s.toServer ++ r.2.2 else s.toServer }
  else
    { s with client := s.client.withConn r.1.conn, connecting := .idle, joined := false, toClient := [] }

/-- The client gives up: its login is late, or the response is lost. -/
def giveUp (s : System F) : System F :=
  { s with
    connecting := .idle
    late := s.pending
    joined := false
    toClient := [] }

/-- The client process restarts. -/
def crashClient (s : System F) : System F :=
  { s.giveUp with client := s.client.crash H.client }

/-- The client process restarts when `Connect` has stored a new server name and done no more. -/
def crashRenamed (s : System F) (newBlk : Mem MsgHeader)
    (r : TcpShmClient F × ConnectResult × List UInt8) : System F :=
  { s.giveUp with client := anew newBlk (.new H.client), lastServerName := r.1.serverName }

/-- The server process restarts. -/
def crashServer (s : System F) : System F :=
  { s with
    server := s.server.crash H.server
    connecting := match s.connecting with
      | .asking header msg => .answered header msg none
      | c => c
    late := []
    live := false
    joined := false
    toServer := [] }

/-- `PollCtl` finds the connection closed. -/
def disconnect (s : System F) : System F :=
  { s with
    server := s.server.withConn s.server.conn.tryCloseFd.1
    live := false
    joined := false
    toServer := [] }

/-- The connection is lost; some of what was sent still arrives. -/
def cut (s : System F) (k l : Nat) : System F :=
  { s with joined := false, toServer := s.toServer.take k, toClient := s.toClient.take l }

/-! ### Runs -/

inductive Step : System F → System F → Prop where
  | client {s : System F} {ex : Exchanged} {P' : Peer} (hidle : s.connecting = .idle)
      (h : Peer.Step H.client s.toClient s.client ex P') :
      Step s { s with
        client := P'
        toClient := s.toClient.drop ex.read.length
        toServer := if s.joined then s.toServer ++ ex.sent else s.toServer }
  | server {s : System F} {ex : Exchanged} {P' : Peer}
      (h : Peer.Step H.server s.toServer s.server ex P') :
      Step s { s with
        server := P'
        toServer := s.toServer.drop ex.read.length
        toClient := if s.joined then s.toClient ++ ex.sent else s.toClient }
  | connect {s s' : System F} (h : s.connect H = some s') : Step s s'
  | ignore {s : System F} : Step s (s.answer none)
  | refuse {s : System F} (errorMsg : String) : Step s (s.answer (some (refusal H errorMsg)))
  | handle {s s' : System F} (fd now : Int) (sendOk : Bool) (rs : List SendResult)
      (h : s.handle H fd now sendOk rs = some s') : Step s s'
  | respond {s : System F} {r : TcpShmClient F × ConnectResult × List UInt8} (newBlk : Mem MsgHeader)
      (fd now : Int) (rs : List SendResult) (h : s.response H newBlk fd now rs = some r) :
      Step s (s.afterResponse newBlk r)
  | giveUp {s : System F} : Step s s.giveUp
  | crashClient {s : System F} : Step s (s.crashClient H)
  | crashRenamed {s : System F} {r : TcpShmClient F × ConnectResult × List UInt8}
      (newBlk : Mem MsgHeader) (fd now : Int) (rs : List SendResult)
      (h : s.response H newBlk fd now rs = some r) (hok : r.2.1 = .success)
      (hname : s.lastServerName ≠ r.1.serverName) : Step s (s.crashRenamed H newBlk r)
  | crashServer {s : System F} : Step s (s.crashServer H)
  | disconnectClient {s : System F} :
      Step s { s with client := s.client.withConn s.client.conn.tryCloseFd.1 }
  | disconnectServer {s : System F} (h : s.server.conn.tryCloseFd.2 = true) : Step s s.disconnect
  | cut {s : System F} (k l : Nat) : Step s (s.cut k l)

/-- The states reached when the client first remembers `lastServerName`. -/
def Reaches (lastServerName : Name F) (s : System F) : Prop :=
  ∃ clientBlk serverBlk,
    Relation.ReflTransGen (Step H) (init H lastServerName clientBlk serverBlk) s

end System

end Tcpshm
