import Tcpshm.PtcpConn.Basic

/-!
# Login (`tcpshm_client.h`, `tcpshm_server.h`)

The two halves of `Connect` and the part of `HandleLogin` that deals with the matched connection,
for a TCP login. Files can be opened and the user callback accepts the client.
-/

namespace Tcpshm

/-- What client and server agree on at compile time: `NameSize`, and the sizes of the messages. -/
structure LoginFormat where
  nameSize : Nat
  loginMsgSize : UInt16
  loginRspMsgSize : UInt16

/-- A `char[NameSize]` holding a C string. -/
structure Name (F : LoginFormat) where
  chars : List UInt8
  no_nul : 0 ∉ chars
  length_lt : chars.length < F.nameSize
deriving DecidableEq

/-- `name[0] == 0`. -/
def Name.isEmpty {F : LoginFormat} (n : Name F) : Bool := n.chars.isEmpty

/-- `LoginMsgTpl`. -/
structure LoginMsg (F : LoginFormat) where
  clientSeqStart : UInt32
  clientSeqEnd : UInt32
  useShm : Bool
  clientName : Name F
  lastServerName : Name F

def LoginMsg.convertByteOrder {F : LoginFormat} (ed : Endian) (m : LoginMsg F) : LoginMsg F :=
  { m with
    clientSeqStart := ed.convert32 m.clientSeqStart
    clientSeqEnd := ed.convert32 m.clientSeqEnd }

/-- `LoginRspMsgTpl`; an empty `error_msg` means success. -/
structure LoginRspMsg (F : LoginFormat) where
  serverSeqStart : UInt32
  serverSeqEnd : UInt32
  status : UInt8
  serverName : Name F
  errorMsg : String

def LoginRspMsg.convertByteOrder {F : LoginFormat} (ed : Endian) (m : LoginRspMsg F) :
    LoginRspMsg F :=
  { m with
    serverSeqStart := ed.convert32 m.serverSeqStart
    serverSeqEnd := ed.convert32 m.serverSeqEnd }

/-! ### The network -/

/-- The word a host of order `l'` reads where one of order `l` has stored `v`. -/
def carry32 (l l' : Bool) (v : UInt32) : UInt32 :=
  let bs := bytes32 l v
  word32 l' (bs.getD 0 0) (bs.getD 1 0) (bs.getD 2 0) (bs.getD 3 0)

/-- The header a host of order `l'` reads where one of order `l` has stored `h`. -/
def MsgHeader.carry (l l' : Bool) (h : MsgHeader) : MsgHeader := .ofBytes l' (h.toBytes l)

def LoginMsg.carry {F : LoginFormat} (l l' : Bool) (m : LoginMsg F) : LoginMsg F :=
  { m with
    clientSeqStart := carry32 l l' m.clientSeqStart
    clientSeqEnd := carry32 l l' m.clientSeqEnd }

def LoginRspMsg.carry {F : LoginFormat} (l l' : Bool) (m : LoginRspMsg F) : LoginRspMsg F :=
  { m with
    serverSeqStart := carry32 l l' m.serverSeqStart
    serverSeqEnd := carry32 l l' m.serverSeqEnd }

/-- The six numbers `OnSeqNumberMismatch` gets. -/
structure SeqNumbers where
  localAckSeq : UInt32
  localSeqStart : UInt32
  localSeqEnd : UInt32
  remoteAckSeq : UInt32
  remoteSeqStart : UInt32
  remoteSeqEnd : UInt32
deriving DecidableEq, Repr

/-- The same numbers seen from the other side. -/
def SeqNumbers.mirror (n : SeqNumbers) : SeqNumbers :=
  ⟨n.remoteAckSeq, n.remoteSeqStart, n.remoteSeqEnd, n.localAckSeq, n.localSeqStart, n.localSeqEnd⟩

/-- `CheckAckInQueue`. -/
def checkAckInQueue (ackSeq seqStart seqEnd : UInt32) : Bool :=
  0 ≤ (ackSeq - seqStart).asInt ∧ 0 ≤ (seqEnd - ackSeq).asInt

/-! ### The server -/

/-- The callback `HandleLogin` ends with. -/
inductive LoginEvent where
  | clientFileError (errorMsg : String)
  | seqNumberMismatch (n : SeqNumbers)
  | sendFailed
  | clientLogon
deriving DecidableEq, Repr

/-- What `HandleLogin` comes to: the connection, the response in wire order, the callback, and the
bytes `Open` hands to the socket. -/
structure LoginHandled (F : LoginFormat) where
  conn : PTCPConnection
  header : MsgHeader
  rsp : LoginRspMsg F
  event : LoginEvent
  sent : List UInt8

section Server

variable {F : LoginFormat} (C : Conf) (serverName : Name F)

/-- The response header in wire order. -/
def rspHeader (F : LoginFormat) (C : Conf) (ackSeq : UInt32) : MsgHeader :=
  MsgHeader.convertByteOrder C.endian ⟨8 + F.loginRspMsgSize, 2, ackSeq⟩

/-- `HandleLogin` once the sequence numbers are known. `sendOk` says whether all of the response
could be sent. -/
def answerLogin (conn : PTCPConnection) (n : SeqNumbers) (fd : Int) (now : Int) (sendOk : Bool)
    (rs : List SendResult) : LoginHandled F :=
  let header := rspHeader F C n.localAckSeq
  let rsp (status : UInt8) : LoginRspMsg F :=
    LoginRspMsg.convertByteOrder C.endian ⟨n.localSeqStart, n.localSeqEnd, status, serverName, ""⟩
  if !checkAckInQueue n.remoteAckSeq n.localSeqStart n.localSeqEnd ||
      !checkAckInQueue n.localAckSeq n.remoteSeqStart n.remoteSeqEnd then
    ⟨conn, header, rsp 1, .seqNumberMismatch n, []⟩
  else if !sendOk then ⟨conn, header, rsp 0, .sendFailed, []⟩
  else
    let opened := conn.open C fd n.remoteAckSeq now rs
    ⟨opened.1, header, rsp 0, .clientLogon, opened.2⟩

/-- `HandleLogin` for the connection that matches and is not live, where the queue file holds
`file`. There is no result where the check of the queue does not end or reads outside of it. -/
def handleLogin (conn : PTCPConnection) (file : PTCPQueue) (header : MsgHeader) (login : LoginMsg F)
    (fd : Int) (now : Int) (sendOk : Bool) (rs : List SendResult) : Option (LoginHandled F) :=
  let q := conn.q.getD file
  let conn := conn.openFile file
  if login.lastServerName ≠ serverName then
    some (answerLogin C serverName conn.reset ⟨0, 0, 0, 0, 0, 0⟩ fd now sendOk rs)
  else
    match q.sanityCheckAndGetSeq C.tcpQueueSize C.endian with
    | .ok seqStart seqEnd =>
      some (answerLogin C serverName conn ⟨q.myAck, seqStart, seqEnd, header.ackSeq,
        login.clientSeqStart, login.clientSeqEnd⟩ fd now sendOk rs)
    | .corrupt =>
      some ⟨conn, rspHeader F C 0, ⟨0, 0, 2, serverName, "System error"⟩,
        .clientFileError "Ptcp file corrupt", []⟩
    | _ => none

/-- `PollCtl` on a received login: the header and the message in host order, if they are valid. -/
def receiveLogin (header : MsgHeader) (login : LoginMsg F) : Option (MsgHeader × LoginMsg F) :=
  let header := header.convertByteOrder C.endian
  if header.size = 8 + F.loginMsgSize ∧ header.msgType = 1 then
    some (header, login.convertByteOrder C.endian)
  else none

end Server

/-! ### The client -/

/-- The client: the mapped `.lastserver` file, and the connection. -/
structure TcpShmClient (F : LoginFormat) where
  clientName : Name F
  serverName : Name F
  conn : PTCPConnection

/-- What the first half of `Connect` comes to: the login in wire order; the error it reports; or
nothing, where the check of the queue does not end or reads outside of it. -/
inductive LoginRequest (F : LoginFormat) where
  | login (header : MsgHeader) (msg : LoginMsg F)
  | error (errorMsg : String)
  | undefined

/-- What the second half of `Connect` comes to. -/
inductive ConnectResult where
  | systemError (errorMsg : String)
  | seqNumberMismatch (n : SeqNumbers)
  | loginReject
  | success
deriving DecidableEq, Repr

namespace TcpShmClient

variable {F : LoginFormat} (C : Conf)

/-- The first half of `Connect`, where the queue file holds `file`. -/
def loginRequest (cl : TcpShmClient F) (file : PTCPQueue) : TcpShmClient F × LoginRequest F :=
  if !cl.conn.isClosed then (cl, .error "already connected")
  else
    let cl := { cl with conn := cl.conn.tryCloseFd.1 }
    let request (ackSeq seqStart seqEnd : UInt32) : LoginRequest F :=
      .login (MsgHeader.convertByteOrder C.endian ⟨8 + F.loginMsgSize, 1, ackSeq⟩)
        (LoginMsg.convertByteOrder C.endian ⟨seqStart, seqEnd, false, cl.clientName, cl.serverName⟩)
    if cl.serverName.isEmpty then (cl, request 0 0 0)
    else
      let q := cl.conn.q.getD file
      let cl := { cl with conn := cl.conn.openFile file }
      match q.sanityCheckAndGetSeq C.tcpQueueSize C.endian with
      | .ok seqStart seqEnd => (cl, request q.myAck seqStart seqEnd)
      | .corrupt => (cl, .error "Ptcp file corrupt")
      | _ => (cl, .undefined)

/-- The second half of `Connect`, on the response `header` and `rsp` to the login `sentHeader` and
`sentMsg`; `newFile` is what the file for a new server name holds. -/
def loginResponse (cl : TcpShmClient F) (sentHeader : MsgHeader) (sentMsg : LoginMsg F)
    (header : MsgHeader) (rsp : LoginRspMsg F) (newFile : PTCPQueue) (fd : Int) (now : Int)
    (rs : List SendResult) : TcpShmClient F × ConnectResult × List UInt8 :=
  let header := header.convertByteOrder C.endian
  let rsp := rsp.convertByteOrder C.endian
  if header.size ≠ 8 + F.loginRspMsgSize ∨ header.msgType ≠ 2 ∨ rsp.serverName.isEmpty then
    (cl, .systemError "Invalid LoginRsp", [])
  else if rsp.status ≠ 0 then
    if rsp.status = 1 then
      let sentHeader := sentHeader.convertByteOrder C.endian
      let sentMsg := sentMsg.convertByteOrder C.endian
      (cl, .seqNumberMismatch ⟨sentHeader.ackSeq, sentMsg.clientSeqStart, sentMsg.clientSeqEnd,
        header.ackSeq, rsp.serverSeqStart, rsp.serverSeqEnd⟩, [])
    else (cl, .loginReject, [])
  else
    let cl := if cl.serverName ≠ rsp.serverName then
        { cl with serverName := rsp.serverName, conn := (cl.conn.release.openFile newFile).reset }
      else cl
    let opened := cl.conn.open C fd header.ackSeq now rs
    ({ cl with conn := opened.1 }, .success, opened.2)

end TcpShmClient

end Tcpshm
