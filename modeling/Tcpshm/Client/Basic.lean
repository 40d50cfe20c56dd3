import Mathlib.Logic.Function.Basic
import Tcpshm.TcpShmConn.Files

/-!
# The client (`tcpshm_client.h`)

`TcpShmClient` as the code computes it, for either transport and with every exit of `Connect`. What
the files can be mapped to, what the network does and what the server answers are arguments.
-/

namespace Tcpshm

/-- What the files of a client hold while they are not mapped: `.lastserver`, and the queues, by
the name of the server. -/
structure Disk (F : LoginFormat) where
  lastServer : Name F
  ptcp : Name F → PTCPQueue
  shmSend : Name F → SPSCVarQueue
  shmRecv : Name F → SPSCVarQueue

/-- The files of the connection with `serverName`. -/
def Disk.queueFiles {F : LoginFormat} (d : Disk F) (serverName : Name F) : QueueFiles :=
  ⟨d.ptcp serverName, d.shmSend serverName, d.shmRecv serverName⟩

/-- The files after what `conn` has mapped is unmapped. -/
def Disk.save {F : LoginFormat} (d : Disk F) (conn : TcpShmConnection F) : Disk F :=
  let files := conn.contents (d.queueFiles conn.remoteName)
  { d with
    ptcp := Function.update d.ptcp conn.remoteName files.ptcp
    shmSend := Function.update d.shmSend conn.remoteName files.shmSend
    shmRecv := Function.update d.shmRecv conn.remoteName files.shmRecv }

/-- `serverName` is what the mapped `.lastserver` holds, `none` for `nullptr`. -/
structure Client (F : LoginFormat) where
  clientName : Name F
  serverName : Option (Name F)
  conn : TcpShmConnection F
  disk : Disk F

/-- The call on the socket that fails; `send` and `recv` also where they are short. -/
inductive NetCall where
  | socket
  | rcvTimeo
  | sndTimeo
  | noDelay
  | connect
  | send
  | recv
deriving DecidableEq, Repr

/-- What `OnSystemError` is told. -/
def NetCall.errorMsg : NetCall → String
  | .socket => "socket"
  | .rcvTimeo => "setsockopt SO_RCVTIMEO"
  | .sndTimeo => "setsockopt SO_RCVTIMEO"
  | .noDelay => "setsockopt TCP_NODELAY"
  | .connect => "connect"
  | .send => "send"
  | .recv => "recv"

/-- What the network comes to: the first call that fails, with the `errno` it reports; or the
response, in wire order, on socket `fd`. -/
inductive NetResult (F : LoginFormat) where
  | failed (call : NetCall) (sysErrno : Int)
  | response (fd : Int) (header : MsgHeader) (rsp : LoginRspMsg F)

/-- What one call of `Connect` depends on: how mapping `.lastserver` and the queues fails, if it
does, in the first and in the second `OpenFile`; the network; and, after success, the `now` that
`OnLoginSuccess` returns and the sends in `Open`. -/
structure ConnectEnv (F : LoginFormat) where
  useShm : Bool
  lastServerErr : Option MapError
  errs : MapErrors
  net : NetResult F
  newErrs : MapErrors
  now : Int
  sends : List SendResult

/-- What `Connect` comes to before it needs the network: the login in wire order; the error it
reports; or nothing, where the check of the queue does not end or reads outside of it. -/
inductive Prepared (F : LoginFormat) where
  | login (header : MsgHeader) (msg : LoginMsg F)
  | error (errorMsg : String) (sysErrno : Int)
  | undefined

/-- The callback `Connect` ends with. -/
inductive ConnectOutcome (F : LoginFormat) where
  | systemError (errorMsg : String) (sysErrno : Int)
  | seqNumberMismatch (n : SeqNumbers)
  | loginReject (rsp : LoginRspMsg F)
  | loginSuccess (rsp : LoginRspMsg F)
  | undefined

/-- `Connect` returns false. -/
def ConnectOutcome.Fails {F : LoginFormat} : ConnectOutcome F → Prop
  | .systemError _ _ | .seqNumberMismatch _ | .loginReject _ => True
  | .loginSuccess _ | .undefined => False

namespace Client

variable {F : LoginFormat} (C : Conf)

/-- The constructor. -/
def new (clientName : Name F) (disk : Disk F) : Client F where
  clientName := clientName
  serverName := none
  conn := .new C clientName
  disk := disk

/-- The name that the next login carries, once `.lastserver` is mapped. -/
def storedName (cl : Client F) : Name F := cl.serverName.getD cl.disk.lastServer

/-- Map `.lastserver` unless that was done before. -/
def mapLastServer (cl : Client F) (err : Option MapError) : Client F × Option MapError :=
  match cl.serverName, err with
  | some _, _ => (cl, none)
  | none, some err => (cl, some err)
  | none, none =>
    ({ cl with
      serverName := some cl.disk.lastServer
      conn := { cl.conn with remoteName := cl.disk.lastServer } }, none)

/-- `OpenFile` of the connection. -/
def openFile (cl : Client F) (useShm : Bool) (errs : MapErrors) : Client F × Option MapError :=
  let opened := cl.conn.openFile useShm (cl.disk.queueFiles cl.conn.remoteName) errs
  ({ cl with conn := opened.1 }, opened.2)

/-- The login in wire order. -/
def loginMsg (cl : Client F) (useShm : Bool) (ackSeq seqStart seqEnd : UInt32) : Prepared F :=
  .login (MsgHeader.convertByteOrder C.endian ⟨8 + F.loginMsgSize, 1, ackSeq⟩)
    (LoginMsg.convertByteOrder C.endian
      ⟨seqStart, seqEnd, useShm, cl.clientName, cl.storedName⟩)

/-- `GetSeq`, and the login with its numbers. -/
def loginSeq (cl : Client F) (useShm : Bool) : Prepared F :=
  match cl.conn.getSeq C with
  | .ok ackSeq seqStart seqEnd => cl.loginMsg C useShm ackSeq seqStart seqEnd
  | .corrupt => .error "Ptcp file corrupt" 0
  | .undefined => .undefined

/-- `Connect` up to the first call on the network. -/
def prepare (cl : Client F) (env : ConnectEnv F) : Client F × Prepared F :=
  if !cl.conn.isClosed then (cl, .error "already connected" 0)
  else
    match { cl with conn := cl.conn.tryCloseFd.1 }.mapLastServer env.lastServerErr with
    | (cl, some err) => (cl, .error err.call.errorMsg err.errno)
    | (cl, none) =>
      if cl.storedName.isEmpty then (cl, cl.loginMsg C env.useShm 0 0 0)
      else
        match cl.openFile env.useShm env.errs with
        | (cl, some err) => (cl, .error err.call.errorMsg err.errno)
        | (cl, none) => (cl, cl.loginSeq C env.useShm)

/-- `Release` and the new names. -/
def rename (cl : Client F) (name : Name F) : Client F :=
  { cl with
    serverName := some name
    conn := { cl.conn.release with remoteName := name }
    disk := cl.disk.save cl.conn }

/-- Where the server is another one than the last time, its name is stored, and the queue for it is
opened and reset. -/
def adopt (cl : Client F) (name : Name F) (env : ConnectEnv F) : Client F × Option MapError :=
  if cl.storedName = name then (cl, none)
  else
    match (cl.rename name).openFile env.useShm env.newErrs with
    | (cl, some err) => (cl, some err)
    | (cl, none) => ({ cl with conn := cl.conn.reset }, none)

/-- `Open` of the connection. -/
def «open» (cl : Client F) (fd : Int) (remoteAckSeq : UInt32) (env : ConnectEnv F) : Client F :=
  { cl with conn := (cl.conn.open C fd remoteAckSeq env.now env.sends).1 }

/-- `Connect` on the response `header` and `rsp` to the login `sentHeader` and `sentMsg`, all in
wire order. -/
def respond (cl : Client F) (env : ConnectEnv F) (sentHeader : MsgHeader) (sentMsg : LoginMsg F)
    (fd : Int) (header : MsgHeader) (rsp : LoginRspMsg F) : Client F × ConnectOutcome F :=
  let header := header.convertByteOrder C.endian
  let rsp := rsp.convertByteOrder C.endian
  if header.size ≠ 8 + F.loginRspMsgSize ∨ header.msgType ≠ 2 ∨ rsp.serverName.isEmpty then
    (cl, .systemError "Invalid LoginRsp" 0)
  else if rsp.status ≠ 0 then
    if rsp.status = 1 then
      let sentHeader := sentHeader.convertByteOrder C.endian
      let sentMsg := sentMsg.convertByteOrder C.endian
      (cl, .seqNumberMismatch ⟨sentHeader.ackSeq, sentMsg.clientSeqStart, sentMsg.clientSeqEnd,
        header.ackSeq, rsp.serverSeqStart, rsp.serverSeqEnd⟩)
    else (cl, .loginReject rsp)
  else
    match cl.adopt rsp.serverName env with
    | (cl, some err) => (cl, .systemError err.call.errorMsg err.errno)
    | (cl, none) => (cl.open C fd header.ackSeq env, .loginSuccess rsp)

def connect (cl : Client F) (env : ConnectEnv F) : Client F × ConnectOutcome F :=
  match cl.prepare C env with
  | (cl, .error errorMsg sysErrno) => (cl, .systemError errorMsg sysErrno)
  | (cl, .undefined) => (cl, .undefined)
  | (cl, .login header msg) =>
    match env.net with
    | .failed call sysErrno => (cl, .systemError call.errorMsg sysErrno)
    | .response fd rspHeader rsp => cl.respond C env header msg fd rspHeader rsp

/-- `PollTcp`: poll the connection, and close the descriptor of a closed one. -/
def pollTcp (cl : Client F) (now : Int) (rs : List SendResult) (hb : SendResult)
    (res : ReadResult) : Client F :=
  let conn := if cl.conn.isClosed then cl.conn else (cl.conn.tcpFront C now rs hb res).1
  { cl with conn := conn.tryCloseFd.1 }

def stop (cl : Client F) : Client F :=
  { cl with
    serverName := none
    conn := cl.conn.release
    disk := { cl.disk.save cl.conn with lastServer := cl.storedName } }

end Client

end Tcpshm
