import Mathlib.Logic.Function.Basic
import Tcpshm.TcpShmConn.Basic

/-!
# The server (`tcpshm_server.h`)

`TcpShmServer` as the code computes it on the control thread. A pointer to a connection is its index
in `conn_pool_`. What the sockets, the files and the user's callbacks come to are arguments; the
callbacks that are fired are logged.
-/

namespace Tcpshm

/-- The template argument `Conf` of the server. -/
structure ServerConf where
  maxNewConnections : Nat
  maxShmConnsPerGrp : Nat
  maxShmGrps : Nat
  maxTcpConnsPerGrp : Nat
  maxTcpGrps : Nat
  newConnectionTimeout : Int

/-- An entry of `shm_grps_` or `tcp_grps_`. -/
structure GroupId where
  useShm : Bool
  idx : Nat
deriving DecidableEq, Repr

namespace ServerConf

/-- The groups, those of `shm_grps_` first. -/
def groupIds (K : ServerConf) : List GroupId :=
  (List.range K.maxShmGrps).map (GroupId.mk true) ++
    (List.range K.maxTcpGrps).map (GroupId.mk false)

/-- The connections the constructor gives to a group. -/
def slice (K : ServerConf) (gid : GroupId) : List Nat :=
  if gid.useShm then List.range' (gid.idx * K.maxShmConnsPerGrp) K.maxShmConnsPerGrp
  else List.range' (K.maxShmGrps * K.maxShmConnsPerGrp + gid.idx * K.maxTcpConnsPerGrp)
    K.maxTcpConnsPerGrp

end ServerConf

structure ConnectionGroup where
  liveCnt : Nat
  conns : List Nat
deriving DecidableEq, Repr

namespace ConnectionGroup

/-- The live connections. -/
def live (grp : ConnectionGroup) : List Nat := grp.conns.take grp.liveCnt

/-- `std::swap(conns[i], conns[j])`. -/
def swap (grp : ConnectionGroup) (i j : Nat) : ConnectionGroup :=
  { grp with conns := (grp.conns.set i (grp.conns.getD j 0)).set j (grp.conns.getD i 0) }

/-- `std::swap(conns[i], conns[live_cnt++])`. -/
def goLive (grp : ConnectionGroup) (i : Nat) : ConnectionGroup :=
  { grp.swap i grp.liveCnt with liveCnt := grp.liveCnt + 1 }

/-- `std::swap(conns[i], conns[--live_cnt])`. -/
def drop (grp : ConnectionGroup) (i : Nat) : ConnectionGroup :=
  { grp.swap i (grp.liveCnt - 1) with liveCnt := grp.liveCnt - 1 }

end ConnectionGroup

/-- `NewConn`, without the buffer. -/
structure NewConn where
  time : Int
  fd : Int
deriving DecidableEq, Repr

/-- A callback about a connection of the pool. -/
inductive ServerEvent where
  | clientFileError (conn : Nat) (errorMsg : String)
  | seqNumberMismatch (conn : Nat) (n : SeqNumbers)
  | clientLogon (conn : Nat)
  | clientDisconnected (conn : Nat) (reason : String) (sysErrno : Int)
deriving DecidableEq, Repr

structure Server (F : LoginFormat) where
  serverName : Name F
  listenfd : Int
  newConns : Nat → NewConn
  availIdx : Nat
  pool : Nat → TcpShmConnection F
  grps : GroupId → ConnectionGroup
  log : List ServerEvent

/-- What `HandleLogin` depends on besides the login: the result of `OnNewConnection` and the
`error_msg` it leaves, the files and how they can be mapped, whether the response is sent, and the
sends in `Open`. -/
structure HandleEnv where
  grpid : Int
  rejectMsg : String
  files : QueueFiles
  errs : MapErrors
  sendOk : Bool
  sends : List SendResult

/-- The part of `HandleLogin` on a connection: the response, and the callback at its end. -/
structure Matched (F : LoginFormat) where
  conn : TcpShmConnection F
  header : MsgHeader
  rsp : LoginRspMsg F
  event : LoginEvent

/-- What `HandleLogin` comes to, with the response it sends. -/
structure ServerHandled (F : LoginFormat) where
  server : Server F
  header : MsgHeader
  rsp : LoginRspMsg F
  logon : Bool

/-- What `recv` comes to on a new connection. -/
inductive LoginRecv (F : LoginFormat) where
  | again
  | login (header : MsgHeader) (msg : LoginMsg F)
  | other

/-- What the kernel answers to `TcpFront`. -/
structure Poll where
  rs : List SendResult
  hb : SendResult
  res : ReadResult

/-- What one call of `PollCtl` depends on: the result of `accept`, and those of each new connection
and of each connection of the pool. -/
structure PollEnv (F : LoginFormat) where
  now : Int
  accepted : Int
  recvs : Nat → LoginRecv F
  logins : Nat → HandleEnv
  polls : Nat → Poll

namespace TcpShmConnection

variable {F : LoginFormat} (C : Conf) (serverName : Name F)

/-- `HandleLogin` once the sequence numbers are known. -/
def answer (c : TcpShmConnection F) (n : SeqNumbers) (fd now : Int) (env : HandleEnv) : Matched F :=
  let handled := answerLogin C serverName c.ptcpConn n fd now env.sendOk env.sends
  ⟨{ c with ptcpConn := handled.conn }, handled.header, handled.rsp, handled.event⟩

/-- `HandleLogin` for the connection that matches and is not live. -/
def handleMatched (c : TcpShmConnection F) (header : MsgHeader) (login : LoginMsg F) (fd now : Int)
    (env : HandleEnv) : Option (Matched F) :=
  match c.openFile login.useShm env.files env.errs with
  | (c, some err) =>
    some ⟨c, rspHeader F C 0, ⟨0, 0, 2, serverName, "System error"⟩,
      .clientFileError err.call.errorMsg⟩
  | (c, none) =>
    if login.lastServerName ≠ serverName then
      some (c.reset.answer C serverName ⟨0, 0, 0, 0, 0, 0⟩ fd now env)
    else
      match c.getSeq C with
      | .ok ackSeq seqStart seqEnd =>
        some (c.answer C serverName ⟨ackSeq, seqStart, seqEnd, header.ackSeq, login.clientSeqStart,
          login.clientSeqEnd⟩ fd now env)
      | .corrupt =>
        some ⟨c, rspHeader F C 0, ⟨0, 0, 2, serverName, "System error"⟩,
          .clientFileError "Ptcp file corrupt"⟩
      | .undefined => none

end TcpShmConnection

namespace Server

variable {F : LoginFormat} (C : Conf) (K : ServerConf)

/-- The constructor. -/
def new (serverName : Name F) : Server F where
  serverName := serverName
  listenfd := -1
  newConns := fun _ => ⟨0, -1⟩
  availIdx := 0
  pool := fun _ => .new C serverName
  grps := fun gid => ⟨0, K.slice gid⟩
  log := []

/-- `Start`, where `socket` returns `fd`. -/
def start (S : Server F) (fd : Int) : Server F :=
  if 0 ≤ S.listenfd then S else { S with listenfd := fd }

def setConn (S : Server F) (c : Nat) (conn : TcpShmConnection F) : Server F :=
  { S with pool := Function.update S.pool c conn }

def setGrp (S : Server F) (gid : GroupId) (grp : ConnectionGroup) : Server F :=
  { S with grps := Function.update S.grps gid grp }

def logs (S : Server F) (e : ServerEvent) : Server F := { S with log := S.log ++ [e] }

/-! ### Logins -/

/-- The loop over `grp.conns` in `HandleLogin`: the first connection that is unused or has the
client's name. -/
def findSlot (S : Server F) (gid : GroupId) (clientName : Name F) : Option Nat :=
  (S.grps gid).conns.findIdx? fun c =>
    (S.pool c).remoteName.isEmpty || decide ((S.pool c).remoteName = clientName)

/-- An unused connection gets the client's name. -/
def claim (S : Server F) (c : Nat) (clientName : Name F) : Server F :=
  if (S.pool c).remoteName.isEmpty then S.setConn c { S.pool c with remoteName := clientName } else S

/-- A response with status 2. -/
def refuse (S : Server F) (errorMsg : String) : ServerHandled F :=
  ⟨S, rspHeader F C 0, ⟨0, 0, 2, S.serverName, errorMsg⟩, false⟩

/-- The end of `HandleLogin` for connection `c`, the one at `i` in its group. -/
def fire (S : Server F) (gid : GroupId) (i c : Nat) : LoginEvent → Server F
  | .clientFileError errorMsg => S.logs (.clientFileError c errorMsg)
  | .seqNumberMismatch n => S.logs (.seqNumberMismatch c n)
  | .sendFailed => S
  | .clientLogon => (S.setGrp gid ((S.grps gid).goLive i)).logs (.clientLogon c)

/-- `HandleLogin` from the matching connection on. -/
def handleSlot (S : Server F) (gid : GroupId) (i : Nat) (header : MsgHeader) (login : LoginMsg F)
    (fd now : Int) (env : HandleEnv) : Option (ServerHandled F) :=
  let c := (S.grps gid).conns.getD i 0
  let S := S.claim c login.clientName
  if i < (S.grps gid).liveCnt then some (S.refuse C "Already loggned on")
  else
    ((S.pool c).handleMatched C S.serverName header login fd now env).map fun m =>
      ⟨(S.setConn c m.conn).fire gid i c m.event, m.header, m.rsp, m.event = .clientLogon⟩

/-- `HandleLogin`, on header and login in host order. There is no result where the callback returns
the index of a group that does not exist, or where the check of the queue does not end. -/
def handleLogin (S : Server F) (header : MsgHeader) (login : LoginMsg F) (fd now : Int)
    (env : HandleEnv) : Option (ServerHandled F) :=
  if login.clientName.isEmpty then some (S.refuse C "Invalid client name")
  else if env.grpid < 0 then
    some (S.refuse C (if env.rejectMsg = "" then "Login Reject" else env.rejectMsg))
  else
    let gid : GroupId := ⟨login.useShm, env.grpid.toNat⟩
    if gid ∈ K.groupIds then
      match S.findSlot gid login.clientName with
      | some i => S.handleSlot C gid i header login fd now env
      | none => some (S.refuse C "Max client cnt exceeded")
    else none

/-! ### `PollCtl` -/

/-- Accept a connection, if there is room for it. -/
def accept (S : Server F) (accepted now : Int) : Server F :=
  if S.availIdx ≠ K.maxNewConnections then
    let fd := if S.listenfd < 0 then -1 else accepted
    let conn := S.newConns S.availIdx
    if 0 ≤ fd then
      { S with
        newConns := Function.update S.newConns S.availIdx ⟨now, fd⟩
        availIdx := K.maxNewConnections }
    else { S with newConns := Function.update S.newConns S.availIdx { conn with fd := fd } }
  else S

/-- The new connection `i` is done with: closed, or taken over. -/
def freeNewConn (S : Server F) (i : Nat) : Server F :=
  { S with
    newConns := Function.update S.newConns i { S.newConns i with fd := -1 }
    availIdx := i }

/-- One turn of the loop over the new connections. -/
def visit (S : Server F) (i : Nat) (now : Int) (recv : LoginRecv F) (env : HandleEnv) :
    Option (Server F) :=
  if (S.newConns i).fd < 0 then some { S with availIdx := i }
  else match recv with
    | .again =>
      if now - (S.newConns i).time ≤ K.newConnectionTimeout then some S
      else some (S.freeNewConn i)
    | .login header msg =>
      match receiveLogin C header msg with
      | some (header, login) =>
        (S.handleLogin C K header login (S.newConns i).fd now env).map fun h => h.server.freeNewConn i
      | none => some (S.freeNewConn i)
    | .other => some (S.freeNewConn i)

/-- For connections over shared memory, `PollCtl` polls the heartbeats. -/
def pollConn (S : Server F) (gid : GroupId) (now : Int) (polls : Nat → Poll) (c : Nat) :
    TcpShmConnection F :=
  if gid.useShm then ((S.pool c).tcpFront C now (polls c).rs (polls c).hb (polls c).res).1
  else S.pool c

/-- The closed connection `c`, the one at `i` in its group, is reported and removed. -/
def disconnect (S : Server F) (gid : GroupId) (i c : Nat) : Server F :=
  let reason := (S.pool c).ptcpConn.closeReason
  let sysErrno := (S.pool c).ptcpConn.closeErrno
  (S.logs (.clientDisconnected c reason sysErrno)).setGrp gid ((S.grps gid).drop i)

/-- One turn of the loop over the live connections of a group, and whether it removed one. -/
def turn (S : Server F) (gid : GroupId) (i : Nat) (now : Int) (polls : Nat → Poll) :
    Server F × Bool :=
  let c := (S.grps gid).conns.getD i 0
  let closed := (S.pollConn C gid now polls c).tryCloseFd
  let S := S.setConn c closed.1
  if closed.2 then (S.disconnect gid i c, true) else (S, false)

/-- The loop, from `i` on; a turn makes what remains to be visited, `live_cnt - i`, smaller by one. -/
def sweepLoop (gid : GroupId) (now : Int) (polls : Nat → Poll) : Nat → Nat → Server F → Server F
  | 0, _, S => S
  | n + 1, i, S =>
    match S.turn C gid i now polls with
    | (S, true) => sweepLoop gid now polls n i S
    | (S, false) => sweepLoop gid now polls n (i + 1) S

def sweep (S : Server F) (gid : GroupId) (now : Int) (polls : Nat → Poll) : Server F :=
  sweepLoop C gid now polls (S.grps gid).liveCnt 0 S

/-- The loop over the new connections. -/
def visitAll (S : Server F) (env : PollEnv F) : Option (Server F) :=
  (List.range K.maxNewConnections).foldlM
    (fun (S : Server F) i => S.visit C K i env.now (env.recvs i) (env.logins i)) S

/-- The loops over the groups. -/
def sweepAll (S : Server F) (env : PollEnv F) : Server F :=
  K.groupIds.foldl (fun (S : Server F) gid => S.sweep C gid env.now env.polls) S

def pollCtl (S : Server F) (env : PollEnv F) : Option (Server F) :=
  ((S.accept K env.accepted env.now).visitAll C K env).map fun S => S.sweepAll C K env

/-- `Stop`. The log begins anew. -/
def stop (S : Server F) : Server F :=
  if S.listenfd < 0 then S
  else
    { S with
      listenfd := -1
      newConns := fun i =>
        if i < K.maxNewConnections then { S.newConns i with fd := -1 } else S.newConns i
      availIdx := 0
      pool := fun c =>
        if K.groupIds.any fun gid => c ∈ (S.grps gid).conns then (S.pool c).release else S.pool c
      grps := fun gid =>
        if gid ∈ K.groupIds then { S.grps gid with liveCnt := 0 } else S.grps gid
      log := [] }

end Server

end Tcpshm
