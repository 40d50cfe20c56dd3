import Tcpshm.Descriptors
import Tcpshm.Server.Sweep

/-!
# The descriptors of the server

Which descriptors a step opens and closes, and who holds the open ones: the listening socket, an
entry of `new_conns_`, or the `fd_to_close_` of a connection.
-/

namespace Tcpshm

/-- What a descriptor was opened by: `socket` in `Start`, or `accept`. -/
inductive FdKind where
  | listening
  | accepted
deriving DecidableEq, Repr

abbrev FdEvent := Descriptors.Event FdKind Int

/-- A place in the server where a descriptor may be. -/
inductive Holder where
  | listening
  | newConn (i : Nat)
  | conn (c : Nat)
deriving DecidableEq, Repr

def Holder.kind : Holder → FdKind
  | listening => .listening
  | newConn _ => .accepted
  | conn _ => .accepted

/-- The descriptor `fd`, unless that says that there is none. -/
def openFd (fd : Int) : Option Int := if 0 ≤ fd then some fd else none

lemma openFd_of_neg {fd : Int} (h : fd < 0) : openFd fd = none := if_neg (not_le.mpr h)

lemma openFd_of_nonneg {fd : Int} (h : 0 ≤ fd) : openFd fd = some fd := if_pos h

namespace PTCPConnection

/-- What `TryCloseFd` closes. -/
def tryCloseFds (c : PTCPConnection) : List Int :=
  if c.sockfd < 0 ∧ 0 ≤ c.fdToClose then [c.fdToClose] else []

/-- What `Release` closes. -/
def releaseFds (c : PTCPConnection) : List Int := (c.close "Release" 0).tryCloseFds

/-- The connection is open on its descriptor, or closed. -/
structure Socket (c : PTCPConnection) : Prop where
  fdToClose : 0 ≤ c.fdToClose ∨ c.fdToClose = -1
  sockfd : c.sockfd = c.fdToClose ∨ c.sockfd = -1

/-- The precondition of `Open`. -/
structure Unused (c : PTCPConnection) : Prop where
  sockfd : c.sockfd = -1
  fdToClose : c.fdToClose = -1

variable {C : Conf} {c c' : PTCPConnection}

lemma Unused.socket (h : Unused c) : Socket c := ⟨Or.inr h.fdToClose, Or.inr h.sockfd⟩

lemma Socket.keeps (h : Socket c) (hk : KeepsFd c c') : Socket c' := by
  obtain ⟨hfd, hsock⟩ := h
  refine ⟨hk.fdToClose ▸ hfd, ?_⟩
  rcases hk.sockfd with hs | hs
  · rw [hs, hk.fdToClose]
    exact hsock
  · exact Or.inr hs

lemma Unused.keeps (h : Unused c) (hk : KeepsFd c c') : Unused c' := by
  refine ⟨?_, hk.fdToClose.trans h.fdToClose⟩
  rcases hk.sockfd with hs | hs
  · rw [hs, h.sockfd]
  · exact hs

lemma socket_open {fd : Int} (hfd : 0 ≤ fd) (c : PTCPConnection) (ack : UInt32) (now : Int)
    (rs : List SendResult) :
    Socket (c.open C fd ack now rs).1 ∧ (c.open C fd ack now rs).1.fdToClose = fd := by
  have hopen : Socket (c.openAck C fd ack now) := ⟨Or.inl hfd, Or.inl rfl⟩
  have hsent := KeepsFd.sendPending (C := C) (c.openAck C fd ack now) rs
  have hkeeps : KeepsFd (c.openAck C fd ack now) (c.open C fd ack now rs).1 := by
    simp only [PTCPConnection.open, openBuf]
    split_ifs
    · exact ⟨hsent.fdToClose, hsent.sockfd, hsent.mapped⟩
    · exact hsent
  exact ⟨hopen.keeps hkeeps, hkeeps.fdToClose⟩

lemma Socket.tryCloseFd (h : Socket c) (hclosed : c.tryCloseFd.2 = true) :
    Unused c.tryCloseFd.1 ∧ 0 ≤ c.fdToClose ∧ c.tryCloseFds = [c.fdToClose] := by
  unfold PTCPConnection.tryCloseFd tryCloseFds at *
  split_ifs at hclosed ⊢ with hfd
  obtain ⟨hneg, hpos⟩ := hfd
  refine ⟨⟨?_, rfl⟩, hpos, rfl⟩
  rcases h.sockfd with hs | hs
  · omega
  · exact hs

lemma tryCloseFds_of_open (h : c.tryCloseFd.2 = false) : c.tryCloseFds = [] := by
  unfold PTCPConnection.tryCloseFd tryCloseFds at *
  split_ifs at h ⊢
  rfl

/-- `Release` closes what the connection holds. -/
lemma Socket.release (h : Socket c) :
    Unused c.release ∧ c.releaseFds = (openFd c.fdToClose).toList := by
  have hclose : (c.close "Release" 0).sockfd = -1 ∧
      (c.close "Release" 0).fdToClose = c.fdToClose := by
    unfold PTCPConnection.close
    split_ifs with hneg
    · refine ⟨?_, rfl⟩
      rcases h.sockfd with hs | hs
      · rcases h.fdToClose with hfd | hfd <;> omega
      · exact hs
    · exact ⟨rfl, rfl⟩
  obtain ⟨hsock, hfd⟩ := hclose
  unfold releaseFds tryCloseFds
  rw [hsock, hfd]
  rcases h.fdToClose with hpos | hneg
  · rw [if_pos ⟨by decide, hpos⟩, openFd_of_nonneg hpos]
    refine ⟨?_, rfl⟩
    unfold PTCPConnection.release PTCPConnection.tryCloseFd
    rw [hsock, hfd, if_pos ⟨by decide, hpos⟩]
    exact ⟨rfl, rfl⟩
  · rw [if_neg (by omega), openFd_of_neg (by omega)]
    refine ⟨?_, rfl⟩
    unfold PTCPConnection.release PTCPConnection.tryCloseFd
    rw [hsock, hfd, if_neg (by omega)]
    exact ⟨hsock, hfd.trans hneg⟩

end PTCPConnection

namespace Server

variable {F : LoginFormat}

/-- What is where. -/
def holds (S : Server F) : Holder → Option Int
  | .listening => openFd S.listenfd
  | .newConn i => openFd (S.newConns i).fd
  | .conn c => openFd (S.pool c).ptcpConn.fdToClose

section Events

variable (C : Conf) (R : RingSize) (K : ServerConf)

/-! ### What is opened and closed -/

/-- `Start`. -/
def startFds (S : Server F) (fd : Int) : List FdEvent :=
  if 0 ≤ S.listenfd then [] else (openFd fd).toList.map (.opened .listening)

/-- The call of `accept` in `PollCtl`. -/
def acceptFds (S : Server F) (accepted : Int) : List FdEvent :=
  if S.availIdx ≠ K.maxNewConnections then
    (openFd (if S.listenfd < 0 then -1 else accepted)).toList.map (.opened .accepted)
  else []

/-- The end of a turn of the loop over the new connections: `HandleLogin` leaves no descriptor where
it handed it over. -/
def visitFds (S : Server F) (i : Nat) (now : Int) (recv : LoginRecv F) (env : HandleEnv) :
    List FdEvent :=
  let fd := (S.newConns i).fd
  if fd < 0 then []
  else match recv with
    | .again => if now - (S.newConns i).time ≤ K.newConnectionTimeout then [] else [.closed fd]
    | .login header msg =>
      match receiveLogin C header msg with
      | some (header, login) =>
        match S.handleLogin C K header login fd now env with
        | some h => if h.logon then [] else [.closed fd]
        | none => []
      | none => [.closed fd]
    | .other => [.closed fd]

/-- `TryCloseFd` in a turn of the loop over the live connections. -/
def turnFds (S : Server F) (gid : GroupId) (i : Nat) (now : Int) (polls : Nat → Poll) :
    List FdEvent :=
  (S.pollConn C gid now polls ((S.grps gid).conns.getD i 0)).ptcpConn.tryCloseFds.map .closed

/-- `Stop`: the listening socket, the new connections, and `Release` on every connection. -/
def stopFds (S : Server F) : List FdEvent :=
  if S.listenfd < 0 then []
  else
    .closed S.listenfd ::
      ((List.range K.maxNewConnections).flatMap fun i =>
        (openFd (S.newConns i).fd).toList.map .closed) ++
      K.groupIds.flatMap fun gid => (S.grps gid).conns.flatMap fun c =>
        (S.pool c).ptcpConn.releaseFds.map .closed

/-! ### Runs -/

/-- A server, and what happened to descriptors so far. -/
structure Traced (F : LoginFormat) where
  server : Server F
  fds : List FdEvent

/-- The descriptor is open, as far as the kernel can tell. -/
def IsOpen (fds : List FdEvent) (fd : Int) : Prop := ∃ k, Descriptors.OpenAs fds k fd

/-- A step on the control thread. The kernel does not hand out a descriptor that is open. -/
inductive FdStep : Traced F → Traced F → Prop where
  | start (T : Traced F) {fd : Int} (hfresh : ¬IsOpen T.fds fd) :
      FdStep T ⟨T.server.start fd, T.fds ++ T.server.startFds fd⟩
  | accept (T : Traced F) {accepted : Int} (now : Int) (hfresh : ¬IsOpen T.fds accepted) :
      FdStep T ⟨T.server.accept K accepted now, T.fds ++ T.server.acceptFds K accepted⟩
  | visit {T : Traced F} {S' : Server F} {i : Nat} {now : Int} {recv : LoginRecv F} {env : HandleEnv}
      (hi : i < K.maxNewConnections) (h : T.server.visit C K i now recv env = some S') :
      FdStep T ⟨S', T.fds ++ T.server.visitFds C K i now recv env⟩
  | turn (T : Traced F) {gid : GroupId} {i : Nat} (now : Int) (polls : Nat → Poll)
      (hg : gid ∈ K.groupIds) (hi : i < (T.server.grps gid).liveCnt) :
      FdStep T ⟨(T.server.turn C gid i now polls).1, T.fds ++ T.server.turnFds C gid i now polls⟩
  | call (T : Traced F) (c : Nat) (e : TcpShmConnection.Call) :
      FdStep T ⟨T.server.setConn c (e.run C R (T.server.pool c)), T.fds⟩
  | stop (T : Traced F) : FdStep T ⟨T.server.stop K, T.fds ++ T.server.stopFds K⟩

def FdSteps : Traced F → Traced F → Prop := Relation.ReflTransGen (FdStep C R K)

/-- The states of a server that was just constructed, and went through a run. -/
def FdReaches (serverName : Name F) (T : Traced F) : Prop :=
  FdSteps C R K ⟨.new C K serverName, []⟩ T

end Events

end Server

end Tcpshm
