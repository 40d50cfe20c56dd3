import Tcpshm.Server.Transport
import Tcpshm.TcpShmConn.HbOnly

/-!
# The socket of a connection over shared memory

A connection that logged on in a group over shared memory sends its heartbeats on the socket and
ignores what it receives there. The socket tells whether the client is still there, and nothing
else.
-/

namespace Tcpshm

namespace TcpShmConnection

variable {F : LoginFormat} {C : Conf} {R : RingSize} {c c' : TcpShmConnection F}

/-- A call that goes to the queues. -/
def Call.onQueues : Call → Bool
  | alloc _ | push _ | pushMore | front _ | pop | shmFront => true
  | tcpFront .. | close => false

/-- A connection of a group over shared memory. -/
structure Watched (C : Conf) (c : TcpShmConnection F) : Prop where
  hbOnly : c.ptcpConn.HbOnly C
  mapped : c.isClosed = false → Mapped true c

/-- Where both queues are mapped they are used, and the socket is left alone. -/
lemma Mapped.call_ptcpConn (h : Mapped true c) {e : Call} (he : e.onQueues = true) :
    (e.run C R c).ptcpConn = c.ptcpConn := by
  obtain ⟨send, hsend⟩ := Option.isSome_iff_exists.mp h.shmSendq
  obtain ⟨recv, hrecv⟩ := Option.isSome_iff_exists.mp h.shmRecvq
  cases e with
  | alloc size =>
    show (c.alloc C R size).1.ptcpConn = _
    unfold TcpShmConnection.alloc
    rw [hsend]
  | push rs =>
    show (c.push C R rs).1.ptcpConn = _
    unfold TcpShmConnection.push
    rw [hsend]
  | pushMore =>
    show (c.pushMore C R).ptcpConn = _
    unfold TcpShmConnection.pushMore
    rw [hsend]
  | front res =>
    show (c.front C R res).1.ptcpConn = _
    unfold TcpShmConnection.front
    rw [hrecv]
  | pop =>
    show (c.pop C R).ptcpConn = _
    unfold TcpShmConnection.pop
    rw [hrecv]
  | shmFront =>
    show (c.shmFront R).1.ptcpConn = _
    unfold TcpShmConnection.shmFront
    rw [hrecv]
  | tcpFront now rs hb res => cases he
  | close => cases he

namespace Watched

lemma new (serverName : Name F) : Watched C (.new C serverName) :=
  ⟨.new, fun hopen => (nomatch hopen)⟩

lemma keeps (h : Watched C c) (hk : Keeps c c') (hb : c'.ptcpConn.HbOnly C) : Watched C c' := by
  refine ⟨hb, fun hopen => (h.mapped ?_).keeps hk⟩
  rw [← Bool.not_eq_true]
  exact fun hclosed => absurd (hopen.symm.trans (hk.ptcpConn.isClosed hclosed)) Bool.false_ne_true

lemma tcpFront (h : Watched C c) (now : Int) (rs : List SendResult) (hb : SendResult)
    (res : ReadResult) : Watched C (c.tcpFront C now rs hb res).1 :=
  h.keeps (.tcpFront c now rs hb res) ((h.hbOnly.sendHB now rs hb).front res)

/-- Before its queues are mapped a connection is closed. `Pop` is the only call that needs it. -/
lemma hbOnly_call (h : Watched C c) (hclosed : c.isClosed = true) (e : Call) :
    (e.run C R c).ptcpConn.HbOnly C := by
  have hq := h.hbOnly.q
  cases e with
  | alloc size =>
    show (c.alloc C R size).1.ptcpConn.HbOnly C
    unfold TcpShmConnection.alloc
    split
    · exact h.hbOnly
    · unfold PTCPConnection.alloc
      rw [hq]
      exact h.hbOnly
  | push rs =>
    show (c.push C R rs).1.ptcpConn.HbOnly C
    unfold TcpShmConnection.push
    split
    · exact h.hbOnly
    · unfold PTCPConnection.push PTCPConnection.pushMore
      rw [PTCPConnection.onQueue_of_none hq, PTCPConnection.sendPending_of_none hq]
      exact h.hbOnly
  | pushMore =>
    show (c.pushMore C R).ptcpConn.HbOnly C
    unfold TcpShmConnection.pushMore
    split
    · exact h.hbOnly
    · unfold PTCPConnection.pushMore
      rw [PTCPConnection.onQueue_of_none hq]
      exact h.hbOnly
  | front res =>
    show (c.front C R res).1.ptcpConn.HbOnly C
    unfold TcpShmConnection.front
    split
    · exact h.hbOnly
    · exact h.hbOnly.front res
  | pop =>
    show (c.pop C R).ptcpConn.HbOnly C
    unfold TcpShmConnection.pop
    split
    · exact h.hbOnly
    · exact h.hbOnly.pop hclosed
  | tcpFront now rs hb res => exact (h.tcpFront now rs hb res).hbOnly
  | shmFront =>
    show (c.shmFront R).1.ptcpConn.HbOnly C
    unfold TcpShmConnection.shmFront
    split
    · exact h.hbOnly
    · exact h.hbOnly
  | close => exact h.hbOnly.close ..

lemma call (h : Watched C c) (e : Call) : Watched C (e.run C R c) := by
  refine h.keeps (e.keeps c) ?_
  cases hclosed : c.isClosed with
  | true => exact h.hbOnly_call hclosed e
  | false =>
    cases he : e.onQueues with
    | true =>
      rw [(h.mapped hclosed).call_ptcpConn he]
      exact h.hbOnly
    | false =>
      cases e with
      | tcpFront now rs hb res => exact (h.tcpFront now rs hb res).hbOnly
      | close => exact h.hbOnly.close ..
      | _ => cases he

lemma reset (h : Watched C c) : Watched C c.reset := by
  refine ⟨?_, fun hopen => ?_⟩
  · unfold TcpShmConnection.reset
    split_ifs
    · exact h.hbOnly
    · unfold PTCPConnection.reset
      rw [PTCPConnection.onQueue_of_none h.hbOnly.q]
      exact h.hbOnly
  · refine (h.mapped ?_).reset
    rw [← hopen]
    unfold TcpShmConnection.reset
    split_ifs <;> rfl

lemma openFile (h : Watched C c) (files : QueueFiles) (errs : MapErrors) :
    Watched C (c.openFile true files errs).1 := by
  have hsame : (c.openFile true files errs).1.ptcpConn = c.ptcpConn := by
    unfold TcpShmConnection.openFile
    simp only [if_true]
    split <;> rfl
  refine ⟨hsame ▸ h.hbOnly, fun hopen => (h.mapped ?_).openFile files errs⟩
  rw [← hopen]
  unfold TcpShmConnection.isClosed
  rw [hsame]

end Watched

end TcpShmConnection

namespace Server

variable {F : LoginFormat} {C : Conf} {R : RingSize} {K : ServerConf} {S S' : Server F}
  {gid : GroupId} {i c d : Nat} {header : MsgHeader} {login : LoginMsg F} {fd now : Int}
  {env : HandleEnv} {name serverName : Name F}

open TcpShmConnection (Watched Mapped)

/-! ### In every state of a run -/

lemma Watched.setConn {conn : TcpShmConnection F} (h : Watched C (S.pool c))
    (hconn : c = d → Watched C conn) : Watched C ((S.setConn d conn).pool c) := by
  by_cases hcd : c = d
  · rw [hcd, setConn_self]
    exact hconn hcd
  · rw [setConn_of_ne _ hcd]
    exact h

lemma Watched.claim (h : Watched C (S.pool c)) : Watched C ((S.claim d name).pool c) := by
  unfold Server.claim
  split_ifs
  · refine Watched.setConn h fun hcd => ?_
    subst hcd
    exact ⟨h.hbOnly, fun hopen => ⟨(h.mapped hopen).shmSendq, (h.mapped hopen).shmRecvq⟩⟩
  · exact h

/-- A login over shared memory, whether it succeeds or not. -/
lemma Watched.handleMatched {conn : TcpShmConnection F} {m : Matched F} (h : Watched C conn)
    (hshm : login.useShm = true)
    (hm : conn.handleMatched C serverName header login fd now env = some m) :
    Watched C m.conn := by
  have hprep : Watched C (conn.prepare serverName login env) := by
    refine TcpShmConnection.prepare_of ?_ fun _ hd => hd.reset
    rw [hshm]
    exact h.openFile env.files env.errs
  obtain ⟨-, hconn⟩ | ⟨-, hopen, remoteAckSeq, hconn⟩ := TcpShmConnection.handleMatched_cases hm
  · rw [hconn]
    exact hprep
  · have hmapped : Mapped true (conn.prepare serverName login env) := by
      rw [← hshm]
      refine Mapped.prepare serverName (.of_openFile (fun htcp => ?_) hopen)
      exact (nomatch hshm.symm.trans htcp)
    rw [hconn]
    exact ⟨hprep.hbOnly.open fd remoteAckSeq now env.sends,
      fun _ => ⟨hmapped.shmSendq, hmapped.shmRecvq⟩⟩

lemma Watched.handleLogin {out : ServerHandled F} (hinv : Inv K S) (hg : gid ∈ K.groupIds)
    (hshm : gid.useShm = true) (hc : c ∈ K.slice gid) (h : Watched C (S.pool c))
    (hout : S.handleLogin C K header login fd now env = some out) :
    Watched C (out.server.pool c) := by
  obtain ⟨-, -, hserver⟩ | ⟨i, d, hg', -, hfind, hslot⟩ := handleLogin_cases hout
  · rw [hserver]
    exact h
  have hclaim : Watched C ((S.claim d login.clientName).pool c) := Watched.claim h
  obtain ⟨-, -, hserver⟩ | ⟨-, m, hm, -, hserver⟩ := hslot
  · rw [hserver]
    exact hclaim
  rw [hserver, fire_pool]
  refine Watched.setConn hclaim fun hcd => ?_
  subst hcd
  have hmem : c ∈ (S.grps (env.group login)).conns := List.mem_of_getElem? hfind.getElem?
  obtain rfl : gid = env.group login := ServerConf.slice_disjoint hg hg' hc
    ((hinv.slots _ hg').perm.mem_iff.mp hmem)
  exact Watched.handleMatched hclaim hshm hm

lemma Watched.pollConn (h : Watched C (S.pool c)) (gid : GroupId) (now : Int)
    (polls : Nat → Poll) : Watched C (S.pollConn C gid now polls c) := by
  unfold Server.pollConn
  split_ifs
  · exact h.tcpFront ..
  · exact h

lemma Watched.step (hinv : Inv K S) (hg : gid ∈ K.groupIds) (hshm : gid.useShm = true)
    (hc : c ∈ K.slice gid) (h : Watched C (S.pool c)) (hstep : Step C R K S S') :
    Watched C (S'.pool c) := by
  cases hstep with
  | start fd =>
    rw [(SameTables.start S fd).pool]
    exact h
  | accept accepted now =>
    rw [(SameTables.accept S accepted now).pool]
    exact h
  | visit _ hvisit =>
    obtain ⟨-, rfl⟩ | ⟨-, rfl | rfl | ⟨header, login, out, hout, rfl⟩⟩ := visit_cases hvisit
    · exact h
    · exact h
    · exact h
    · exact Watched.handleLogin hinv hg hshm hc h hout
  | @turn gid' i now polls hg' hi =>
    obtain ⟨d, hd⟩ := hinv.getElem? hg' hi
    obtain ⟨-, hturn⟩ | ⟨-, hturn⟩ := turn_cases (C := C) hd now polls
    · rw [hturn]
      exact Watched.setConn h fun hcd => Watched.pollConn (hcd ▸ h) gid' now polls
    · rw [hturn]
      refine Watched.setConn h fun hcd => ?_
      have hpolled : Watched C (S.pollConn C gid' now polls d) :=
        Watched.pollConn (hcd ▸ h) gid' now polls
      refine ⟨hpolled.hbOnly.tryCloseFd, fun hopen => ?_⟩
      have hwas : (S.pollConn C gid' now polls d).isClosed = false := by
        rw [← hopen]
        unfold TcpShmConnection.isClosed TcpShmConnection.tryCloseFd PTCPConnection.tryCloseFd
        split_ifs <;> rfl
      exact ⟨(hpolled.mapped hwas).shmSendq, (hpolled.mapped hwas).shmRecvq⟩
  | call d e => exact Watched.setConn h fun hcd => (hcd ▸ h).call e

lemma Watched.stop (h : Watched C (S.pool c)) : Watched C ((S.stop K).pool c) := by
  have hreleased : Watched C (S.pool c).release := by
    refine ⟨h.hbOnly.release, fun hopen => ?_⟩
    have hclosed : (S.pool c).release.isClosed = true := by
      show ((S.pool c).ptcpConn.close "Release" 0).tryCloseFd.1.isClosed = true
      rw [← PTCPConnection.isClosed_close (c := (S.pool c).ptcpConn) "Release" 0]
      unfold PTCPConnection.tryCloseFd
      split_ifs <;> rfl
    exact absurd (hopen.symm.trans hclosed) Bool.false_ne_true
  unfold Server.stop
  split_ifs
  · exact h
  · show Watched C (if _ then _ else _ : TcpShmConnection F)
    split_ifs
    · exact hreleased
    · exact h

theorem Reaches.watched (h : Reaches C R K (.new C K serverName) S) (hg : gid ∈ K.groupIds)
    (hshm : gid.useShm = true) (hc : c ∈ K.slice gid) : Watched C (S.pool c) := by
  induction h with
  | refl => exact .new serverName
  | tail hreach hstep ih =>
    rcases hstep with hstep | rfl
    · exact Watched.step (Reaches.inv hreach) hg hshm hc ih hstep
    · exact Watched.stop ih

/-- A live connection is removed once it is closed. -/
lemma turn_removes_iff (hinv : Inv K S) (hg : gid ∈ K.groupIds) (hi : i < (S.grps gid).liveCnt)
    (hc : (S.grps gid).conns[i]? = some c) {polls : Nat → Poll} :
    (S.turn C gid i now polls).2 = true ↔ (S.pollConn C gid now polls c).isClosed = true := by
  have hfd : 0 ≤ (S.pollConn C gid now polls c).ptcpConn.fdToClose := by
    rw [(pollConn_keeps S gid now polls c).ptcpConn.fdToClose]
    exact hinv.fdToClose c ⟨gid, hg, ConnectionGroup.mem_live hi hc⟩
  have htry : (S.pollConn C gid now polls c).tryCloseFd.2 = true ↔
      (S.pollConn C gid now polls c).isClosed = true := by
    unfold TcpShmConnection.tryCloseFd TcpShmConnection.isClosed PTCPConnection.tryCloseFd
    rw [PTCPConnection.isClosed_iff]
    split_ifs with hneg
    · exact iff_of_true rfl hneg.1
    · exact iff_of_false not_false fun hlt => hneg ⟨hlt, hfd⟩
  rw [← htry]
  obtain ⟨hno, hturn⟩ | ⟨hyes, hturn⟩ := turn_cases (C := C) hc now polls
  · rw [hturn, hno]
  · rw [hturn, hyes]

/-- What `PollCtl` makes of the socket of `c`, the one at `i` in its group over shared memory: what
arrives on it is no message, and at most a heartbeat that acknowledges nothing is sent; the user's
calls leave it alone, and a turn leaves the queues alone; `c` is removed exactly when a heartbeat
that is due cannot be sent or when the socket fails, is at its end or was silent for too long. -/
structure OnlyWatches (C : Conf) (R : RingSize) (S : Server F) (gid : GroupId) (i c : Nat) :
    Prop where
  mapped : Mapped true (S.pool c)
  ignores : ∀ now rs hb res, ((S.pool c).tcpFront C now rs hb res).2.2 = .null
  sends : ∀ now rs hb res,
    ((S.pool c).tcpFront C now rs hb res).2.1 <+: PTCPConnection.hbBytes C
  calls : ∀ e : TcpShmConnection.Call, e.onQueues = true →
    (e.run C R (S.pool c)).ptcpConn = (S.pool c).ptcpConn
  queues : ∀ now polls,
    ((S.turn C gid i now polls).1.pool c).shmSendq = (S.pool c).shmSendq ∧
      ((S.turn C gid i now polls).1.pool c).shmRecvq = (S.pool c).shmRecvq
  removed_iff : 0 < (S.pool c).ptcpConn.recvbufSize →
    (S.pool c).ptcpConn.recvbufSize < 2147483648 → ∀ now polls,
      (S.turn C gid i now polls).2 = true ↔
        PTCPConnection.HbFails C (S.pool c).ptcpConn now (polls c).hb ∨
          PTCPConnection.RecvFails C (S.pool c).ptcpConn now (polls c).res

/-- Over any run a live connection over shared memory uses its socket to see that the client is
still there, and for nothing else. -/
theorem Reaches.only_watches (h : Reaches C R K (.new C K serverName) S) (hg : gid ∈ K.groupIds)
    (hshm : gid.useShm = true) (hi : i < (S.grps gid).liveCnt)
    (hc : (S.grps gid).conns[i]? = some c) (hopen : (S.pool c).isClosed = false) :
    OnlyWatches C R S gid i c := by
  have hinv := h.inv
  have hmem : c ∈ K.slice gid :=
    (hinv.slots gid hg).perm.mem_iff.mp (List.mem_of_getElem? hc)
  have hwatched : Watched C (S.pool c) := h.watched hg hshm hmem
  have hmapped := hwatched.mapped hopen
  have hpoll : ∀ now polls, S.pollConn C gid now polls c =
      ((S.pool c).tcpFront C now (polls c).rs (polls c).hb (polls c).res).1 :=
    fun _ _ => if_pos hshm
  refine ⟨hmapped, fun now rs hb res => ?_, fun now rs hb res => ?_,
    fun e he => hmapped.call_ptcpConn he, fun now polls => ?_, fun hpos hsize now polls => ?_⟩
  · unfold TcpShmConnection.tcpFront
    simp only
    rw [PTCPConnection.front_of_none (hwatched.hbOnly.sendHB now rs hb).q]
  · show ((S.pool c).ptcpConn.sendHB C now rs hb).2 <+: _
    rw [PTCPConnection.sendHB_of_none hwatched.hbOnly.q]
    split_ifs
    · exact List.nil_prefix
    · have hsent := PTCPConnection.sendHbmsg_prefix (C := C)
        { (S.pool c).ptcpConn with now := now } hb
      rw [hwatched.hbOnly.hbmsg] at hsent
      exact hsent
  · obtain ⟨-, hturn⟩ | ⟨-, hturn⟩ := turn_cases (C := C) hc now polls
    · rw [hturn, hpoll, setConn_self]
      exact ⟨rfl, rfl⟩
    · rw [hturn, hpoll]
      show (((S.setConn c _).pool c).shmSendq = _) ∧ (((S.setConn c _).pool c).shmRecvq = _)
      rw [setConn_self]
      exact ⟨rfl, rfl⟩
  · rw [turn_removes_iff hinv hg hi hc, hpoll]
    exact hwatched.hbOnly.tcpFront_isClosed_iff hopen hpos hsize now (polls c).rs (polls c).hb
      (polls c).res

/-- The client logs on over shared memory. -/
def shmPoll : PollEnv shortNames :=
  { smallPoll with recvs := fun _ => smallLogin true clientC }

/-- Whatever it sends on the socket, it is not removed. -/
theorem Reaches.only_watches_logon : ∃ S : Server shortNames,
    Reaches (hostConf true) ⟨64, by decide⟩ smallServer
      (.new (hostConf true) smallServer serverS) S ∧
    S.callbacks 0 = [true] ∧
    ∀ bs, (S.turn (hostConf true) ⟨true, 0⟩ 0 0 fun _ => ⟨[], .again, .data bs⟩).2 = false := by
  have hlogon : (smallStarted.pollCtl (hostConf true) smallServer shmPoll).any
      (fun S => decide (S.callbacks 0 = [true] ∧ 0 < (S.grps ⟨true, 0⟩).liveCnt ∧
        (S.grps ⟨true, 0⟩).conns[0]? = some 0 ∧ (S.pool 0).isClosed = false ∧
        0 < (S.pool 0).ptcpConn.recvbufSize ∧
        (S.pool 0).ptcpConn.recvbufSize < 2147483648)) = true := by decide +kernel
  obtain ⟨S, hpoll, hstate⟩ := (Option.any_eq_true _ _).mp hlogon
  obtain ⟨hcalls, hi, hc, hopen, hpos, hsize⟩ := of_decide_eq_true hstate
  have hsteps : Steps (hostConf true) ⟨64, by decide⟩ smallServer smallStarted S :=
    pollCtl_steps hpoll
  have hreach : Reaches (hostConf true) ⟨64, by decide⟩ smallServer
      (.new (hostConf true) smallServer serverS) S :=
    .head (Or.inl (.start _ 3)) hsteps.reaches
  refine ⟨S, hreach, hcalls, fun bs => ?_⟩
  have hwatches : OnlyWatches (hostConf true) ⟨64, by decide⟩ S ⟨true, 0⟩ 0 0 :=
    Reaches.only_watches hreach (by decide) rfl hi hc hopen
  rw [← Bool.not_eq_true, hwatches.removed_iff hpos hsize]
  rintro (hfails | hfails)
  · exact (nomatch hfails.2)
  · exact hfails

end Server

end Tcpshm
