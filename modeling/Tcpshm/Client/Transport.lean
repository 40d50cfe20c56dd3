import Tcpshm.Client.Failed
import Tcpshm.Server.Transport

/-!
# The transport of a login

Server and client choose the transport by the same flag, but the client goes on to use what it has
mapped before. A queue in shared memory that was mapped for an earlier login is in the way of TCP.
-/

namespace Tcpshm.Client

variable {F : LoginFormat} {C : Conf} {R : RingSize} {cl cl' : Client F} {env : ConnectEnv F}
  {serverName : Name F}

open TcpShmConnection (Mapped)

/-- What the user does between two calls of `Connect`. -/
inductive Use (C : Conf) (R : RingSize) : Client F → Client F → Prop where
  | pollTcp (cl : Client F) (now : Int) (rs : List SendResult) (hb : SendResult)
      (res : ReadResult) : Use C R cl (cl.pollTcp C now rs hb res)
  | call (cl : Client F) (e : TcpShmConnection.Call) :
      Use C R cl { cl with conn := e.run C R cl.conn }

def Uses (C : Conf) (R : RingSize) : Client F → Client F → Prop := Relation.ReflTransGen (Use C R)

/-- A step without `Stop`, where every response comes from a server of the name `serverName`. -/
inductive StepTo (C : Conf) (R : RingSize) (serverName : Name F) : Client F → Client F → Prop where
  | connect (cl : Client F) (env : ConnectEnv F)
      (h : ∀ fd header rsp, env.net = .response fd header rsp → rsp.serverName = serverName) :
      StepTo C R serverName cl (cl.connect C env).1
  | use {cl cl' : Client F} (h : Use C R cl cl') : StepTo C R serverName cl cl'

/-- The runs of a client that was never connected, or was connected to this server before. -/
inductive ReachesTo (C : Conf) (R : RingSize) (serverName : Name F) : Client F → Prop where
  | new (clientName : Name F) (disk : Disk F)
      (h : disk.lastServer.isEmpty = true ∨ disk.lastServer = serverName) :
      ReachesTo C R serverName (.new C clientName disk)
  | step {cl cl' : Client F} (h : ReachesTo C R serverName cl) (hstep : StepTo C R serverName cl cl') :
      ReachesTo C R serverName cl'

/-! ### What a successful `Connect` has mapped -/

/-- The client as `Connect` hands it to `Open`. -/
def opened (C : Conf) (cl : Client F) (env : ConnectEnv F) : Client F :=
  match env.net with
  | .failed _ _ => (cl.prepare C env).1
  | .response _ _ rsp => ((cl.prepare C env).1.adopt rsp.serverName env).1

/-- A `Connect` that succeeds opens what the second half leaves. -/
lemma connect_success {rsp : LoginRspMsg F} (h : (cl.connect C env).2 = .loginSuccess rsp) :
    ∃ header msg fd rspHeader rsp remoteAckSeq, (cl.prepare C env).2 = .login header msg ∧
      env.net = .response fd rspHeader rsp ∧ rsp.serverName.isEmpty = false ∧
      ((cl.prepare C env).1.adopt rsp.serverName env).2 = none ∧
      (cl.connect C env).1 = (cl.opened C env).open C fd remoteAckSeq env := by
  unfold connect opened at *
  generalize cl.prepare C env = prepared at h ⊢
  obtain ⟨p, ⟨header, msg⟩ | ⟨errorMsg, sysErrno⟩ | _⟩ := prepared
  · cases hnet : env.net with
    | failed call sysErrno =>
      rw [hnet] at h
      cases h
    | response fd rspHeader rsp =>
      rw [hnet] at h
      have hname : (rsp.convertByteOrder C.endian).serverName = rsp.serverName := rfl
      simp only [respond, hname] at h ⊢
      split_ifs at h ⊢ with hinvalid hrejected hmismatch
      rw [not_or, not_or] at hinvalid
      rcases hadopt : p.adopt rsp.serverName env with ⟨cl₁, _ | err⟩
      · refine ⟨header, msg, fd, rspHeader, rsp, (rspHeader.convertByteOrder C.endian).ackSeq, rfl,
          rfl, Bool.not_eq_true _ ▸ hinvalid.2.2, ?_, ?_⟩
        · rw [hadopt]
        · rfl
      · rw [hadopt] at h
        cases h
  · cases h
  · cases h

lemma sanityCheck_init (Q : QueueSize) (ed : Endian) (blk : Mem MsgHeader) :
    (PTCPQueue.init blk).sanityCheckAndGetSeq Q ed = .ok 0 0 := by
  have hstop : ∀ n : Nat, (PTCPQueue.init blk).sanityLoop Q ed (n + 1) 0 0 = .ok 0 0 := by
    intro n
    unfold PTCPQueue.sanityLoop
    rw [if_neg (show ¬(0 : UInt32) < (PTCPQueue.init blk).writeIdx from UInt32.lt_irrefl _),
      if_neg (show ¬(0 : UInt32) ≠ (PTCPQueue.init blk).writeIdx from not_not.mpr rfl)]
    rfl
  exact hstop _

/-- A new server gets new queues of the transport that was asked for. -/
lemma adopt_mapped {name : Name F} (hother : cl.storedName ≠ name)
    (hadopt : (cl.adopt name env).2 = none) :
    Mapped env.useShm (cl.adopt name env).1.conn ∧
      (env.useShm = false → ∃ blk, (cl.adopt name env).1.conn.ptcpConn.q = some (.init blk)) := by
  obtain ⟨hsame, -⟩ | ⟨-, ⟨err, -, heq⟩ | ⟨hopen, -, heq⟩⟩ := adopt_cases cl name env
  · exact absurd hsame hother
  · rw [heq] at hadopt
    exact (nomatch hadopt)
  have hmapped : Mapped env.useShm ((cl.rename name).openFile env.useShm env.newErrs).1.conn :=
    Mapped.of_openFile (fun _ => ⟨rfl, rfl⟩) hopen
  rw [heq]
  refine ⟨hmapped.reset, fun htcp => ⟨fun _ => ⟨0, 0, 0⟩, ?_⟩⟩
  have hq := TcpShmConnection.openFile_mapped hopen
  rw [htcp, if_neg Bool.false_ne_true] at hq
  have hconn : ((cl.rename name).openFile env.useShm env.newErrs).1.conn =
      ((cl.rename name).conn.openFile false ((cl.rename name).disk.queueFiles
        (cl.rename name).conn.remoteName) env.newErrs).1 := by
    rw [htcp]
    rfl
  rw [hconn, hq]
  rfl

/-- The first half opens what is asked for, and leaves shared memory mapped where TCP is. -/
lemma prepare_mapped (hn : Named cl) (hstored : cl.storedName.isEmpty = false) {header : MsgHeader}
    {msg : LoginMsg F} (hlogin : (cl.prepare C env).2 = .login header msg) :
    if env.useShm then Mapped true (cl.prepare C env).1.conn
    else (cl.prepare C env).1.conn.shmSendq = cl.conn.shmSendq ∧
      (cl.prepare C env).1.conn.shmRecvq = cl.conn.shmRecvq ∧
      (cl.prepare C env).1.conn.ptcpConn.q = some cl.tcpFile := by
  have hcan := can_of_prepare hn hlogin
  obtain ⟨hopen, -⟩ | ⟨-, hname, -⟩ | ⟨-, -, hempty, -⟩ |
    ⟨-, -, -, ⟨err, herr, heq⟩ | ⟨hnone, heq⟩⟩ := prepare_cases (C := C) hn env
  · exact (nomatch hopen.symm.trans hcan.closed)
  · exact absurd hcan.name hname
  · exact (nomatch hempty.symm.trans hstored)
  · rw [heq] at hlogin
    exact (nomatch hlogin)
  rw [heq]
  have hmapped := TcpShmConnection.openFile_mapped hnone
  have hcontents := mapped_contents cl (cl.disk.queueFiles cl.storedName)
  have hconn : (cl.mapped.openFile env.useShm env.errs).1.conn = (cl.mapped.conn.openFile env.useShm
      (cl.disk.queueFiles cl.storedName) env.errs).1 := rfl
  have hfiles : cl.mapped.disk.queueFiles cl.mapped.conn.remoteName =
      cl.disk.queueFiles cl.storedName := rfl
  rw [hfiles, hcontents] at hmapped
  rw [hconn]
  split_ifs at hmapped ⊢
  · rw [hmapped]
    exact ⟨rfl, rfl⟩
  · rw [hmapped]
    exact ⟨rfl, rfl, rfl⟩

/-- Where the name is unchanged, the second half does nothing. -/
lemma adopt_self {name : Name F} (h : cl.storedName = name) : cl.adopt name env = (cl, none) :=
  if_pos h

/-- A login carries the flag, and 0s or the numbers of the TCP queue. -/
lemma request_login {useShm : Bool} {header : MsgHeader} {msg : LoginMsg F}
    (h : cl.request C useShm = .login header msg) :
    msg.useShm = useShm ∧ ∃ ackSeq seqStart seqEnd,
      header.convertByteOrder C.endian = ⟨8 + F.loginMsgSize, 1, ackSeq⟩ ∧
      (msg.convertByteOrder C.endian).clientSeqStart = seqStart ∧
      (msg.convertByteOrder C.endian).clientSeqEnd = seqEnd ∧
      if cl.storedName.isEmpty ∨ useShm ∨ cl.conn.shmSendq.isSome then
        ackSeq = 0 ∧ seqStart = 0 ∧ seqEnd = 0
      else cl.tcpFile.sanityCheckAndGetSeq C.tcpQueueSize C.endian = .ok seqStart seqEnd ∧
        cl.tcpFile.myAck = ackSeq := by
  have hmsg : ∀ {a s e : UInt32}, cl.loginMsg C useShm a s e = .login header msg →
      msg.useShm = useShm ∧ header.convertByteOrder C.endian = ⟨8 + F.loginMsgSize, 1, a⟩ ∧
        (msg.convertByteOrder C.endian).clientSeqStart = s ∧
        (msg.convertByteOrder C.endian).clientSeqEnd = e := by
    intro a s e hlogin
    obtain ⟨hheader, hmsg⟩ := Prepared.login.inj hlogin
    rw [← hheader, ← hmsg, MsgHeader.convertByteOrder_convertByteOrder,
      LoginMsg.convertByteOrder_convertByteOrder]
    exact ⟨rfl, rfl, rfl, rfl⟩
  unfold request at h
  split_ifs at h ⊢ with hzero
  · obtain ⟨hflag, hheader, hstart, hend⟩ := hmsg h
    exact ⟨hflag, 0, 0, 0, hheader, hstart, hend, rfl, rfl, rfl⟩
  · cases hcheck : cl.tcpFile.sanityCheckAndGetSeq C.tcpQueueSize C.endian with
    | ok seqStart seqEnd =>
      rw [hcheck] at h
      obtain ⟨hflag, hheader, hstart, hend⟩ := hmsg h
      exact ⟨hflag, _, seqStart, seqEnd, hheader, hstart, hend, rfl, rfl⟩
    | corrupt =>
      rw [hcheck] at h
      exact (nomatch h)
    | outOfBounds =>
      rw [hcheck] at h
      exact (nomatch h)
    | running =>
      rw [hcheck] at h
      exact (nomatch h)

/-! ### Runs -/

lemma Use.keeps (h : Use C R cl cl') : cl'.storedName = cl.storedName ∧
    cl'.conn.remoteName = cl.conn.remoteName ∧ cl'.serverName = cl.serverName ∧
    cl'.conn.shmSendq.isSome = cl.conn.shmSendq.isSome ∧
    cl'.conn.shmRecvq.isSome = cl.conn.shmRecvq.isSome := by
  cases h with
  | pollTcp now rs hb res =>
    cases hclosed : cl.conn.isClosed with
    | true =>
      have hpoll : cl.pollTcp C now rs hb res = { cl with conn := cl.conn.tryCloseFd.1 } := by
        rw [Client.pollTcp, hclosed]
        rfl
      rw [hpoll]
      exact ⟨rfl, rfl, rfl, rfl, rfl⟩
    | false =>
      have hpoll : cl.pollTcp C now rs hb res =
          { cl with conn := (cl.conn.tcpFront C now rs hb res).1.tryCloseFd.1 } := by
        rw [Client.pollTcp, hclosed]
        rfl
      rw [hpoll]
      exact ⟨rfl, rfl, rfl, rfl, rfl⟩
  | call e =>
    have hkeeps := e.keeps (C := C) (R := R) cl.conn
    exact ⟨rfl, hkeeps.remoteName, rfl, hkeeps.shmSendq, hkeeps.shmRecvq⟩

lemma Mapped.uses {useShm : Bool} (h : Mapped useShm cl.conn) (huses : Uses C R cl cl') :
    Mapped useShm cl'.conn := by
  induction huses with
  | refl => exact h
  | tail _ huse ih =>
    obtain ⟨-, -, -, hsend, hrecv⟩ := huse.keeps
    exact ⟨hsend.trans ih.shmSendq, hrecv.trans ih.shmRecvq⟩

lemma adopt_storedName (cl : Client F) (name : Name F) (env : ConnectEnv F) :
    (cl.adopt name env).1.storedName = name := by
  unfold Client.adopt
  split_ifs with hname
  · exact hname
  · have hopen : ((cl.rename name).openFile env.useShm env.newErrs).1.storedName = name := rfl
    generalize (cl.rename name).openFile env.useShm env.newErrs = opened at hopen ⊢
    obtain ⟨cl₁, _ | err⟩ := opened
    · exact hopen
    · exact hopen

/-- A `Connect` changes the stored name to the one in the response, if at all. -/
lemma connect_storedName (hn : Named cl) (env : ConnectEnv F) :
    (cl.connect C env).1.storedName = cl.storedName ∨
      ∃ fd header rsp, env.net = .response fd header rsp ∧
        (cl.connect C env).1.storedName = rsp.serverName := by
  have hp : (cl.prepare C env).1.storedName = cl.storedName := (Kept.prepare hn env).storedName
  unfold connect
  generalize cl.prepare C env = prepared at hp ⊢
  obtain ⟨p, ⟨header, msg⟩ | ⟨errorMsg, sysErrno⟩ | _⟩ := prepared
  · cases hnet : env.net with
    | failed call sysErrno => exact Or.inl hp
    | response fd rspHeader rsp =>
      have hadopt := p.adopt_storedName (rsp.convertByteOrder C.endian).serverName env
      simp only [respond]
      split_ifs
      · exact Or.inl hp
      · exact Or.inl hp
      · exact Or.inl hp
      · refine Or.inr ⟨fd, rspHeader, rsp, rfl, ?_⟩
        generalize p.adopt (rsp.convertByteOrder C.endian).serverName env = adopted at hadopt ⊢
        obtain ⟨cl₁, _ | err⟩ := adopted
        · exact hadopt
        · exact hadopt
  · exact Or.inl hp
  · exact Or.inl hp

lemma ReachesTo.named (h : ReachesTo C R serverName cl) :
    Named cl ∧ (cl.storedName.isEmpty = true ∨ cl.storedName = serverName) := by
  induction h with
  | new clientName disk h => exact ⟨fun n hn => (nomatch hn), h⟩
  | step _ hstep ih =>
    obtain ⟨hn, hstored⟩ := ih
    cases hstep with
    | connect env h =>
      refine ⟨named_connect hn env, ?_⟩
      obtain ⟨heq⟩ | ⟨fd, header, rsp, hnet, heq⟩ := connect_storedName (C := C) hn env
      · exact heq.symm ▸ hstored
      · exact Or.inr (heq.trans (h fd header rsp hnet))
    | use h =>
      obtain ⟨hsame, hremote, hserver, -⟩ := h.keeps
      refine ⟨fun n hname => ?_, hsame.symm ▸ hstored⟩
      rw [hremote]
      exact hn n (hserver ▸ hname)

/-! ### Both ends -/

variable {Cs : Conf} {K : ServerConf} {S S' : Server F} {c : Nat}

/-- A `Connect` that succeeds: its login reaches the server as a new connection, connection `c` of
the server accepts it, and the client gets the answer. It leaves the server in `S'`. -/
inductive LogsOn (C Cs : Conf) (K : ServerConf) (cl : Client F) (env : ConnectEnv F)
    (S : Server F) : Server F → Nat → Prop where
  | login {header h : MsgHeader} {msg m : LoginMsg F} {i c : Nat} {now fd : Int}
      {handleEnv : HandleEnv} {out : ServerHandled F} {rsp : LoginRspMsg F}
      (hsent : (cl.prepare C env).2 = .login header msg)
      (hreceived : receiveLogin Cs (header.carry C.endian.isLittle Cs.endian.isLittle)
        (msg.carry C.endian.isLittle Cs.endian.isLittle) = some (h, m))
      (hi : i < K.maxNewConnections) (hopen : 0 ≤ (S.newConns i).fd)
      (hhandled : S.handleLogin Cs K h m (S.newConns i).fd now handleEnv = some out)
      (hlogon : out.logon = true) (hlog : out.server.log.getLast? = some (.clientLogon c))
      (hanswered : env.net = .response fd
        (out.header.carry Cs.endian.isLittle C.endian.isLittle)
        (out.rsp.carry Cs.endian.isLittle C.endian.isLittle))
      (hsuccess : (cl.connect C env).2 = .loginSuccess rsp) :
      LogsOn C Cs K cl env S (out.server.freeNewConn i) c

/-- The numbers describe the queue that messages are sent on; shared memory has none but 0. -/
def Describes (C : Conf) (conn : TcpShmConnection F) (ackSeq seqStart seqEnd : UInt32) : Prop :=
  match conn.sendsOn with
  | .shm => ackSeq = 0 ∧ seqStart = 0 ∧ seqEnd = 0
  | .tcp => ∃ q, conn.ptcpConn.q = some q ∧
      q.sanityCheckAndGetSeq C.tcpQueueSize C.endian = .ok seqStart seqEnd ∧ q.myAck = ackSeq

/-- From the login on, and until the next one, both ends send and receive on what was asked for; and
the login carried the numbers of the queue that the client then opened. -/
structure Agrees (C Cs : Conf) (R : RingSize) (K : ServerConf) (cl : Client F) (env : ConnectEnv F)
    (S : Server F) (c : Nat) : Prop where
  client : ∀ cl', Uses C R (cl.connect C env).1 cl' →
    cl'.conn.sendsOn = .ofFlag env.useShm ∧ cl'.conn.receivesOn = .ofFlag env.useShm
  server : ∀ S', Server.Steps Cs R K S S' →
    (S'.pool c).sendsOn = .ofFlag env.useShm ∧ (S'.pool c).receivesOn = .ofFlag env.useShm
  numbers : ∀ header msg, (cl.prepare C env).2 = .login header msg →
    Describes C (cl.opened C env).conn (header.convertByteOrder C.endian).ackSeq
      (msg.convertByteOrder C.endian).clientSeqStart (msg.convertByteOrder C.endian).clientSeqEnd

lemma LogsOn.step (h : LogsOn C Cs K cl env S S' c) : Server.Step Cs R K S S' := by
  cases h with
  | @login header h msg m i _ now fd handleEnv out rsp hsent hreceived hi hopen hhandled hlogon hlog
      hanswered hsuccess =>
    have hvisit : S.visit Cs K i now (.login (header.carry C.endian.isLittle Cs.endian.isLittle)
        (msg.carry C.endian.isLittle Cs.endian.isLittle)) handleEnv =
        some (out.server.freeNewConn i) := by
      unfold Server.visit
      rw [if_neg (not_lt.mpr hopen)]
      simp only [hreceived, hhandled, Option.map_some]
    exact .visit hi hvisit

/-- The connection that accepts a login is of the transport asked for, and stays so. -/
lemma LogsOn.server_mapped (hn : Named cl) (h : LogsOn C Cs K cl env S S' c)
    (hreach : Server.Reaches Cs R K (.new Cs K serverName) S) {S'' : Server F}
    (hsteps : Server.Steps Cs R K S' S'') : Mapped env.useShm (S''.pool c) := by
  have hstep : Server.Step Cs R K S S' := h.step
  cases h with
  | @login header h msg m i _ now fd handleEnv out rsp hsent hreceived hi hopen hhandled hlogon hlog
      hanswered hsuccess =>
    obtain ⟨d, hd, hg, hlast, hmapped⟩ := Server.handleLogin_mapped hreach hhandled hlogon
    obtain rfl : d = c := by
      rw [hlog] at hlast
      exact (ServerEvent.clientLogon.inj (Option.some.inj hlast)).symm
    have hflag : m.useShm = env.useShm := by
      have hmsg : m.useShm = msg.useShm := by
        unfold receiveLogin at hreceived
        simp only at hreceived
        split_ifs at hreceived
        rw [← (Prod.mk.inj (Option.some.inj hreceived)).2]
        rfl
      rw [hmsg]
      exact (request_login ((prepare_of_can hn (can_of_prepare hn hsent)).symm.trans hsent)).1
    rw [← hflag]
    exact Server.Steps.mapped (hreach.inv.change (hstep.change hreach.inv)) hg hd hmapped hsteps

/-- A client that knows the server opens what the first half has left, and any other one what it has
opened anew. -/
lemma LogsOn.opened_cases (hcl : ReachesTo C R serverName cl) (h : LogsOn C Cs K cl env S S' c)
    (hreach : Server.Reaches Cs R K (.new Cs K serverName) S) :
    (cl.storedName.isEmpty = true ∧ cl.storedName ≠ serverName ∧
        cl.opened C env = ((cl.prepare C env).1.adopt serverName env).1 ∧
        ((cl.prepare C env).1.adopt serverName env).2 = none) ∨
      (cl.storedName.isEmpty = false ∧ cl.opened C env = (cl.prepare C env).1) := by
  obtain ⟨hn, hstored⟩ := hcl.named
  cases h with
  | login hsent hreceived hi hopen hhandled hlogon hlog hanswered hsuccess =>
    obtain ⟨-, -, fd, rspHeader, rsp, -, -, hnet, hnamed, hadopt, -⟩ := connect_success hsuccess
    have hname : rsp.serverName = serverName := by
      obtain ⟨-, -, rfl⟩ := NetResult.response.inj (hnet.symm.trans hanswered)
      exact (Server.handleLogin_serverName hhandled).1.trans hreach.serverName_eq
    have hopened : cl.opened C env = ((cl.prepare C env).1.adopt serverName env).1 := by
      rw [opened, hnet, ← hname]
    rw [hname] at hnamed hadopt
    cases hempty : cl.storedName.isEmpty with
    | true =>
      refine Or.inl ⟨rfl, ?_, hopened, hadopt⟩
      rintro rfl
      exact (nomatch hempty.symm.trans hnamed)
    | false =>
      have hsame : (cl.prepare C env).1.storedName = serverName := by
        rw [(Kept.prepare hn env).storedName]
        exact hstored.resolve_left fun h => (nomatch hempty.symm.trans h)
      refine Or.inr ⟨rfl, ?_⟩
      rw [hopened, adopt_self hsame]

/-- `Open` keeps what is mapped. -/
lemma LogsOn.connect_mapped (h : LogsOn C Cs K cl env S S' c) :
    (cl.connect C env).1.conn.shmSendq = (cl.opened C env).conn.shmSendq ∧
      (cl.connect C env).1.conn.shmRecvq = (cl.opened C env).conn.shmRecvq := by
  cases h with
  | login hsent hreceived hi hopen hhandled hlogon hlog hanswered hsuccess =>
    obtain ⟨-, -, fd, -, -, remoteAckSeq, -, -, -, -, heq⟩ := connect_success hsuccess
    rw [heq]
    exact ⟨rfl, rfl⟩

/-- What the client opens is of the transport asked for, unless it knows the server, asks for TCP
and has shared memory mapped. -/
lemma LogsOn.opened_mapped_iff (hcl : ReachesTo C R serverName cl)
    (h : LogsOn C Cs K cl env S S' c) (hreach : Server.Reaches Cs R K (.new Cs K serverName) S) :
    Mapped env.useShm (cl.opened C env).conn ↔ env.useShm = true ∨
      cl.storedName.isEmpty = true ∨ (cl.conn.shmSendq = none ∧ cl.conn.shmRecvq = none) := by
  have hlogin : ∃ header msg, (cl.prepare C env).2 = .login header msg := by
    cases h with
    | login hsent => exact ⟨_, _, hsent⟩
  obtain ⟨header, msg, hlogin⟩ := hlogin
  have hn := hcl.named.1
  obtain ⟨hempty, hother, heq, hadopt⟩ | ⟨hstored, heq⟩ := h.opened_cases hcl hreach
  · have hother' : (cl.prepare C env).1.storedName ≠ serverName :=
      (Kept.prepare (C := C) hn env).storedName ▸ hother
    rw [heq]
    exact ⟨fun _ => Or.inr (Or.inl hempty), fun _ => (adopt_mapped hother' hadopt).1⟩
  · have hmapped := prepare_mapped hn hstored hlogin
    rw [heq, hstored]
    cases hshm : env.useShm with
    | true =>
      rw [hshm, if_pos rfl] at hmapped
      exact ⟨fun _ => Or.inl rfl, fun _ => hmapped⟩
    | false =>
      rw [hshm, if_neg Bool.false_ne_true] at hmapped
      obtain ⟨hsend, hrecv, -⟩ := hmapped
      constructor
      · intro hfree
        have hs := hfree.shmSendq
        have hr := hfree.shmRecvq
        rw [hsend] at hs
        rw [hrecv] at hr
        exact Or.inr (Or.inr ⟨by simpa using hs, by simpa using hr⟩)
      · rintro (hno | hno | ⟨hs, hr⟩)
        · exact (nomatch hno)
        · exact (nomatch hno)
        · exact ⟨by rw [hsend, hs]; rfl, by rw [hrecv, hr]; rfl⟩

/-- Where the transports agree, so do the numbers. -/
lemma LogsOn.describes (hcl : ReachesTo C R serverName cl) (h : LogsOn C Cs K cl env S S' c)
    (hreach : Server.Reaches Cs R K (.new Cs K serverName) S)
    (hmapped : Mapped env.useShm (cl.opened C env).conn) {header : MsgHeader} {msg : LoginMsg F}
    (hlogin : (cl.prepare C env).2 = .login header msg) :
    Describes C (cl.opened C env).conn (header.convertByteOrder C.endian).ackSeq
      (msg.convertByteOrder C.endian).clientSeqStart
      (msg.convertByteOrder C.endian).clientSeqEnd := by
  have hn := hcl.named.1
  obtain ⟨-, ackSeq, seqStart, seqEnd, hheader, hstart, hend, hnumbers⟩ :=
    request_login ((prepare_of_can hn (can_of_prepare hn hlogin)).symm.trans hlogin)
  rw [hheader, hstart, hend]
  unfold Describes
  rw [hmapped.sendsOn]
  cases hshm : env.useShm with
  | true =>
    rw [hshm, if_pos (Or.inr (Or.inl rfl))] at hnumbers
    exact hnumbers
  | false =>
    obtain ⟨hempty, hother, heq, hadopt⟩ | ⟨hstored, heq⟩ := h.opened_cases hcl hreach
    · have hother' : (cl.prepare C env).1.storedName ≠ serverName :=
        (Kept.prepare (C := C) hn env).storedName ▸ hother
      obtain ⟨blk, hq⟩ := (adopt_mapped hother' hadopt).2 hshm
      rw [if_pos (Or.inl hempty)] at hnumbers
      obtain ⟨rfl, rfl, rfl⟩ := hnumbers
      rw [heq]
      exact ⟨_, hq, sanityCheck_init _ _ blk, rfl⟩
    · have hopen := prepare_mapped hn hstored hlogin
      rw [hshm, if_neg Bool.false_ne_true] at hopen
      have hsend : cl.conn.shmSendq.isSome = false := by
        rw [← hopen.1, ← heq]
        exact hmapped.shmSendq.trans hshm
      rw [if_neg (by simp [hstored, hshm, hsend])] at hnumbers
      rw [heq]
      exact ⟨_, hopen.2.2, hnumbers⟩

/-- Over any run of a client that keeps to one server, both ends of a login agree exactly where the
client asks for shared memory, does not know the server yet, or has no shared memory mapped. -/
theorem ReachesTo.agrees_iff (hcl : ReachesTo C R serverName cl)
    (hreach : Server.Reaches Cs R K (.new Cs K serverName) S)
    (h : LogsOn C Cs K cl env S S' c) :
    Agrees C Cs R K cl env S' c ↔ env.useShm = true ∨ cl.storedName.isEmpty = true ∨
      (cl.conn.shmSendq = none ∧ cl.conn.shmRecvq = none) := by
  rw [← h.opened_mapped_iff hcl hreach]
  obtain ⟨hsend, hrecv⟩ := h.connect_mapped
  constructor
  · intro hagrees
    obtain ⟨hs, hr⟩ := hagrees.client _ .refl
    have hflag : ∀ b : Bool, (if b then Transport.shm else .tcp) = .ofFlag env.useShm →
        b = env.useShm := by
      intro b
      cases b <;> cases env.useShm <;> simp [Transport.ofFlag]
    rw [TcpShmConnection.sendsOn, hsend] at hs
    rw [TcpShmConnection.receivesOn, hrecv] at hr
    exact ⟨hflag _ hs, hflag _ hr⟩
  · intro hmapped
    have hconn : Mapped env.useShm (cl.connect C env).1.conn :=
      ⟨hsend ▸ hmapped.shmSendq, hrecv ▸ hmapped.shmRecvq⟩
    refine ⟨fun cl' huses => ?_, fun S'' hsteps => ?_, fun header msg hlogin => ?_⟩
    · have huse := Mapped.uses hconn huses
      exact ⟨huse.sendsOn, huse.receivesOn⟩
    · have hserver := h.server_mapped hcl.named.1 hreach hsteps
      exact ⟨hserver.sendsOn, hserver.receivesOn⟩
    · exact h.describes hcl hreach hmapped hlogin

/-! ### A client that changes its mind -/

open Server (smallServer smallStarted smallEnv)

deriving instance DecidableEq for LoginRspMsg
deriving instance DecidableEq for ConnectOutcome

/-- No server is known, and no file is there yet. -/
def newDisk : Disk shortNames where
  lastServer := serverS.clear
  ptcp := fun _ => .init fun _ => ⟨0, 0, 0⟩
  shmSend := fun _ => TcpShmConnection.newShmq
  shmRecv := fun _ => TcpShmConnection.newShmq

def newClient : Client shortNames := .new (hostConf true) clientC newDisk

/-- A response without numbers. -/
def smallRsp : LoginRspMsg shortNames := ⟨0, 0, 0, serverS, ""⟩

/-- Everything can be mapped, and the server accepts the login. -/
def acceptedEnv (useShm : Bool) : ConnectEnv shortNames where
  useShm := useShm
  lastServerErr := none
  errs := ⟨none, none, none⟩
  net := .response 6 ((rspHeader shortNames (hostConf true) 0).carry true true)
    (smallRsp.carry true true)
  newErrs := ⟨none, none, none⟩
  now := 0
  sends := []

/-- The server, which has just accepted a connection, on the login. -/
def answered (cl : Client shortNames) (S : Server shortNames) (useShm : Bool) :
    Option (ServerHandled shortNames) :=
  match (cl.prepare (hostConf true) (acceptedEnv useShm)).2 with
  | .login header msg =>
    (receiveLogin (hostConf true) (header.carry true true) (msg.carry true true)).bind
      fun (h, m) => S.handleLogin (hostConf true) smallServer h m (S.newConns 0).fd 0 smallEnv
  | _ => none

/-- The login succeeds on both sides. -/
def Succeeds (cl : Client shortNames) (S : Server shortNames) (useShm : Bool) (c : Nat) : Prop :=
  0 ≤ (S.newConns 0).fd ∧
    (cl.connect (hostConf true) (acceptedEnv useShm)).2 = .loginSuccess smallRsp ∧
    (answered cl S useShm).any (fun out => decide (out.logon = true ∧
      out.server.log.getLast? = some (.clientLogon c) ∧
      out.header = rspHeader shortNames (hostConf true) 0 ∧ out.rsp = smallRsp)) = true

instance (cl : Client shortNames) (S : Server shortNames) (useShm : Bool) (c : Nat) :
    Decidable (Succeeds cl S useShm c) := inferInstanceAs (Decidable (_ ∧ _))

/-- The server after it. -/
def afterLogin (cl : Client shortNames) (S : Server shortNames) (useShm : Bool) :
    Server shortNames :=
  ((answered cl S useShm).map fun out => out.server.freeNewConn 0).getD S

lemma Succeeds.logsOn {cl : Client shortNames} {S : Server shortNames} {useShm : Bool} {c : Nat}
    (h : Succeeds cl S useShm c) : LogsOn (hostConf true) (hostConf true) smallServer cl
      (acceptedEnv useShm) S (afterLogin cl S useShm) c := by
  obtain ⟨hopen, hsuccess, hany⟩ := h
  obtain ⟨out, hout, hdec⟩ := (Option.any_eq_true _ _).mp hany
  obtain ⟨hlogon, hlog, hheader, hrsp⟩ := of_decide_eq_true hdec
  have hafter : afterLogin cl S useShm = out.server.freeNewConn 0 := by
    rw [afterLogin, hout]
    rfl
  rw [hafter]
  unfold answered at hout
  cases hlogin : (cl.prepare (hostConf true) (acceptedEnv useShm)).2 with
  | login header msg =>
    rw [hlogin] at hout
    obtain ⟨⟨h, m⟩, hreceived, hhandled⟩ := Option.bind_eq_some_iff.mp hout
    have hnet : (acceptedEnv useShm).net = .response 6 (out.header.carry true true)
        (out.rsp.carry true true) := by
      rw [hheader, hrsp]
      rfl
    exact .login hlogin hreceived Nat.zero_lt_one hopen hhandled hlogon hlog hnet hsuccess
  | error errorMsg sysErrno =>
    rw [hlogin] at hout
    exact (nomatch hout)
  | undefined =>
    rw [hlogin] at hout
    exact (nomatch hout)

/-- The server has accepted a connection. -/
def acceptedServer : Server shortNames := smallStarted.accept smallServer 5 0

lemma acceptedServer_reaches : Server.Reaches (hostConf true) ⟨64, by decide⟩ smallServer
    (.new (hostConf true) smallServer serverS) acceptedServer :=
  .tail (.single (Or.inl (.start _ 3))) (Or.inl (.accept _ 5 0))

/-- The first login of a client is over shared memory. -/
theorem ReachesTo.agrees_iff_first : Agrees (hostConf true) (hostConf true) ⟨64, by decide⟩
    smallServer newClient (acceptedEnv true) (afterLogin newClient acceptedServer true) 0 := by
  have hcl : ReachesTo (hostConf true) ⟨64, by decide⟩ serverS newClient :=
    .new clientC newDisk (Or.inl rfl)
  have hsuccess : Succeeds newClient acceptedServer true 0 := by decide +kernel
  exact (ReachesTo.agrees_iff hcl acceptedServer_reaches hsuccess.logsOn).mpr (Or.inl rfl)

/-- The client is disconnected, -/
def disconnected : Client shortNames :=
  (newClient.connect (hostConf true) (acceptedEnv true)).1.pollTcp (hostConf true) 0 [] .again .eof

/-- and the server has accepted its next connection. -/
def acceptedAgain : Server shortNames :=
  (afterLogin newClient acceptedServer true).accept smallServer 7 0

/-- It asks for TCP now, and goes on with shared memory. -/
theorem connect_keeps_shm :
    ReachesTo (hostConf true) ⟨64, by decide⟩ serverS disconnected ∧
    Server.Reaches (hostConf true) ⟨64, by decide⟩ smallServer
      (.new (hostConf true) smallServer serverS) acceptedAgain ∧
    LogsOn (hostConf true) (hostConf true) smallServer disconnected (acceptedEnv false)
      acceptedAgain (afterLogin disconnected acceptedAgain false) 1 ∧
    ¬Agrees (hostConf true) (hostConf true) ⟨64, by decide⟩ smallServer disconnected
      (acceptedEnv false) (afterLogin disconnected acceptedAgain false) 1 := by
  have hfirst : Succeeds newClient acceptedServer true 0 := by decide +kernel
  have hsecond : Succeeds disconnected acceptedAgain false 1 := by decide +kernel
  refine ⟨?_, ?_, hsecond.logsOn, fun hagrees => ?_⟩
  · have hnew : ReachesTo (hostConf true) ⟨64, by decide⟩ serverS newClient :=
      .new clientC newDisk (Or.inl rfl)
    refine (hnew.step (.connect newClient (acceptedEnv true) ?_)).step (.use (.pollTcp _ 0 [] _ _))
    intro fd header rsp hnet
    cases hnet
    rfl
  · exact .tail (acceptedServer_reaches.tail (Or.inl hfirst.logsOn.step)) (Or.inl (.accept _ 7 0))
  · have hsends := (hagrees.client _ .refl).1
    have hshm : (disconnected.connect (hostConf true) (acceptedEnv false)).1.conn.sendsOn = .shm := by
      decide +kernel
    exact (nomatch hshm.symm.trans hsends)

end Tcpshm.Client
