import Tcpshm.Client.Next
import Tcpshm.Login.Sync

/-!
# A `Connect` that fails

What a failed `Connect` leaves shows in the next login in two cases: the name of the server was
stored before its queue file could be opened, and a send queue over shared memory was mapped by a
client whose next login asks for TCP.
-/

namespace Tcpshm.Client

variable {F : LoginFormat} {C : Conf} {R : RingSize} {cl cl' : Client F} {env : ConnectEnv F}

/-- The response accepts the login under a name other than the stored one. -/
structure NewName (C : Conf) (cl : Client F) (header : MsgHeader) (rsp : LoginRspMsg F) : Prop where
  size : (header.convertByteOrder C.endian).size = 8 + F.loginRspMsgSize
  msgType : (header.convertByteOrder C.endian).msgType = 2
  named : rsp.serverName.isEmpty = false
  status : rsp.status = 0
  other : rsp.serverName ≠ cl.storedName

/-- `Connect` sends its login, and it is accepted under a new name. -/
def Renames (C : Conf) (cl : Client F) (env : ConnectEnv F) : Prop :=
  (∃ header msg, (cl.prepare C env).2 = .login header msg) ∧
    ∃ fd header rsp, env.net = .response fd header rsp ∧ cl.NewName C header rsp

/-- The TCP queue is in order, and its numbers are those that shared memory goes by. -/
def ZeroSeq (C : Conf) (cl : Client F) : Prop :=
  cl.tcpFile.sanityCheckAndGetSeq C.tcpQueueSize C.endian = .ok 0 0 ∧ cl.tcpFile.myAck = 0

/-- The next `Connect` sends the same login from `cl'` as from `cl`; and where all files can be
mapped, it comes to the same when it sends none. -/
def SameNext (C : Conf) (cl cl' : Client F) : Prop :=
  (∀ env : ConnectEnv F, env.lastServerErr = none → env.errs = ⟨none, none, none⟩ →
    (cl'.prepare C env).2 = (cl.prepare C env).2) ∧
  ∀ (env : ConnectEnv F) (header : MsgHeader) (msg : LoginMsg F),
    (cl.prepare C env).2 = .login header msg → (cl'.prepare C env).2 = .login header msg

/-! ### The second half of `Connect` -/

lemma adopt_cases (cl : Client F) (name : Name F) (env : ConnectEnv F) :
    (cl.storedName = name ∧ cl.adopt name env = (cl, none)) ∨
      (cl.storedName ≠ name ∧ ((∃ err, ((cl.rename name).openFile env.useShm env.newErrs).2 = some err ∧
          cl.adopt name env = (((cl.rename name).openFile env.useShm env.newErrs).1, some err)) ∨
        (((cl.rename name).openFile env.useShm env.newErrs).2 = none ∧ (cl.adopt name env).2 = none ∧
          (cl.adopt name env).1.conn =
            ((cl.rename name).openFile env.useShm env.newErrs).1.conn.reset))) := by
  unfold adopt
  by_cases hname : cl.storedName = name
  · exact Or.inl ⟨hname, if_pos hname⟩
  · refine Or.inr ⟨hname, ?_⟩
    rw [if_neg hname]
    generalize (cl.rename name).openFile env.useShm env.newErrs = opened
    obtain ⟨cl₁, _ | err⟩ := opened
    · exact Or.inr ⟨rfl, rfl, rfl⟩
    · exact Or.inl ⟨err, rfl, rfl⟩

/-- After `Release` the connection is closed. -/
lemma rename_isClosed (cl : Client F) (name : Name F) (useShm : Bool) (errs : MapErrors) :
    ((cl.rename name).openFile useShm errs).1.conn.isClosed = true := by
  have hclosed : (cl.conn.ptcpConn.close "Release" 0).sockfd < 0 := by
    unfold PTCPConnection.close
    split_ifs with h
    · exact h
    · exact neg_one_lt_zero
  have hsock : (cl.conn.ptcpConn.close "Release" 0).tryCloseFd.1.sockfd =
      (cl.conn.ptcpConn.close "Release" 0).sockfd := by
    unfold PTCPConnection.tryCloseFd
    split_ifs <;> rfl
  have hopen : ((cl.rename name).openFile useShm errs).1.conn.ptcpConn.sockfd =
      (cl.conn.ptcpConn.close "Release" 0).tryCloseFd.1.sockfd :=
    TcpShmConnection.openFile_sockfd _ _ _ _
  unfold TcpShmConnection.isClosed PTCPConnection.isClosed
  rw [hopen, hsock]
  exact decide_eq_true hclosed

lemma respond_failed {sentHeader : MsgHeader} {sentMsg : LoginMsg F} {fd : Int}
    {header : MsgHeader} {rsp : LoginRspMsg F}
    (hfail : (cl.respond C env sentHeader sentMsg fd header rsp).2.Fails) :
    (¬cl.NewName C header rsp ∧ (cl.respond C env sentHeader sentMsg fd header rsp).1 = cl) ∨
      (cl.NewName C header rsp ∧
        (cl.respond C env sentHeader sentMsg fd header rsp).1.storedName = rsp.serverName ∧
        (cl.respond C env sentHeader sentMsg fd header rsp).1.conn.isClosed = true) := by
  have hname : (rsp.convertByteOrder C.endian).serverName = rsp.serverName := rfl
  have hstatus : (rsp.convertByteOrder C.endian).status = rsp.status := rfl
  unfold respond at hfail ⊢
  simp only [hname, hstatus] at hfail ⊢
  split_ifs at hfail ⊢ with hinvalid hrejected hmismatch
  · refine Or.inl ⟨fun h => ?_, rfl⟩
    rcases hinvalid with hsize | htype | hempty
    · exact hsize h.size
    · exact htype h.msgType
    · exact (nomatch hempty.symm.trans h.named)
  · exact Or.inl ⟨fun h => hrejected h.status, rfl⟩
  · exact Or.inl ⟨fun h => hrejected h.status, rfl⟩
  · rw [not_or, not_or] at hinvalid
    obtain ⟨-, hadopt⟩ | ⟨hother, ⟨err, -, hadopt⟩ | ⟨-, hadopt, -⟩⟩ :=
      adopt_cases cl rsp.serverName env
    · rw [hadopt] at hfail
      exact absurd hfail id
    · rw [hadopt]
      refine Or.inr ⟨⟨not_not.mp hinvalid.1, not_not.mp hinvalid.2.1, ?_, not_not.mp hrejected,
        hother.symm⟩, rfl, rename_isClosed cl _ _ _⟩
      exact Bool.not_eq_true _ ▸ hinvalid.2.2
    · generalize cl.adopt rsp.serverName env = adopted at hadopt hfail
      obtain ⟨cl₁, _ | err⟩ := adopted
      · exact absurd hfail id
      · exact (nomatch hadopt)

/-- A `Connect` that fails stops before it changes the name, or right after. -/
theorem connect_failed (hn : Named cl) (hfail : (cl.connect C env).2.Fails) :
    (¬cl.Renames C env ∧ (cl.connect C env).1 = (cl.prepare C env).1) ∨
      (cl.Renames C env ∧ (cl.connect C env).1.storedName ≠ cl.storedName ∧
        (cl.connect C env).1.conn.isClosed = true) := by
  have hkept := Kept.prepare (C := C) hn env
  unfold connect Renames at *
  generalize cl.prepare C env = prepared at hkept hfail ⊢
  obtain ⟨p, ⟨header, msg⟩ | ⟨errorMsg, sysErrno⟩ | _⟩ := prepared
  · have hlogin : ∃ header' msg', (Prepared.login header msg : Prepared F) = .login header' msg' :=
      ⟨header, msg, rfl⟩
    cases hnet : env.net with
    | failed call sysErrno =>
      rw [hnet] at hfail
      refine Or.inl ⟨?_, rfl⟩
      rintro ⟨-, fd, header', rsp, heq, -⟩
      exact (nomatch heq)
    | response fd rspHeader rsp =>
      rw [hnet] at hfail
      have hsame : p.NewName C rspHeader rsp ↔ cl.NewName C rspHeader rsp := by
        constructor
        · exact fun h => ⟨h.size, h.msgType, h.named, h.status, hkept.storedName ▸ h.other⟩
        · exact fun h => ⟨h.size, h.msgType, h.named, h.status, hkept.storedName.symm ▸ h.other⟩
      obtain ⟨hnot, heq⟩ | ⟨hnew, hstored, hclosed⟩ := respond_failed hfail
      · refine Or.inl ⟨?_, heq⟩
        rintro ⟨-, fd', header', rsp', heq', hnew⟩
        cases heq'
        exact hnot (hsame.mpr hnew)
      · refine Or.inr ⟨⟨hlogin, fd, rspHeader, rsp, rfl, hsame.mp hnew⟩, ?_, hclosed⟩
        show (p.respond C env header msg fd rspHeader rsp).1.storedName ≠ cl.storedName
        rw [hstored]
        exact (hsame.mp hnew).other
  · refine Or.inl ⟨?_, rfl⟩
    rintro ⟨⟨header, msg, heq⟩, -⟩
    exact (nomatch heq)
  · exact absurd hfail id

/-! ### The next login -/

/-- The environment in which everything can be mapped. -/
def allMapped (env : ConnectEnv F) (useShm : Bool) : ConnectEnv F :=
  { env with useShm := useShm, lastServerErr := none, errs := ⟨none, none, none⟩ }

lemma canPrepare_of_mapped (hclosed : cl.conn.isClosed = true) (hname : env.lastServerErr = none)
    (herrs : env.errs = ⟨none, none, none⟩) : cl.CanPrepare env := by
  refine ⟨hclosed, Or.inr hname, Or.inr ?_⟩
  unfold TcpShmConnection.CanOpen
  rw [herrs]
  split_ifs
  · exact ⟨Or.inr rfl, Or.inr rfl⟩
  · exact Or.inr rfl

lemma loginMsg_inj {useShm : Bool} {a b c a' b' c' : UInt32}
    (h : cl.loginMsg C useShm a b c = cl'.loginMsg C useShm a' b' c') :
    a = a' ∧ b = b' ∧ c = c' ∧ cl.storedName = cl'.storedName := by
  obtain ⟨hheader, hmsg⟩ := Prepared.login.inj h
  have hconv : ∀ {x y : UInt32}, C.endian.convert32 x = C.endian.convert32 y → x = y := by
    intro x y hxy
    rw [← Endian.convert32_convert32 C.endian x, hxy, Endian.convert32_convert32]
  exact ⟨hconv (congrArg MsgHeader.ackSeq hheader), hconv (congrArg LoginMsg.clientSeqStart hmsg),
    hconv (congrArg LoginMsg.clientSeqEnd hmsg), congrArg LoginMsg.lastServerName hmsg⟩

lemma request_shm (cl : Client F) : cl.request C true = cl.loginMsg C true 0 0 0 :=
  if_pos (Or.inr (Or.inl rfl))

/-- Where shared memory is not mapped, a TCP login carries 0s exactly where the queue says so. -/
lemma request_eq_iff (hstored : cl.storedName.isEmpty = false) (hsend : cl.conn.shmSendq = none) :
    cl.request C false = cl.loginMsg C false 0 0 0 ↔ cl.ZeroSeq C := by
  unfold request ZeroSeq
  rw [if_neg (by simp [hstored, hsend])]
  cases cl.tcpFile.sanityCheckAndGetSeq C.tcpQueueSize C.endian with
  | ok seqStart seqEnd =>
    constructor
    · intro h
      obtain ⟨hack, hstart, hend, -⟩ := loginMsg_inj h
      rw [hack, hstart, hend]
      exact ⟨rfl, rfl⟩
    · rintro ⟨hcheck, hack⟩
      cases hcheck
      rw [hack]
  | corrupt => exact ⟨(nomatch ·), fun h => (nomatch h.1)⟩
  | outOfBounds => exact ⟨(nomatch ·), fun h => (nomatch h.1)⟩
  | running => exact ⟨(nomatch ·), fun h => (nomatch h.1)⟩

/-- The same footing gives the same next login. -/
lemma Kept.sameNext {p : Client F} (hn : Named cl) (hp : Named p) (h : Kept cl p)
    (hrequest : ∀ useShm, p.request C useShm = cl.request C useShm) : SameNext C cl p := by
  refine ⟨fun env hname herrs => ?_, fun env header msg hlogin => ?_⟩
  · cases hclosed : cl.conn.isClosed with
    | false =>
      have hopen : ∀ {cl : Client F}, cl.conn.isClosed = false →
          (cl.prepare C env).2 = .error "already connected" 0 := by
        intro cl h
        unfold Client.prepare
        rw [h]
        rfl
      rw [hopen hclosed, hopen (h.isClosed.trans hclosed)]
    | true =>
      rw [prepare_of_can hn (canPrepare_of_mapped hclosed hname herrs),
        prepare_of_can hp (canPrepare_of_mapped (h.isClosed.trans hclosed) hname herrs), hrequest]
  · have hcan := can_of_prepare hn hlogin
    rw [prepare_of_can hp (h.canPrepare hcan), hrequest, ← prepare_of_can hn hcan, hlogin]

lemma named_connect (hn : Named cl) (env : ConnectEnv F) : Named (cl.connect C env).1 := by
  have hp := hn.prepare (C := C) env
  unfold connect
  generalize cl.prepare C env = prepared at hp ⊢
  obtain ⟨p, ⟨header, msg⟩ | ⟨errorMsg, sysErrno⟩ | _⟩ := prepared
  · cases env.net with
    | failed call sysErrno => exact hp
    | response fd rspHeader rsp =>
      have hadopt := hp.adopt (rsp.convertByteOrder C.endian).serverName env
      simp only [respond]
      split_ifs
      · exact hp
      · exact hp
      · exact hp
      · generalize p.adopt (rsp.convertByteOrder C.endian).serverName env = adopted at hadopt ⊢
        obtain ⟨cl₁, _ | err⟩ := adopted
        · exact hadopt.of_conn rfl
        · exact hadopt
  · exact hp
  · exact hp

theorem connect_sameNext_iff (hn : Named cl) (hfail : (cl.connect C env).2.Fails) :
    SameNext C cl (cl.connect C env).1 ↔
      ¬cl.Renames C env ∧ ¬(cl.MapsSend env ∧ ¬cl.ZeroSeq C) := by
  have hkept := Kept.prepare (C := C) hn env
  have hp := named_connect (C := C) hn env
  have hat : ∀ {p : Client F} (u : Bool), Named p → p.conn.isClosed = true →
      (p.prepare C (allMapped env u)).2 = p.request C u :=
    fun u hp hclosed => prepare_of_can hp (canPrepare_of_mapped hclosed rfl rfl)
  obtain ⟨hnot, heq⟩ | ⟨hrenames, hstored, hclosed⟩ := connect_failed hn hfail
  · rw [heq] at hp ⊢
    have hsend := prepare_shmSendq (C := C) hn env
    refine ⟨fun hsame => ⟨hnot, fun ⟨hmaps, hseq⟩ => hseq ?_⟩, fun ⟨_, hok⟩ => ?_⟩
    · -- the next login asks for TCP
      have hnext := hsame.1 (allMapped env false) rfl rfl
      rw [hat false hp (hkept.isClosed.trans hmaps.closed), hat false hn hmaps.closed] at hnext
      rw [← request_eq_iff hmaps.stored hmaps.unmapped, ← hnext]
      have hmsg : (cl.prepare C env).1.loginMsg C false 0 0 0 = cl.loginMsg C false 0 0 0 := by
        unfold loginMsg
        rw [hkept.clientName, hkept.storedName]
      rw [← hmsg]
      exact if_pos (Or.inr (Or.inr (hsend.mpr (Or.inr hmaps))))
    · refine hkept.sameNext hn hp fun useShm => ?_
      by_cases hmaps : cl.MapsSend env
      · have hseq := not_not.mp fun h => hok ⟨hmaps, h⟩
        have hmsg : ∀ u, (cl.prepare C env).1.loginMsg C u 0 0 0 = cl.loginMsg C u 0 0 0 := by
          intro u
          unfold loginMsg
          rw [hkept.clientName, hkept.storedName]
        cases useShm with
        | true => rw [request_shm, request_shm, hmsg]
        | false =>
          rw [(request_eq_iff hmaps.stored hmaps.unmapped).mpr hseq, ← hmsg]
          exact if_pos (Or.inr (Or.inr (hsend.mpr (Or.inr hmaps))))
      · exact hkept.request_eq (fun h => (hsend.mp h).resolve_right hmaps) useShm
  · refine ⟨fun hsame => ?_, fun h => absurd hrenames h.1⟩
    obtain ⟨header, msg, hlogin⟩ := hrenames.1
    have hnext := hsame.1 (allMapped env true) rfl rfl
    rw [hat true hp hclosed, hat true hn (can_of_prepare hn hlogin).closed, request_shm,
      request_shm] at hnext
    exact absurd (loginMsg_inj hnext).2.2.2 hstored

lemma Reaches.named {clientName : Name F} {disk : Disk F}
    (h : Reaches C R (.new C clientName disk) cl) : Named cl := by
  induction h with
  | refl => exact fun n hn => (nomatch hn)
  | tail _ hstep ih =>
    cases hstep with
    | connect env => exact named_connect ih env
    | pollTcp now rs hb res =>
      refine ih.of_conn ?_
      show (if _ then _ else _ : TcpShmConnection F).remoteName = _
      split_ifs
      · rfl
      · rfl
    | call e => exact ih.of_conn (e.keeps _).remoteName
    | stop => exact fun n hn => (nomatch hn)

/-- In every state of a client, a `Connect` that fails leaves the next login as it was exactly when
the login was not accepted under a new name, and no send queue over shared memory was mapped by a
client whose TCP queue has other numbers than 0. -/
theorem Reaches.failed_connect_iff {clientName : Name F} {disk : Disk F}
    (h : Reaches C R (.new C clientName disk) cl) (hfail : (cl.connect C env).2.Fails) :
    SameNext C cl (cl.connect C env).1 ↔
      ¬cl.Renames C env ∧ ¬(cl.MapsSend env ∧ ¬cl.ZeroSeq C) :=
  connect_sameNext_iff h.named hfail

/-! ### A client of an old server -/

/-- The last session is forgotten, but a queue file from an older one still stores a message. -/
def staleDisk : Disk shortNames where
  lastServer := serverS.clear
  ptcp := fun _ => wrappingQueue
  shmSend := fun _ => TcpShmConnection.newShmq
  shmRecv := fun _ => TcpShmConnection.newShmq

def staleClient : Client shortNames := .new (hostConf false) clientC staleDisk

/-- The server accepts the login, and then the queue file cannot be opened. -/
def lateError : ConnectEnv shortNames where
  useShm := false
  lastServerErr := none
  errs := ⟨none, none, none⟩
  net := .response 5 (rspHeader shortNames (hostConf false) 0) ⟨0, 0, 0, serverS, ""⟩
  newErrs := ⟨some ⟨.open, 13⟩, none, none⟩
  now := 0
  sends := []

/-- No server listens. -/
theorem Reaches.failed_connect_iff_refused :
    SameNext (hostConf false) staleClient (staleClient.connect (hostConf false)
      { lateError with net := .failed .connect 111 }).1 := by
  have hfail : (staleClient.connect (hostConf false)
      { lateError with net := .failed .connect 111 }).2.Fails := trivial
  have hreach : Reaches (hostConf false) ⟨64, by decide⟩
      (.new (hostConf false) (shortName 99) staleDisk) staleClient := .refl
  refine (Reaches.failed_connect_iff hreach hfail).mpr ⟨?_, fun h => (nomatch h.1.useShm)⟩
  rintro ⟨-, fd, header, rsp, hnet, -⟩
  exact (nomatch hnet)

/-- The name and the numbers a login carries, in host order. -/
def carries (C : Conf) : Prepared F → Option (Name F × List UInt32)
  | .login header msg =>
    let msg := msg.convertByteOrder C.endian
    some (msg.lastServerName,
      [(header.convertByteOrder C.endian).ackSeq, msg.clientSeqStart, msg.clientSeqEnd])
  | _ => none

/-- The next login carries the new name and the numbers of the old file. -/
theorem failed_connect_lasts :
    (staleClient.connect (hostConf false) lateError).2.Fails ∧
    carries (hostConf false) (staleClient.prepare (hostConf false) lateError).2 =
      some ((shortName 115).clear, [0, 0, 0]) ∧
    carries (hostConf false) ((staleClient.connect (hostConf false) lateError).1.prepare
      (hostConf false) lateError).2 = some (shortName 115, [0, 0xFFFFFFFF, 0]) := by
  refine ⟨trivial, ?_, ?_⟩
  · decide +kernel
  · decide +kernel

end Tcpshm.Client
