import Tcpshm.Login.Basic
import Tcpshm.PtcpConn.Send
import Tcpshm.PtcpQueue.Refinement

/-!
# What a login establishes

Both sides compare the same numbers, whatever their byte orders. A login under an unchanged name
is accepted exactly when each ack lies within what the other side stores, and then both sides go on
from the acks; under a changed name both start anew.
-/

namespace Tcpshm

/-! ### The numbers arrive -/

section Carry

variable {F : LoginFormat} {ed ed' : Endian}

lemma convert32_carry32 (h : ed.toLittle = ed'.toLittle) (v : UInt32) :
    ed'.convert32 (carry32 ed.isLittle ed'.isLittle (ed.convert32 v)) = v := by
  have hbytes : bytes32 ed.isLittle (ed.convert32 v) = bytes32 ed'.isLittle (ed'.convert32 v) := by
    rw [ed.bytes32_convert32, ed'.bytes32_convert32, h]
  rw [carry32, hbytes, word32_bytes32, ed'.convert32_convert32]

lemma MsgHeader.convertByteOrder_carry (h : ed.toLittle = ed'.toLittle) (m : MsgHeader) :
    ((m.convertByteOrder ed).carry ed.isLittle ed'.isLittle).convertByteOrder ed' = m := by
  rw [carry, toBytes_convertByteOrder, h, convertByteOrder_ofBytes]

lemma LoginMsg.convertByteOrder_carry (h : ed.toLittle = ed'.toLittle) (m : LoginMsg F) :
    ((m.convertByteOrder ed).carry ed.isLittle ed'.isLittle).convertByteOrder ed' = m := by
  simp only [convertByteOrder, carry, convert32_carry32 h]

lemma LoginRspMsg.convertByteOrder_carry (h : ed.toLittle = ed'.toLittle) (m : LoginRspMsg F) :
    ((m.convertByteOrder ed).carry ed.isLittle ed'.isLittle).convertByteOrder ed' = m := by
  simp only [convertByteOrder, carry, convert32_carry32 h]

lemma LoginMsg.convertByteOrder_convertByteOrder (m : LoginMsg F) :
    (m.convertByteOrder ed).convertByteOrder ed = m := by
  simp [convertByteOrder]

end Carry

/-! ### Intervals of sequence numbers -/

/-- `a` lies in the interval from `s` to `e`, modulo `2 ^ 32`. -/
def InSeqInterval (a s e : UInt32) : Prop := (a - s).toNat ≤ (e - s).toNat

instance (a s e : UInt32) : Decidable (InSeqInterval a s e) := inferInstanceAs (Decidable (_ ≤ _))

lemma checkAckInQueue_iff {a s e : UInt32} (h : (e - s).toNat < 2 ^ 31) :
    checkAckInQueue a s e = true ↔ InSeqInterval a s e := by
  rw [checkAckInQueue, decide_eq_true_eq, UInt32.asInt_nonneg_iff, UInt32.asInt_nonneg_iff,
    InSeqInterval]
  have h₁ := a.toNat_lt
  have h₂ := s.toNat_lt
  have h₃ := e.toNat_lt
  simp only [UInt32.toNat_sub] at h ⊢
  omega

namespace PTCPQueue

variable {Q : QueueSize} {ed : Endian} {q : PTCPQueue} {s e a : UInt32}

/-- What the check reports spans the stored messages. -/
lemma seq_sub_of_sanityCheck (hw : q.writeIdx.toNat ≤ Q.blkCnt.toNat)
    (h : q.sanityCheckAndGetSeq Q ed = .ok s e) : (e - s).toNat < 2 ^ 29 := by
  obtain ⟨ms, hh, -, rfl, rfl⟩ := exists_holds_of_sanityCheck hw h
  have := hh.length_lt
  rw [show q.readSeqNum + UInt32.ofNat ms.length - q.readSeqNum = UInt32.ofNat ms.length by grind,
    UInt32.toNat_ofNat_lt (by omega)]
  exact this

/-- The queue as `LoginAck` leaves it: it goes on from the ack, with nothing sent, and stores the
messages from there on. -/
structure GoesOnFrom (Q : QueueSize) (ed : Endian) (q q' : PTCPQueue) (a : UInt32) : Prop where
  readSeqNum : q'.readSeqNum = a
  sendIdx : q'.sendIdx = q'.readIdx
  ackSeqNum : q'.ackSeqNum = q.ackSeqNum
  holds : ∃ ms, q.Holds Q ed ms ∧ (a - q.readSeqNum).toNat ≤ ms.length ∧
    q'.Holds Q ed (ms.drop (a - q.readSeqNum).toNat)

/-- `LoginAck` with an ack within what the queue stores. -/
theorem goesOnFrom_loginAck (hw : q.writeIdx.toNat ≤ Q.blkCnt.toNat)
    (h : q.sanityCheckAndGetSeq Q ed = .ok s e) (ha : InSeqInterval a s e) :
    GoesOnFrom Q ed q (q.loginAck ed a) a := by
  have hspan := seq_sub_of_sanityCheck hw h
  obtain ⟨ms, hh, -, rfl, rfl⟩ := exists_holds_of_sanityCheck hw h
  have hlt := hh.length_lt
  have hlen : (q.readSeqNum + UInt32.ofNat ms.length - q.readSeqNum).toNat = ms.length := by
    rw [show q.readSeqNum + UInt32.ofNat ms.length - q.readSeqNum = UInt32.ofNat ms.length by grind,
      UInt32.toNat_ofNat_lt (by omega)]
  rw [InSeqInterval, hlen] at ha
  have hcov : covered q.readSeqNum a = (a - q.readSeqNum).toNat := by
    unfold covered
    split_ifs with hle
    · rcases (UInt32.asInt_nonpos_iff _).mp hle with h0 | h0 <;> omega
    · rfl
  have hk : covered q.readSeqNum a ≤ ms.length := by rw [hcov]; exact ha
  have hdrop := hh.ack hk
  refine ⟨?_, rfl, (ack_frame q a).2, ms, hh, ha, ?_⟩
  · show (q.ack ed a).readSeqNum = a
    rw [hh.readSeqNum_ack hk, hcov, UInt32.ofNat_toNat]
    grind
  · rw [← hcov]
    exact ⟨hdrop.write_le, hdrop.write_eq, hdrop.blk_eq⟩

/-- An empty queue with all counters 0. -/
def IsNew (q : PTCPQueue) : Prop :=
  q.writeIdx = 0 ∧ q.readIdx = 0 ∧ q.sendIdx = 0 ∧ q.readSeqNum = 0 ∧ q.ackSeqNum = 0

lemma isNew_init (blk : Mem MsgHeader) : (init blk).IsNew := ⟨rfl, rfl, rfl, rfl, rfl⟩

lemma loginAck_init (blk : Mem MsgHeader) : (init blk).loginAck ed 0 = init blk := by
  have hack : (init blk).ack ed 0 = init blk :=
    if_pos (show ((0 : UInt32) - 0).asInt ≤ 0 by decide)
  rw [loginAck, hack]
  rfl

end PTCPQueue

/-! ### The whole exchange -/

/-- What the two hosts supply to a login: descriptors, times, what their files hold, whether the
Login OK can be sent whole, and how much the kernels take of what `Open` sends. -/
structure LoginEnv where
  clientFile : PTCPQueue
  clientNewFile : PTCPQueue
  serverFile : PTCPQueue
  clientFd : Int
  serverFd : Int
  clientNow : Int
  serverNow : Int
  sendOk : Bool
  clientSends : List SendResult
  serverSends : List SendResult

section Exchange

variable {F : LoginFormat} (Cc Cs : Conf)

/-- The end of an exchange: the client gets the response, unless it could not be sent whole. -/
def respond (cl : TcpShmClient F) (header : MsgHeader) (msg : LoginMsg F) (env : LoginEnv)
    (handled : LoginHandled F) :
    LoginHandled F × TcpShmClient F × ConnectResult × List UInt8 :=
  (handled,
    if handled.event = .sendFailed then (cl, .systemError "recv", [])
    else cl.loginResponse Cc header msg
      (handled.header.carry Cs.endian.isLittle Cc.endian.isLittle)
      (handled.rsp.carry Cs.endian.isLittle Cc.endian.isLittle) env.clientNewFile env.clientFd
      env.clientNow env.clientSends)

/-- A login from `Connect` on the client through `HandleLogin` on the server and back. There is no
result where one side gives up before the response. -/
def exchangeLogin (cl : TcpShmClient F) (serverName : Name F) (conn : PTCPConnection)
    (env : LoginEnv) :
    Option (LoginHandled F × TcpShmClient F × ConnectResult × List UInt8) :=
  match cl.loginRequest Cc env.clientFile with
  | (cl, .login header msg) =>
    (receiveLogin Cs (header.carry Cc.endian.isLittle Cs.endian.isLittle)
      (msg.carry Cc.endian.isLittle Cs.endian.isLittle)).bind fun (h, m) =>
    (handleLogin Cs serverName conn env.serverFile h m env.serverFd env.serverNow env.sendOk
      env.serverSends).map (respond Cc Cs cl header msg env)
  | _ => none

variable {Cc Cs} {cl : TcpShmClient F} {serverName : Name F} {conn : PTCPConnection}
  {env : LoginEnv} {qc qs : PTCPQueue} {sc ec ss es : UInt32}

/-- The numbers a login under an unchanged name carries. -/
lemma loginRequest_eq (hclosed : cl.conn.isClosed = true) (hne : cl.serverName.isEmpty = false)
    {file : PTCPQueue} (hq : cl.conn.q.getD file = qc)
    (hs : qc.sanityCheckAndGetSeq Cc.tcpQueueSize Cc.endian = .ok sc ec) :
    cl.loginRequest Cc file =
      ({ cl with conn := cl.conn.tryCloseFd.1.openFile file },
        .login (MsgHeader.convertByteOrder Cc.endian ⟨8 + F.loginMsgSize, 1, qc.myAck⟩)
          (LoginMsg.convertByteOrder Cc.endian
            ⟨sc, ec, false, cl.clientName, cl.serverName⟩)) := by
  have hq' : cl.conn.tryCloseFd.1.q.getD file = qc := by
    rw [← hq]
    unfold PTCPConnection.tryCloseFd
    split_ifs <;> rfl
  simp only [TcpShmClient.loginRequest, hclosed, hne, hq', hs]
  rfl

/-- A login with no queue behind it. -/
lemma loginRequest_empty (hclosed : cl.conn.isClosed = true) (hne : cl.serverName.isEmpty = true)
    (file : PTCPQueue) :
    cl.loginRequest Cc file = ({ cl with conn := cl.conn.tryCloseFd.1 },
      .login (MsgHeader.convertByteOrder Cc.endian ⟨8 + F.loginMsgSize, 1, 0⟩)
        (LoginMsg.convertByteOrder Cc.endian ⟨0, 0, false, cl.clientName, cl.serverName⟩)) := by
  unfold TcpShmClient.loginRequest
  rw [hclosed]
  exact if_pos hne

lemma receiveLogin_carry (hle : Cc.endian.toLittle = Cs.endian.toLittle) (a : UInt32)
    (msg : LoginMsg F) :
    receiveLogin Cs ((MsgHeader.convertByteOrder Cc.endian ⟨8 + F.loginMsgSize, 1, a⟩).carry
        Cc.endian.isLittle Cs.endian.isLittle)
      ((msg.convertByteOrder Cc.endian).carry Cc.endian.isLittle Cs.endian.isLittle) =
      some (⟨8 + F.loginMsgSize, 1, a⟩, msg) := by
  rw [receiveLogin, MsgHeader.convertByteOrder_carry hle, LoginMsg.convertByteOrder_carry hle]
  exact if_pos ⟨rfl, rfl⟩

/-- The exchange as the server sees the login: in host order, as the client meant it. -/
lemma exchangeLogin_eq (hle : Cc.endian.toLittle = Cs.endian.toLittle) {cl₁ : TcpShmClient F}
    {a : UInt32} {msg : LoginMsg F}
    (hreq : cl.loginRequest Cc env.clientFile = (cl₁, .login
      (MsgHeader.convertByteOrder Cc.endian ⟨8 + F.loginMsgSize, 1, a⟩)
      (msg.convertByteOrder Cc.endian))) :
    exchangeLogin Cc Cs cl serverName conn env =
      (handleLogin Cs serverName conn env.serverFile ⟨8 + F.loginMsgSize, 1, a⟩ msg env.serverFd
        env.serverNow env.sendOk env.serverSends).map
      (respond Cc Cs cl₁ (MsgHeader.convertByteOrder Cc.endian ⟨8 + F.loginMsgSize, 1, a⟩)
        (msg.convertByteOrder Cc.endian) env) := by
  rw [exchangeLogin, hreq]
  simp only [receiveLogin_carry hle, Option.bind_some]

/-! ### The answer and the response -/

/-- Each ack lies within what the other side stores. -/
def SeqNumbers.Matches (n : SeqNumbers) : Prop :=
  InSeqInterval n.remoteAckSeq n.localSeqStart n.localSeqEnd ∧
    InSeqInterval n.localAckSeq n.remoteSeqStart n.remoteSeqEnd

instance (n : SeqNumbers) : Decidable n.Matches := inferInstanceAs (Decidable (_ ∧ _))

/-- The response with sequence numbers, in wire order. -/
def answerRsp (Cs : Conf) (serverName : Name F) (s e : UInt32) (status : UInt8) : LoginRspMsg F :=
  LoginRspMsg.convertByteOrder Cs.endian ⟨s, e, status, serverName, ""⟩

lemma answerLogin_eq {n : SeqNumbers} (hl : (n.localSeqEnd - n.localSeqStart).toNat < 2 ^ 31)
    (hr : (n.remoteSeqEnd - n.remoteSeqStart).toNat < 2 ^ 31) (c : PTCPConnection) (fd now : Int)
    (sendOk : Bool) (rs : List SendResult) :
    answerLogin Cs serverName c n fd now sendOk rs =
      if ¬ n.Matches then
        ⟨c, rspHeader F Cs n.localAckSeq,
          answerRsp Cs serverName n.localSeqStart n.localSeqEnd 1, .seqNumberMismatch n, []⟩
      else if sendOk = false then
        ⟨c, rspHeader F Cs n.localAckSeq,
          answerRsp Cs serverName n.localSeqStart n.localSeqEnd 0, .sendFailed, []⟩
      else
        ⟨(c.open Cs fd n.remoteAckSeq now rs).1, rspHeader F Cs n.localAckSeq,
          answerRsp Cs serverName n.localSeqStart n.localSeqEnd 0, .clientLogon,
          (c.open Cs fd n.remoteAckSeq now rs).2⟩ := by
  have hcheck : (!checkAckInQueue n.remoteAckSeq n.localSeqStart n.localSeqEnd ||
      !checkAckInQueue n.localAckSeq n.remoteSeqStart n.remoteSeqEnd) = true ↔ ¬ n.Matches := by
    rw [SeqNumbers.Matches, ← checkAckInQueue_iff hl, ← checkAckInQueue_iff hr]
    simp only [Bool.or_eq_true, Bool.not_eq_true']
    cases checkAckInQueue n.remoteAckSeq n.localSeqStart n.localSeqEnd <;> simp
  have hsend : (!sendOk) = true ↔ sendOk = false := by simp
  unfold answerLogin
  simp only [hcheck, hsend]
  rfl

/-- The client reads the response as the server meant it. -/
lemma loginResponse_carry (hle : Cc.endian.toLittle = Cs.endian.toLittle) (a b s e : UInt32)
    (status : UInt8) (hname : serverName.isEmpty = false) (sent : LoginMsg F) (newFile : PTCPQueue)
    (fd now : Int) (rs : List SendResult) :
    cl.loginResponse Cc (MsgHeader.convertByteOrder Cc.endian ⟨8 + F.loginMsgSize, 1, a⟩)
      (sent.convertByteOrder Cc.endian)
      ((rspHeader F Cs b).carry Cs.endian.isLittle Cc.endian.isLittle)
      ((answerRsp Cs serverName s e status).carry Cs.endian.isLittle Cc.endian.isLittle)
      newFile fd now rs =
    if status ≠ 0 then
      if status = 1 then
        (cl, .seqNumberMismatch ⟨a, sent.clientSeqStart, sent.clientSeqEnd, b, s, e⟩, [])
      else (cl, .loginReject, [])
    else
      let cl := if cl.serverName ≠ serverName then
          { cl with serverName := serverName, conn := (cl.conn.release.openFile newFile).reset }
        else cl
      ({ cl with conn := (cl.conn.open Cc fd b now rs).1 }, .success,
        (cl.conn.open Cc fd b now rs).2) := by
  have hvalid : ¬ ((8 : UInt16) + F.loginRspMsgSize ≠ 8 + F.loginRspMsgSize ∨ (2 : UInt16) ≠ 2 ∨
      serverName.isEmpty = true) := by
    simp [hname]
  simp only [TcpShmClient.loginResponse, rspHeader, answerRsp,
    MsgHeader.convertByteOrder_carry hle.symm, LoginRspMsg.convertByteOrder_carry hle.symm,
    MsgHeader.convertByteOrder_convertByteOrder, LoginMsg.convertByteOrder_convertByteOrder]
  rw [if_neg hvalid]

/-! ### What it establishes -/

/-- `c` has been opened with `q` being its queue right after `LoginAck`, and has handed `sent` to
the socket. -/
def OpenedWith (C : Conf) (fd : Int) (a : UInt32) (now : Int) (rs : List SendResult)
    (c : PTCPConnection) (sent : List UInt8) (q : PTCPQueue) : Prop :=
  ∃ c₀ : PTCPConnection, c₀.open C fd a now rs = (c, sent) ∧ (c₀.openAck C fd a now).q = some q

lemma openAck_q (C : Conf) (c : PTCPConnection) (fd : Int) (a : UInt32) (now : Int) :
    (c.openAck C fd a now).q = c.q.map fun q => q.loginAck C.endian a := rfl

/-- Opening a new queue sends nothing. -/
lemma isNew_open (C : Conf) {c : PTCPConnection} {blk : Mem MsgHeader}
    (hq : c.q = some (.init blk)) (fd now : Int) (rs : List SendResult) :
    (c.open C fd 0 now rs).1.q = some (.init blk) := by
  have hopen : (c.openAck C fd 0 now).q = some (.init blk) := by
    rw [openAck_q, hq, Option.map_some, PTCPQueue.loginAck_init]
  have hsend : (c.openAck C fd 0 now).sendPending C rs = (c.openAck C fd 0 now, [], false) := by
    have hnone : (PTCPQueue.init blk).getSendable.2 = 0 := show (0 : UInt32) - 0 = 0 by decide
    rw [PTCPConnection.sendPending, hopen]
    simp only [hnone, if_true, ite_self]
  rw [PTCPConnection.open, hsend]
  show ((c.openAck C fd 0 now).openBuf C).q = _
  unfold PTCPConnection.openBuf
  split_ifs <;> exact hopen

lemma openFile_q (c : PTCPConnection) (file : PTCPQueue) :
    (c.openFile file).q = some (c.q.getD file) := rfl

/-- The exchange under an unchanged name: the server compares what both sides found. -/
lemma exchangeLogin_same (hle : Cc.endian.toLittle = Cs.endian.toLittle)
    (hclosed : cl.conn.isClosed = true) (hname : serverName.isEmpty = false)
    (hqc : cl.conn.q.getD env.clientFile = qc) (hqs : conn.q.getD env.serverFile = qs)
    (hsc : qc.sanityCheckAndGetSeq Cc.tcpQueueSize Cc.endian = .ok sc ec)
    (hss : qs.sanityCheckAndGetSeq Cs.tcpQueueSize Cs.endian = .ok ss es)
    (hsame : cl.serverName = serverName) :
    exchangeLogin Cc Cs cl serverName conn env =
      some (respond Cc Cs { cl with conn := cl.conn.tryCloseFd.1.openFile env.clientFile }
        (MsgHeader.convertByteOrder Cc.endian ⟨8 + F.loginMsgSize, 1, qc.myAck⟩)
        (LoginMsg.convertByteOrder Cc.endian ⟨sc, ec, false, cl.clientName, cl.serverName⟩) env
        (answerLogin Cs serverName (conn.openFile env.serverFile)
          ⟨qs.myAck, ss, es, qc.myAck, sc, ec⟩ env.serverFd env.serverNow env.sendOk
          env.serverSends)) := by
  have hdiff : ¬ (cl.serverName ≠ serverName) := not_not.mpr hsame
  rw [exchangeLogin_eq hle (loginRequest_eq hclosed (hsame ▸ hname) hqc hsc), handleLogin, hqs, hss]
  simp only [if_neg hdiff, Option.map_some]

/-- The exchange under a changed name: the server starts anew and takes no numbers from the
client. -/
lemma exchangeLogin_changed (hle : Cc.endian.toLittle = Cs.endian.toLittle)
    (hclosed : cl.conn.isClosed = true) (hqc : cl.conn.q.getD env.clientFile = qc)
    (hsc : qc.sanityCheckAndGetSeq Cc.tcpQueueSize Cc.endian = .ok sc ec)
    (hdiff : cl.serverName ≠ serverName) :
    ∃ (cl₁ : TcpShmClient F) (a : UInt32) (msg : LoginMsg F), cl₁.serverName = cl.serverName ∧
      exchangeLogin Cc Cs cl serverName conn env =
        some (respond Cc Cs cl₁
          (MsgHeader.convertByteOrder Cc.endian ⟨8 + F.loginMsgSize, 1, a⟩)
          (msg.convertByteOrder Cc.endian) env
          (answerLogin Cs serverName (conn.openFile env.serverFile).reset ⟨0, 0, 0, 0, 0, 0⟩
            env.serverFd env.serverNow env.sendOk env.serverSends)) := by
  by_cases hempty : cl.serverName.isEmpty = true
  · refine ⟨{ cl with conn := cl.conn.tryCloseFd.1 }, 0,
      ⟨0, 0, false, cl.clientName, cl.serverName⟩, rfl, ?_⟩
    rw [exchangeLogin_eq hle (loginRequest_empty hclosed hempty _), handleLogin]
    rw [if_pos hdiff, Option.map_some]
  · have hne : cl.serverName.isEmpty = false := by simpa using hempty
    refine ⟨{ cl with conn := cl.conn.tryCloseFd.1.openFile env.clientFile }, qc.myAck,
      ⟨sc, ec, false, cl.clientName, cl.serverName⟩, rfl, ?_⟩
    rw [exchangeLogin_eq hle (loginRequest_eq hclosed hne hqc hsc), handleLogin]
    rw [if_pos hdiff, Option.map_some]

/-- Under an unchanged name: accepted exactly when the acks match, else refused with both queues as
they were; once accepted by both sides, each goes on from the other's ack. -/
theorem exchangeLogin_same_spec (hle : Cc.endian.toLittle = Cs.endian.toLittle)
    (hclosed : cl.conn.isClosed = true) (hname : serverName.isEmpty = false)
    (hqc : cl.conn.q.getD env.clientFile = qc) (hqs : conn.q.getD env.serverFile = qs)
    (hwc : qc.writeIdx.toNat ≤ Cc.tcpQueueSize.blkCnt.toNat)
    (hws : qs.writeIdx.toNat ≤ Cs.tcpQueueSize.blkCnt.toNat)
    (hsc : qc.sanityCheckAndGetSeq Cc.tcpQueueSize Cc.endian = .ok sc ec)
    (hss : qs.sanityCheckAndGetSeq Cs.tcpQueueSize Cs.endian = .ok ss es)
    (hsame : cl.serverName = serverName) :
    ∃ handled cl' res sent,
      exchangeLogin Cc Cs cl serverName conn env = some (handled, cl', res, sent) ∧
      (handled.rsp.status = 0 ↔ InSeqInterval qc.myAck ss es ∧ InSeqInterval qs.myAck sc ec) ∧
      (handled.rsp.status ≠ 0 → handled.rsp.status = 1 ∧ handled.conn.q = some qs ∧
        cl'.conn.q = some qc ∧
        ∃ n, handled.event = .seqNumberMismatch n ∧ res = .seqNumberMismatch n.mirror) ∧
      (handled.rsp.status = 0 → env.sendOk = true →
        handled.event = .clientLogon ∧ res = .success ∧
        (∃ q, OpenedWith Cs env.serverFd qc.myAck env.serverNow env.serverSends handled.conn
          handled.sent q ∧ PTCPQueue.GoesOnFrom Cs.tcpQueueSize Cs.endian qs q qc.myAck) ∧
        ∃ q, OpenedWith Cc env.clientFd qs.myAck env.clientNow env.clientSends cl'.conn sent q ∧
          PTCPQueue.GoesOnFrom Cc.tcpQueueSize Cc.endian qc q qs.myAck) := by
  have hspanc := PTCPQueue.seq_sub_of_sanityCheck hwc hsc
  have hspans := PTCPQueue.seq_sub_of_sanityCheck hws hss
  have hqs' : (conn.openFile env.serverFile).q = some qs := by rw [openFile_q, hqs]
  have hqc' : (cl.conn.tryCloseFd.1.openFile env.clientFile).q = some qc := by
    rw [openFile_q, PTCPConnection.q_tryCloseFd, hqc]
  have hanswer := @answerLogin_eq F Cs serverName ⟨qs.myAck, ss, es, qc.myAck, sc, ec⟩
    (by show (es - ss).toNat < _; omega) (by show (ec - sc).toNat < _; omega)
    (conn.openFile env.serverFile) env.serverFd env.serverNow env.sendOk env.serverSends
  rw [exchangeLogin_same hle hclosed hname hqc hqs hsc hss hsame]
  by_cases hmatch : SeqNumbers.Matches ⟨qs.myAck, ss, es, qc.myAck, sc, ec⟩
  · rw [if_neg (not_not.mpr hmatch)] at hanswer
    by_cases hsend : env.sendOk = false
    · rw [if_pos hsend] at hanswer
      refine ⟨_, _, _, _, rfl, ?_, ?_, ?_⟩
      all_goals rw [hanswer]
      · exact iff_of_true rfl hmatch
      · exact fun h => absurd rfl h
      · exact fun _ h => absurd (hsend ▸ h) (by simp)
    · rw [if_neg hsend] at hanswer
      rw [hanswer, respond, if_neg (by simp)]
      rw [loginResponse_carry hle qc.myAck qs.myAck ss es 0 hname,
        if_neg (show ¬ (0 : UInt8) ≠ 0 by decide)]
      refine ⟨_, _, _, _, rfl, iff_of_true rfl hmatch, fun h => absurd rfl h, fun _ _ => ?_⟩
      rw [if_neg (not_not.mpr hsame)]
      refine ⟨rfl, rfl, ⟨qs.loginAck Cs.endian qc.myAck, ⟨_, rfl, ?_⟩, ?_⟩,
        qc.loginAck Cc.endian qs.myAck, ⟨_, rfl, ?_⟩, ?_⟩
      · rw [openAck_q, hqs', Option.map_some]
      · exact PTCPQueue.goesOnFrom_loginAck hws hss hmatch.1
      · rw [openAck_q, hqc', Option.map_some]
      · exact PTCPQueue.goesOnFrom_loginAck hwc hsc hmatch.2
  · rw [if_pos hmatch] at hanswer
    rw [hanswer, respond, if_neg (by simp)]
    rw [loginResponse_carry hle qc.myAck qs.myAck ss es 1 hname,
      if_pos (show (1 : UInt8) ≠ 0 by decide), if_pos rfl]
    refine ⟨_, _, _, _, rfl, ?_, fun _ => ⟨rfl, hqs', hqc', _, rfl, rfl⟩, ?_⟩
    · exact iff_of_false (show ¬ (1 : UInt8) = 0 by decide) hmatch
    · exact fun h => absurd h (show ¬ (1 : UInt8) = 0 by decide)

/-- Under a changed name both sides start anew. -/
theorem exchangeLogin_changed_spec (hle : Cc.endian.toLittle = Cs.endian.toLittle)
    (hclosed : cl.conn.isClosed = true) (hname : serverName.isEmpty = false)
    (hqc : cl.conn.q.getD env.clientFile = qc)
    (hsc : qc.sanityCheckAndGetSeq Cc.tcpQueueSize Cc.endian = .ok sc ec)
    (hdiff : cl.serverName ≠ serverName) :
    ∃ handled cl' res sent,
      exchangeLogin Cc Cs cl serverName conn env = some (handled, cl', res, sent) ∧
      handled.rsp.status = 0 ∧ (∃ q, handled.conn.q = some q ∧ q.IsNew) ∧
      (env.sendOk = true → handled.event = .clientLogon ∧ res = .success ∧
        cl'.serverName = serverName ∧ ∃ q, cl'.conn.q = some q ∧ q.IsNew) := by
  obtain ⟨cl₁, a, msg, hcl, hex⟩ :=
    @exchangeLogin_changed F Cc Cs cl serverName conn env qc sc ec hle hclosed hqc hsc hdiff
  have hanswer := @answerLogin_eq F Cs serverName ⟨0, 0, 0, 0, 0, 0⟩ (by decide) (by decide)
    (conn.openFile env.serverFile).reset env.serverFd env.serverNow
    env.sendOk env.serverSends
  rw [if_neg (not_not.mpr (by decide))] at hanswer
  rw [hex]
  by_cases hsend : env.sendOk = false
  · rw [if_pos hsend] at hanswer
    refine ⟨_, _, _, _, rfl, ?_, ?_, fun h => absurd (hsend ▸ h) (by simp)⟩
    all_goals rw [hanswer]
    · rfl
    · exact ⟨_, rfl, PTCPQueue.isNew_init _⟩
  · rw [if_neg hsend] at hanswer
    rw [hanswer, respond, if_neg (by simp)]
    rw [loginResponse_carry hle a 0 0 0 0 hname,
      if_neg (show ¬ (0 : UInt8) ≠ 0 by decide), if_pos (hcl ▸ hdiff)]
    refine ⟨_, _, _, _, rfl, rfl, ⟨_, isNew_open Cs rfl _ _ _, PTCPQueue.isNew_init _⟩, fun _ => ?_⟩
    exact ⟨rfl, rfl, rfl, _, isNew_open Cc rfl _ _ _, PTCPQueue.isNew_init _⟩

/-- What a login comes to, for any two queues that pass the check. -/
theorem login_synchronises (hle : Cc.endian.toLittle = Cs.endian.toLittle)
    (hclosed : cl.conn.isClosed = true) (hname : serverName.isEmpty = false)
    (hqc : cl.conn.q.getD env.clientFile = qc) (hqs : conn.q.getD env.serverFile = qs)
    (hwc : qc.writeIdx.toNat ≤ Cc.tcpQueueSize.blkCnt.toNat)
    (hws : qs.writeIdx.toNat ≤ Cs.tcpQueueSize.blkCnt.toNat)
    (hsc : qc.sanityCheckAndGetSeq Cc.tcpQueueSize Cc.endian = .ok sc ec)
    (hss : qs.sanityCheckAndGetSeq Cs.tcpQueueSize Cs.endian = .ok ss es) :
    ∃ handled cl' res sent,
      exchangeLogin Cc Cs cl serverName conn env = some (handled, cl', res, sent) ∧
      (cl.serverName = serverName →
        (handled.rsp.status = 0 ↔ InSeqInterval qc.myAck ss es ∧ InSeqInterval qs.myAck sc ec) ∧
        (handled.rsp.status ≠ 0 → handled.rsp.status = 1 ∧ handled.conn.q = some qs ∧
          cl'.conn.q = some qc ∧
          ∃ n, handled.event = .seqNumberMismatch n ∧ res = .seqNumberMismatch n.mirror) ∧
        (handled.rsp.status = 0 → env.sendOk = true →
          handled.event = .clientLogon ∧ res = .success ∧
          (∃ q, OpenedWith Cs env.serverFd qc.myAck env.serverNow env.serverSends handled.conn
            handled.sent q ∧ PTCPQueue.GoesOnFrom Cs.tcpQueueSize Cs.endian qs q qc.myAck) ∧
          ∃ q, OpenedWith Cc env.clientFd qs.myAck env.clientNow env.clientSends cl'.conn sent q ∧
            PTCPQueue.GoesOnFrom Cc.tcpQueueSize Cc.endian qc q qs.myAck)) ∧
      (cl.serverName ≠ serverName →
        handled.rsp.status = 0 ∧ (∃ q, handled.conn.q = some q ∧ q.IsNew) ∧
        (env.sendOk = true → handled.event = .clientLogon ∧ res = .success ∧
          cl'.serverName = serverName ∧ ∃ q, cl'.conn.q = some q ∧ q.IsNew)) := by
  by_cases hsame : cl.serverName = serverName
  · obtain ⟨handled, cl', res, sent, hex, hspec⟩ :=
      exchangeLogin_same_spec hle hclosed hname hqc hqs hwc hws hsc hss hsame
    exact ⟨handled, cl', res, sent, hex, fun _ => hspec, fun hdiff => absurd hsame hdiff⟩
  · obtain ⟨handled, cl', res, sent, hex, hspec⟩ :=
      @exchangeLogin_changed_spec F Cc Cs cl serverName conn env qc sc ec hle hclosed hname hqc hsc
        hsame
    exact ⟨handled, cl', res, sent, hex, fun h => absurd h hsame, fun _ => hspec⟩

end Exchange

/-! ### A login across the wrap -/

def shortNames : LoginFormat := ⟨16, 64, 64⟩

/-- The configuration of a host of the given byte order. -/
def hostConf (isLittle : Bool) : Conf := .tiny ⟨true, isLittle⟩

def shortName (c : UInt8) (h : c ≠ 0 := by decide) : Name shortNames where
  chars := [c]
  no_nul := by simpa using h.symm
  length_lt := show 1 < 16 by decide

def clientC : Name shortNames := shortName 99

def serverS : Name shortNames := shortName 115

/-- A queue of a big-endian server that stores message `2 ^ 32 - 1`. -/
def wrappingQueue : PTCPQueue :=
  { (((PTCPQueue.init fun _ => default).alloc .fourBlocks 0).1.fill 0 1 []).push ⟨true, false⟩ with
    readSeqNum := 0xFFFFFFFF }

/-- The client has everything the server stores, or lacks the last message. -/
def wrappingLogin (ack : UInt32) : LoginEnv where
  clientFile := { PTCPQueue.init (fun _ => default) with ackSeqNum := ack }
  clientNewFile := .init fun _ => default
  serverFile := wrappingQueue
  clientFd := 3
  serverFd := 4
  clientNow := 0
  serverNow := 0
  sendOk := true
  clientSends := []
  serverSends := []

/-- A client that has message `2 ^ 32 - 1` as its next, on a little-endian host, goes on from it. -/
theorem login_synchronises_wrapping : ∃ handled cl' res sent,
    exchangeLogin (hostConf true) (hostConf false)
      ⟨shortName 99, shortName 115, PTCPConnection.new (hostConf true)⟩ (shortName 115)
      (PTCPConnection.new (hostConf false)) (wrappingLogin 0xFFFFFFFF) =
      some (handled, cl', res, sent) ∧ handled.event = .clientLogon ∧ res = .success := by
  obtain ⟨handled, cl', res, sent, hex, hsame, -⟩ :=
    @login_synchronises shortNames (hostConf true) (hostConf false)
      ⟨shortName 99, shortName 115, PTCPConnection.new (hostConf true)⟩ (shortName 115)
      (PTCPConnection.new (hostConf false)) (wrappingLogin 0xFFFFFFFF) _ _ 0 0 0xFFFFFFFF 0 rfl rfl rfl
      rfl rfl (by decide) (by decide) (by decide) (by decide)
  obtain ⟨hiff, -, hgo⟩ := hsame rfl
  obtain ⟨hlogon, hres, -⟩ := hgo (hiff.mpr (by decide)) rfl
  exact ⟨handled, cl', res, sent, hex, hlogon, hres⟩

end Tcpshm
