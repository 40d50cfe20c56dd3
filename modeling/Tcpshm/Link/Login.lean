import Tcpshm.Link.Reopen
import Tcpshm.Link.System

/-!
# A login between two peers

What the first half of `Connect`, `HandleLogin` and the second half of `Connect` come to, when the
client knows the name of the server: in terms of the messages that were pushed and popped.
-/

namespace Tcpshm

open PTCPConnection

/-- What a login is about: the pops of the client, and the messages it stores. -/
structure LoginNumbers where
  popped : Nat
  acked : Nat
  pushed : Nat

/-! ### Connections that are the same for a peer -/

/-- `c` has the queue and the receive side of the peer's connection. -/
structure SameConn (P : Peer) (c : PTCPConnection) : Prop where
  queue : c.q.getD P.file = P.queue
  receiver : SameReceiver P.conn c
  hbmsg : c.hbmsg = P.conn.hbmsg
  opened : P.conn.q.isSome → c.q.isSome

namespace SameConn

variable {C CX CY : Conf} {P X Y : Peer} {c : PTCPConnection} {f fX fY n : Nat}
  {chan : List UInt8} {ready rest : List Frame} {joined : Bool}

lemma refl (P : Peer) : SameConn P P.conn := ⟨rfl, .rfl', rfl, id⟩

lemma tryCloseFd (P : Peer) : SameConn P P.conn.tryCloseFd.1 := by
  unfold PTCPConnection.tryCloseFd
  split_ifs
  · exact ⟨rfl, ⟨rfl, rfl, rfl, rfl, rfl, rfl, Or.inl rfl⟩, rfl, id⟩
  · exact refl P

lemma openFile (h : SameConn P c) : SameConn P (c.openFile P.file) :=
  ⟨h.queue, h.receiver.trans ⟨rfl, rfl, rfl, rfl, rfl, rfl, Or.inl rfl⟩, h.hbmsg, fun _ => rfl⟩

lemma q_openFile (h : SameConn P c) : (c.openFile P.file).q = some P.queue :=
  congrArg some h.queue

lemma stays (h : SameConn P c) (hopen : 0 ≤ c.sockfd) : 0 ≤ P.conn.sockfd := by
  rcases h.receiver.sockfd with hs | hs
  · exact hs ▸ hopen
  · exact absurd hs (not_lt.mpr hopen)

lemma counts (h : SameConn P c) (hc : Counts C P f) : Counts C (P.withConn c) f :=
  hc.congr h.queue rfl rfl rfl h.hbmsg fun hopen => h.opened (hc.opened (h.stays hopen))

lemma toward_receiver (h : SameConn Y c) (ht : Toward CX CY X Y fX fY joined chan ready rest n) :
    Toward CX CY X (Y.withConn c) fX fY joined chan ready rest n :=
  ht.congr_receiver h.receiver rfl rfl

lemma toward_sender (h : SameConn X c) (ht : Toward CX CY X Y fX fY joined chan ready rest n) :
    Toward CX CY (X.withConn c) Y fX fY joined chan ready rest n :=
  ht.congr_sender h.queue rfl rfl h.stays

end SameConn

namespace System

variable {F : LoginFormat} {H : Hosts F} {s s' : System F} {f : Nat}

/-! ### The first half of `Connect` -/

/-- The login in wire order. -/
def login (H : Hosts F) (l : LoginNumbers) : MsgHeader × LoginMsg F :=
  (MsgHeader.convertByteOrder H.client.endian
      ⟨8 + F.loginMsgSize, 1, UInt32.ofNat l.popped⟩,
    LoginMsg.convertByteOrder H.client.endian
      ⟨UInt32.ofNat l.acked, UInt32.ofNat l.pushed, false, H.clientName, H.serverName⟩)

lemma loginRequest_corrupt {C : Conf} {cl : TcpShmClient F} {q : PTCPQueue}
    (hclosed : cl.conn.isClosed = true) (hne : cl.serverName.isEmpty = false) {file : PTCPQueue}
    (hq : cl.conn.q.getD file = q)
    (hs : q.sanityCheckAndGetSeq C.tcpQueueSize C.endian = .corrupt) :
    cl.loginRequest C file =
      ({ cl with conn := cl.conn.tryCloseFd.1.openFile file }, .error "Ptcp file corrupt") := by
  have hq' : cl.conn.tryCloseFd.1.q.getD file = q := by
    rw [q_tryCloseFd]
    exact hq
  simp only [TcpShmClient.loginRequest, hclosed, hne, hq', hs]
  rfl

/-- The client with its file opened. -/
def opening (s : System F) : PTCPConnection := s.client.conn.tryCloseFd.1.openFile s.client.file

lemma sameConn_opening (s : System F) : SameConn s.client s.opening :=
  (SameConn.tryCloseFd s.client).openFile

/-- The numbers of the client, which has `f` messages acknowledged. -/
def numbers (s : System F) (f : Nat) : LoginNumbers :=
  ⟨s.client.popped.length, f, s.client.pushed.length⟩

/-- `Connect` sends the numbers of the queue, if the connection is closed and the check accepts the
queue. -/
lemma request_cases (hname : s.lastServerName = H.serverName)
    (hs : Stores H.client s.client.queue s.client.msgs f s.client.popped.length) :
    (s.client.conn.isClosed = false ∧
      s.request H = (s.tcpShmClient H, .error "already connected")) ∨
    (s.client.queue.AcksOld (s.client.msgs.drop f) ∧
      s.request H = ({ s.tcpShmClient H with conn := s.opening },
        .login (login H (s.numbers f)).1 (login H (s.numbers f)).2)) ∨
    (¬ s.client.queue.AcksOld (s.client.msgs.drop f) ∧
      s.request H = ({ s.tcpShmClient H with conn := s.opening }, .error "Ptcp file corrupt")) := by
  have hcheck := hs.sanityCheck
  have hmsgs : s.client.msgs.length = s.client.pushed.length := s.client.length_msgs
  have hempty : s.lastServerName.isEmpty = false := by
    rw [hname]
    exact H.named
  unfold request
  cases hclosed : (s.tcpShmClient H).conn.isClosed with
  | false =>
    refine Or.inl ⟨hclosed, ?_⟩
    unfold TcpShmClient.loginRequest
    rw [hclosed]
    rfl
  | true =>
    refine Or.inr ?_
    by_cases hold : s.client.queue.AcksOld (s.client.msgs.drop f)
    · rw [if_pos hold] at hcheck
      refine Or.inl ⟨hold, ?_⟩
      rw [loginRequest_eq hclosed hempty rfl hcheck]
      unfold login numbers
      rw [← hs.ackSeqNum, ← hmsgs, ← hname]
      rfl
    · rw [if_neg hold] at hcheck
      exact Or.inr ⟨hold, loginRequest_corrupt hclosed hempty rfl hcheck⟩

/-- `Connect` is refused by the client itself, or it sends the numbers of its queue. -/
theorem connect_cases (hname : s.lastServerName = H.serverName)
    (hs : Stores H.client s.client.queue s.client.msgs f s.client.popped.length)
    (h : s.connect H = some s') :
    (∃ c, SameConn s.client c ∧ s' = { s with client := s.client.withConn c }) ∨
      (s.client.queue.AcksOld (s.client.msgs.drop f) ∧
        s' = { s with
          client := s.client.withConn s.opening
          connecting := .asking (login H (s.numbers f)).1 (login H (s.numbers f)).2
          joined := false
          toClient := [] }) := by
  unfold connect at h
  cases hidle : s.connecting with
  | idle =>
    rw [hidle] at h
    obtain ⟨-, heq⟩ | ⟨hold, heq⟩ | ⟨-, heq⟩ := request_cases hname hs
    · rw [heq] at h
      cases h
      exact Or.inl ⟨_, .refl _, rfl⟩
    · rw [heq] at h
      cases h
      exact Or.inr ⟨hold, rfl⟩
    · rw [heq] at h
      cases h
      exact Or.inl ⟨_, s.sameConn_opening, rfl⟩
  | asking header msg =>
    rw [hidle] at h
    cases h
  | answered header msg response =>
    rw [hidle] at h
    cases h

/-! ### `HandleLogin` -/

lemma LoginMsg.lastServerName_mk (a b : UInt32) (useShm : Bool) (clientName serverName : Name F) :
    (LoginMsg.mk a b useShm clientName serverName).lastServerName = serverName := rfl

lemma handleLogin_known {C : Conf} {c : PTCPConnection} {file : PTCPQueue} {q : PTCPQueue}
    (hq : c.q.getD file = q) {header : MsgHeader} {msg : LoginMsg F} {serverName : Name F}
    (hname : msg.lastServerName = serverName) (fd now : Int) (sendOk : Bool)
    (rs : List SendResult) :
    handleLogin C serverName c file header msg fd now sendOk rs =
      match q.sanityCheckAndGetSeq C.tcpQueueSize C.endian with
      | .ok seqStart seqEnd =>
        some (answerLogin C serverName (c.openFile file) ⟨q.myAck, seqStart, seqEnd, header.ackSeq,
          msg.clientSeqStart, msg.clientSeqEnd⟩ fd now sendOk rs)
      | .corrupt =>
        some ⟨c.openFile file, rspHeader F C 0, ⟨0, 0, 2, serverName, "System error"⟩,
          .clientFileError "Ptcp file corrupt", []⟩
      | _ => none := by
  subst hq
  exact if_neg (not_not.mpr hname)

lemma inSeqInterval_ofNat {a b e : Nat} (ha : a ≤ b) (hb : b ≤ e) (he : e < a + 2 ^ 31) :
    InSeqInterval (UInt32.ofNat b) (UInt32.ofNat a) (UInt32.ofNat e) := by
  unfold InSeqInterval
  rw [UInt32.toNat_ofNat_sub_ofNat ha (by omega), UInt32.toNat_ofNat_sub_ofNat (ha.trans hb) (by omega)]
  omega

/-- The numbers agree with those of a peer that has `f` of its messages acknowledged. -/
structure Agrees (l : LoginNumbers) (P : Peer) (f : Nat) : Prop where
  le_popped : f ≤ l.popped
  popped_le : l.popped ≤ P.pushed.length
  acked_le : l.acked ≤ P.popped.length
  le_pushed : P.popped.length ≤ l.pushed
  pushed_lt : l.pushed < l.acked + 2 ^ 29

lemma received_login {l : LoginNumbers} (h : s.pending.head? = some (login H l)) :
    s.received H = some (⟨8 + F.loginMsgSize, 1, UInt32.ofNat l.popped⟩,
      ⟨UInt32.ofNat l.acked, UInt32.ofNat l.pushed, false, H.clientName, H.serverName⟩) := by
  unfold received
  rw [h, Option.bind_some]
  exact receiveLogin_carry H.sameOrder _ _

/-- The server with its file opened. -/
def serving (s : System F) : PTCPConnection := s.server.conn.openFile s.server.file

lemma sameConn_serving (s : System F) : SameConn s.server s.serving := (SameConn.refl _).openFile

/-- What `HandleLogin` comes to when it goes on from the numbers of the login. -/
def accepted (H : Hosts F) (s : System F) (l : LoginNumbers) (f : Nat) (fd now : Int)
    (rs : List SendResult) : LoginHandled F where
  conn := (s.serving.open H.server fd (UInt32.ofNat l.popped) now rs).1
  header := rspHeader F H.server (UInt32.ofNat s.server.popped.length)
  rsp := answerRsp H.server H.serverName (UInt32.ofNat f) (UInt32.ofNat s.server.pushed.length) 0
  event := .clientLogon
  sent := (s.serving.open H.server fd (UInt32.ofNat l.popped) now rs).2

/-- The check of the queue comes to an end, and so `HandleLogin` does. -/
lemma handled_isSome {l : LoginNumbers} (hhead : s.pending.head? = some (login H l))
    (hs : Stores H.server s.server.queue s.server.msgs f s.server.popped.length) (fd now : Int)
    (sendOk : Bool) (rs : List SendResult) : ∃ r, s.handled H fd now sendOk rs = some r := by
  have hqueue : s.server.conn.q.getD s.server.file = s.server.queue := rfl
  unfold handled
  rw [received_login hhead, Option.bind_some]
  dsimp only
  rw [handleLogin_known hqueue (LoginMsg.lastServerName_mk _ _ _ _ _), hs.sanityCheck]
  by_cases hold : s.server.queue.AcksOld (s.server.msgs.drop f)
  · rw [if_pos hold]
    exact ⟨_, rfl⟩
  · rw [if_neg hold]
    exact ⟨_, rfl⟩

/-- `HandleLogin` accepts a login whose numbers agree, unless its response cannot be sent or the
check of the queue finds an ack that is too new. -/
theorem handled_cases {l : LoginNumbers} (hhead : s.pending.head? = some (login H l))
    (hs : Stores H.server s.server.queue s.server.msgs f s.server.popped.length)
    (hl : Agrees l s.server f) {fd now : Int} {sendOk : Bool} {rs : List SendResult}
    {r : LoginHandled F} (h : s.handled H fd now sendOk rs = some r) :
    (s.server.queue.AcksOld (s.server.msgs.drop f) ∧ sendOk = true ∧
        r = accepted H s l f fd now rs) ∨
      (r.conn = s.serving ∧ ((sendOk = false ∧ r.event = .sendFailed) ∨
        (¬ s.server.queue.AcksOld (s.server.msgs.drop f) ∧
          r.event = .clientFileError "Ptcp file corrupt" ∧
          (r.header, r.rsp) = refusal H "System error"))) := by
  have hcheck := hs.sanityCheck
  have hlt := hs.stored_lt
  have hle := hs.le
  have hmsgs : s.server.msgs.length = s.server.pushed.length := s.server.length_msgs
  have hserving : s.serving.q = some s.server.queue := (SameConn.refl s.server).q_openFile
  unfold handled at h
  rw [received_login hhead, Option.bind_some] at h
  have hqueue : s.server.conn.q.getD s.server.file = s.server.queue := rfl
  dsimp only at h
  rw [handleLogin_known hqueue (LoginMsg.lastServerName_mk _ _ _ _ _), hcheck] at h
  by_cases hold : s.server.queue.AcksOld (s.server.msgs.drop f)
  · rw [if_pos hold] at h
    cases h
    have hmatch : SeqNumbers.Matches ⟨s.server.queue.myAck, UInt32.ofNat f,
        UInt32.ofNat s.server.msgs.length, UInt32.ofNat l.popped, UInt32.ofNat l.acked,
        UInt32.ofNat l.pushed⟩ := by
      have hack : s.server.queue.myAck = UInt32.ofNat s.server.popped.length := hs.ackSeqNum
      have hpopped := hl.popped_le
      have hpushed := hl.pushed_lt
      refine ⟨inSeqInterval_ofNat hl.le_popped (by omega) (by omega), ?_⟩
      rw [hack]
      exact inSeqInterval_ofNat hl.acked_le hl.le_pushed (by omega)
    have hacked := hl.acked_le
    have hpushed := hl.le_pushed
    rw [answerLogin_eq ?_ ?_, if_neg (not_not.mpr hmatch)]
    · cases sendOk with
      | false => exact Or.inr ⟨rfl, Or.inl ⟨rfl, rfl⟩⟩
      | true =>
        refine Or.inl ⟨hold, rfl, ?_⟩
        unfold accepted
        rw [← hs.ackSeqNum, ← hmsgs]
        rfl
    · show (UInt32.ofNat s.server.msgs.length - UInt32.ofNat f).toNat < _
      rw [UInt32.toNat_ofNat_sub_ofNat hle (by omega)]
      omega
    · show (UInt32.ofNat l.pushed - UInt32.ofNat l.acked).toNat < _
      have := hl.pushed_lt
      rw [UInt32.toNat_ofNat_sub_ofNat (by omega) (by omega)]
      omega
  · rw [if_neg hold] at h
    cases h
    exact Or.inr ⟨rfl, Or.inr ⟨hold, rfl, rfl⟩⟩

end System

end Tcpshm
