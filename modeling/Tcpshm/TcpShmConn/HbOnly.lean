import Tcpshm.TcpShmConn.Calls

/-!
# A connection without a queue

`PTCPConnection` where `UseShm` holds: `Front` reads something and ignores it, and `SendHB` sends
a heartbeat that acknowledges nothing.
-/

namespace Tcpshm

/-- The heartbeat is not sent whole, and not because the socket is full. -/
def SendResult.hbFails : SendResult → Bool
  | .sent n => n < 8
  | .again => false
  | .error _ => true

namespace PTCPConnection

variable {C : Conf} {c c' : PTCPConnection} {now : Int} {rs : List SendResult} {hb : SendResult}
  {res : ReadResult}

/-- `SendHB` closes a connection without a queue. -/
def HbFails (C : Conf) (c : PTCPConnection) (now : Int) (hb : SendResult) : Prop :=
  C.heartBeatInverval ≤ now - c.sendTime ∧ hb.hbFails = true

/-- `DoRecv` closes the connection. -/
def RecvFails (C : Conf) (c : PTCPConnection) (now : Int) : ReadResult → Prop
  | .data _ => False
  | .again => C.connectionTimeout < now - c.recvTime
  | .eof | .error _ => True

/-- The bytes of a heartbeat that acknowledges nothing. -/
def hbBytes (C : Conf) : List UInt8 :=
  (MsgHeader.convertByteOrder C.endian ⟨8, 0, 0⟩).toBytes C.endian.isLittle

/-- A connection without a queue. While it is open nothing is kept in the receive buffer. -/
structure HbOnly (C : Conf) (c : PTCPConnection) : Prop where
  q : c.q = none
  hbmsg : c.hbmsg = MsgHeader.convertByteOrder C.endian ⟨8, 0, 0⟩
  empty : c.isClosed = false → c.writeidx = 0 ∧ c.readidx = 0 ∧ c.nextmsgIdx = 0

lemma isClosed_close (reason : String) (errno : Int) : (c.close reason errno).isClosed = true :=
  isClosed_iff.mpr (sockfd_close_neg reason errno)

lemma KeepsFd.isClosed (h : KeepsFd c c') (hclosed : c.isClosed = true) : c'.isClosed = true := by
  rw [isClosed_iff] at hclosed ⊢
  rcases h.sockfd with hs | hs
  · rwa [hs]
  · rw [hs]
    exact neg_one_lt_zero

/-! ### Without a queue -/

lemma sendPending_of_none (hq : c.q = none) (rs : List SendResult) :
    c.sendPending C rs = (c, [], false) := by
  unfold sendPending
  rw [hq]

lemma onQueue_of_none (hq : c.q = none) (f : PTCPQueue → PTCPQueue) : c.onQueue f = c := by
  unfold onQueue
  rw [hq]
  show { c with q := none } = c
  rw [← hq]

lemma sendHB_of_none (hq : c.q = none) (now : Int) (rs : List SendResult) (hb : SendResult) :
    c.sendHB C now rs hb =
      if now - c.sendTime < C.heartBeatInverval then ({ c with now := now }, [])
      else ({ c with now := now } : PTCPConnection).sendHbmsg C hb := by
  unfold sendHB
  simp only
  rw [hq]

lemma front_of_none (hq : c.q = none) (res : ReadResult) :
    c.front C res = ((c.doRecv C res).1, .null) := by
  unfold front
  rw [hq]
  rfl

lemma sendHbmsg_prefix (c : PTCPConnection) (hb : SendResult) :
    (c.sendHbmsg C hb).2 <+: c.hbmsg.toBytes C.endian.isLittle := by
  unfold sendHbmsg
  split_ifs
  · exact List.nil_prefix
  cases hb with
  | again => exact List.nil_prefix
  | error errno => exact List.nil_prefix
  | sent n =>
    simp only
    split_ifs
    · exact List.take_prefix ..
    · exact List.prefix_rfl

lemma sendHbmsg_isClosed (hopen : c.isClosed = false) (hb : SendResult) :
    (c.sendHbmsg C hb).1.isClosed = hb.hbFails := by
  unfold sendHbmsg
  rw [hopen, if_neg Bool.false_ne_true]
  cases hb with
  | again => exact hopen
  | error errno => exact isClosed_close ..
  | sent n =>
    unfold SendResult.hbFails
    simp only
    split_ifs with hn
    · rw [decide_eq_true hn]
      exact isClosed_close ..
    · rw [decide_eq_false hn]
      exact hopen

lemma sendHbmsg_times (c : PTCPConnection) (hb : SendResult) :
    (c.sendHbmsg C hb).1.now = c.now ∧ (c.sendHbmsg C hb).1.recvTime = c.recvTime := by
  have hclose : ∀ errno, (c.close "Send error" errno).now = c.now ∧
      (c.close "Send error" errno).recvTime = c.recvTime := by
    intro errno
    unfold close
    split_ifs <;> exact ⟨rfl, rfl⟩
  unfold sendHbmsg
  split_ifs
  · exact ⟨rfl, rfl⟩
  cases hb with
  | again => exact ⟨rfl, rfl⟩
  | error errno => exact hclose errno
  | sent n =>
    simp only
    split_ifs
    · exact hclose 0
    · exact ⟨rfl, rfl⟩

namespace HbOnly

lemma new : HbOnly C (.new C) := ⟨rfl, rfl, fun _ => ⟨rfl, rfl, rfl⟩⟩

lemma of_sameReceiver (h : HbOnly C c) (hs : SameReceiver c c') (hq : c'.q = c.q)
    (hhb : c'.hbmsg = c.hbmsg) : HbOnly C c' := by
  refine ⟨hq.trans h.q, hhb.trans h.hbmsg, fun hopen => ?_⟩
  have hwas : c.isClosed = false := by
    have hpos : ¬c'.sockfd < 0 := of_decide_eq_false hopen
    unfold PTCPConnection.isClosed
    rw [← hs.sockfd.resolve_right hpos]
    exact hopen
  obtain ⟨hwrite, hread, hnext⟩ := h.empty hwas
  exact ⟨hs.writeidx.trans hwrite, hs.readidx.trans hread, hs.nextmsgIdx.trans hnext⟩

lemma close (h : HbOnly C c) (reason : String) (errno : Int) : HbOnly C (c.close reason errno) :=
  h.of_sameReceiver (sameReceiver_close ..) (q_close ..) (hbmsg_close ..)

lemma tryCloseFd (h : HbOnly C c) : HbOnly C c.tryCloseFd.1 := by
  unfold PTCPConnection.tryCloseFd
  split_ifs
  · exact ⟨h.q, h.hbmsg, h.empty⟩
  · exact h

lemma release (h : HbOnly C c) : HbOnly C c.release := by
  have hclosed := (h.close "Release" 0).tryCloseFd
  exact ⟨rfl, hclosed.hbmsg, hclosed.empty⟩

lemma «open» (h : HbOnly C c) (fd : Int) (remoteAckSeq : UInt32) (now : Int)
    (rs : List SendResult) : HbOnly C (c.open C fd remoteAckSeq now rs).1 := by
  have hq : (c.openAck C fd remoteAckSeq now).q = none := by
    unfold openAck
    rw [h.q]
    rfl
  unfold PTCPConnection.open
  rw [sendPending_of_none hq]
  unfold openBuf
  simp only
  split_ifs
  · exact ⟨hq, h.hbmsg, fun _ => ⟨rfl, rfl, rfl⟩⟩
  · exact ⟨hq, h.hbmsg, fun _ => ⟨rfl, rfl, rfl⟩⟩

lemma sendHB (h : HbOnly C c) (now : Int) (rs : List SendResult) (hb : SendResult) :
    HbOnly C (c.sendHB C now rs hb).1 := by
  have hnow : HbOnly C { c with now := now } := ⟨h.q, h.hbmsg, h.empty⟩
  rw [sendHB_of_none h.q]
  split_ifs
  · exact hnow
  · obtain ⟨hsame, hq, hhb⟩ := sendHbmsg_frame (C := C) { c with now := now } hb
    exact hnow.of_sameReceiver hsame hq hhb

lemma received (h : HbOnly C c) (bs : List UInt8) : HbOnly C (c.received C bs) := by
  have hsub : c.isClosed = false →
      c.writeidx - c.readidx = 0 ∧ (0 : UInt32) = 0 ∧ c.nextmsgIdx - c.readidx = 0 := by
    intro hopen
    obtain ⟨hwrite, hread, hnext⟩ := h.empty hopen
    rw [hwrite, hread, hnext]
    exact ⟨rfl, rfl, rfl⟩
  unfold PTCPConnection.received
  simp only
  split_ifs
  · exact ⟨h.q, h.hbmsg, h.empty⟩
  · exact ⟨h.q, h.hbmsg, hsub⟩
  · exact ⟨h.q, h.hbmsg, hsub⟩

lemma doRecv (h : HbOnly C c) (res : ReadResult) : HbOnly C (c.doRecv C res).1 := by
  have hrew : HbOnly C c.rewindBuf := by
    unfold rewindBuf
    split_ifs
    · exact ⟨h.q, h.hbmsg, fun _ => ⟨rfl, rfl, rfl⟩⟩
    · exact h
  unfold PTCPConnection.doRecv
  simp only
  by_cases hfull : c.rewindBuf.writable + c.rewindBuf.extraSize C = 0
  · rw [if_pos hfull]
    exact hrew
  rw [if_neg hfull]
  cases res with
  | data bs => exact hrew.received bs
  | eof => exact hrew.close ..
  | again =>
    simp only
    split_ifs
    · exact hrew.close ..
    · exact hrew
  | error errno => exact hrew.close ..

lemma front (h : HbOnly C c) (res : ReadResult) : HbOnly C (c.front C res).1 := by
  rw [front_of_none h.q]
  exact h.doRecv res

/-- Only a closed connection can be without both queues when `Pop` is called. -/
lemma pop (h : HbOnly C c) (hclosed : c.isClosed = true) : HbOnly C (c.pop C) := by
  refine ⟨?_, h.hbmsg, fun hopen => ?_⟩
  · show c.q.map _ = none
    rw [h.q]
    rfl
  · exact absurd (hclosed.symm.trans hopen) Bool.false_ne_true.symm

/-! ### When the connection is closed -/

/-- An empty buffer has room for what is received, and is not expanded for it. -/
lemma doRecv_isClosed_iff (h : HbOnly C c) (hopen : c.isClosed = false) (hpos : 0 < c.recvbufSize)
    (hsize : c.recvbufSize < 2147483648) (res : ReadResult) :
    (c.doRecv C res).1.isClosed = true ↔ RecvFails C c c.now res := by
  obtain ⟨hwrite, hread, -⟩ := h.empty hopen
  have hrew : c.rewindBuf = c := by
    unfold rewindBuf
    rw [if_neg]
    rw [hread]
    exact fun hlt => absurd hlt.1 (lt_irrefl 0)
  have hroom : c.writable + c.extraSize C ≠ 0 := by
    have hexpand : c.allowExpand = false := by
      unfold allowExpand writable
      rw [hwrite, hread]
      exact decide_eq_false (by grind)
    have hextra : c.extraSize C = 0 := by
      unfold extraSize
      rw [hexpand, hread]
      rfl
    unfold writable
    rw [hextra, hwrite]
    grind
  unfold PTCPConnection.doRecv
  simp only
  rw [hrew, if_neg hroom]
  cases res with
  | data bs =>
    have hsock : (c.received C bs).isClosed = c.isClosed := by
      unfold PTCPConnection.received
      simp only
      split_ifs <;> rfl
    rw [hsock, hopen]
    exact iff_of_false Bool.false_ne_true id
  | eof => exact iff_of_true (isClosed_close _ _) trivial
  | again =>
    simp only
    split_ifs with htime
    · exact iff_of_true (isClosed_close _ _) htime
    · rw [hopen]
      exact iff_of_false Bool.false_ne_true htime
  | error errno => exact iff_of_true (isClosed_close _ _) trivial

/-- The heartbeat is sent when it is due, and the socket is read. -/
theorem tcpFront_isClosed_iff (h : HbOnly C c) (hopen : c.isClosed = false)
    (hpos : 0 < c.recvbufSize) (hsize : c.recvbufSize < 2147483648) (now : Int)
    (rs : List SendResult) (hb : SendResult) (res : ReadResult) :
    ((c.sendHB C now rs hb).1.front C res).1.isClosed = true ↔
      HbFails C c now hb ∨ RecvFails C c now res := by
  obtain ⟨hsame, -, -⟩ := sendHB_frame (C := C) c now rs hb
  have hsent : (c.sendHB C now rs hb).1.isClosed = true ↔ HbFails C c now hb := by
    rw [sendHB_of_none h.q]
    unfold HbFails
    split_ifs with hdue
    · rw [show ({ c with now := now } : PTCPConnection).isClosed = false from hopen]
      exact iff_of_false Bool.false_ne_true fun hfails => absurd hfails.1 (not_le.mpr hdue)
    · rw [sendHbmsg_isClosed (c := { c with now := now }) hopen, and_iff_right (not_lt.mp hdue)]
  have htimes : (c.sendHB C now rs hb).1.now = now ∧
      (c.sendHB C now rs hb).1.recvTime = c.recvTime := by
    rw [sendHB_of_none h.q]
    split_ifs
    · exact ⟨rfl, rfl⟩
    · exact sendHbmsg_times { c with now := now } hb
  have hbeat := h.sendHB now rs hb
  rw [front_of_none hbeat.q]
  cases hclosed : (c.sendHB C now rs hb).1.isClosed with
  | true =>
    exact iff_of_true ((KeepsFd.doRecv _ res).isClosed hclosed) (Or.inl (hsent.mp hclosed))
  | false =>
    have hno : ¬HbFails C c now hb := fun hfails =>
      absurd (hclosed.symm.trans (hsent.mpr hfails)) Bool.false_ne_true
    rw [or_iff_right hno, hbeat.doRecv_isClosed_iff hclosed (by rwa [hsame.recvbufSize])
      (by rwa [hsame.recvbufSize]), htimes.1]
    unfold RecvFails
    rw [htimes.2]

end HbOnly

end PTCPConnection

end Tcpshm
