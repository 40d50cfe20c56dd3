import Tcpshm.PtcpConn.Basic

/-!
# Sending

Sending hands blocks of the queue to the socket and leaves the receive side alone.
-/

namespace Tcpshm

namespace PTCPConnection

variable {C : Conf} {c c' : PTCPConnection}

/-- The receive side is the same, and the connection may have been closed. -/
structure SameReceiver (c c' : PTCPConnection) : Prop where
  recvbuf : c'.recvbuf = c.recvbuf
  recvbufSize : c'.recvbufSize = c.recvbufSize
  writeidx : c'.writeidx = c.writeidx
  nextmsgIdx : c'.nextmsgIdx = c.nextmsgIdx
  readidx : c'.readidx = c.readidx
  lastMyAck : c'.lastMyAck = c.lastMyAck
  sockfd : c'.sockfd = c.sockfd ∨ c'.sockfd < 0

lemma SameReceiver.rfl' : SameReceiver c c := ⟨rfl, rfl, rfl, rfl, rfl, rfl, Or.inl rfl⟩

lemma SameReceiver.trans {c'' : PTCPConnection} (h : SameReceiver c c')
    (h' : SameReceiver c' c'') : SameReceiver c c'' := by
  refine ⟨h'.recvbuf.trans h.recvbuf, h'.recvbufSize.trans h.recvbufSize,
    h'.writeidx.trans h.writeidx, h'.nextmsgIdx.trans h.nextmsgIdx, h'.readidx.trans h.readidx,
    h'.lastMyAck.trans h.lastMyAck, ?_⟩
  rcases h'.sockfd with hs | hs
  · exact h.sockfd.imp hs.trans (hs ▸ ·)
  · exact Or.inr hs

lemma sameReceiver_close (reason : String) (errno : Int) : SameReceiver c (c.close reason errno) := by
  unfold close
  split_ifs
  · exact .rfl'
  · exact ⟨rfl, rfl, rfl, rfl, rfl, rfl, Or.inr neg_one_lt_zero⟩

lemma q_tryCloseFd (c : PTCPConnection) : c.tryCloseFd.1.q = c.q := by
  unfold tryCloseFd
  split_ifs <;> rfl

@[simp] lemma q_close (reason : String) (errno : Int) : (c.close reason errno).q = c.q := by
  unfold close
  split_ifs <;> rfl

@[simp] lemma hbmsg_close (reason : String) (errno : Int) :
    (c.close reason errno).hbmsg = c.hbmsg := by
  unfold close
  split_ifs <;> rfl

lemma isClosed_iff : c.isClosed = true ↔ c.sockfd < 0 := by simp [isClosed]

lemma sockfd_close_neg (reason : String) (errno : Int) : (c.close reason errno).sockfd < 0 := by
  unfold close
  split_ifs with h
  · exact h
  · exact neg_one_lt_zero

/-- The kernel takes at most what it is given; when the loop ends without an error, it has taken
whole blocks. -/
lemma sendLoop_spec (rs : List SendResult) (size : Nat) :
    (sendLoop rs size).1 ≤ size ∧
    ((sendLoop rs size).2 = none → (size - (sendLoop rs size).1) % 8 = 0) := by
  induction rs generalizing size with
  | nil =>
    simp only [sendLoop]
    split_ifs with h
    · simp
    · simpa using h
  | cons r rs ih =>
    cases r with
    | again =>
      simp only [sendLoop]
      split_ifs with h
      · simp
      · simpa using h
    | error errno => simp [sendLoop]
    | sent n =>
      simp only [sendLoop]
      split_ifs with h
      · simp
      · obtain ⟨hle, hmod⟩ := ih (size - n)
        refine ⟨by simp only; omega, fun hnone => ?_⟩
        have := hmod hnone
        simp only
        omega

@[simp] lemma memBytes_nil : memBytes C [] = [] := rfl

@[simp] lemma memBytes_append (ms ms' : List MsgHeader) :
    memBytes C (ms ++ ms') = memBytes C ms ++ memBytes C ms' := by
  simp [memBytes]

@[simp] lemma length_memBytes (ms : List MsgHeader) : (memBytes C ms).length = 8 * ms.length := by
  induction ms with
  | nil => rfl
  | cons m ms ih =>
    show (m.toBytes C.endian.isLittle ++ memBytes C ms).length = _
    rw [List.length_append, ih, MsgHeader.length_toBytes, List.length_cons]
    omega

lemma take_memBytes (ms : List MsgHeader) (k : Nat) :
    (memBytes C ms).take (8 * k) = memBytes C (ms.take k) := by
  by_cases hk : k ≤ ms.length
  · have hlen : (memBytes C (ms.take k)).length = 8 * k := by simp [hk]
    conv_lhs => rw [← List.take_append_drop k ms, memBytes_append, List.take_left' hlen]
  · rw [List.take_of_length_le (l := ms) (by omega), List.take_of_length_le (by simp; omega)]

lemma sendPending_closed (h : c.sockfd < 0) (rs : List SendResult) :
    c.sendPending C rs = (c, [], false) := by
  have hcl : c.isClosed = true := isClosed_iff.mpr h
  unfold sendPending
  split
  · rfl
  · rw [if_pos hcl]

/-- What `SendPending` does: nothing; or it hands whole blocks over; or it closes the connection in
the middle of the pending bytes. -/
theorem sendPending_cases (c : PTCPConnection) (rs : List SendResult) :
    (c.sendPending C rs = (c, [], false) ∧
      (c.isClosed = true ∨ ∀ q ∈ c.q, q.getSendable.2 = 0)) ∨
    (∃ q n, c.q = some q ∧ c.isClosed = false ∧ n ≤ q.getSendable.2.toNat ∧
      q.getSendable.2 ≠ 0 ∧ ∃ t, c.sendPending C rs = ({ c with
        q := some (q.sendout (UInt32.ofNat n)), sendTime := t },
        memBytes C (q.blk.slice q.sendIdx.toNat n), true)) ∨
    ∃ q k errno, c.q = some q ∧ c.isClosed = false ∧ c.sendPending C rs =
      (c.close "Send error" errno,
        (memBytes C (q.blk.slice q.sendIdx.toNat q.getSendable.2.toNat)).take k, false) := by
  unfold sendPending
  cases hq : c.q with
  | none => exact Or.inl ⟨rfl, Or.inr fun q hq' => by cases hq'⟩
  | some q =>
    simp only
    by_cases hcl : c.isClosed = true
    · rw [if_pos hcl]
      exact Or.inl ⟨rfl, Or.inl hcl⟩
    rw [if_neg hcl]
    by_cases hemp : q.getSendable.2 = 0
    · rw [if_pos hemp]
      exact Or.inl ⟨rfl, Or.inr fun q' hq' => by cases hq'; exact hemp⟩
    rw [if_neg hemp]
    have hopen : c.isClosed = false := by simpa using hcl
    obtain ⟨hle, hwhole⟩ := sendLoop_spec rs (q.getSendable.2.toNat * 8)
    generalize sendLoop rs (q.getSendable.2.toNat * 8) = res at hle hwhole ⊢
    obtain ⟨n, err⟩ := res
    cases err with
    | some errno => exact Or.inr (Or.inr ⟨q, n, errno, rfl, hopen, rfl⟩)
    | none =>
      have hmod := hwhole rfl
      set k := q.getSendable.2.toNat - (q.getSendable.2.toNat * 8 - n) / 8 with hk
      have hn : n = 8 * k := by
        simp only at hle hmod
        omega
      have hk' : k ≤ q.getSendable.2.toNat := Nat.sub_le _ _
      have hbytes : (memBytes C (q.blk.slice q.getSendable.1 q.getSendable.2.toNat)).take n =
          memBytes C (q.blk.slice q.sendIdx.toNat k) := by
        rw [hn, take_memBytes, Mem.take_slice _ _ _ _ hk']
        rfl
      refine Or.inr (Or.inl ⟨q, k, rfl, hopen, hk', hemp, ?_⟩)
      by_cases hpos : 0 < k
      · exact ⟨c.now, by simp only [← hk, if_pos hpos, hbytes]⟩
      · have h0 : k = 0 := by omega
        have hsame : q.sendout (UInt32.ofNat 0) = q := by simp [PTCPQueue.sendout]
        refine ⟨c.sendTime, ?_⟩
        simp only [← hk, if_neg hpos, hbytes]
        rw [h0, hsame, ← hq]

/-- What sending does to the queue: it moves `send_idx_`. -/
def SentFrom (c c' : PTCPConnection) : Prop :=
  c'.q = c.q ∨ ∃ q n, c.q = some q ∧ n ≤ q.getSendable.2.toNat ∧
    c'.q = some (q.sendout (UInt32.ofNat n))

lemma sendPending_frame (c : PTCPConnection) (rs : List SendResult) :
    SameReceiver c (c.sendPending C rs).1 ∧ SentFrom c (c.sendPending C rs).1 ∧
    (c.sendPending C rs).1.hbmsg = c.hbmsg := by
  obtain ⟨heq, -⟩ | ⟨q, n, hq, -, hn, -, t, heq⟩ | ⟨q, k, errno, hq, -, heq⟩ :=
    sendPending_cases (C := C) c rs
  · rw [heq]
    exact ⟨.rfl', Or.inl rfl, rfl⟩
  · rw [heq]
    exact ⟨⟨rfl, rfl, rfl, rfl, rfl, rfl, Or.inl rfl⟩, Or.inr ⟨q, n, hq, hn, rfl⟩, rfl⟩
  · rw [heq]
    exact ⟨sameReceiver_close _ _, Or.inl (q_close _ _), hbmsg_close _ _⟩

lemma q_openBuf (c : PTCPConnection) : (c.openBuf C).q = c.q := by
  unfold openBuf
  split_ifs <;> rfl

lemma sockfd_openBuf (c : PTCPConnection) : (c.openBuf C).sockfd = c.sockfd := by
  unfold openBuf
  split_ifs <;> rfl

lemma hbmsg_openBuf (c : PTCPConnection) : (c.openBuf C).hbmsg = c.hbmsg := by
  unfold openBuf
  split_ifs <;> rfl

/-- The heartbeat, with the ack it carries. -/
def IsHbmsg (C : Conf) (h : MsgHeader) : Prop :=
  ∃ ackSeq, h = MsgHeader.convertByteOrder C.endian ⟨8, 0, ackSeq⟩

lemma sendHbmsg_frame (c : PTCPConnection) (res : SendResult) :
    SameReceiver c (c.sendHbmsg C res).1 ∧ (c.sendHbmsg C res).1.q = c.q ∧
    (c.sendHbmsg C res).1.hbmsg = c.hbmsg := by
  unfold sendHbmsg
  split_ifs
  · exact ⟨.rfl', rfl, rfl⟩
  cases res with
  | again => exact ⟨.rfl', rfl, rfl⟩
  | error errno => exact ⟨sameReceiver_close _ _, q_close _ _, hbmsg_close _ _⟩
  | sent n =>
    simp only
    split_ifs
    · exact ⟨sameReceiver_close _ _, q_close _ _, hbmsg_close _ _⟩
    · exact ⟨⟨rfl, rfl, rfl, rfl, rfl, rfl, Or.inl rfl⟩, rfl, rfl⟩

/-- `SendHB` leaves the receive side alone and the stored messages where they are. -/
theorem sendHB_frame (c : PTCPConnection) (now : Int) (rs : List SendResult) (res : SendResult) :
    SameReceiver c (c.sendHB C now rs res).1 ∧ SentFrom c (c.sendHB C now rs res).1 ∧
    (IsHbmsg C c.hbmsg → IsHbmsg C (c.sendHB C now rs res).1.hbmsg) := by
  have hnow : SameReceiver c { c with now := now } := ⟨rfl, rfl, rfl, rfl, rfl, rfl, Or.inl rfl⟩
  unfold sendHB
  simp only
  split_ifs
  · exact ⟨hnow, Or.inl rfl, id⟩
  split
  · obtain ⟨hsame, hq', hhb⟩ := sendHbmsg_frame (C := C) { c with now := now } res
    exact ⟨hnow.trans hsame, Or.inl hq', fun h => by rwa [hhb]⟩
  · rename_i q hq
    obtain ⟨hsame, hsent, hhb⟩ := sendPending_frame (C := C) { c with now := now } rs
    generalize sendPending C { c with now := now } rs = sent at hsame hsent hhb ⊢
    obtain ⟨c₁, bytes, b⟩ := sent
    cases b with
    | true => exact ⟨hnow.trans hsame, hsent, fun h => hhb ▸ h⟩
    | false =>
      set c₂ : PTCPConnection :=
        { c₁ with hbmsg := { c₁.hbmsg with ackSeq := C.endian.convert32 q.myAck } }
      have h₂ : SameReceiver c₁ c₂ := ⟨rfl, rfl, rfl, rfl, rfl, rfl, Or.inl rfl⟩
      obtain ⟨hsame', hq', hhb'⟩ := sendHbmsg_frame (C := C) c₂ res
      refine ⟨hnow.trans (hsame.trans (h₂.trans hsame')), ?_, fun ⟨a, ha⟩ => ⟨q.myAck, ?_⟩⟩
      · show SentFrom c (sendHbmsg C c₂ res).1
        unfold SentFrom
        rw [hq']
        exact hsent
      · rw [hhb']
        show ({ c₁.hbmsg with ackSeq := C.endian.convert32 q.myAck } : MsgHeader) = _
        rw [show c₁.hbmsg = c.hbmsg from hhb, ha]
        rfl

/-- A closed connection sends no heartbeat either. -/
lemma sendHB_closed (h : c.sockfd < 0) (now : Int) (rs : List SendResult) (res : SendResult) :
    (c.sendHB C now rs res).2 = [] ∧ (c.sendHB C now rs res).1.sockfd < 0 := by
  have hmsg : ∀ c' : PTCPConnection, c'.sockfd < 0 →
      (c'.sendHbmsg C res).2 = [] ∧ (c'.sendHbmsg C res).1.sockfd < 0 := by
    intro c' hc'
    have hnone : c'.sendHbmsg C res = (c', []) := if_pos (isClosed_iff.mpr hc')
    rw [hnone]
    exact ⟨rfl, hc'⟩
  have hpend := sendPending_closed (C := C) (c := { c with now := now }) h rs
  unfold sendHB
  simp only
  split_ifs
  · exact ⟨rfl, h⟩
  split
  · exact hmsg _ h
  · rw [hpend]
    exact hmsg _ h

end PTCPConnection

end Tcpshm
