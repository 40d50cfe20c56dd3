import Tcpshm.Link.Flow

/-!
# Sending on a connection

What `SendPending`, `SendHB`, `Push` and `PushMore` hand to the socket continues the stream.
-/

namespace Tcpshm

open PTCPConnection

/-- A heartbeat that carries the ack `a`. -/
def hbFrame (a : UInt32) : Frame where
  header := ⟨8, 0, a⟩
  body := []
  size_ge := le_rfl
  length_body := show 0 + 8 = (padded 8).toNat by decide
  heartbeat := fun _ => rfl

lemma isHeartbeat_hbFrame (a : UInt32) : (hbFrame a).isHeartbeat = true := rfl

lemma apps_hbFrame (a : UInt32) : apps [hbFrame a] = [] := rfl

variable {C : Conf} {pushed : List AppMsg} {r f n sent : Nat} {chan : List UInt8}
  {ready rest : List Frame} {q : PTCPQueue} {c : PTCPConnection}

/-- What is sent of the pending blocks is on the way; the rest is still pending, unless the
connection was closed. -/
theorem Outgoing.sendPending (hq : c.q = some q)
    (h : Outgoing C q pushed f r chan ready rest n sent) (rs : List SendResult) :
    (chan ++ (c.sendPending C rs).2.1 <+: (wires C rest).drop n) ∧
    (0 ≤ (c.sendPending C rs).1.sockfd → ∃ q' sent', (c.sendPending C rs).1.q = some q' ∧
      q'.ackSeqNum = q.ackSeqNum ∧
      Outgoing C q' pushed f r (chan ++ (c.sendPending C rs).2.1) ready rest n sent' ∧
      ((c.sendPending C rs).2.2 = false →
        blkCnts ((pushed.map AppMsg.toMsg).drop f) ≤ sent')) := by
  have hlen := h.represents.toNat_sendable
  simp only at hlen
  obtain ⟨heq, hnone⟩ | ⟨q₁, i, hq₁, -, hi, -, t, heq⟩ | ⟨q₁, i, errno, hq₁, -, heq⟩ :=
    sendPending_cases (C := C) c rs
  · rw [heq, List.append_nil]
    refine ⟨h.chan_begins, fun hopen => ⟨q, sent, hq, rfl, h, fun _ => ?_⟩⟩
    rcases hnone with hcl | hzero
    · exact absurd (isClosed_iff.mp hcl) (not_lt.mpr hopen)
    · rw [hzero q hq] at hlen
      have : (0 : UInt32).toNat = 0 := rfl
      omega
  · rw [hq] at hq₁
    obtain rfl := Option.some.inj hq₁
    rw [heq]
    have hout := h.sendout hi
    exact ⟨hout.chan_begins, fun _ => ⟨_, _, rfl, rfl, hout, fun htrue => absurd htrue (by simp)⟩⟩
  · rw [hq] at hq₁
    obtain rfl := Option.some.inj hq₁
    rw [heq]
    refine ⟨?_, fun hopen => absurd (sockfd_close_neg _ _) (not_lt.mpr hopen)⟩
    have hall := (h.sendout le_rfl).chan_begins
    exact ((List.prefix_append_right_inj chan).mpr (List.take_prefix _ _)).trans hall

/-- Once nothing is pending, a heartbeat can be sent. -/
lemma Outgoing.heartbeat (h : Outgoing C q pushed f r chan ready rest n sent)
    (hall : blkCnts ((pushed.map AppMsg.toMsg).drop f) ≤ sent) (hn : n ≤ lens rest) (a : UInt32) :
    Outgoing C q pushed f r (chan ++ (hbFrame a).wire C) ready (rest ++ [hbFrame a]) n sent := by
  have hbytes := h.bytes_eq
  rw [List.drop_of_length_le (by rwa [length_storedAll]), memBytes_nil, List.append_nil] at hbytes
  refine ⟨h.represents, ?_, ?_, by omega⟩
  · rw [List.drop_of_length_le (by rwa [length_storedAll]), memBytes_nil, List.append_nil, hbytes,
      wires_append, List.drop_append_of_le_length (by rwa [length_wires]), wires_cons, wires_nil,
      List.append_nil]
  · rw [← List.append_assoc, apps_append, apps_hbFrame, List.append_nil, h.apps_eq]

/-- The heartbeat is sent whole, not at all, or in part, and then the connection is closed. -/
lemma sendHbmsg_cases {a : UInt32} (hhb : c.hbmsg = MsgHeader.convertByteOrder C.endian ⟨8, 0, a⟩)
    (res : SendResult) :
    (c.sendHbmsg C res).1.q = c.q ∧
    ((c.sendHbmsg C res).2 = [] ∧ (0 ≤ (c.sendHbmsg C res).1.sockfd → 0 ≤ c.sockfd) ∨
      (c.sendHbmsg C res).2 = (hbFrame a).wire C ∧ 0 ≤ c.sockfd ∨
      (c.sendHbmsg C res).2 <+: (hbFrame a).wire C ∧ (c.sendHbmsg C res).1.sockfd < 0 ∧
        0 ≤ c.sockfd) := by
  have hwire : c.hbmsg.toBytes C.endian.isLittle = (hbFrame a).wire C := by
    rw [hhb, MsgHeader.toBytes_convertByteOrder, Frame.wire]
    exact (List.append_nil _).symm
  unfold sendHbmsg
  split_ifs with hcl
  · exact ⟨rfl, Or.inl ⟨rfl, id⟩⟩
  have hopen : 0 ≤ c.sockfd := by simpa [isClosed] using hcl
  cases res with
  | again => exact ⟨rfl, Or.inl ⟨rfl, id⟩⟩
  | error errno => exact ⟨q_close _ _, Or.inl ⟨rfl, fun _ => hopen⟩⟩
  | sent i =>
    simp only
    split_ifs
    · rw [hwire]
      exact ⟨q_close _ _, Or.inr (Or.inr ⟨List.take_prefix _ _, sockfd_close_neg _ _, hopen⟩)⟩
    · exact ⟨rfl, Or.inr (Or.inl ⟨hwire, hopen⟩)⟩

/-- `SendHB` does nothing, sends what is pending, or, if there was nothing, the heartbeat. -/
lemma sendHB_cases (hq : c.q = some q) (now : Int) (rs : List SendResult) (res : SendResult) :
    ∃ c₀ : PTCPConnection, c₀.q = some q ∧ c₀.sockfd = c.sockfd ∧ c₀.hbmsg = c.hbmsg ∧
      (c.sendHB C now rs res = (c₀, []) ∨
      (∃ c₁ bytes, c₀.sendPending C rs = (c₁, bytes, true) ∧
        c.sendHB C now rs res = (c₁, bytes)) ∨
      ∃ c₁ bytes, c₀.sendPending C rs = (c₁, bytes, false) ∧ ∃ c₂ : PTCPConnection,
        c₂.q = c₁.q ∧ c₂.sockfd = c₁.sockfd ∧
        c₂.hbmsg = { c₁.hbmsg with ackSeq := C.endian.convert32 q.ackSeqNum } ∧
        c.sendHB C now rs res =
          ((c₂.sendHbmsg C res).1, bytes ++ (c₂.sendHbmsg C res).2)) := by
  refine ⟨{ c with now := now }, hq, rfl, rfl, ?_⟩
  unfold PTCPConnection.sendHB
  simp only [hq]
  split_ifs
  · exact Or.inl rfl
  · generalize PTCPConnection.sendPending C _ rs = out
    obtain ⟨c₁, bytes, b⟩ := out
    cases b with
    | true => exact Or.inr (Or.inl ⟨c₁, bytes, rfl, rfl⟩)
    | false =>
      exact Or.inr (Or.inr ⟨c₁, bytes, rfl,
        { c₁ with hbmsg := { c₁.hbmsg with ackSeq := C.endian.convert32 q.myAck } }, rfl, rfl, rfl,
        rfl⟩)

/-- `SendHB` continues the stream with what is pending, or with a heartbeat. -/
theorem Outgoing.sendHB (hq : c.q = some q) (hhb : IsHbmsg C c.hbmsg)
    (h : Outgoing C q pushed f r chan ready rest n sent) (hn : n ≤ lens rest) (now : Int)
    (rs : List SendResult) (res : SendResult) :
    ∃ more, (∀ f ∈ more, f.header.ackSeq = q.ackSeqNum) ∧ apps more = [] ∧
      (chan ++ (c.sendHB C now rs res).2 <+: (wires C (rest ++ more)).drop n) ∧
      (0 ≤ (c.sendHB C now rs res).1.sockfd → ∃ q' sent', (c.sendHB C now rs res).1.q = some q' ∧
        Outgoing C q' pushed f r (chan ++ (c.sendHB C now rs res).2) ready (rest ++ more) n
          sent') := by
  obtain ⟨ack, hack⟩ := hhb
  obtain ⟨c₀, hq₀, hsock₀, hhb₀, heq | ⟨c₁, bytes, hpend, heq⟩ | ⟨c₁, bytes, hpend, c₂, hq₂, hsock₂,
    hhb₂, heq⟩⟩ := sendHB_cases (C := C) hq now rs res
  · rw [heq, List.append_nil]
    refine ⟨[], by simp, rfl, ?_, fun _ => ⟨q, sent, hq₀, ?_⟩⟩
    · rw [List.append_nil]
      exact h.chan_begins
    · rw [List.append_nil]
      exact h
  · obtain ⟨hbegins, hgo⟩ := h.sendPending hq₀ rs
    rw [hpend] at hbegins hgo
    rw [heq]
    refine ⟨[], by simp, rfl, by rwa [List.append_nil], fun hopen => ?_⟩
    obtain ⟨q', sent', hq', -, hout, -⟩ := hgo hopen
    exact ⟨q', sent', hq', by rwa [List.append_nil]⟩
  · obtain ⟨hbegins, hgo⟩ := h.sendPending hq₀ rs
    have hhb₁ := (sendPending_frame (C := C) c₀ rs).2.2
    rw [hpend] at hbegins hgo hhb₁
    have hbeat₂ : c₂.hbmsg = MsgHeader.convertByteOrder C.endian ⟨8, 0, q.ackSeqNum⟩ := by
      rw [hhb₂, show c₁.hbmsg = c₀.hbmsg from hhb₁, hhb₀, hack]
      rfl
    have hcur : ∀ f ∈ [hbFrame q.ackSeqNum], f.header.ackSeq = q.ackSeqNum := by
      intro f hf
      obtain rfl := List.mem_singleton.mp hf
      rfl
    rw [heq]
    obtain ⟨hq₃, ⟨hnil, hstill⟩ | ⟨hwire, hopen₂⟩ | ⟨hpart, hclosed, hopen₂⟩⟩ :=
      sendHbmsg_cases hbeat₂ res
    · rw [hnil, List.append_nil]
      refine ⟨[], by simp, rfl, by rwa [List.append_nil], fun hopen => ?_⟩
      obtain ⟨q', sent', hq', -, hout, -⟩ := hgo (hsock₂ ▸ hstill hopen)
      exact ⟨q', sent', hq₃.trans (hq₂.trans hq'), by rwa [List.append_nil]⟩
    · obtain ⟨q', sent', hq', -, hout, hall⟩ := hgo (hsock₂ ▸ hopen₂)
      have hbeat := hout.heartbeat (hall rfl) hn q.ackSeqNum
      rw [hwire, ← List.append_assoc]
      exact ⟨_, hcur, rfl, hbeat.chan_begins,
        fun _ => ⟨q', sent', hq₃.trans (hq₂.trans hq'), hbeat⟩⟩
    · obtain ⟨q', sent', hq', -, hout, hall⟩ := hgo (hsock₂ ▸ hopen₂)
      have hbeat := hout.heartbeat (hall rfl) hn q.ackSeqNum
      rw [← List.append_assoc]
      refine ⟨_, hcur, rfl, ?_, fun hopen => absurd hclosed (not_lt.mpr hopen)⟩
      exact ((List.prefix_append_right_inj (chan ++ bytes)).mpr hpart).trans hbeat.chan_begins

end Tcpshm
