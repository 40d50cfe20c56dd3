import Tcpshm.Link.Direction

/-!
# Opening a connection again

After a login the queue goes on from the peer's ack, and what it stores from there on is the stream
of the new connection.
-/

namespace Tcpshm

open PTCPConnection

variable {C CX CY : Conf} {P P' X X' Y Y' : Peer} {c : PTCPConnection} {f fX fY r g k n : Nat}
  {chan : List UInt8} {ready rest : List Frame} {joined : Bool}

/-! ### The same queue and receive side -/

lemma Counts.congr (h : Counts C P f) (hqueue : P'.queue = P.queue) (hpushed : P'.pushed = P.pushed)
    (hbirths : P'.births = P.births) (hpopped : P'.popped = P.popped)
    (hhb : P'.conn.hbmsg = P.conn.hbmsg) (hopened : 0 ≤ P'.conn.sockfd → P'.conn.q.isSome) :
    Counts C P' f := by
  have hmsgs : P'.msgs = P.msgs := congrArg (List.map AppMsg.toMsg) hpushed
  refine ⟨?_, ?_, ?_, hopened⟩
  · rw [hqueue, hmsgs, hpopped]
    exact h.stores
  · rw [hmsgs, hbirths, hpopped]
    exact h.born
  · rw [hhb]
    exact h.hbmsg

lemma Counts.crash (h : Counts C P f) : Counts C (P.crash C) f :=
  ⟨h.stores, h.born, ⟨0, rfl⟩, fun hopen => absurd hopen (show ¬ 0 ≤ (-1 : Int) by decide)⟩

lemma Toward.congr_receiver (h : Toward CX CY X Y fX fY joined chan ready rest n)
    (hsame : SameReceiver Y.conn Y'.conn) (hfront : Y'.fronted = Y.fronted)
    (hpopped : Y'.popped = Y.popped) : Toward CX CY X Y' fX fY joined chan ready rest n := by
  refine ⟨⟨receives_of_sameReceiver h.receiving.receives hsame, ?_, ?_⟩, ?_⟩
  · rw [hfront, hsame.readidx]
    exact h.receiving.fronted
  · rw [hpopped]
    exact h.receiving.popped_eq
  · rw [hpopped]
    exact h.sending

lemma Toward.congr_sender (h : Toward CX CY X Y fX fY joined chan ready rest n)
    (hqueue : X'.queue = X.queue) (hpushed : X'.pushed = X.pushed) (hpopped : X'.popped = X.popped)
    (hopen : 0 ≤ X'.conn.sockfd → 0 ≤ X.conn.sockfd) :
    Toward CX CY X' Y fX fY joined chan ready rest n := by
  refine ⟨?_, ?_, fun hj hX' => ?_⟩
  · rw [hpushed]
    exact h.receiving
  · rw [hpushed, hpopped]
    exact h.sending.stream
  · rw [hpushed, hqueue]
    exact h.sending.outgoing hj (hopen hX')

/-! ### `Open` -/

section Open

variable {b : Nat} {q : PTCPQueue} (fd now : Int) (rs : List SendResult)

lemma hbmsg_open (c : PTCPConnection) (a : UInt32) : (c.open C fd a now rs).1.hbmsg = c.hbmsg :=
  (hbmsg_openBuf _).trans (sendPending_frame (C := C) (c.openAck C fd a now) rs).2.2

/-- The process after `Open`; what was fronted before is gone. -/
def Peer.reopen (C : Conf) (P : Peer) (c : PTCPConnection) (fd : Int) (a : UInt32) (now : Int)
    (rs : List SendResult) : Peer :=
  { P with conn := (c.open C fd a now rs).1, fronted := none }

/-- Opened from an ack within what it stores, the queue goes on from there. -/
lemma Counts.reopen (h : Counts C P f) (hq : c.q = some P.queue) (hhb : c.hbmsg = P.conn.hbmsg)
    (hf : f ≤ b) (hb : b ≤ P.pushed.length) :
    Counts C (P.reopen C c fd (UInt32.ofNat b) now rs) b := by
  obtain ⟨hs, -⟩ := h.stores.loginAck hf (by rwa [P.length_msgs])
  have hq' : (c.openAck C fd (UInt32.ofNat b) now).q =
      some (P.queue.loginAck C.endian (UInt32.ofNat b)) := by
    show c.q.map _ = _
    rw [hq]
    rfl
  obtain ⟨q, hq₁, hs₁⟩ := hs.of_sentFrom hq'
    (sendPending_frame (C := C) (c.openAck C fd (UInt32.ofNat b) now) rs).2.1
  have hq₂ : (c.open C fd (UInt32.ofNat b) now rs).1.q = some q := (q_openBuf _).trans hq₁
  refine ⟨?_, h.born, ?_, fun _ => ?_⟩
  · rw [Peer.queue_eq (P := P.reopen C c fd (UInt32.ofNat b) now rs) hq₂]
    exact hs₁
  · show IsHbmsg C (c.open C fd (UInt32.ofNat b) now rs).1.hbmsg
    rw [hbmsg_open, hhb]
    exact h.hbmsg
  · show (c.open C fd (UInt32.ofNat b) now rs).1.q.isSome
    rw [hq₂]
    rfl

lemma appTail_frames (ms : List AppMsg) :
    appTail (ms.map (AppMsg.frame C)) = ms.map (AppMsg.frame C) := by
  rw [appTail, List.rtakeWhile_eq_self_iff]
  intro f hf
  obtain ⟨m, -, rfl⟩ := List.mem_map.mp hf
  rw [m.isHeartbeat_frame]
  rfl

/-- The stream a queue with nothing sent is going to send. -/
lemma outgoing_fresh {pushed : List AppMsg} (happs : apps ready = [])
    (h : q.Represents C.tcpQueueSize C.endian
      ⟨UInt32.ofNat b, (pushed.map AppMsg.toMsg).drop b, 0⟩) :
    Outgoing C q pushed b b [] ready ((pushed.drop b).map (AppMsg.frame C)) 0 0 := by
  refine ⟨h, ?_, ?_, ?_⟩
  · rw [List.nil_append, List.drop_zero, List.drop_zero, ← List.map_drop, memBytes_storedAll]
  · rw [apps_append, happs, List.nil_append, apps_frames]
  · rw [appTail_frames, lens_frames, List.map_drop]
    exact le_rfl

lemma frameAcks_frames (ms : List AppMsg) :
    frameAcks (ms.map (AppMsg.frame C)) = ms.map (·.header.ackSeq) := by
  rw [frameAcks, List.map_map]
  rfl

/-- The acks of stored messages: each is a number of pops. -/
lemma Counts.acks_counted (h : Counts C P f) {m : AppMsg} (hm : m ∈ P.pushed) :
    ∃ j ≤ P.popped.length, m.header.ackSeq = UInt32.ofNat j := by
  obtain ⟨i, hi, rfl⟩ := List.mem_iff_getElem.mp hm
  have hi₁ : i < P.msgs.length := by rwa [P.length_msgs]
  have hi₂ : i < P.births.length := h.born.length_eq ▸ hi₁
  obtain ⟨hack, hle⟩ := h.born.get hi₁ hi₂
  simp only [List.get_eq_getElem, Peer.msgs, List.getElem_map] at hack hle
  exact ⟨_, hle, hack⟩

/-- What `Open` hands to the socket starts the stream. -/
lemma Counts.sending_reopen (h : Counts C P f) (hq : c.q = some P.queue) (hf : f ≤ b)
    (hb : b ≤ P.pushed.length) (hold : P.queue.AcksOld (P.msgs.drop f)) (hg : g ≤ P.popped.length)
    (hwin : P.popped.length < g + 2 ^ 30) (happs : apps ready = []) :
    Sending C (P.reopen C c fd (UInt32.ofNat b) now rs) b b g true
      (c.open C fd (UInt32.ofNat b) now rs).2 ready ((P.pushed.drop b).map (AppMsg.frame C)) 0 := by
  obtain ⟨-, hr⟩ := h.stores.loginAck hf (by rwa [P.length_msgs])
  have hq' : (c.openAck C fd (UInt32.ofNat b) now).q =
      some (P.queue.loginAck C.endian (UInt32.ofNat b)) := by
    show c.q.map _ = _
    rw [hq]
    rfl
  obtain ⟨hbegins, hgo⟩ := (outgoing_fresh happs hr).sendPending hq' rs
  rw [List.nil_append] at hbegins hgo
  refine ⟨⟨Nat.zero_le _, hbegins, ?_, ?_, ?_⟩, fun _ hopen => ?_⟩
  · have happs' := (outgoing_fresh happs hr).apps_eq
    rw [happs']
    exact List.prefix_rfl
  · refine ackAll_le hg hwin fun a ha => ?_
    rw [frameAcks_frames] at ha
    obtain ⟨m, hm, rfl⟩ := List.mem_map.mp ha
    show 0 ≤ (UInt32.ofNat P.popped.length - m.header.ackSeq).asInt
    rw [← h.stores.ackSeqNum]
    refine hold m.toMsg ?_
    have hdrop : P.msgs.drop f = (P.pushed.drop f).map AppMsg.toMsg := List.map_drop.symm
    rw [hdrop]
    refine List.mem_map_of_mem (List.mem_of_mem_drop (i := b - f) ?_)
    rwa [List.drop_drop, show f + (b - f) = b by omega]
  · intro a ha
    rw [frameAcks_frames] at ha
    obtain ⟨m, hm, rfl⟩ := List.mem_map.mp ha
    exact h.acks_counted (List.mem_of_mem_drop hm)
  · obtain ⟨q', sent', hq₁, -, hout, -⟩ := hgo (by rwa [← sockfd_openBuf (C := C)])
    refine ⟨sent', ?_⟩
    have hq₂ : (c.open C fd (UInt32.ofNat b) now rs).1.q = some q' := (q_openBuf _).trans hq₁
    rw [Peer.queue_eq (P := P.reopen C c fd (UInt32.ofNat b) now rs) hq₂]
    exact hout

end Open

end Tcpshm
