import Tcpshm.Link.Steps

/-!
# What goes over the wire

From `Open` on, whatever the kernel takes of it, the bytes handed to the socket are the messages
the queue stores at `LoginAck` and those pushed later, one after the other, with heartbeats in
between. A run carries along these messages, how many of them are acknowledged, and the bytes.
-/

namespace Tcpshm

open PTCPConnection

/-! ### Pieces of a stream -/

/-- What is sent as a whole: a message, or a heartbeat with the ack it carries. -/
inductive Piece where
  | msg (m : Msg)
  | heartbeat (ackSeq : UInt32)

namespace Piece

/-- The header in wire order, and the rest of a message as it lies in memory. -/
def bytes (C : Conf) : Piece → List UInt8
  | msg m => m.header.toBytes C.endian.toLittle ++ memBytes C m.body
  | heartbeat ackSeq => MsgHeader.toBytes C.endian.toLittle ⟨8, 0, ackSeq⟩

def message? : Piece → Option Msg
  | msg m => some m
  | heartbeat _ => none

end Piece

/-- The messages among the pieces. -/
def messages (ps : List Piece) : List Msg := ps.filterMap Piece.message?

/-- The bytes of the pieces, one after the other. -/
def pieceBytes (C : Conf) (ps : List Piece) : List UInt8 := ps.flatMap (Piece.bytes C)

section

variable {C : Conf}

/-- The blocks of a stored message are its bytes on the wire. -/
lemma Msg.memBytes_stored (m : Msg) :
    memBytes C (m.stored C.endian) = (Piece.msg m).bytes C := by
  rw [Piece.bytes, ← MsgHeader.toBytes_convertByteOrder]
  rfl

/-- A message is padded to a multiple of 8. -/
lemma Msg.length_bytes (m : Msg) :
    ((Piece.msg m).bytes C).length = (padded m.header.size).toNat := by
  have hlen := m.length_body
  rw [toNat_blkSz] at hlen
  rw [← m.memBytes_stored, length_memBytes, Msg.length_stored, Msg.blkCnt, toNat_padded]
  omega

lemma length_heartbeat (ackSeq : UInt32) : ((Piece.heartbeat ackSeq).bytes C).length = 8 :=
  MsgHeader.length_toBytes _ _

lemma hbFrame_wire (ackSeq : UInt32) :
    (hbFrame ackSeq).wire C = (Piece.heartbeat ackSeq).bytes C := List.append_nil _

lemma pieceBytes_append (ps ps' : List Piece) :
    pieceBytes C (ps ++ ps') = pieceBytes C ps ++ pieceBytes C ps' := List.flatMap_append

lemma messages_append (ps ps' : List Piece) : messages (ps ++ ps') = messages ps ++ messages ps' :=
  List.filterMap_append

lemma pieceBytes_msgs (ms : List Msg) :
    pieceBytes C (ms.map Piece.msg) = memBytes C (storedAll C.endian ms) := by
  induction ms with
  | nil => rfl
  | cons m ms ih =>
    rw [storedAll_cons, memBytes_append, ← ih, m.memBytes_stored]
    rfl

lemma messages_msgs (ms : List Msg) : messages (ms.map Piece.msg) = ms := by
  induction ms with
  | nil => rfl
  | cons m ms ih => exact congrArg (m :: ·) ih

lemma length_pieceBytes_mod (ps : List Piece) : (pieceBytes C ps).length % 8 = 0 := by
  induction ps with
  | nil => rfl
  | cons p ps ih =>
    have hp : (p.bytes C).length % 8 = 0 := by
      cases p with
      | msg m =>
        rw [m.length_bytes, toNat_padded]
        omega
      | heartbeat ackSeq => rw [length_heartbeat]
    show (p.bytes C ++ pieceBytes C ps).length % 8 = 0
    rw [List.length_append]
    omega

end

/-! ### Runs -/

/-- The blocks that are stored and not yet handed to the socket. -/
def PTCPQueue.unsent (q : PTCPQueue) : List MsgHeader :=
  q.blk.slice q.getSendable.1 q.getSendable.2.toNat

/-- A connection since `Open`: the messages that were stored at `LoginAck` or pushed later, how
many of them were acknowledged, and the bytes handed to the socket. -/
structure Wire where
  conn : PTCPConnection
  msgs : List Msg
  acked : Nat
  bytes : List UInt8

namespace Wire

variable (C : Conf)

/-- The window of the queue `q` of the connection. -/
def window (w : Wire) (q : PTCPQueue) : Window where
  first := q.readSeqNum
  msgs := w.msgs.drop w.acked
  sent := (q.sendIdx - q.readIdx).toNat

/-- After a call that hands `bs` to the socket. -/
def sends (w : Wire) (c : PTCPConnection × List UInt8) : Wire :=
  { w with conn := c.1, bytes := w.bytes ++ c.2 }

/-- A message is stored. -/
def stores (w : Wire) (m : Msg) : Wire := { w with msgs := w.msgs ++ [m] }

/-- `Open` of a connection whose queue `q` holds the messages `ms`. -/
def opened (c : PTCPConnection) (q : PTCPQueue) (ms : List Msg) (sockFd : Int)
    (remoteAckSeq : UInt32) (now : Int) (rs : List SendResult) : Wire where
  conn := (c.open C sockFd remoteAckSeq now rs).1
  msgs := ms.drop (covered q.readSeqNum remoteAckSeq)
  acked := 0
  bytes := (c.open C sockFd remoteAckSeq now rs).2

def acks (w : Wire) (q : PTCPQueue) (ackSeq : UInt32) : Wire where
  conn := w.conn.onQueue fun q => q.ack C.endian ackSeq
  msgs := w.msgs
  acked := w.acked + covered q.readSeqNum ackSeq
  bytes := w.bytes

/-- The calls of the owner, in any order. A received ack is not beyond what was sent. -/
inductive Step : Wire → Wire → Prop where
  | alloc {w : Wire} (size : UInt16) (hsize : size.toNat + 8 ≤ 65535) :
      Step w { w with conn := (w.conn.alloc C size).1 }
  | push {w : Wire} {q : PTCPQueue} {size msgType : UInt16} {body : List MsgHeader} {p : Nat}
      (hsize : size.toNat + 8 ≤ 65535) (hq : w.conn.q = some q)
      (hp : (q.alloc C.tcpQueueSize size).2 = some p)
      (hbody : body.length + 1 = (blkSz (size + 8)).toNat) (rs : List SendResult) :
      Step w ((w.stores (q.filled size msgType body hbody)).sends
        ((w.conn.allocFill C size msgType body p).push C rs))
  | pushMore {w : Wire} {q : PTCPQueue} {size msgType : UInt16} {body : List MsgHeader} {p : Nat}
      (hsize : size.toNat + 8 ≤ 65535) (hq : w.conn.q = some q)
      (hp : (q.alloc C.tcpQueueSize size).2 = some p)
      (hbody : body.length + 1 = (blkSz (size + 8)).toNat) :
      Step w ((w.stores (q.filled size msgType body hbody)).sends
        ((w.conn.allocFill C size msgType body p).pushMore C, []))
  | sendPending {w : Wire} (rs : List SendResult) :
      Step w (w.sends ((w.conn.sendPending C rs).1, (w.conn.sendPending C rs).2.1))
  | sendHB {w : Wire} (now : Int) (rs : List SendResult) (res : SendResult) :
      Step w (w.sends (w.conn.sendHB C now rs res))
  | ack {w : Wire} {q : PTCPQueue} (hq : w.conn.q = some q) (ackSeq : UInt32)
      (ha : (w.window q).NotBeyond ackSeq) (hs : (w.window q).FullySent ackSeq) :
      Step w (w.acks C q ackSeq)
  | incMyAck {w : Wire} : Step w { w with conn := w.conn.onQueue PTCPQueue.incMyAck }
  | close {w : Wire} (reason : String) (sysErrno : Int) :
      Step w { w with conn := w.conn.close reason sysErrno }

/-- Any number of calls. -/
def Steps : Wire → Wire → Prop := Relation.ReflTransGen (Step C)

end Wire

/-! ### The invariant -/

/-- The queue holds the messages that are not acknowledged; the bytes handed to the socket begin the
pieces, and while the connection is open, the unsent blocks are the rest of them. -/
structure Wire.Sound (C : Conf) (w : Wire) (ps : List Piece) (q : PTCPQueue) (sent : Nat) :
    Prop where
  queue : w.conn.q = some q
  represents : q.Represents C.tcpQueueSize C.endian ⟨q.readSeqNum, w.msgs.drop w.acked, sent⟩
  hbmsg : IsHbmsg C w.conn.hbmsg
  acked_le : w.acked ≤ w.msgs.length
  messages_eq : messages ps = w.msgs
  begins : w.bytes <+: pieceBytes C ps
  rest : 0 ≤ w.conn.sockfd → w.bytes ++ memBytes C q.unsent = pieceBytes C ps

namespace PTCPQueue

variable {Q : QueueSize} {ed : Endian} {q q' : PTCPQueue} {W : Window}

/-- What remains is the same when the messages and the unsent blocks are. -/
lemma Represents.unsent_eq (h : q.Represents Q ed W) :
    q.unsent = (storedAll ed W.msgs).drop W.sent :=
  h.getSendable

/-- `Alloc` does not skip, repeat or move unsent blocks, also when it compacts. -/
lemma Represents.unsent_alloc (h : q.Represents Q ed W) (size : UInt16) :
    (q.alloc Q size).1.unsent = q.unsent := by
  rw [(h.alloc size).unsent_eq, h.unsent_eq]

/-- Nor does `Ack` of messages that were sent, also when it resets the indices. -/
lemma Represents.unsent_ack (h : q.Represents Q ed W) {a : UInt32} (ha : W.NotBeyond a)
    (hs : W.FullySent a) : (q.ack ed a).unsent = q.unsent := by
  have hsplit : (storedAll ed W.msgs).drop W.sent = (storedAll ed (W.msgs.drop
      (covered W.first a))).drop (W.sent - blkCnts (W.msgs.take (covered W.first a))) := by
    conv_lhs => rw [← List.take_append_drop (covered W.first a) W.msgs, storedAll_append,
      List.drop_append, length_storedAll, List.drop_of_length_le (by rw [length_storedAll]; exact hs),
      List.nil_append]
  rw [(h.ack ha hs).unsent_eq, h.unsent_eq, hsplit]
  rfl

lemma Represents.unsent_push (h : q.Represents Q ed W) {size msgType : UInt16}
    {body : List MsgHeader} {p : Nat} (hp : (q.alloc Q size).2 = some p)
    (hbody : body.length + 1 = (blkSz (size + 8)).toNat) :
    (((q.alloc Q size).1.fill p msgType body).push ed).unsent =
      q.unsent ++ (q.filled size msgType body hbody).stored ed := by
  rw [(h.alloc_fill_push hp msgType hbody).unsent_eq, h.unsent_eq]
  show (storedAll ed (W.msgs ++ [_])).drop W.sent = _
  rw [storedAll_append, List.drop_append_of_le_length (by rw [length_storedAll]; exact h.sent_le)]
  exact congrArg _ (List.append_nil _)

/-- What is handed over is the front of the unsent blocks. -/
lemma Represents.unsent_sendout (h : q.Represents Q ed W) {n : Nat}
    (hn : n ≤ q.getSendable.2.toNat) :
    (q.sendout (UInt32.ofNat n)).Represents Q ed (W.sendout n) ∧
    q.blk.slice q.sendIdx.toNat n ++ (q.sendout (UInt32.ofNat n)).unsent = q.unsent := by
  have hlen := h.toNat_sendable
  have hle := h.sent_le
  have hn' : (UInt32.ofNat n).toNat = n :=
    UInt32.toNat_ofNat_lt (lt_of_le_of_lt hn q.getSendable.2.toNat_lt)
  have hr := h.sendout (n := UInt32.ofNat n) (by omega)
  rw [hn'] at hr
  refine ⟨hr, ?_⟩
  have hfront : q.blk.slice q.sendIdx.toNat n = q.unsent.take n :=
    (Mem.take_slice _ _ _ _ hn).symm
  rw [hfront, hr.unsent_eq, h.unsent_eq]
  show _ ++ (storedAll ed W.msgs).drop (W.sent + n) = _
  rw [← List.drop_drop, List.take_append_drop]

end PTCPQueue

namespace Wire

variable {C : Conf} {w w' : Wire} {ps : List Piece} {q q' : PTCPQueue} {sent sent' : Nat}

namespace Sound

lemma window_eq (h : Sound C w ps q sent) :
    w.window q = ⟨q.readSeqNum, w.msgs.drop w.acked, sent⟩ := by
  have hsend : q.sendIdx.toNat = q.readIdx.toNat + sent := h.represents.send_eq
  simp only [window, Window.mk.injEq, true_and]
  rw [UInt32.toNat_sub_of_le' (by omega)]
  omega

/-- What calls change on the connection besides its queue does not matter. -/
lemma congr_conn (h : Sound C w ps q sent) {c : PTCPConnection} (hq : c.q = some q)
    (hhb : IsHbmsg C c.hbmsg) (hopen : 0 ≤ c.sockfd → 0 ≤ w.conn.sockfd) :
    Sound C { w with conn := c } ps q sent :=
  ⟨hq, h.represents, hhb, h.acked_le, h.messages_eq, h.begins, fun ho => h.rest (hopen ho)⟩

/-- The queue changes and its unsent blocks do not. -/
lemma congr_queue (h : Sound C w ps q sent) {W : Window}
    (hr : q'.Represents C.tcpQueueSize C.endian W) (hunsent : q'.unsent = q.unsent) {k : Nat}
    (hmsgs : W.msgs = w.msgs.drop (w.acked + k)) (hk : w.acked + k ≤ w.msgs.length) :
    Sound C ⟨{ w.conn with q := some q' }, w.msgs, w.acked + k, w.bytes⟩ ps q' W.sent where
  queue := rfl
  represents := by
    obtain ⟨hh, -, hsend, hle⟩ := hr
    rw [hmsgs] at hh hle
    exact ⟨hh, rfl, hsend, hle⟩
  hbmsg := h.hbmsg
  acked_le := hk
  messages_eq := h.messages_eq
  begins := h.begins
  rest := fun ho => by
    rw [hunsent]
    exact h.rest ho

/-! ### What a call preserves -/

theorem alloc (h : Sound C w ps q sent) (size : UInt16) :
    Sound C { w with conn := (w.conn.alloc C size).1 } ps (q.alloc C.tcpQueueSize size).1 sent := by
  have h' := h.congr_queue (k := 0) (h.represents.alloc size) (h.represents.unsent_alloc size) rfl
    h.acked_le
  rw [alloc_eq h.queue]
  exact h'

theorem ack (h : Sound C w ps q sent) {a : UInt32} (ha : (w.window q).NotBeyond a)
    (hs : (w.window q).FullySent a) :
    ∃ q' sent', Sound C (w.acks C q a) ps q' sent' := by
  rw [h.window_eq] at ha hs
  have hle := h.represents.covered_le ha
  simp only [List.length_drop] at hle
  have hacked := h.acked_le
  have h' := h.congr_queue (h.represents.ack ha hs) (h.represents.unsent_ack ha hs)
    (k := covered q.readSeqNum a) (by simp [Window.ack, Window.drop, List.drop_drop]) (by omega)
  have heq : w.acks C q a = ⟨{ w.conn with q := some (q.ack C.endian a) }, w.msgs,
      w.acked + covered q.readSeqNum a, w.bytes⟩ := by
    rw [Wire.acks, PTCPConnection.onQueue, h.queue]
    rfl
  rw [heq]
  exact ⟨_, _, h'⟩

theorem incMyAck (h : Sound C w ps q sent) :
    Sound C { w with conn := w.conn.onQueue PTCPQueue.incMyAck } ps q.incMyAck sent := by
  have hr := h.represents
  have hinc : q.incMyAck.Represents C.tcpQueueSize C.endian
      ⟨q.readSeqNum, w.msgs.drop w.acked, sent⟩ :=
    ⟨⟨hr.write_le, hr.write_eq, hr.blk_eq⟩, rfl, hr.send_eq, hr.sent_le⟩
  have h' := h.congr_queue (k := 0) hinc rfl rfl h.acked_le
  rw [PTCPConnection.onQueue, h.queue]
  exact h'

/-- A message is stored behind the others. -/
theorem pushMore (h : Sound C w ps q sent) {size msgType : UInt16} {body : List MsgHeader} {p : Nat}
    (hp : (q.alloc C.tcpQueueSize size).2 = some p)
    (hbody : body.length + 1 = (blkSz (size + 8)).toNat) :
    Sound C ((w.stores (q.filled size msgType body hbody)).sends
        ((w.conn.allocFill C size msgType body p).pushMore C, []))
      (ps ++ [.msg (q.filled size msgType body hbody)])
      (((q.alloc C.tcpQueueSize size).1.fill p msgType body).push C.endian) sent := by
  set m := q.filled size msgType body hbody with hm
  have hr := h.represents.alloc_fill_push hp msgType hbody
  have hunsent : (((q.alloc C.tcpQueueSize size).1.fill p msgType body).push C.endian).unsent =
      q.unsent ++ m.stored C.endian := h.represents.unsent_push hp hbody
  have hdrop : (w.msgs ++ [m]).drop w.acked = w.msgs.drop w.acked ++ [m] :=
    List.drop_append_of_le_length h.acked_le
  have hlast : pieceBytes C [.msg m] = memBytes C (m.stored C.endian) := by
    rw [m.memBytes_stored]
    exact List.append_nil _
  rw [pushMore_allocFill h.queue]
  refine ⟨rfl, ?_, h.hbmsg, ?_, ?_, ?_, fun ho => ?_⟩
  · obtain ⟨hh, -, hsend, hle⟩ := hr
    show PTCPQueue.Represents _ _ _ ⟨_, (w.msgs ++ [m]).drop w.acked, sent⟩
    rw [hdrop]
    exact ⟨hh, rfl, hsend, hle⟩
  · show w.acked ≤ (w.msgs ++ [m]).length
    rw [List.length_append]
    exact Nat.le_add_right_of_le h.acked_le
  · rw [messages_append, h.messages_eq]
    rfl
  · show w.bytes ++ [] <+: _
    rw [List.append_nil, pieceBytes_append]
    exact h.begins.trans (List.prefix_append _ _)
  · show w.bytes ++ [] ++ _ = _
    rw [List.append_nil, hunsent, memBytes_append, ← List.append_assoc, h.rest ho, pieceBytes_append,
      hlast]

/-- Of the unsent blocks, a first part is handed over; if that fails, the connection is closed. -/
theorem sendPending (h : Sound C w ps q sent) (rs : List SendResult) :
    ∃ q' sent', Sound C (w.sends ((w.conn.sendPending C rs).1, (w.conn.sendPending C rs).2.1))
        ps q' sent' ∧
      ((w.conn.sendPending C rs).2.2 = false → 0 ≤ (w.conn.sendPending C rs).1.sockfd →
        q'.unsent = []) := by
  obtain ⟨heq, hnone⟩ | ⟨q₁, n, hq₁, hopen, hn, -, t, heq⟩ | ⟨q₁, k, errno, hq₁, hopen, heq⟩ :=
    sendPending_cases (C := C) w.conn rs
  · rw [heq]
    refine ⟨q, sent, ?_, fun _ ho => ?_⟩
    · have hw : w.sends (w.conn, []) = w := by
        rw [sends, List.append_nil]
      rw [hw]
      exact h
    · rcases hnone with hcl | hzero
      · exact absurd (isClosed_iff.mp hcl) (not_lt.mpr ho)
      · rw [PTCPQueue.unsent, hzero q h.queue]
        rfl
  all_goals
    rw [h.queue] at hq₁
    obtain rfl := Option.some.inj hq₁
    have hfd : 0 ≤ w.conn.sockfd := not_lt.mp fun hlt => by
      rw [isClosed_iff.mpr hlt] at hopen
      cases hopen
    have hrest := h.rest hfd
    rw [heq]
  · obtain ⟨hr, hsplit⟩ := h.represents.unsent_sendout hn
    rw [← hsplit, memBytes_append, ← List.append_assoc] at hrest
    exact ⟨_, _, ⟨rfl, ⟨hr.toHolds, rfl, hr.send_eq, hr.sent_le⟩, h.hbmsg, h.acked_le,
      h.messages_eq, ⟨_, hrest⟩, fun _ => hrest⟩, fun hfalse => by cases hfalse⟩
  · refine ⟨q, sent, ⟨(q_close _ _).trans h.queue, h.represents, ?_, h.acked_le, h.messages_eq, ?_,
      fun ho => ?_⟩, fun _ ho => ?_⟩
    · show IsHbmsg C (w.conn.close "Send error" errno).hbmsg
      rw [hbmsg_close]
      exact h.hbmsg
    · rw [← hrest]
      exact (List.prefix_append_right_inj w.bytes).mpr (List.take_prefix _ _)
    · exact absurd (sockfd_close_neg _ _) (not_lt.mpr ho)
    · exact absurd (sockfd_close_neg _ _) (not_lt.mpr ho)

/-- With all blocks sent, a heartbeat goes behind the last message. -/
lemma heartbeat (h : Sound C w ps q sent) (hall : q.unsent = []) (hopen : 0 ≤ w.conn.sockfd)
    {a : UInt32} {c : PTCPConnection} {bs : List UInt8} (hq : c.q = some q)
    (hhb : IsHbmsg C c.hbmsg) (hbs : bs <+: (Piece.heartbeat a).bytes C)
    (hwhole : 0 ≤ c.sockfd → bs = (Piece.heartbeat a).bytes C) :
    Sound C (w.sends (c, bs)) (ps ++ [.heartbeat a]) q sent := by
  have hrest := h.rest hopen
  rw [hall, memBytes_nil, List.append_nil] at hrest
  have hlast : pieceBytes C [.heartbeat a] = (Piece.heartbeat a).bytes C := List.append_nil _
  refine ⟨hq, h.represents, hhb, h.acked_le, ?_, ?_, fun ho => ?_⟩
  · rw [messages_append, h.messages_eq]
    exact List.append_nil _
  · rw [pieceBytes_append, hlast, ← hrest]
    exact (List.prefix_append_right_inj w.bytes).mpr hbs
  · rw [pieceBytes_append, hlast, ← hrest, hall, memBytes_nil, List.append_nil, ← hwhole ho]
    rfl

/-- `SendHB` does nothing, sends pending blocks, or, where there are none, a heartbeat. -/
theorem sendHB (h : Sound C w ps q sent) (now : Int) (rs : List SendResult) (res : SendResult) :
    ∃ ps' q' sent', Sound C (w.sends (w.conn.sendHB C now rs res)) ps' q' sent' := by
  obtain ⟨c₀, hq₀, hsock₀, hhb₀, heq | ⟨c₁, bytes, hpend, heq⟩ | ⟨c₁, bytes, hpend, c₂, hq₂, hsock₂,
    hhb₂, heq⟩⟩ := sendHB_cases (C := C) h.queue now rs res
  all_goals
    have h₀ := h.congr_conn hq₀ (hhb₀ ▸ h.hbmsg) fun ho => hsock₀ ▸ ho
    obtain ⟨q', sent', h₁, hall⟩ := h₀.sendPending rs
    rw [heq]
  · refine ⟨ps, q, sent, ?_⟩
    rw [sends, List.append_nil]
    exact h₀
  · rw [hpend] at h₁
    exact ⟨ps, q', sent', h₁⟩
  · rw [hpend] at h₁ hall
    obtain ⟨ack, hack⟩ := h₁.hbmsg
    have hbeat₂ : c₂.hbmsg = MsgHeader.convertByteOrder C.endian ⟨8, 0, q.ackSeqNum⟩ := by
      have hack' : c₁.hbmsg = MsgHeader.convertByteOrder C.endian ⟨8, 0, ack⟩ := hack
      rw [hhb₂, hack']
      rfl
    have hq₃ : c₂.q = some q' := hq₂.trans h₁.queue
    have hhb₃ : IsHbmsg C (c₂.sendHbmsg C res).1.hbmsg := by
      rw [(sendHbmsg_frame c₂ res).2.2]
      exact ⟨_, hbeat₂⟩
    have hcases := sendHbmsg_cases hbeat₂ res
    generalize c₂.sendHbmsg C res = out at hcases hhb₃ ⊢
    obtain ⟨c₄, bs⟩ := out
    have hassoc : w.sends (c₄, bytes ++ bs) =
        (Wire.sends { w with conn := c₀ } (c₁, bytes)).sends (c₄, bs) := by
      simp only [sends, List.append_assoc]
    rw [hassoc]
    rw [hbFrame_wire] at hcases
    obtain ⟨hq₄, ⟨hnil, hstill⟩ | ⟨hwire, hopen₂⟩ | ⟨hpart, hclosed, hopen₂⟩⟩ := hcases
    · obtain rfl : bs = [] := hnil
      refine ⟨ps, q', sent', ?_⟩
      rw [sends, List.append_nil]
      exact h₁.congr_conn (hq₄.trans hq₃) hhb₃ fun ho => hsock₂ ▸ hstill ho
    · obtain rfl : bs = _ := hwire
      exact ⟨_, q', sent', h₁.heartbeat (hall rfl (hsock₂ ▸ hopen₂)) (hsock₂ ▸ hopen₂)
        (hq₄.trans hq₃) hhb₃ List.prefix_rfl fun _ => rfl⟩
    · exact ⟨_, q', sent', h₁.heartbeat (hall rfl (hsock₂ ▸ hopen₂)) (hsock₂ ▸ hopen₂)
        (hq₄.trans hq₃) hhb₃ hpart fun ho => absurd hclosed (not_lt.mpr ho)⟩

end Sound

/-! ### Whole runs -/

theorem Step.sound (hstep : Step C w w') (h : Sound C w ps q sent) :
    ∃ ps q sent, Sound C w' ps q sent := by
  cases hstep with
  | alloc size hsize => exact ⟨ps, _, sent, h.alloc size⟩
  | @push q₁ size msgType body p hsize hq hp hbody rs =>
    obtain rfl := Option.some.inj (hq.symm.trans h.queue)
    have hmore : Sound C ((w.stores (q₁.filled size msgType body hbody)).sends
        ((w.conn.allocFill C size msgType body p).pushMore C, [])) _ _ sent := h.pushMore hp hbody
    obtain ⟨q', sent', h', -⟩ := hmore.sendPending rs
    simp only [sends, List.append_nil] at h'
    exact ⟨_, q', sent', h'⟩
  | @pushMore q₁ size msgType body p hsize hq hp hbody =>
    obtain rfl := Option.some.inj (hq.symm.trans h.queue)
    exact ⟨_, _, _, h.pushMore hp hbody⟩
  | sendPending rs =>
    obtain ⟨q', sent', h', -⟩ := h.sendPending rs
    exact ⟨ps, q', sent', h'⟩
  | sendHB now rs res => exact h.sendHB now rs res
  | @ack q₁ hq a ha hs =>
    obtain rfl := Option.some.inj (hq.symm.trans h.queue)
    obtain ⟨q', sent', h'⟩ := h.ack ha hs
    exact ⟨ps, q', sent', h'⟩
  | incMyAck => exact ⟨ps, _, sent, h.incMyAck⟩
  | close reason sysErrno =>
    refine ⟨ps, q, sent, h.congr_conn ((q_close _ _).trans h.queue) ?_ fun ho => ?_⟩
    · rw [hbmsg_close]
      exact h.hbmsg
    · exact absurd (sockfd_close_neg _ _) (not_lt.mpr ho)

/-- After `LoginAck` the messages from the first un-acked one on are stored, and none of their
blocks is sent; `Open` goes on with `SendPending`. -/
theorem sound_opened {c : PTCPConnection} {q : PTCPQueue} {ms : List Msg} {a : UInt32}
    (hq : c.q = some q) (hhb : IsHbmsg C c.hbmsg) (h : q.Holds C.tcpQueueSize C.endian ms)
    (ha : Window.NotBeyond ⟨q.readSeqNum, ms, 0⟩ a) (sockFd now : Int) (rs : List SendResult) :
    ∃ ps q' sent, Sound C (opened C c q ms sockFd a now rs) ps q' sent := by
  have hlt := h.length_lt
  have hk : covered q.readSeqNum a ≤ ms.length := covered_le (by omega) ha
  have hr := h.loginAck hk
  have hunsent := hr.unsent_eq
  set ms' := ms.drop (covered q.readSeqNum a) with hms'
  have hrest : ([] : List UInt8) ++ memBytes C (q.loginAck C.endian a).unsent =
      pieceBytes C (ms'.map Piece.msg) := by
    rw [hunsent, pieceBytes_msgs]
    rfl
  have h₀ : Sound C ⟨c.openAck C sockFd a now, ms', 0, []⟩ (ms'.map Piece.msg)
      (q.loginAck C.endian a) 0 := by
    refine ⟨?_, ⟨hr.toHolds, rfl, hr.send_eq, hr.sent_le⟩, hhb, Nat.zero_le _, messages_msgs ms',
      List.nil_prefix, fun _ => hrest⟩
    rw [openAck, hq]
    rfl
  obtain ⟨q', sent', h₁, -⟩ := h₀.sendPending rs
  have h₂ := h₁.congr_conn (c := ((c.openAck C sockFd a now).sendPending C rs).1.openBuf C)
    ((q_openBuf _).trans h₁.queue) (by rw [hbmsg_openBuf]; exact h₁.hbmsg)
    fun ho => sockfd_openBuf (C := C) _ ▸ ho
  exact ⟨_, q', sent', h₂⟩

theorem Steps.sound (hsteps : Steps C w w') (h : Sound C w ps q sent) :
    ∃ ps q sent, Sound C w' ps q sent := by
  induction hsteps with
  | refl => exact ⟨ps, q, sent, h⟩
  | tail _ hstep ih =>
    obtain ⟨ps, q, sent, h⟩ := ih
    exact hstep.sound h

/-! ### A closed connection -/

/-- Nothing is sent on a closed connection, and it stays closed. -/
theorem Step.closed (hstep : Step C w w') (h : w.conn.sockfd < 0) :
    w'.bytes = w.bytes ∧ w'.conn.sockfd < 0 := by
  have hnil : ∀ c : PTCPConnection, c.sockfd < 0 → ∀ v : Wire, v.bytes = w.bytes →
      (v.sends (c, [])).bytes = w.bytes ∧ (v.sends (c, [])).conn.sockfd < 0 :=
    fun c hc v hv => ⟨(List.append_nil _).trans hv, hc⟩
  cases hstep with
  | alloc size hsize =>
    refine ⟨rfl, ?_⟩
    show (w.conn.alloc C size).1.sockfd < 0
    unfold PTCPConnection.alloc
    split <;> exact h
  | @push q₁ size msgType body p hsize hq hp hbody rs =>
    have hcl : ((w.conn.allocFill C size msgType body p).pushMore C).sockfd < 0 := by
      rw [pushMore_allocFill hq]
      exact h
    rw [push_eq, sendPending_closed hcl]
    exact hnil _ hcl _ rfl
  | @pushMore q₁ size msgType body p hsize hq hp hbody =>
    refine hnil _ ?_ _ rfl
    rw [pushMore_allocFill hq]
    exact h
  | sendPending rs =>
    rw [sendPending_closed h]
    exact hnil _ h _ rfl
  | sendHB now rs res =>
    obtain ⟨hbytes, hcl⟩ := sendHB_closed (C := C) h now rs res
    refine ⟨?_, hcl⟩
    show w.bytes ++ (w.conn.sendHB C now rs res).2 = _
    rw [hbytes, List.append_nil]
  | ack | incMyAck => exact ⟨rfl, h⟩
  | close reason sysErrno => exact ⟨rfl, sockfd_close_neg _ _⟩

theorem Steps.closed (hsteps : Steps C w w') (h : w.conn.sockfd < 0) :
    w'.bytes = w.bytes ∧ w'.conn.sockfd < 0 := by
  induction hsteps with
  | refl => exact ⟨rfl, h⟩
  | tail _ hstep ih =>
    obtain ⟨hbytes, hcl⟩ := hstep.closed ih.2
    exact ⟨hbytes.trans ih.1, hcl⟩

/-- Messages are only added. -/
theorem Steps.msgs_prefix (hsteps : Steps C w w') : w.msgs <+: w'.msgs := by
  induction hsteps with
  | refl => exact List.prefix_rfl
  | tail _ hstep ih =>
    refine ih.trans ?_
    cases hstep with
    | push | pushMore => exact List.prefix_append _ _
    | alloc | sendPending | sendHB | ack | incMyAck | close => exact List.prefix_rfl

/-! ### The stream -/

/-- Since `Open`, the bytes handed to the socket begin the stream of the stored messages, from the
first un-acked one at `LoginAck` on, with heartbeats between them, and while the connection is open
the unsent blocks go on with it; `Alloc` and `Ack` leave these alone; and when sending stopped
inside a block, the connection is closed, and nothing more is sent. -/
theorem Steps.framed {c : PTCPConnection} {q₀ : PTCPQueue} {ms : List Msg} {a : UInt32}
    (hq : c.q = some q₀) (hhb : IsHbmsg C c.hbmsg) (hms : q₀.Holds C.tcpQueueSize C.endian ms)
    (ha : Window.NotBeyond ⟨q₀.readSeqNum, ms, 0⟩ a) {sockFd now : Int} {rs : List SendResult}
    (hsteps : Steps C (opened C c q₀ ms sockFd a now rs) w) :
    ms.drop (covered q₀.readSeqNum a) <+: w.msgs ∧
    (∃ ps q, w.conn.q = some q ∧ messages ps = w.msgs ∧ w.bytes <+: pieceBytes C ps ∧
      (w.conn.isClosed = false → w.bytes ++ memBytes C q.unsent = pieceBytes C ps) ∧
      (∀ size : UInt16, size.toNat + 8 ≤ 65535 →
        (q.alloc C.tcpQueueSize size).1.unsent = q.unsent) ∧
      (∀ b, (w.window q).NotBeyond b → (w.window q).FullySent b →
        (q.ack C.endian b).unsent = q.unsent)) ∧
    (w.bytes.length % 8 ≠ 0 → w.conn.isClosed = true) ∧
    (w.conn.isClosed = true → ∀ w', Steps C w w' →
      w'.bytes = w.bytes ∧ w'.conn.isClosed = true) := by
  obtain ⟨ps₀, q₁, sent₀, h₀⟩ := sound_opened hq hhb hms ha sockFd now rs
  obtain ⟨ps, q, sent, h⟩ := hsteps.sound h₀
  have hopen : w.conn.isClosed = false → 0 ≤ w.conn.sockfd := by
    simp [isClosed]
  refine ⟨hsteps.msgs_prefix, ⟨ps, q, h.queue, h.messages_eq, h.begins, fun ho => h.rest (hopen ho),
    fun size _ => h.represents.unsent_alloc size, fun b hb hb' => ?_⟩, fun hmod => ?_,
    fun hcl w' hsteps' => ?_⟩
  · rw [h.window_eq] at hb hb'
    exact h.represents.unsent_ack hb hb'
  · by_contra hcl
    have hrest := congrArg List.length (h.rest (hopen (by simpa using hcl)))
    have hall := length_pieceBytes_mod (C := C) ps
    rw [List.length_append, length_memBytes] at hrest
    omega
  · obtain ⟨hbytes, hcl'⟩ := hsteps'.closed (isClosed_iff.mp hcl)
    exact ⟨hbytes, isClosed_iff.mpr hcl'⟩

/-- Of a message of two blocks, the kernel takes one block, and later five bytes of the other. -/
def stoppedOpen : Wire :=
  let q := PTCPQueue.init fun _ => default
  opened Listening.smallConf { PTCPConnection.new Listening.smallConf with q := some q } q [] 3 0 0 []

def stoppedSent : Wire :=
  (stoppedOpen.stores ((PTCPQueue.init fun _ => default).filled 8 7 [default] rfl)).sends
    ((stoppedOpen.conn.allocFill Listening.smallConf 8 7 [default] 0).push Listening.smallConf
      [.sent 8])

def stoppedRun : Wire :=
  stoppedSent.sends (stoppedSent.conn.sendHB Listening.smallConf 20 [.sent 5] .again)

lemma steps_stoppedRun : Steps Listening.smallConf stoppedOpen stoppedRun := by
  have hpush : Step Listening.smallConf stoppedOpen stoppedSent :=
    .push (by decide) rfl rfl rfl [.sent 8]
  exact (Relation.ReflTransGen.single hpush).tail (.sendHB 20 [.sent 5] .again)

/-- The connection is closed, and nothing more is sent. -/
theorem Steps.framed_stopped :
    stoppedRun.conn.isClosed = true ∧
      ∀ w', Steps Listening.smallConf stoppedRun w' → w'.bytes = stoppedRun.bytes := by
  obtain ⟨-, -, hclosed, hstays⟩ := Steps.framed rfl ⟨0, rfl⟩ ⟨Nat.zero_le _, rfl, rfl⟩ (by decide)
    steps_stoppedRun
  have h := hclosed (by decide +kernel)
  exact ⟨h, fun w' hw' => (hstays h w' hw').1⟩

end Wire

end Tcpshm
