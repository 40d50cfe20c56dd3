import Tcpshm.Link.Acks
import Tcpshm.PtcpQueue.Run

/-!
# One side of a link

A process with its queue file and its connection. The history goes along: the messages that were
pushed, how many messages had been popped when each was, and the messages that were popped.
-/

namespace Tcpshm

/-- A message of an application: type 0 is that of heartbeats. -/
structure AppMsg extends Msg where
  size_ge : 8 ≤ header.size.toNat
  msgType_ne : header.msgType ≠ 0

namespace AppMsg

/-- The message as it goes over the wire. -/
def frame (C : Conf) (m : AppMsg) : Frame where
  header := m.header
  body := PTCPConnection.memBytes C m.body
  size_ge := m.size_ge
  length_body := by
    have hlen := m.length_body
    rw [toNat_blkSz] at hlen
    rw [PTCPConnection.length_memBytes, toNat_padded]
    omega
  heartbeat := fun h => absurd h m.msgType_ne

variable {C : Conf}

lemma isHeartbeat_frame (m : AppMsg) : (m.frame C).isHeartbeat = false :=
  decide_eq_false m.msgType_ne

lemma length_frame (m : AppMsg) : (m.frame C).length = 8 * m.blkCnt := by
  show (PTCPConnection.memBytes C m.body).length + 8 = _
  rw [PTCPConnection.length_memBytes, Msg.blkCnt]
  omega

/-- The blocks of a stored message are the bytes of its frame. -/
lemma memBytes_stored (m : AppMsg) :
    PTCPConnection.memBytes C (m.stored C.endian) = (m.frame C).wire C := by
  rw [Frame.wire, ← MsgHeader.toBytes_convertByteOrder]
  rfl

end AppMsg

lemma memBytes_storedAll {C : Conf} (ms : List AppMsg) :
    PTCPConnection.memBytes C (storedAll C.endian (ms.map AppMsg.toMsg)) =
      wires C (ms.map (AppMsg.frame C)) := by
  induction ms with
  | nil => rfl
  | cons m ms ih =>
    rw [List.map_cons, storedAll_cons, PTCPConnection.memBytes_append, ih, m.memBytes_stored]
    rfl

lemma apps_frames {C : Conf} (ms : List AppMsg) :
    apps (ms.map (AppMsg.frame C)) = ms.map (AppMsg.frame C) := by
  rw [apps, List.filter_eq_self]
  intro f hf
  obtain ⟨m, -, rfl⟩ := List.mem_map.mp hf
  rw [m.isHeartbeat_frame]
  rfl

lemma lens_frames {C : Conf} (ms : List AppMsg) :
    lens (ms.map (AppMsg.frame C)) = 8 * blkCnts (ms.map AppMsg.toMsg) := by
  induction ms with
  | nil => rfl
  | cons m ms ih =>
    rw [List.map_cons, List.map_cons, lens_cons, blkCnts_cons, ih, m.length_frame]
    omega

/-- The message `Push` submits when `Alloc` and filling have prepared it. -/
def PTCPQueue.appMsg (q : PTCPQueue) {size msgType : UInt16} {body : List MsgHeader}
    (hsize : size.toNat + 8 ≤ 65535) (hmsgType : msgType ≠ 0)
    (hbody : body.length + 1 = (blkSz (size + 8)).toNat) : AppMsg where
  toMsg := q.filled size msgType body hbody
  size_ge := by
    show 8 ≤ (size + 8).toNat
    rw [toNat_add_eight hsize]
    omega
  msgType_ne := hmsgType

/-- `Alloc`, and the user fills the message it returns. -/
def PTCPConnection.allocFill (C : Conf) (c : PTCPConnection) (size msgType : UInt16)
    (body : List MsgHeader) (p : Nat) : PTCPConnection :=
  (c.alloc C size).1.onQueue fun q => q.fill p msgType body

structure Peer where
  file : PTCPQueue
  conn : PTCPConnection
  fronted : Option Nat
  pushed : List AppMsg
  births : List Nat
  popped : List (MsgHeader × List UInt8)

/-- What a step exchanges with the socket, and the acks it applies. -/
structure Exchanged where
  read : List UInt8
  sent : List UInt8
  acks : List UInt32

namespace Peer

/-- What the queue file holds. -/
def queue (P : Peer) : PTCPQueue := P.conn.q.getD P.file

/-- The pushed messages. -/
def msgs (P : Peer) : List Msg := P.pushed.map AppMsg.toMsg

@[simp] lemma length_msgs (P : Peer) : P.msgs.length = P.pushed.length := List.length_map _

def withConn (P : Peer) (c : PTCPConnection) : Peer := { P with conn := c }

def afterPush (P : Peer) (c : PTCPConnection) (m : AppMsg) : Peer :=
  { P with
    conn := c
    pushed := P.pushed ++ [m]
    births := P.births ++ [P.popped.length] }

/-- A restart: the file is kept, and everything else is lost. -/
def crash (C : Conf) (P : Peer) : Peer :=
  { P with file := P.queue, conn := .new C, fronted := none }

def front (C : Conf) (P : Peer) (res : ReadResult) : Peer :=
  { P with
    conn := (P.conn.front C res).1
    fronted := match (P.conn.front C res).2 with
      | .header idx => some idx
      | _ => none }

def pop (C : Conf) (P : Peer) (idx : Nat) : Peer :=
  { P with
    conn := P.conn.pop C
    fronted := none
    popped := P.popped ++ [P.conn.msgAt C idx] }

/-- The steps of a process whose queue file is open, while the bytes `inc` wait to be read. -/
inductive Step (C : Conf) (inc : List UInt8) : Peer → Exchanged → Peer → Prop where
  | alloc {P : Peer} (size : UInt16) (hsize : size.toNat + 8 ≤ 65535) (hq : P.conn.q.isSome) :
      Step C inc P ⟨[], [], []⟩ (P.withConn (P.conn.alloc C size).1)
  | fill {P : Peer} {q : PTCPQueue} {size : UInt16} {p : Nat} (msgType : UInt16)
      (body : List MsgHeader) (hq : P.conn.q = some q)
      (hp : (q.alloc C.tcpQueueSize size).2 = some p) :
      Step C inc P ⟨[], [], []⟩ (P.withConn (P.conn.allocFill C size msgType body p))
  | push {P : Peer} {q : PTCPQueue} {size msgType : UInt16} {body : List MsgHeader} {p : Nat}
      {c : PTCPConnection} (hsize : size.toNat + 8 ≤ 65535) (hmsgType : msgType ≠ 0)
      (hq : P.conn.q = some q) (hp : (q.alloc C.tcpQueueSize size).2 = some p)
      (hbody : body.length + 1 = (blkSz (size + 8)).toNat)
      (hc : c = P.conn.allocFill C size msgType body p) (rs : List SendResult) :
      Step C inc P ⟨[], (c.push C rs).2, []⟩
        (P.afterPush (c.push C rs).1 (q.appMsg hsize hmsgType hbody))
  | pushMore {P : Peer} {q : PTCPQueue} {size msgType : UInt16} {body : List MsgHeader} {p : Nat}
      {c : PTCPConnection} (hsize : size.toNat + 8 ≤ 65535) (hmsgType : msgType ≠ 0)
      (hq : P.conn.q = some q) (hp : (q.alloc C.tcpQueueSize size).2 = some p)
      (hbody : body.length + 1 = (blkSz (size + 8)).toNat)
      (hc : c = P.conn.allocFill C size msgType body p) :
      Step C inc P ⟨[], [], []⟩ (P.afterPush (c.pushMore C) (q.appMsg hsize hmsgType hbody))
  | sendPending {P : Peer} (hq : P.conn.q.isSome) (rs : List SendResult) :
      Step C inc P ⟨[], (P.conn.sendPending C rs).2.1, []⟩ (P.withConn (P.conn.sendPending C rs).1)
  | sendHB {P : Peer} (hq : P.conn.q.isSome) (now : Int) (rs : List SendResult) (res : SendResult) :
      Step C inc P ⟨[], (P.conn.sendHB C now rs res).2, []⟩
        (P.withConn (P.conn.sendHB C now rs res).1)
  | front {P : Peer} (hq : P.conn.q.isSome) (res : ReadResult) (hres : P.conn.FrontAdmissible C res)
      (hread : P.conn.frontRead C res <+: inc) :
      Step C inc P ⟨P.conn.frontRead C res, [], P.conn.frontAcks C res⟩ (P.front C res)
  | pop {P : Peer} {idx : Nat} (hq : P.conn.q.isSome) (h : P.fronted = some idx) :
      Step C inc P ⟨[], [], []⟩ (P.pop C idx)
  | close {P : Peer} (reason : String) (errno : Int) :
      Step C inc P ⟨[], [], []⟩ (P.withConn (P.conn.close reason errno))

end Peer

end Tcpshm
