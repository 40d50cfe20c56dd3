import Tcpshm.Memory
import Tcpshm.Serial
import Tcpshm.MsgHeader

/-!
# The persistent send queue (`ptcp_queue.h`)

`PTCPQueue` as the code computes it, on `uint32_t` indices. A pointer into `blk_` is the index of
the block it points to.
-/

namespace Tcpshm

/-- The template argument `Bytes` with its `static_assert`. -/
structure QueueSize where
  bytes : UInt32
  aligned : bytes.toNat % 8 = 0

def QueueSize.fourBlocks : QueueSize := ⟨32, rfl⟩

/-- `BLK_CNT`. -/
def QueueSize.blkCnt (Q : QueueSize) : UInt32 := Q.bytes / 8

lemma QueueSize.toNat_blkCnt (Q : QueueSize) : Q.blkCnt.toNat = Q.bytes.toNat / 8 := by
  simp [blkCnt]

lemma QueueSize.blkCnt_lt (Q : QueueSize) : Q.blkCnt.toNat < 2 ^ 29 := by
  have := Q.bytes.toNat_lt
  rw [Q.toNat_blkCnt]
  omega

/-- Blocks taken by `size` bytes: `(size + sizeof(MsgHeader) - 1) / sizeof(MsgHeader)`. -/
def blkSz (size : UInt16) : UInt32 := UInt32.ofNat ((size.toNat + 8 - 1) / 8)

structure PTCPQueue where
  blk : Mem MsgHeader
  writeIdx : UInt32
  readIdx : UInt32
  sendIdx : UInt32
  readSeqNum : UInt32
  ackSeqNum : UInt32

/-- What `SanityCheckAndGetSeq` comes to. The last two are not return values: an entry outside
`blk_` is read, or the loop is still running after the given number of turns. -/
inductive SanityCheck where
  | ok (seqStart seqEnd : UInt32)
  | corrupt
  | outOfBounds
  | running
deriving DecidableEq, Repr

namespace PTCPQueue

/-- A queue with its members initialised; `blk_` is whatever the memory held. -/
def init (blk : Mem MsgHeader) : PTCPQueue :=
  ⟨blk, 0, 0, 0, 0, 0⟩

variable (Q : QueueSize) (ed : Endian)

/-! ### Writing -/

/-- The move to the front that makes room in `Alloc`. -/
def compact (q : PTCPQueue) : PTCPQueue :=
  { q with
    blk := q.blk.move 0 q.readIdx.toNat (q.writeIdx - q.readIdx).toNat
    writeIdx := q.writeIdx - q.readIdx
    sendIdx := q.sendIdx - q.readIdx
    readIdx := 0 }

/-- `header.size = size` for the header at `write_idx_`. -/
def setSize (q : PTCPQueue) (size : UInt16) : PTCPQueue :=
  let header := { q.blk q.writeIdx.toNat with size := size }
  { q with blk := q.blk.write q.writeIdx.toNat [header] }

/-- `Alloc`: the state after the call and the returned pointer, `none` for `nullptr`. -/
def alloc (q : PTCPQueue) (size : UInt16) : PTCPQueue × Option Nat :=
  let size := size + 8
  let availSz := Q.blkCnt - q.writeIdx
  if blkSz size > availSz then
    if blkSz size > availSz + q.readIdx then (q, none)
    else (q.compact.setSize size, some q.compact.writeIdx.toNat)
  else (q.setSize size, some q.writeIdx.toNat)

/-- The user fills the message at `p`: its type and everything after the header. -/
def fill (q : PTCPQueue) (p : Nat) (msgType : UInt16) (body : List MsgHeader) : PTCPQueue :=
  { q with blk := (q.blk.write p [{ q.blk p with msgType := msgType }]).write (p + 1) body }

def push (q : PTCPQueue) : PTCPQueue :=
  let header := { q.blk q.writeIdx.toNat with ackSeq := q.ackSeqNum }
  { q with
    blk := q.blk.write q.writeIdx.toNat [header.convertByteOrder ed]
    writeIdx := q.writeIdx + blkSz header.size }

/-! ### Sending -/

/-- `GetSendable`: the returned pointer and `blk_sz`. -/
def getSendable (q : PTCPQueue) : Nat × UInt32 :=
  (q.sendIdx.toNat, q.writeIdx - q.sendIdx)

def sendout (q : PTCPQueue) (n : UInt32) : PTCPQueue :=
  { q with sendIdx := q.sendIdx + n }

/-! ### Acknowledging -/

/-- One turn of the loop in `Ack`. -/
def ackTurn (q : PTCPQueue) : PTCPQueue :=
  { q with
    readIdx := q.readIdx + blkSz (ed.convert16 (q.blk q.readIdx.toNat).size)
    readSeqNum := q.readSeqNum + 1 }

/-- The loop in `Ack` ends when `read_seq_num_`, which grows by one a turn, is `ack_seq`. That is
after `ack_seq - read_seq_num_` turns, a positive number where the loop is entered. -/
def ackLoop : Nat → PTCPQueue → PTCPQueue
  | 0, q => q
  | n + 1, q => ackLoop n (q.ackTurn ed)

def ack (q : PTCPQueue) (ackSeq : UInt32) : PTCPQueue :=
  if (ackSeq - q.readSeqNum).asInt ≤ 0 then q
  else
    let q := ackLoop ed (ackSeq - q.readSeqNum).toNat q
    if q.readIdx = q.writeIdx then { q with readIdx := 0, writeIdx := 0, sendIdx := 0 } else q

def loginAck (q : PTCPQueue) (ackSeq : UInt32) : PTCPQueue :=
  let q := q.ack ed ackSeq
  { q with sendIdx := q.readIdx }

/-- `MyAck()` as an lvalue: the value, and the increment `MyAck()++` in `Pop`. -/
def myAck (q : PTCPQueue) : UInt32 := q.ackSeqNum

def incMyAck (q : PTCPQueue) : PTCPQueue := { q with ackSeqNum := q.ackSeqNum + 1 }

/-! ### Checking -/

/-- At most `fuel` turns of the loop in `SanityCheckAndGetSeq`, from the locals `idx` and `end`. -/
def sanityLoop (q : PTCPQueue) : Nat → UInt32 → UInt32 → SanityCheck
  | 0, _, _ => .running
  | fuel + 1, idx, end_ =>
    if idx < q.writeIdx then
      if idx < Q.blkCnt then
        let header := (q.blk idx.toNat).convertByteOrder ed
        if (q.ackSeqNum - header.ackSeq).asInt < 0 then .corrupt
        else sanityLoop q fuel (idx + blkSz header.size) (end_ + 1)
      else .outOfBounds
    else if idx ≠ q.writeIdx then .corrupt
    else .ok q.readSeqNum end_

/-- A turn moves `idx` forward or leaves it where it is for good, so that a loop that is still
running after `BLK_CNT + 1` turns never ends. -/
def sanityCheckAndGetSeq (q : PTCPQueue) : SanityCheck :=
  q.sanityLoop Q ed (Q.blkCnt.toNat + 1) q.readIdx q.readSeqNum

end PTCPQueue

end Tcpshm
