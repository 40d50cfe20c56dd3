import Tcpshm.Memory
import Tcpshm.Serial
import Tcpshm.MsgHeader

/-!
# The shared-memory queue (`spsc_varq.h`)

`SPSCVarQueue` as the code computes it, with each operation taken as a whole. Memory is a sequence
of 8-byte words, each seen as a `MsgHeader`: the header of `blk[i]` is word `8 * i`, and the rest
of a message follows it. A returned pointer is the index of the block it points to.
-/

namespace Tcpshm

/-- The template argument `Bytes` with its `static_assert`. -/
structure RingSize where
  bytes : UInt32
  pow2 : bytes / 64 ≠ 0 ∧ bytes / 64 &&& (bytes / 64 - 1) = 0

/-- `BLK_CNT`. -/
def RingSize.blkCnt (R : RingSize) : UInt32 := R.bytes / 64

/-- Blocks of 64 bytes taken by `size` bytes. -/
def ringBlkSz (size : UInt16) : UInt32 := UInt32.ofNat ((size.toNat + 64 - 1) / 64)

/-- Words of 8 bytes taken by `size` bytes. -/
def words (size : UInt16) : Nat := (size.toNat + 7) / 8

/-- What the user sees of a message: `ack_seq` is not used in shared memory. -/
structure Payload where
  size : UInt16
  msgType : UInt16
  body : List MsgHeader
deriving DecidableEq, Repr

structure SPSCVarQueue where
  blk : Mem MsgHeader
  writeIdx : UInt32
  writeIdxAtom : UInt32
  readIdxCach : UInt32
  readIdx : UInt32

namespace SPSCVarQueue

/-- A queue with its members initialised; `blk` is whatever the memory held. -/
def init (blk : Mem MsgHeader) : SPSCVarQueue := ⟨blk, 0, 0, 0, 0⟩

/-- The header of `blk[i]`. -/
def header (q : SPSCVarQueue) (i : Nat) : MsgHeader := q.blk (8 * i)

/-- `blk[i].header.size = size`. -/
def setSize (q : SPSCVarQueue) (i : Nat) (size : UInt16) : SPSCVarQueue :=
  { q with blk := q.blk.write (8 * i) [{ q.header i with size := size }] }

/-- The message in `blk[i]`. -/
def msgAt (q : SPSCVarQueue) (i : Nat) : Payload where
  size := (q.header i).size
  msgType := (q.header i).msgType
  body := q.blk.slice (8 * i + 1) (words (q.header i).size - 1)

variable (R : RingSize)

/-- `write_idx % BLK_CNT` and `read_idx % BLK_CNT`. -/
def slot (idx : UInt32) : Nat := (idx % R.blkCnt).toNat

def paddingSz (q : SPSCVarQueue) : UInt32 := R.blkCnt - q.writeIdx % R.blkCnt

/-- `min_read_idx`, and whether the message does not fit before the end of the ring. -/
def rewinds (q : SPSCVarQueue) (size : UInt16) : Bool := ringBlkSz size > q.paddingSz R

def minReadIdx (q : SPSCVarQueue) (size : UInt16) : UInt32 :=
  q.writeIdx + ringBlkSz size + (if q.rewinds R size then q.paddingSz R else 0) - R.blkCnt

/-- Load `read_idx` into the producer's copy. -/
def reload (q : SPSCVarQueue) : SPSCVarQueue := { q with readIdxCach := q.readIdx }

/-- The rewind in `Alloc`: mark the rest of the ring as skipped and go to its start. -/
def rewind (q : SPSCVarQueue) : SPSCVarQueue :=
  { q.setSize (slot R q.writeIdx) 0 with writeIdx := q.writeIdx + q.paddingSz R }

/-- The end of `Alloc`, where there is room for the message. -/
def place (q : SPSCVarQueue) (size : UInt16) : SPSCVarQueue × Option Nat :=
  let q := if q.rewinds R size then q.rewind R else q
  (q.setSize (slot R q.writeIdx) size, some (slot R q.writeIdx))

/-- `Alloc`: the state after the call and the returned pointer, `none` for `nullptr`. -/
def alloc (q : SPSCVarQueue) (size : UInt16) : SPSCVarQueue × Option Nat :=
  let size := size + 8
  let minReadIdx := q.minReadIdx R size
  if (q.readIdxCach - minReadIdx).asInt < 0 then
    let q := q.reload
    if (q.readIdxCach - minReadIdx).asInt < 0 then (q, none)
    else q.place R size
  else q.place R size

/-- The user fills the message in `blk[p]`: its type and the words after the header. -/
def fill (q : SPSCVarQueue) (p : Nat) (msgType : UInt16) (body : List MsgHeader) :
    SPSCVarQueue :=
  let blk := q.blk.write (8 * p) [{ q.header p with msgType := msgType }]
  { q with blk := blk.write (8 * p + 1) body }

def push (q : SPSCVarQueue) : SPSCVarQueue :=
  let writeIdx := q.writeIdx + ringBlkSz (q.header (slot R q.writeIdx)).size
  { q with writeIdx := writeIdx, writeIdxAtom := writeIdx }

/-- `Front`: the state after the call and the returned pointer, `none` for `nullptr`. -/
def front (q : SPSCVarQueue) : SPSCVarQueue × Option Nat :=
  if q.readIdx = q.writeIdxAtom then (q, none)
  else if (q.header (slot R q.readIdx)).size = 0 then
    let readIdx := q.readIdx + (R.blkCnt - q.readIdx % R.blkCnt)
    let q := { q with readIdx := readIdx }
    if readIdx = q.writeIdxAtom then (q, none) else (q, some (slot R readIdx))
  else (q, some (slot R q.readIdx))

def pop (q : SPSCVarQueue) : SPSCVarQueue :=
  { q with readIdx := q.readIdx + ringBlkSz (q.header (slot R q.readIdx)).size }

/-! ### Stores -/

/-- One store of the producer to the shared object. -/
inductive Store where
  | size (i : Nat) (v : UInt16)
  | writeIdx (v : UInt32)
  | writeIdxAtom (v : UInt32)
  | readIdxCach (v : UInt32)

def Store.apply (q : SPSCVarQueue) : Store → SPSCVarQueue
  | size i v => q.setSize i v
  | writeIdx v => { q with writeIdx := v }
  | writeIdxAtom v => { q with writeIdxAtom := v }
  | readIdxCach v => { q with readIdxCach := v }

/-- The block a store goes to, if it goes to `blk`. -/
def Store.block : Store → Option Nat
  | size i _ => some i
  | _ => none

def placeStores (q : SPSCVarQueue) (size : UInt16) : List Store :=
  if q.rewinds R size then
    [.size (slot R q.writeIdx) 0, .writeIdx (q.writeIdx + q.paddingSz R),
      .size (slot R (q.writeIdx + q.paddingSz R)) size]
  else [.size (slot R q.writeIdx) size]

/-- The stores of `Alloc`, in program order. -/
def allocStores (q : SPSCVarQueue) (size : UInt16) : List Store :=
  let size := size + 8
  if (q.readIdxCach - q.minReadIdx R size).asInt < 0 then
    .readIdxCach q.readIdx ::
      if (q.readIdx - q.minReadIdx R size).asInt < 0 then [] else q.placeStores R size
  else q.placeStores R size

theorem place_eq_foldl (q : SPSCVarQueue) (size : UInt16) :
    (q.place R size).1 = (q.placeStores R size).foldl Store.apply q := by
  simp only [place, placeStores]
  split_ifs <;> rfl

theorem alloc_eq_foldl (q : SPSCVarQueue) (size : UInt16) :
    (q.alloc R size).1 = (q.allocStores R size).foldl Store.apply q := by
  have hcach : q.reload.readIdxCach = q.readIdx := rfl
  simp only [alloc, allocStores, hcach]
  split_ifs
  · rfl
  · exact q.reload.place_eq_foldl R (size + 8)
  · exact q.place_eq_foldl R (size + 8)

end SPSCVarQueue

end Tcpshm
