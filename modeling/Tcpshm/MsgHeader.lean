import Mathlib

/-!
# Message headers and byte order (`msg_header.h`)

A header is three integers in memory. Which bytes those are depends on the host, and
`ConvertByteOrder` swaps each field when the host's order is not the order of the wire.
-/

namespace Tcpshm

/-- The byte orders in play: `toLittle` is the template parameter `ToLittle`, the order on the
wire, and `isLittle` is `is_little_endian`, the order of the host. -/
structure Endian where
  toLittle : Bool
  isLittle : Bool
deriving DecidableEq, Repr

def bswap16 (x : UInt16) : UInt16 :=
  ((x &&& 0x00FF) <<< 8) ||| ((x &&& 0xFF00) >>> 8)

def bswap32 (x : UInt32) : UInt32 :=
  ((x &&& 0x000000FF) <<< 24) ||| ((x &&& 0x0000FF00) <<< 8) |||
    ((x &&& 0x00FF0000) >>> 8) ||| ((x &&& 0xFF000000) >>> 24)

namespace Endian

/-- `Endian<ToLittle>::Convert` at `uint16_t`. -/
def convert16 (ed : Endian) (v : UInt16) : UInt16 :=
  if ed.toLittle = ed.isLittle then v else bswap16 v

/-- `Endian<ToLittle>::Convert` at `uint32_t`. -/
def convert32 (ed : Endian) (v : UInt32) : UInt32 :=
  if ed.toLittle = ed.isLittle then v else bswap32 v

end Endian

/-- The 8-byte header in front of every message; also the unit of storage of a `PTCPQueue`. -/
structure MsgHeader where
  size : UInt16
  msgType : UInt16
  ackSeq : UInt32
deriving DecidableEq, Repr, Inhabited

def MsgHeader.convertByteOrder (ed : Endian) (h : MsgHeader) : MsgHeader where
  size := ed.convert16 h.size
  msgType := ed.convert16 h.msgType
  ackSeq := ed.convert32 h.ackSeq

/-! ### Bytes in memory -/

def bytes16 (isLittle : Bool) (v : UInt16) : List UInt8 :=
  let le := [v.toUInt8, (v >>> 8).toUInt8]
  if isLittle then le else le.reverse

def bytes32 (isLittle : Bool) (v : UInt32) : List UInt8 :=
  let le := [v.toUInt8, (v >>> 8).toUInt8, (v >>> 16).toUInt8, (v >>> 24).toUInt8]
  if isLittle then le else le.reverse

def word16 (isLittle : Bool) (a b : UInt8) : UInt16 :=
  if isLittle then a.toUInt16 ||| b.toUInt16 <<< 8 else b.toUInt16 ||| a.toUInt16 <<< 8

def word32 (isLittle : Bool) (a b c d : UInt8) : UInt32 :=
  if isLittle then a.toUInt32 ||| b.toUInt32 <<< 8 ||| c.toUInt32 <<< 16 ||| d.toUInt32 <<< 24
  else d.toUInt32 ||| c.toUInt32 <<< 8 ||| b.toUInt32 <<< 16 ||| a.toUInt32 <<< 24

/-- The bytes of a header in the memory of a host of the given order. -/
def MsgHeader.toBytes (isLittle : Bool) (h : MsgHeader) : List UInt8 :=
  bytes16 isLittle h.size ++ bytes16 isLittle h.msgType ++ bytes32 isLittle h.ackSeq

/-- What a host of the given order reads from eight bytes as a header. -/
def MsgHeader.ofBytes (isLittle : Bool) (bs : List UInt8) : MsgHeader where
  size := word16 isLittle (bs.getD 0 0) (bs.getD 1 0)
  msgType := word16 isLittle (bs.getD 2 0) (bs.getD 3 0)
  ackSeq := word32 isLittle (bs.getD 4 0) (bs.getD 5 0) (bs.getD 6 0) (bs.getD 7 0)

/-! ### Swapping -/

lemma getLsbD_bswap16 (x : UInt16) {i : Nat} (hi : i < 16) :
    (bswap16 x).toBitVec.getLsbD i = x.toBitVec.getLsbD (8 - i / 8 * 8 + i % 8) := by
  simp only [bswap16, UInt16.toBitVec_or, UInt16.toBitVec_shiftLeft, UInt16.toBitVec_shiftRight,
    UInt16.toBitVec_and, BitVec.getLsbD_or]
  interval_cases i <;> simp

lemma getLsbD_bswap32 (x : UInt32) {i : Nat} (hi : i < 32) :
    (bswap32 x).toBitVec.getLsbD i = x.toBitVec.getLsbD (24 - i / 8 * 8 + i % 8) := by
  simp only [bswap32, UInt32.toBitVec_or, UInt32.toBitVec_shiftLeft, UInt32.toBitVec_shiftRight,
    UInt32.toBitVec_and, BitVec.getLsbD_or]
  interval_cases i <;> simp

lemma bswap16_bswap16 (x : UInt16) : bswap16 (bswap16 x) = x := by
  apply UInt16.eq_of_toBitVec_eq
  apply BitVec.eq_of_getLsbD_eq
  intro i hi
  rw [getLsbD_bswap16 _ hi, getLsbD_bswap16 _ (by omega)]
  congr 1
  omega

lemma bswap32_bswap32 (x : UInt32) : bswap32 (bswap32 x) = x := by
  apply UInt32.eq_of_toBitVec_eq
  apply BitVec.eq_of_getLsbD_eq
  intro i hi
  rw [getLsbD_bswap32 _ hi, getLsbD_bswap32 _ (by omega)]
  congr 1
  omega

/-- The byte of `x` at offset `k` from its least significant one. -/
lemma getLsbD_byte16 (x : UInt16) (k : UInt16) (hk : k = 0 ∨ k = 8) {i : Nat} (hi : i < 8) :
    ((x >>> k).toUInt8).toBitVec.getLsbD i = x.toBitVec.getLsbD (k.toNat + i) := by
  rcases hk with rfl | rfl <;> simp [hi]

lemma getLsbD_byte32 (x : UInt32) (k : UInt32) (hk : k = 0 ∨ k = 8 ∨ k = 16 ∨ k = 24) {i : Nat}
    (hi : i < 8) :
    ((x >>> k).toUInt8).toBitVec.getLsbD i = x.toBitVec.getLsbD (k.toNat + i) := by
  rcases hk with rfl | rfl | rfl | rfl <;> simp [hi]

lemma byte_bswap16 (x : UInt16) (j k : UInt16) (h : j = 0 ∧ k = 8 ∨ j = 8 ∧ k = 0) :
    (bswap16 x >>> j).toUInt8 = (x >>> k).toUInt8 := by
  apply UInt8.eq_of_toBitVec_eq
  apply BitVec.eq_of_getLsbD_eq
  intro i hi
  rw [getLsbD_byte16 _ _ (by tauto) hi, getLsbD_byte16 _ _ (by tauto) hi]
  rcases h with ⟨rfl, rfl⟩ | ⟨rfl, rfl⟩ <;> simp only [UInt16.reduceToNat] <;>
    rw [getLsbD_bswap16 _ (by omega)] <;> congr 1 <;> omega

lemma byte_bswap32 (x : UInt32) (j k : UInt32)
    (h : j = 0 ∧ k = 24 ∨ j = 8 ∧ k = 16 ∨ j = 16 ∧ k = 8 ∨ j = 24 ∧ k = 0) :
    (bswap32 x >>> j).toUInt8 = (x >>> k).toUInt8 := by
  apply UInt8.eq_of_toBitVec_eq
  apply BitVec.eq_of_getLsbD_eq
  intro i hi
  rw [getLsbD_byte32 _ _ (by tauto) hi, getLsbD_byte32 _ _ (by tauto) hi]
  rcases h with ⟨rfl, rfl⟩ | ⟨rfl, rfl⟩ | ⟨rfl, rfl⟩ | ⟨rfl, rfl⟩ <;>
    simp only [UInt32.reduceToNat] <;>
    rw [getLsbD_bswap32 _ (by omega)] <;> congr 1 <;> omega

/-- Swapping a word and storing it is storing it in the other order. -/
lemma bytes16_bswap16 (l : Bool) (x : UInt16) : bytes16 l (bswap16 x) = bytes16 (!l) x := by
  have h₀ := byte_bswap16 x 0 8 (by tauto)
  have h₁ := byte_bswap16 x 8 0 (by tauto)
  simp only [UInt16.shiftRight_zero] at h₀ h₁
  cases l <;> simp [bytes16, h₀, h₁]

lemma bytes32_bswap32 (l : Bool) (x : UInt32) : bytes32 l (bswap32 x) = bytes32 (!l) x := by
  have h₀ := byte_bswap32 x 0 24 (by tauto)
  have h₁ := byte_bswap32 x 8 16 (by tauto)
  have h₂ := byte_bswap32 x 16 8 (by tauto)
  have h₃ := byte_bswap32 x 24 0 (by tauto)
  simp only [UInt32.shiftRight_zero] at h₀ h₃
  cases l <;> simp [bytes32, h₀, h₁, h₂, h₃]

namespace Endian

variable (ed : Endian)

@[simp] lemma convert16_convert16 (v : UInt16) : ed.convert16 (ed.convert16 v) = v := by
  simp only [convert16]
  split_ifs with h
  · rfl
  · exact bswap16_bswap16 v

@[simp] lemma convert32_convert32 (v : UInt32) : ed.convert32 (ed.convert32 v) = v := by
  simp only [convert32]
  split_ifs with h
  · rfl
  · exact bswap32_bswap32 v

lemma bytes16_convert16 (v : UInt16) :
    bytes16 ed.isLittle (ed.convert16 v) = bytes16 ed.toLittle v := by
  obtain ⟨t, l⟩ := ed
  cases t <;> cases l <;> simp [convert16, bytes16_bswap16]

lemma bytes32_convert32 (v : UInt32) :
    bytes32 ed.isLittle (ed.convert32 v) = bytes32 ed.toLittle v := by
  obtain ⟨t, l⟩ := ed
  cases t <;> cases l <;> simp [convert32, bytes32_bswap32]

end Endian

/-! ### Reading back -/

lemma word16_bytes16 (l : Bool) (v : UInt16) :
    word16 l ((bytes16 l v).getD 0 0) ((bytes16 l v).getD 1 0) = v := by
  have : v.toUInt8.toUInt16 ||| (v >>> 8).toUInt8.toUInt16 <<< 8 = v := by
    apply UInt16.eq_of_toBitVec_eq
    apply BitVec.eq_of_getLsbD_eq
    intro i hi
    simp only [UInt16.toBitVec_or, UInt16.toBitVec_shiftLeft, UInt8.toBitVec_toUInt16,
      UInt16.toBitVec_toUInt8, UInt16.toBitVec_shiftRight, BitVec.getLsbD_or,
      BitVec.getLsbD_setWidth]
    interval_cases i <;> simp
  cases l <;> simpa [word16, bytes16] using this

lemma word32_bytes32 (l : Bool) (v : UInt32) :
    word32 l ((bytes32 l v).getD 0 0) ((bytes32 l v).getD 1 0) ((bytes32 l v).getD 2 0)
      ((bytes32 l v).getD 3 0) = v := by
  have : v.toUInt8.toUInt32 ||| (v >>> 8).toUInt8.toUInt32 <<< 8 |||
      (v >>> 16).toUInt8.toUInt32 <<< 16 ||| (v >>> 24).toUInt8.toUInt32 <<< 24 = v := by
    apply UInt32.eq_of_toBitVec_eq
    apply BitVec.eq_of_getLsbD_eq
    intro i hi
    simp only [UInt32.toBitVec_or, UInt32.toBitVec_shiftLeft, UInt8.toBitVec_toUInt32,
      UInt32.toBitVec_toUInt8, UInt32.toBitVec_shiftRight, BitVec.getLsbD_or,
      BitVec.getLsbD_setWidth]
    interval_cases i <;> simp
  cases l <;> simpa [word32, bytes32] using this

lemma byte_word16 (a b : UInt8) :
    (word16 true a b).toUInt8 = a ∧ (word16 true a b >>> 8).toUInt8 = b := by
  constructor
  all_goals
    apply UInt8.eq_of_toBitVec_eq
    apply BitVec.eq_of_getLsbD_eq
    intro i hi
    simp only [word16, if_true, UInt16.toBitVec_toUInt8, UInt16.toBitVec_shiftRight,
      UInt16.toBitVec_or, UInt8.toBitVec_toUInt16, UInt16.toBitVec_shiftLeft]
    interval_cases i <;> simp

lemma byte_word32 (a b c d : UInt8) :
    (word32 true a b c d).toUInt8 = a ∧ (word32 true a b c d >>> 8).toUInt8 = b ∧
      (word32 true a b c d >>> 16).toUInt8 = c ∧ (word32 true a b c d >>> 24).toUInt8 = d := by
  refine ⟨?_, ?_, ?_, ?_⟩
  all_goals
    apply UInt8.eq_of_toBitVec_eq
    apply BitVec.eq_of_getLsbD_eq
    intro i hi
    simp only [word32, if_true, UInt32.toBitVec_toUInt8, UInt32.toBitVec_shiftRight,
      UInt32.toBitVec_or, UInt8.toBitVec_toUInt32, UInt32.toBitVec_shiftLeft]
    interval_cases i <;> simp

/-- A host stores the bytes it has read a word from. -/
lemma bytes16_word16 (l : Bool) (a b : UInt8) : bytes16 l (word16 l a b) = [a, b] := by
  have h := byte_word16 a b
  have h' := byte_word16 b a
  cases l
  · simpa [bytes16, word16] using h'.symm
  · simpa [bytes16] using h

lemma bytes32_word32 (l : Bool) (a b c d : UInt8) :
    bytes32 l (word32 l a b c d) = [a, b, c, d] := by
  have h := byte_word32 a b c d
  have h' := byte_word32 d c b a
  cases l
  · simpa [bytes32, word32, and_comm, and_assoc] using h'
  · simpa [bytes32] using h

@[simp] lemma length_bytes16 (l : Bool) (v : UInt16) : (bytes16 l v).length = 2 := by
  cases l <;> rfl

@[simp] lemma length_bytes32 (l : Bool) (v : UInt32) : (bytes32 l v).length = 4 := by
  cases l <;> rfl

namespace MsgHeader

@[simp] lemma length_toBytes (l : Bool) (h : MsgHeader) : (h.toBytes l).length = 8 := by
  simp [toBytes]

/-- A host reads back the header it stored. -/
@[simp] lemma ofBytes_toBytes (l : Bool) (h : MsgHeader) : ofBytes l (h.toBytes l) = h := by
  have h₁ := word16_bytes16 l h.size
  have h₂ := word16_bytes16 l h.msgType
  have h₃ := word32_bytes32 l h.ackSeq
  obtain ⟨s, t, a⟩ := h
  cases l <;> simp_all [ofBytes, toBytes, bytes16, bytes32]

/-- A host stores the bytes it has read a header from. -/
lemma toBytes_ofBytes (l : Bool) {bs : List UInt8} (h : bs.length = 8) :
    (ofBytes l bs).toBytes l = bs := by
  match bs, h with
  | [a, b, c, d, e, f, g, i], _ => simp [ofBytes, toBytes, bytes16_word16, bytes32_word32]

@[simp] lemma convertByteOrder_convertByteOrder (ed : Endian) (h : MsgHeader) :
    (h.convertByteOrder ed).convertByteOrder ed = h := by
  simp [convertByteOrder]

@[simp] lemma size_convertByteOrder (ed : Endian) (h : MsgHeader) :
    (h.convertByteOrder ed).size = ed.convert16 h.size := rfl

@[simp] lemma msgType_convertByteOrder (ed : Endian) (h : MsgHeader) :
    (h.convertByteOrder ed).msgType = ed.convert16 h.msgType := rfl

@[simp] lemma ackSeq_convertByteOrder (ed : Endian) (h : MsgHeader) :
    (h.convertByteOrder ed).ackSeq = ed.convert32 h.ackSeq := rfl

/-- A converted header lies in memory in the order of the wire. -/
lemma toBytes_convertByteOrder (ed : Endian) (h : MsgHeader) :
    (h.convertByteOrder ed).toBytes ed.isLittle = h.toBytes ed.toLittle := by
  simp [toBytes, convertByteOrder, ed.bytes16_convert16, ed.bytes32_convert32]

/-- Reading a header off the wire and converting it gives the sender's header. -/
lemma convertByteOrder_ofBytes (ed : Endian) (h : MsgHeader) :
    (ofBytes ed.isLittle (h.toBytes ed.toLittle)).convertByteOrder ed = h := by
  rw [← toBytes_convertByteOrder, ofBytes_toBytes, convertByteOrder_convertByteOrder]

end MsgHeader

end Tcpshm
