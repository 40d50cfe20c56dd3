import Tcpshm.PtcpQueue.Basic

/-!
# The window of un-acked messages

What a `PTCPQueue` is for: it holds the messages the peer has not acknowledged, in order, under
consecutive sequence numbers, and remembers how many of their blocks have been handed out.
-/

namespace Tcpshm

lemma toNat_blkSz (size : UInt16) : (blkSz size).toNat = (size.toNat + 7) / 8 := by
  have := size.toNat_lt
  rw [blkSz, UInt32.toNat_ofNat_lt (by omega)]
  omega

lemma blkSz_le (size : UInt16) : (blkSz size).toNat ≤ 8192 := by
  have := size.toNat_lt
  rw [toNat_blkSz]
  omega

/-- The size `Alloc` stores, unless the addition of the header wraps. -/
lemma toNat_add_eight {size : UInt16} (h : size.toNat + 8 ≤ 65535) :
    (size + 8).toNat = size.toNat + 8 := by
  have h8 : (8 : UInt16).toNat = 8 := rfl
  rw [UInt16.toNat_add, h8]
  omega

lemma toNat_blkSz_add_eight {size : UInt16} (h : size.toNat + 8 ≤ 65535) :
    (blkSz (size + 8)).toNat = (size.toNat + 8 + 7) / 8 := by
  rw [toNat_blkSz, toNat_add_eight h]

/-- A message: its header in host order, and the blocks after the header. -/
structure Msg where
  header : MsgHeader
  body : List MsgHeader
  length_body : body.length + 1 = (blkSz header.size).toNat

namespace Msg

/-- The number of blocks the message takes. -/
def blkCnt (m : Msg) : Nat := m.body.length + 1

/-- The blocks as `Push` leaves them: the header in wire order. -/
def stored (ed : Endian) (m : Msg) : List MsgHeader :=
  m.header.convertByteOrder ed :: m.body

@[simp] lemma length_stored (ed : Endian) (m : Msg) : (m.stored ed).length = m.blkCnt := rfl

lemma blkCnt_pos (m : Msg) : 0 < m.blkCnt := Nat.succ_pos _

lemma blkCnt_eq (m : Msg) : m.blkCnt = (blkSz m.header.size).toNat := m.length_body

end Msg

/-- The blocks taken by a list of messages. -/
def blkCnts (ms : List Msg) : Nat := (ms.map Msg.blkCnt).sum

@[simp] lemma blkCnts_nil : blkCnts [] = 0 := rfl

@[simp] lemma blkCnts_cons (m : Msg) (ms : List Msg) :
    blkCnts (m :: ms) = m.blkCnt + blkCnts ms := rfl

@[simp] lemma blkCnts_append (ms ms' : List Msg) : blkCnts (ms ++ ms') = blkCnts ms + blkCnts ms' := by
  simp [blkCnts]

lemma length_le_blkCnts (ms : List Msg) : ms.length ≤ blkCnts ms := by
  induction ms with
  | nil => rfl
  | cons m ms ih =>
    have := m.blkCnt_pos
    simp only [List.length_cons, blkCnts_cons]
    omega

lemma blkCnts_take_add_drop (ms : List Msg) (k : Nat) :
    blkCnts (ms.take k) + blkCnts (ms.drop k) = blkCnts ms := by
  rw [← blkCnts_append, List.take_append_drop]

lemma blkCnts_eq_zero {ms : List Msg} : blkCnts ms = 0 ↔ ms = [] := by
  constructor
  · intro h
    have := length_le_blkCnts ms
    exact List.length_eq_zero_iff.mp (by omega)
  · rintro rfl
    rfl

/-- The blocks of a list of messages, one message after the other. -/
def storedAll (ed : Endian) (ms : List Msg) : List MsgHeader := ms.flatMap (Msg.stored ed)

@[simp] lemma storedAll_nil (ed : Endian) : storedAll ed [] = [] := rfl

@[simp] lemma storedAll_cons (ed : Endian) (m : Msg) (ms : List Msg) :
    storedAll ed (m :: ms) = m.stored ed ++ storedAll ed ms := rfl

@[simp] lemma storedAll_append (ed : Endian) (ms ms' : List Msg) :
    storedAll ed (ms ++ ms') = storedAll ed ms ++ storedAll ed ms' := by
  simp [storedAll]

@[simp] lemma length_storedAll (ed : Endian) (ms : List Msg) :
    (storedAll ed ms).length = blkCnts ms := by
  induction ms with
  | nil => rfl
  | cons m ms ih => simp [ih]

/-- How many messages from sequence number `first` on an ack covers: none if it is not newer. -/
def covered (first ackSeq : UInt32) : Nat :=
  if (ackSeq - first).asInt ≤ 0 then 0 else (ackSeq - first).toNat

lemma covered_eq_zero {first a : UInt32} (h : (a - first).asInt ≤ 0) : covered first a = 0 :=
  if_pos h

/-- An ack not newer than the end of `n` messages covers at most those. -/
lemma covered_le {first a : UInt32} {n : Nat} (hn : n < 2 ^ 30)
    (h : 0 ≤ (first + UInt32.ofNat n - a).asInt) : covered first a ≤ n := by
  have hend := (UInt32.asInt_nonneg_iff _).mp h
  unfold covered
  split_ifs with hle
  · exact Nat.zero_le _
  · have hpos := (UInt32.asInt_pos_iff _).mp (not_le.mp hle)
    have h₁ := first.toNat_lt
    have h₂ := a.toNat_lt
    simp only [UInt32.toNat_sub, UInt32.toNat_add, UInt32.toNat_ofNat'] at hend hpos ⊢
    omega

lemma covered_add {first : UInt32} {k : Nat} (hk : k < 2 ^ 31) :
    covered first (first + UInt32.ofNat k) = k := by
  have h : (first + UInt32.ofNat k - first).toNat = k := by
    rw [show first + UInt32.ofNat k - first = UInt32.ofNat k by grind,
      UInt32.toNat_ofNat_lt (by omega)]
  unfold covered
  split_ifs with hle
  · rcases (UInt32.asInt_nonpos_iff _).mp hle with h' | h' <;> omega
  · exact h

/-- A newer ack is `first` plus what it covers. -/
lemma add_covered {first a : UInt32} (h : 0 < (a - first).asInt) :
    first + UInt32.ofNat (covered first a) = a := by
  rw [covered, if_neg (not_le.mpr h), UInt32.ofNat_toNat]
  grind

/-- The first un-acked sequence number, the stored messages and how many of their blocks have
been sent. -/
structure Window where
  first : UInt32
  msgs : List Msg
  sent : Nat

namespace Window

def init : Window := ⟨0, [], 0⟩

/-- The sequence number after the last stored message. -/
def seqEnd (W : Window) : UInt32 := W.first + UInt32.ofNat W.msgs.length

def push (W : Window) (m : Msg) : Window := { W with msgs := W.msgs ++ [m] }

def sendout (W : Window) (n : Nat) : Window := { W with sent := W.sent + n }

/-- Forget the first `k` messages. -/
def drop (W : Window) (k : Nat) : Window where
  first := W.first + UInt32.ofNat k
  msgs := W.msgs.drop k
  sent := W.sent - blkCnts (W.msgs.take k)

def ack (W : Window) (ackSeq : UInt32) : Window := W.drop (covered W.first ackSeq)

def loginAck (W : Window) (ackSeq : UInt32) : Window := { W.ack ackSeq with sent := 0 }

/-- The ack is not newer than the end of the stored messages. -/
def NotBeyond (W : Window) (ackSeq : UInt32) : Prop := 0 ≤ (W.seqEnd - ackSeq).asInt

instance (W : Window) (a : UInt32) : Decidable (W.NotBeyond a) :=
  inferInstanceAs (Decidable (_ ≤ _))

/-- The messages the ack covers have been sent completely. -/
def FullySent (W : Window) (ackSeq : UInt32) : Prop :=
  blkCnts (W.msgs.take (covered W.first ackSeq)) ≤ W.sent

instance (W : Window) (a : UInt32) : Decidable (W.FullySent a) :=
  inferInstanceAs (Decidable (_ ≤ _))

@[simp] lemma drop_zero (W : Window) : W.drop 0 = W := by
  simp [drop]

end Window

end Tcpshm
