import Tcpshm.PtcpConn.Stream

/-!
# Acks as counters

A 32-bit ack stands for the number of messages the peer has popped. Read one after the other, acks
move the number of acknowledged messages; what matters is how far they take it.
-/

namespace Tcpshm

/-- The number of acknowledged messages after an ack, `f` before it. -/
def ackTo (f : Nat) (a : UInt32) : Nat := f + covered (UInt32.ofNat f) a

/-- The number of acknowledged messages after some acks. -/
def ackAll (f : Nat) (as : List UInt32) : Nat := as.foldl ackTo f

section

variable {f g b : Nat} {a : UInt32} {as as' : List UInt32}

lemma le_ackTo (f : Nat) (a : UInt32) : f ≤ ackTo f a := Nat.le_add_right _ _

@[simp] lemma ackAll_nil : ackAll f [] = f := rfl

@[simp] lemma ackAll_cons : ackAll f (a :: as) = ackAll (ackTo f a) as := rfl

@[simp] lemma ackAll_append : ackAll f (as ++ as') = ackAll (ackAll f as) as' := List.foldl_append

lemma le_ackAll (f : Nat) (as : List UInt32) : f ≤ ackAll f as := by
  induction as generalizing f with
  | nil => exact le_rfl
  | cons a as ih => exact (le_ackTo f a).trans (ih _)

/-- An ack that is not older moves the counter to itself. -/
lemma ackTo_ofNat (h : f ≤ b) (hb : b < f + 2 ^ 31) : ackTo f (UInt32.ofNat b) = b := by
  obtain ⟨k, rfl⟩ := Nat.exists_eq_add_of_le h
  rw [ackTo, UInt32.ofNat_add, covered_add (by omega)]

/-- An ack that `b` has reached does not move the counter beyond `b`. -/
lemma ackTo_le (h : f ≤ b) (hb : b < f + 2 ^ 30) (ha : 0 ≤ (UInt32.ofNat b - a).asInt) :
    ackTo f a ≤ b := by
  obtain ⟨k, rfl⟩ := Nat.exists_eq_add_of_le h
  rw [UInt32.ofNat_add] at ha
  have := covered_le (n := k) (by omega) ha
  rw [ackTo]
  omega

lemma ackAll_le (h : f ≤ b) (hb : b < f + 2 ^ 30)
    (has : ∀ a ∈ as, 0 ≤ (UInt32.ofNat b - a).asInt) : ackAll f as ≤ b := by
  induction as generalizing f with
  | nil => exact h
  | cons a as ih =>
    have ha := ackTo_le h hb (has a (List.mem_cons_self ..))
    have := le_ackTo f a
    exact ih ha (by omega) fun a' ha' => has a' (List.mem_cons_of_mem _ ha')

/-- The same ack once more changes nothing. -/
lemma ackTo_ackTo (f : Nat) (a : UInt32) : ackTo (ackTo f a) a = ackTo f a := by
  by_cases h : (a - UInt32.ofNat f).asInt ≤ 0
  · have : ackTo f a = f := by rw [ackTo, covered_eq_zero h, Nat.add_zero]
    rw [this, this]
  · have hreach : UInt32.ofNat (ackTo f a) = a := by
      rw [ackTo, UInt32.ofNat_add, add_covered (not_le.mp h)]
    have hzero : (a - a : UInt32).asInt ≤ 0 := by
      rw [show a - a = 0 by grind]
      decide
    conv_lhs => rw [ackTo, hreach, covered_eq_zero hzero, Nat.add_zero]

end

/-- The acks in the headers of a stream. -/
def frameAcks (fs : List Frame) : List UInt32 := fs.map (·.header.ackSeq)

@[simp] lemma frameAcks_append (fs fs' : List Frame) :
    frameAcks (fs ++ fs') = frameAcks fs ++ frameAcks fs' := List.map_append

namespace PTCPConnection

/-- The ack of an incomplete frame that was applied is applied again with the frame, to no
effect. -/
lemma ackAll_headerAcks (f : Nat) (done rest : List Frame) (n : Nat) :
    ackAll (ackAll f (headerAcks done rest n)) (frameAcks rest) =
      ackAll f (frameAcks (done ++ rest)) := by
  rw [headerAcks, ackAll_append, frameAcks_append, ackAll_append]
  cases rest with
  | nil => simp [frameAcks]
  | cons r rest =>
    split_ifs
    · show ackAll (ackTo (ackTo _ _) _) _ = ackAll (ackTo _ _) _
      rw [ackTo_ackTo]
      rfl
    · rfl

variable {C : Conf} {q : PTCPQueue} {ms : List Msg} {f : Nat} {as : List UInt32}

/-- The stored messages after acks: those from the new number on. -/
lemma holds_applyAcks_counted (h : q.Holds C.tcpQueueSize C.endian (ms.drop f))
    (hf : q.readSeqNum = UInt32.ofNat f) (hle : ackAll f as ≤ ms.length) :
    (applyAcks C q as).Holds C.tcpQueueSize C.endian (ms.drop (ackAll f as)) ∧
    (applyAcks C q as).readSeqNum = UInt32.ofNat (ackAll f as) ∧
    (applyAcks C q as).ackSeqNum = q.ackSeqNum := by
  induction as generalizing q f with
  | nil => exact ⟨h, hf, rfl⟩
  | cons a as ih =>
    rw [ackAll_cons] at hle ⊢
    have hto := (le_ackAll (ackTo f a) as).trans hle
    have hk : covered q.readSeqNum a ≤ (ms.drop f).length := by
      rw [hf, List.length_drop]
      unfold ackTo at hto
      omega
    have hh := h.ack hk
    have hseq := h.readSeqNum_ack hk
    rw [hf, ← UInt32.ofNat_add] at hseq
    rw [hf, List.drop_drop] at hh
    obtain ⟨h₁, h₂, h₃⟩ := ih hh hseq hle
    exact ⟨h₁, h₂, h₃.trans (PTCPQueue.ack_frame q a).2⟩

/-- Acks of messages that were sent leave what remains to be sent. -/
lemma represents_applyAcks {sent : Nat}
    (h : q.Represents C.tcpQueueSize C.endian ⟨UInt32.ofNat f, ms.drop f, sent⟩)
    (hle : ackAll f as ≤ ms.length)
    (hsent : blkCnts ((ms.drop f).take (ackAll f as - f)) ≤ sent) :
    ∃ sent', (applyAcks C q as).Represents C.tcpQueueSize C.endian
        ⟨UInt32.ofNat (ackAll f as), ms.drop (ackAll f as), sent'⟩ ∧
      blkCnts (ms.drop (ackAll f as)) - sent' = blkCnts (ms.drop f) - sent ∧
      (storedAll C.endian (ms.drop (ackAll f as))).drop sent' =
        (storedAll C.endian (ms.drop f)).drop sent := by
  induction as generalizing q f sent with
  | nil => exact ⟨sent, h, rfl, rfl⟩
  | cons a as ih =>
    rw [ackAll_cons] at hle hsent ⊢
    have hto := (le_ackAll (ackTo f a) as).trans hle
    have hge := le_ackAll (ackTo f a) as
    set k := covered (UInt32.ofNat f) a with hk
    have htok : ackTo f a = f + k := rfl
    rw [htok] at hle hsent hto hge ⊢
    have hlen : k ≤ (ms.drop f).length := by
      rw [List.length_drop]
      omega
    have hsplit := blkCnts_take_add_drop (ms.drop f) k
    have htake : (ms.drop f).take (ackAll (f + k) as - f) =
        (ms.drop f).take k ++ (ms.drop (f + k)).take (ackAll (f + k) as - (f + k)) := by
      rw [show ackAll (f + k) as - f = k + (ackAll (f + k) as - (f + k)) by omega, List.take_add,
        List.drop_drop]
    rw [htake, blkCnts_append] at hsent
    have hack := h.ack_of_covered (a := a) hlen
      (by show blkCnts ((ms.drop f).take k) ≤ sent; omega)
    have hwin : Window.ack ⟨UInt32.ofNat f, ms.drop f, sent⟩ a =
        ⟨UInt32.ofNat (f + k), ms.drop (f + k), sent - blkCnts ((ms.drop f).take k)⟩ := by
      simp only [Window.ack, Window.drop, ← hk, UInt32.ofNat_add, List.drop_drop]
    rw [hwin] at hack
    obtain ⟨sent', hr, hblk, hdrop⟩ := ih hack hle (by omega)
    rw [List.drop_drop] at hsplit
    refine ⟨sent', hr, by omega, hdrop.trans ?_⟩
    conv_rhs => rw [← List.take_append_drop k (ms.drop f), storedAll_append, List.drop_append,
      length_storedAll, List.drop_of_length_le (by rw [length_storedAll]; omega), List.nil_append,
      List.drop_drop]

end PTCPConnection

end Tcpshm
