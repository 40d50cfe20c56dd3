import Tcpshm.PtcpQueue.Refinement

/-!
# The check on arbitrary files

`SanityCheckAndGetSeq` walks over whatever a mapped file holds, a message a turn, and takes the
length of every step from the file. Its loop is total and its answer is sound exactly when the
boundaries it walks over are well delimited.
-/

namespace Tcpshm

lemma blkSz_eq_zero_iff {size : UInt16} : blkSz size = 0 ↔ size = 0 := by
  rw [← UInt32.toNat_inj, toNat_blkSz, ← UInt16.toNat_inj]
  simp
  omega

namespace PTCPQueue

variable (Q : QueueSize) (ed : Endian) (q : PTCPQueue)

/-- The header of the message that would begin at `i`. -/
def headerAt (i : UInt32) : MsgHeader := (q.blk i.toNat).convertByteOrder ed

/-- `ack_seq` in the message at `i` is too new. -/
def AckTooNew (i : UInt32) : Prop := (q.ackSeqNum - (q.headerAt ed i).ackSeq).asInt < 0

instance (i : UInt32) : Decidable (q.AckTooNew ed i) := inferInstanceAs (Decidable (_ < _))

/-- The indices between two messages when the file is read as messages from `read_idx_` on, up to
the first one with too new an ack. -/
inductive Boundary : UInt32 → Prop where
  | first : Boundary q.readIdx
  | next {i : UInt32} (h : Boundary i) (hlt : i < q.writeIdx) (hin : i < Q.blkCnt)
      (hold : ¬ q.AckTooNew ed i) : Boundary (i + blkSz (q.headerAt ed i).size)

/-- Every boundary before `write_idx_` is inside `blk_`, every message passed has a size, and
`write_idx_` is inside `blk_` if it is a boundary. -/
structure WellDelimited : Prop where
  inside : ∀ i, Boundary Q ed q i → i < q.writeIdx → i < Q.blkCnt
  sized : ∀ i, Boundary Q ed q i → i < q.writeIdx → ¬ q.AckTooNew ed i →
    (q.headerAt ed i).size ≠ 0
  write_le : Boundary Q ed q q.writeIdx → q.writeIdx ≤ Q.blkCnt

/-- The check terminates, stays inside `blk_`, and accepts only a file that holds messages. -/
structure CheckTotal : Prop where
  terminates : ∃ fuel, q.sanityLoop Q ed fuel q.readIdx q.readSeqNum ≠ .running
  inside : ∀ fuel, q.sanityLoop Q ed fuel q.readIdx q.readSeqNum ≠ .outOfBounds
  sound : ∀ fuel s e, q.sanityLoop Q ed fuel q.readIdx q.readSeqNum = .ok s e →
    ∃ ms, Holds Q ed q ms

variable {Q ed q} {fuel : Nat} {i end_ : UInt32}

/-! ### One turn -/

/-- A turn of the loop inside the file. -/
lemma sanityLoop_turn (hlt : i < q.writeIdx) (hin : i < Q.blkCnt) :
    q.sanityLoop Q ed (fuel + 1) i end_ =
      if q.AckTooNew ed i then .corrupt
      else q.sanityLoop Q ed fuel (i + blkSz (q.headerAt ed i).size) (end_ + 1) := by
  simp only [sanityLoop, hlt, hin, if_true]
  rfl

lemma sanityLoop_outside (hlt : i < q.writeIdx) (hout : ¬ i < Q.blkCnt) :
    q.sanityLoop Q ed (fuel + 1) i end_ = .outOfBounds := by
  simp [sanityLoop, hlt, hout]

lemma sanityLoop_end (hge : ¬ i < q.writeIdx) :
    q.sanityLoop Q ed (fuel + 1) i end_ =
      if i = q.writeIdx then .ok q.readSeqNum end_ else .corrupt := by
  by_cases h : i = q.writeIdx <;> simp [sanityLoop, hge, h]

/-- A message with a size takes a turn forward. -/
lemma toNat_next (hin : i < Q.blkCnt) :
    (i + blkSz (q.headerAt ed i).size).toNat = i.toNat + (blkSz (q.headerAt ed i).size).toNat := by
  have hQ := Q.blkCnt_lt
  have hle := blkSz_le (q.headerAt ed i).size
  have hlt := UInt32.lt_iff_toNat_lt.mp hin
  exact UInt32.toNat_add_of_lt (by omega)

lemma lt_next (hin : i < Q.blkCnt) (hsize : (q.headerAt ed i).size ≠ 0) :
    i.toNat < (i + blkSz (q.headerAt ed i).size).toNat := by
  have hne : (blkSz (q.headerAt ed i).size).toNat ≠ 0 := by
    intro h
    exact hsize (blkSz_eq_zero_iff.mp (UInt32.toNat_inj.mp h))
  rw [toNat_next hin]
  omega

/-- At a message of size 0 the loop stays where it is. -/
lemma sanityLoop_forever (hlt : i < q.writeIdx) (hin : i < Q.blkCnt)
    (hold : ¬ q.AckTooNew ed i) (hsize : (q.headerAt ed i).size = 0) (fuel : Nat) (end_ : UInt32) :
    q.sanityLoop Q ed fuel i end_ = .running := by
  induction fuel generalizing end_ with
  | zero => rfl
  | succ fuel ih =>
    rw [sanityLoop_turn hlt hin, if_neg hold, hsize, blkSz_eq_zero_iff.mpr rfl, UInt32.add_zero]
    exact ih _

lemma sanityLoop_mono (h : q.sanityLoop Q ed fuel i end_ ≠ .running) (n : Nat) :
    q.sanityLoop Q ed (fuel + n) i end_ = q.sanityLoop Q ed fuel i end_ := by
  induction fuel generalizing i end_ with
  | zero => exact absurd rfl h
  | succ fuel ih =>
    rw [Nat.add_right_comm]
    by_cases hlt : i < q.writeIdx
    · by_cases hin : i < Q.blkCnt
      · rw [sanityLoop_turn hlt hin] at h ⊢
        rw [sanityLoop_turn hlt hin]
        split_ifs at h ⊢ with hnew
        · rfl
        · exact ih h
      · rw [sanityLoop_outside hlt hin, sanityLoop_outside hlt hin]
    · rw [sanityLoop_end hlt, sanityLoop_end hlt]

/-- A loop that is still running after `BLK_CNT + 1` turns runs forever. -/
lemma sanityLoop_running (hf : Q.blkCnt.toNat ≤ i.toNat + fuel)
    (h : q.sanityLoop Q ed (fuel + 1) i end_ = .running) (n : Nat) :
    q.sanityLoop Q ed n i end_ = .running := by
  induction fuel generalizing i end_ n with
  | zero =>
    by_cases hlt : i < q.writeIdx
    · have hout : ¬ i < Q.blkCnt := by
        rw [UInt32.lt_iff_toNat_lt]
        omega
      simp [sanityLoop_outside hlt hout] at h
    · rw [sanityLoop_end hlt] at h
      split_ifs at h
  | succ fuel ih =>
    by_cases hlt : i < q.writeIdx
    · by_cases hin : i < Q.blkCnt
      · rw [sanityLoop_turn hlt hin] at h
        split_ifs at h with hnew
        by_cases hsize : (q.headerAt ed i).size = 0
        · exact sanityLoop_forever hlt hin hnew hsize n end_
        · have hstep := lt_next hin hsize
          cases n with
          | zero => rfl
          | succ n =>
            rw [sanityLoop_turn hlt hin, if_neg hnew]
            exact ih (by omega) h n
      · simp [sanityLoop_outside hlt hin] at h
    · rw [sanityLoop_end hlt] at h
      split_ifs at h

/-- `BLK_CNT + 1` turns tell whether the check ends. -/
theorem sanityCheck_running_iff : q.sanityCheckAndGetSeq Q ed = .running ↔
    ∀ n, q.sanityLoop Q ed n q.readIdx q.readSeqNum = .running := by
  constructor
  · intro h
    exact sanityLoop_running (by omega) h
  · intro h
    exact h _

/-! ### The walk over the file -/

/-- The loop comes to every boundary. -/
lemma Boundary.sanityLoop (h : Boundary Q ed q i) :
    ∃ n end_, ∀ fuel, q.sanityLoop Q ed (fuel + n) q.readIdx q.readSeqNum =
      q.sanityLoop Q ed fuel i end_ := by
  induction h with
  | first => exact ⟨0, _, fun _ => rfl⟩
  | next _ hlt hin hold ih =>
    obtain ⟨n, end_, hn⟩ := ih
    refine ⟨n + 1, end_ + 1, fun fuel => ?_⟩
    rw [show fuel + (n + 1) = fuel + 1 + n by omega, hn, sanityLoop_turn hlt hin, if_neg hold]

/-- From boundary to boundary the loop stays inside `blk_`. -/
lemma WellDelimited.ne_outOfBounds (h : WellDelimited Q ed q) (hb : Boundary Q ed q i)
    (fuel : Nat) (end_ : UInt32) : q.sanityLoop Q ed fuel i end_ ≠ .outOfBounds := by
  induction fuel generalizing i end_ with
  | zero => simp [PTCPQueue.sanityLoop]
  | succ fuel ih =>
    by_cases hlt : i < q.writeIdx
    · have hin := h.inside i hb hlt
      rw [sanityLoop_turn hlt hin]
      split_ifs with hnew
      · simp
      · exact ih (hb.next hlt hin hnew) _
    · rw [sanityLoop_end hlt]
      split_ifs <;> simp

/-- Every turn of a well delimited walk gets closer to the end of `blk_`. -/
lemma WellDelimited.ne_running (h : WellDelimited Q ed q) (hb : Boundary Q ed q i)
    (hf : Q.blkCnt.toNat ≤ i.toNat + fuel) (end_ : UInt32) :
    q.sanityLoop Q ed (fuel + 1) i end_ ≠ .running := by
  intro hrun
  have hever := sanityLoop_running hf hrun
  clear hrun
  induction fuel generalizing i end_ with
  | zero =>
    have hone := hever 1
    by_cases hlt : i < q.writeIdx
    · have hin := UInt32.lt_iff_toNat_lt.mp (h.inside i hb hlt)
      omega
    · rw [sanityLoop_end hlt] at hone
      split_ifs at hone
  | succ fuel ih =>
    by_cases hlt : i < q.writeIdx
    · have hin := h.inside i hb hlt
      have hnew : ¬ q.AckTooNew ed i := by
        intro hnew
        have hone := hever 1
        simp [sanityLoop_turn hlt hin, hnew] at hone
      have hstep := lt_next hin (h.sized i hb hlt hnew)
      refine ih (hb.next hlt hin hnew) (by omega) (end_ + 1) fun n => ?_
      have hnext := hever (n + 1)
      rwa [sanityLoop_turn hlt hin, if_neg hnew] at hnext
    · have hone := hever 1
      rw [sanityLoop_end hlt] at hone
      split_ifs at hone

/-- A walk that ends with success ends at `write_idx_`. -/
lemma Boundary.writeIdx_of_ok (hb : Boundary Q ed q i) {s e : UInt32}
    (h : q.sanityLoop Q ed fuel i end_ = .ok s e) : Boundary Q ed q q.writeIdx := by
  induction fuel generalizing i end_ with
  | zero => simp [PTCPQueue.sanityLoop] at h
  | succ fuel ih =>
    by_cases hlt : i < q.writeIdx
    · by_cases hin : i < Q.blkCnt
      · rw [sanityLoop_turn hlt hin] at h
        split_ifs at h with hnew
        exact ih (hb.next hlt hin hnew) h
      · simp [sanityLoop_outside hlt hin] at h
    · rw [sanityLoop_end hlt] at h
      split_ifs at h with heq
      rwa [heq] at hb

/-- A file whose blocks are all 0, with `write_idx_` at 1. -/
def zeroFile : PTCPQueue := { init (fun _ => ⟨0, 0, 0⟩) with writeIdx := 1 }

/-- A file with both indices at the same place behind `blk_`. -/
def behindFile : PTCPQueue := { init (fun _ => ⟨0, 0, 0⟩) with writeIdx := 100, readIdx := 100 }

end PTCPQueue

end Tcpshm
