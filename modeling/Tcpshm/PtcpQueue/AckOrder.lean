import Tcpshm.PtcpQueue.Run

/-!
# Acks in any order

`Front` applies the ack of a header each time it looks at it, and a message that is sent again
carries the ack it was pushed with, so that acks come repeatedly and out of order. What counts is
the newest one: the queue forgets as many messages as any of the acks covers.
-/

namespace Tcpshm

/-- An ack that is `d < 2 ^ 31` behind the end of `n` messages covers all but the last `d`. -/
lemma covered_eq_sub {first a : UInt32} {n : Nat} (hn : n < 2 ^ 30)
    (h : (first + UInt32.ofNat n - a).toNat < 2 ^ 31) :
    covered first a = n - (first + UInt32.ofNat n - a).toNat := by
  have h₁ := first.toNat_lt
  have h₂ := a.toNat_lt
  unfold covered
  split_ifs with hle
  · rcases (UInt32.asInt_nonpos_iff _).mp hle with h' | h' <;>
      simp only [UInt32.toNat_sub, UInt32.toNat_add, UInt32.toNat_ofNat'] at h h' ⊢ <;> omega
  · have hpos := (UInt32.asInt_pos_iff _).mp (not_le.mp hle)
    simp only [UInt32.toNat_sub, UInt32.toNat_add, UInt32.toNat_ofNat'] at h hpos ⊢
    omega

/-- After `k` of the messages are forgotten, an ack covers as many less. -/
lemma covered_add_eq_sub {first a : UInt32} {n k : Nat} (hn : n < 2 ^ 30) (hk : k ≤ n)
    (h : (first + UInt32.ofNat n - a).toNat < 2 ^ 31) :
    covered (first + UInt32.ofNat k) a = covered first a - k := by
  have hend : first + UInt32.ofNat k + UInt32.ofNat (n - k) = first + UInt32.ofNat n := by
    rw [UInt32.add_assoc, ← UInt32.ofNat_add, Nat.add_sub_cancel' hk]
  have hcov : covered (first + UInt32.ofNat k) a =
      n - k - (first + UInt32.ofNat k + UInt32.ofNat (n - k) - a).toNat :=
    covered_eq_sub (by omega) (by rw [hend]; exact h)
  rw [hcov, hend, covered_eq_sub hn h]
  omega

namespace PTCPQueue

variable {Q : QueueSize} {ed : Endian} {q : PTCPQueue} {ms : List Msg}

/-- The sequence number after the last of the stored messages `ms`. -/
def seqEnd (q : PTCPQueue) (ms : List Msg) : UInt32 := q.readSeqNum + UInt32.ofNat ms.length

/-! ### Forgetting messages -/

/-- The queue after the first `k` of its messages `ms` are acked. -/
def skip (q : PTCPQueue) (ms : List Msg) (k : Nat) : PTCPQueue :=
  if k = 0 then q
  else if k = ms.length then
    { q with readIdx := 0, writeIdx := 0, sendIdx := 0, readSeqNum := q.readSeqNum + UInt32.ofNat k }
  else
    { q with
      readIdx := UInt32.ofNat (q.readIdx.toNat + blkCnts (ms.take k))
      readSeqNum := q.readSeqNum + UInt32.ofNat k }

@[simp] lemma skip_zero (q : PTCPQueue) (ms : List Msg) : q.skip ms 0 = q := if_pos rfl

lemma Holds.ack_eq_skip (h : Holds Q ed q ms) {a : UInt32}
    (hk : covered q.readSeqNum a ≤ ms.length) :
    q.ack ed a = q.skip ms (covered q.readSeqNum a) := by
  obtain ⟨h₀, heq⟩ | ⟨hpos, hall, heq⟩ | ⟨hpos, hlt, heq⟩ := h.ack_cases rfl hk
  · rw [heq, h₀, skip_zero]
  · rw [heq, skip, if_neg hpos.ne', if_pos hall]
  · rw [heq, skip, if_neg hpos.ne', if_neg hlt.ne]

lemma readSeqNum_skip (q : PTCPQueue) (ms : List Msg) (k : Nat) :
    (q.skip ms k).readSeqNum = q.readSeqNum + UInt32.ofNat k := by
  unfold skip
  split_ifs with h₀
  · simp [h₀]
  · rfl
  · rfl

/-- `Ack` is a walk, which may as well be cut in two. -/
lemma Holds.skip_skip (h : Holds Q ed q ms) {k j : Nat} (hkj : k + j ≤ ms.length) :
    (q.skip ms k).skip (ms.drop k) j = q.skip ms (k + j) := by
  have hQ := Q.blkCnt_lt
  have hw := h.write_le
  have he := h.write_eq
  have hsplit := blkCnts_take_add_drop ms k
  rcases Nat.eq_zero_or_pos k with rfl | hk
  · simp
  rcases Nat.eq_zero_or_pos j with rfl | hj
  · simp
  have hseq : q.readSeqNum + UInt32.ofNat k + UInt32.ofNat j = q.readSeqNum + UInt32.ofNat (k + j) := by
    rw [UInt32.add_assoc, ← UInt32.ofNat_add]
  -- the first walk does not come to the end of the messages
  have hfirst : q.skip ms k = { q with
      readIdx := UInt32.ofNat (q.readIdx.toNat + blkCnts (ms.take k))
      readSeqNum := q.readSeqNum + UInt32.ofNat k } := by
    rw [skip, if_neg hk.ne', if_neg (by omega)]
  rw [hfirst, skip, skip, if_neg hj.ne', if_neg (by omega : k + j ≠ 0), List.length_drop]
  by_cases hall : k + j = ms.length
  · rw [if_pos (by omega), if_pos hall, ← hseq]
  · have hread : (UInt32.ofNat (q.readIdx.toNat + blkCnts (ms.take k))).toNat =
        q.readIdx.toNat + blkCnts (ms.take k) := UInt32.toNat_ofNat_lt (by omega)
    rw [if_neg (by omega), if_neg hall, List.take_add, blkCnts_append, ← hseq]
    simp only [hread, Nat.add_assoc]

lemma Holds.skip (h : Holds Q ed q ms) {k : Nat} (hk : k ≤ ms.length) :
    Holds Q ed (q.skip ms k) (ms.drop k) := by
  have hlen := h.length_lt
  have hcov : covered q.readSeqNum (q.readSeqNum + UInt32.ofNat k) = k := covered_add (by omega)
  have heq := h.ack_eq_skip (a := q.readSeqNum + UInt32.ofNat k) (by rw [hcov]; exact hk)
  have hack := h.ack (a := q.readSeqNum + UInt32.ofNat k) (by rw [hcov]; exact hk)
  rwa [heq, hcov] at hack

/-- Acks covering `k` messages and then one: the queue forgets as many as either covers. -/
theorem Holds.ack_skip (h : Holds Q ed q ms) {k : Nat} (hk : k ≤ ms.length) {a : UInt32}
    (ha : (q.seqEnd ms - a).toNat < 2 ^ 31) :
    (q.skip ms k).ack ed a = q.skip ms (k ⊔ covered q.readSeqNum a) := by
  have hlen := h.length_lt
  have hcov := covered_eq_sub (n := ms.length) (by omega) ha
  have hrest : covered (q.skip ms k).readSeqNum a = covered q.readSeqNum a - k := by
    rw [readSeqNum_skip]
    exact covered_add_eq_sub (by omega) hk ha
  rw [(h.skip hk).ack_eq_skip (by rw [hrest, List.length_drop]; omega), hrest,
    h.skip_skip (by omega)]
  congr 1
  omega

/-- Acks in sequence: the queue forgets as many messages as any of them covers. -/
theorem Holds.foldl_ack (h : Holds Q ed q ms) {as : List UInt32}
    (has : ∀ a ∈ as, (q.seqEnd ms - a).toNat < 2 ^ 31) {k : Nat} (hk : k ≤ ms.length) :
    as.foldl (PTCPQueue.ack ed) (q.skip ms k) =
      q.skip ms (k ⊔ as.toFinset.sup (covered q.readSeqNum)) := by
  have hlen := h.length_lt
  induction as generalizing k with
  | nil => simp
  | cons a as ih =>
    have ha := has a List.mem_cons_self
    have hcov := covered_eq_sub (n := ms.length) (by omega) ha
    rw [List.foldl_cons, h.ack_skip hk ha,
      ih (fun b hb => has b (List.mem_cons_of_mem _ hb)) (by omega), List.toFinset_cons,
      Finset.sup_insert, sup_assoc]

/-! ### Reachable queues -/

/-- The queues an owner can come to, with the messages stored. The user may fill a message and
submit it long after `Alloc`; acks may cover messages that were not sent, and any number of blocks
may have been handed out. -/
inductive Reached (Q : QueueSize) (ed : Endian) : PTCPQueue → List Msg → Prop where
  | init (blk : Mem MsgHeader) : Reached Q ed (init blk) []
  | alloc {q : PTCPQueue} {ms : List Msg} (size : UInt16) (h : Reached Q ed q ms) :
      Reached Q ed (q.alloc Q size).1 ms
  | fill {q : PTCPQueue} {ms : List Msg} (msgType : UInt16) (body : List MsgHeader)
      (h : Reached Q ed q ms) : Reached Q ed (q.fill q.writeIdx.toNat msgType body) ms
  | push {q : PTCPQueue} {ms : List Msg} (m : Msg)
      (hm : m.header = { q.blk q.writeIdx.toNat with ackSeq := q.ackSeqNum })
      (hbody : q.blk.slice (q.writeIdx.toNat + 1) m.body.length = m.body)
      (hroom : q.writeIdx.toNat + m.blkCnt ≤ Q.blkCnt.toNat) (h : Reached Q ed q ms) :
      Reached Q ed (q.push ed) (ms ++ [m])
  | sendout {q : PTCPQueue} {ms : List Msg} (n : UInt32) (h : Reached Q ed q ms) :
      Reached Q ed (q.sendout n) ms
  | ack {q : PTCPQueue} {ms : List Msg} (a : UInt32) (ha : (q.seqEnd ms - a).toNat < 2 ^ 31)
      (h : Reached Q ed q ms) : Reached Q ed (q.ack ed a) (ms.drop (covered q.readSeqNum a))
  | loginAck {q : PTCPQueue} {ms : List Msg} (a : UInt32)
      (ha : (q.seqEnd ms - a).toNat < 2 ^ 31) (h : Reached Q ed q ms) :
      Reached Q ed (q.loginAck ed a) (ms.drop (covered q.readSeqNum a))
  | incMyAck {q : PTCPQueue} {ms : List Msg} (h : Reached Q ed q ms) : Reached Q ed q.incMyAck ms

lemma Holds.covered_le (h : Holds Q ed q ms) {a : UInt32}
    (ha : (q.seqEnd ms - a).toNat < 2 ^ 31) : covered q.readSeqNum a ≤ ms.length := by
  have hlen := h.length_lt
  rw [covered_eq_sub (by omega) ha]
  exact Nat.sub_le _ _

theorem Reached.holds (h : Reached Q ed q ms) : Holds Q ed q ms := by
  induction h with
  | init blk => exact (represents_init blk).toHolds
  | alloc size _ ih => exact ih.alloc size
  | fill msgType body _ ih => exact ih.fill msgType body
  | push m hm hbody hroom _ ih => exact ih.push m hm hbody hroom
  | sendout n _ ih => exact ⟨ih.write_le, ih.write_eq, ih.blk_eq⟩
  | ack a ha _ ih => exact ih.ack (ih.covered_le ha)
  | loginAck a ha _ ih => exact (ih.loginAck (ih.covered_le ha)).toHolds
  | incMyAck _ ih => exact ⟨ih.write_le, ih.write_eq, ih.blk_eq⟩

lemma Represents.seqEnd_eq {W : Window} (h : Represents Q ed q W) :
    q.seqEnd W.msgs = W.seqEnd := by
  rw [seqEnd, h.first_eq, Window.seqEnd]

/-- Every run of the queue is covered. -/
theorem Run.reached {W : Window} {births : List Nat} {acks : Nat} (h : Run Q ed q W births acks) :
    Reached Q ed q W.msgs := by
  induction h with
  | init blk => exact .init blk
  | alloc size _ _ ih => exact ih.alloc size
  | @allocPush q W _ _ size msgType body p _ hp hbody hrun ih =>
    have hh := hrun.inv.represents.toHolds
    obtain ⟨rfl, hroom, hsize, -, -, hack, -⟩ := hh.alloc_some hp
    obtain ⟨h₁, h₂⟩ := fill_at_write (q.alloc Q size).1 msgType hbody hsize
    have hfilled : q.filled size msgType body hbody =
        (q.alloc Q size).1.filled size msgType body hbody := by
      simp only [filled, hack]
    rw [hfilled]
    exact ((ih.alloc size).fill msgType body).push _ h₁ h₂ (by rw [Msg.blkCnt_eq]; exact hroom)
  | sendout n _ _ ih => exact ih.sendout n
  | @ack q W _ _ a ha _ hrun ih =>
    have hr := hrun.inv.represents
    have := ih.ack a (by rw [hr.seqEnd_eq]; exact (UInt32.asInt_nonneg_iff _).mp ha)
    rwa [hr.first_eq] at this
  | @loginAck q W _ _ a ha hrun ih =>
    have hr := hrun.inv.represents
    have := ih.loginAck a (by rw [hr.seqEnd_eq]; exact (UInt32.asInt_nonneg_iff _).mp ha)
    rwa [hr.first_eq] at this
  | incMyAck _ ih => exact ih.incMyAck

/-- Of the acks that lie behind the end of the stored messages only the newest one counts, whatever
the order and however often they come; and if none is newer than the first stored message, nothing
happens. -/
theorem Reached.acks_insensitive (h : Reached Q ed q ms) {as : List UInt32}
    (has : ∀ a ∈ as, (q.seqEnd ms - a).toNat < 2 ^ 31) :
    (∀ a ∈ as, (∀ b ∈ as, (q.seqEnd ms - a).toNat ≤ (q.seqEnd ms - b).toNat) →
      as.foldl (PTCPQueue.ack ed) q = q.ack ed a) ∧
    (∀ bs : List UInt32, (∀ b, b ∈ bs ↔ b ∈ as) →
      bs.foldl (PTCPQueue.ack ed) q = as.foldl (PTCPQueue.ack ed) q) ∧
    ((∀ a ∈ as, (a - q.readSeqNum).asInt ≤ 0) → as.foldl (PTCPQueue.ack ed) q = q) := by
  have hh := h.holds
  have hlen := hh.length_lt
  have hfold : ∀ {bs : List UInt32}, (∀ b ∈ bs, (q.seqEnd ms - b).toNat < 2 ^ 31) →
      bs.foldl (PTCPQueue.ack ed) q = q.skip ms (bs.toFinset.sup (covered q.readSeqNum)) := by
    intro bs hbs
    have := hh.foldl_ack hbs (Nat.zero_le _)
    rwa [skip_zero, Nat.zero_max] at this
  refine ⟨?_, ?_, ?_⟩
  · intro a ha hnewest
    have hle : as.toFinset.sup (covered q.readSeqNum) ≤ covered q.readSeqNum a := by
      apply Finset.sup_le
      intro b hb
      have hb' := List.mem_toFinset.mp hb
      have hdist := hnewest b hb'
      rw [covered_eq_sub (n := ms.length) (by omega) (has b hb'),
        covered_eq_sub (n := ms.length) (by omega) (has a ha)]
      exact Nat.sub_le_sub_left hdist _
    rw [hfold has, hh.ack_eq_skip (hh.covered_le (has a ha)),
      le_antisymm hle (Finset.le_sup (List.mem_toFinset.mpr ha))]
  · intro bs hbs
    have hset : bs.toFinset = as.toFinset := by
      ext b
      simp [hbs]
    rw [hfold has, hfold fun b hb => has b ((hbs b).mp hb), hset]
  · intro hold
    have hzero : as.toFinset.sup (covered q.readSeqNum) = 0 := by
      apply Finset.sup_eq_bot_iff _ _ |>.mpr
      intro a ha
      exact covered_eq_zero (hold a (List.mem_toFinset.mp ha))
    rw [hfold has, hzero, skip_zero]

/-- One message is stored; the acks 1, 0 and 1 come in this order. -/
theorem Reached.acks_insensitive_one_message :
    let Q : QueueSize := ⟨64, rfl⟩
    let ed : Endian := ⟨true, true⟩
    let q := (((PTCPQueue.init fun _ => default).alloc Q 4).1.fill 0 7 [default]).push ed
    [1, 0, 1].foldl (PTCPQueue.ack ed) q = q.ack ed 1 := by
  have h : Run ⟨64, rfl⟩ ⟨true, true⟩ _ _ _ _ :=
    .allocPush 4 7 [default] 0 (by decide) rfl rfl (.init fun _ => default)
  have hend := h.inv.represents.seqEnd_eq
  have hone : ∀ m, (Window.init.push m).seqEnd = 1 := fun _ => rfl
  refine (h.reached.acks_insensitive ?_).1 1 (by decide) ?_
  · simp [hend, hone]
  · simp [hend, hone]

end PTCPQueue

end Tcpshm
