import Tcpshm.PtcpQueue.Window

/-!
# A queue represents a window

`Holds` says which messages lie between `read_idx_` and `write_idx_`, and `Represents` relates a
queue to a whole window. Each operation of the queue is described once, on queues that hold some
messages; the invariants follow from these descriptions.
-/

namespace Tcpshm

variable {Q : QueueSize} {ed : Endian}

namespace PTCPQueue

/-- The messages `ms` lie between `read_idx_` and `write_idx_`, in wire order, inside `blk_`. -/
structure Holds (Q : QueueSize) (ed : Endian) (q : PTCPQueue) (ms : List Msg) : Prop where
  write_le : q.writeIdx.toNat ≤ Q.blkCnt.toNat
  write_eq : q.writeIdx.toNat = q.readIdx.toNat + blkCnts ms
  blk_eq : q.blk.slice q.readIdx.toNat (blkCnts ms) = storedAll ed ms

/-- The queue holds the messages of the window, under its sequence numbers, and `send_idx_` is
behind the blocks already sent. -/
structure Represents (Q : QueueSize) (ed : Endian) (q : PTCPQueue) (W : Window) : Prop
    extends Holds Q ed q W.msgs where
  first_eq : q.readSeqNum = W.first
  send_eq : q.sendIdx.toNat = q.readIdx.toNat + W.sent
  sent_le : W.sent ≤ blkCnts W.msgs

variable {q : PTCPQueue} {ms : List Msg} {W : Window}

lemma Holds.blkCnts_le (h : Holds Q ed q ms) : blkCnts ms ≤ Q.blkCnt.toNat := by
  have := h.write_le
  have := h.write_eq
  omega

lemma Holds.length_lt (h : Holds Q ed q ms) : ms.length < 2 ^ 29 := by
  have := length_le_blkCnts ms
  have := h.blkCnts_le
  have := Q.blkCnt_lt
  omega

lemma Holds.toNat_write_sub_read (h : Holds Q ed q ms) :
    (q.writeIdx - q.readIdx).toNat = blkCnts ms := by
  have := h.write_eq
  rw [UInt32.toNat_sub_of_le' (by omega)]
  omega

/-! ### Alloc -/

/-- Writing at or after `write_idx_` leaves the held messages alone. -/
lemma Holds.write (h : Holds Q ed q ms) {a : Nat} (ha : q.writeIdx.toNat ≤ a)
    (xs : List MsgHeader) : Holds Q ed { q with blk := q.blk.write a xs } ms where
  write_le := h.write_le
  write_eq := h.write_eq
  blk_eq := by
    have := h.write_eq
    rw [← h.blk_eq]
    exact Mem.slice_write_of_disjoint (b := q.readIdx.toNat) _ (Or.inl (by omega))

lemma Holds.setSize (h : Holds Q ed q ms) (size : UInt16) : Holds Q ed (q.setSize size) ms :=
  h.write le_rfl _

lemma Holds.fill (h : Holds Q ed q ms) (t : UInt16) (body : List MsgHeader) :
    Holds Q ed (q.fill q.writeIdx.toNat t body) ms :=
  (h.write le_rfl _).write (q := { q with blk := _ }) (Nat.le_succ _) _

lemma Holds.compact (h : Holds Q ed q ms) : Holds Q ed q.compact ms where
  write_le := by
    have := h.blkCnts_le
    show (q.writeIdx - q.readIdx).toNat ≤ _
    rwa [h.toNat_write_sub_read]
  write_eq := by
    show (q.writeIdx - q.readIdx).toNat = (0 : UInt32).toNat + _
    rw [h.toNat_write_sub_read]
    exact (Nat.zero_add _).symm
  blk_eq := by
    show (q.blk.move 0 q.readIdx.toNat (q.writeIdx - q.readIdx).toNat).slice 0 _ = _
    rw [h.toNat_write_sub_read, Mem.slice_move_self, h.blk_eq]

/-- What `Alloc` does: it fails, or it stores the size at `write_idx_`, with or without moving
the held messages to the front first. -/
lemma Holds.alloc_cases (h : Holds Q ed q ms) (size : UInt16) :
    (Q.blkCnt.toNat < blkCnts ms + (blkSz (size + 8)).toNat ∧ q.alloc Q size = (q, none)) ∨
    (q.writeIdx.toNat + (blkSz (size + 8)).toNat ≤ Q.blkCnt.toNat ∧
      q.alloc Q size = (q.setSize (size + 8), some q.writeIdx.toNat)) ∨
    (Q.blkCnt.toNat < q.writeIdx.toNat + (blkSz (size + 8)).toNat ∧
      blkCnts ms + (blkSz (size + 8)).toNat ≤ Q.blkCnt.toNat ∧
      q.alloc Q size = (q.compact.setSize (size + 8), some q.compact.writeIdx.toNat)) := by
  have hw := h.write_le
  have he := h.write_eq
  have hQ := Q.blkCnt_lt
  have havail : (Q.blkCnt - q.writeIdx).toNat = Q.blkCnt.toNat - q.writeIdx.toNat :=
    UInt32.toNat_sub_of_le' hw
  have hsum : (Q.blkCnt - q.writeIdx + q.readIdx).toNat =
      Q.blkCnt.toNat - q.writeIdx.toNat + q.readIdx.toNat := by
    rw [UInt32.toNat_add_of_lt (by omega), havail]
  simp only [PTCPQueue.alloc, gt_iff_lt, UInt32.lt_iff_toNat_lt, havail, hsum]
  split_ifs with h₁ h₂
  · exact Or.inl ⟨by omega, rfl⟩
  · exact Or.inr (Or.inr ⟨by omega, by omega, rfl⟩)
  · exact Or.inr (Or.inl ⟨by omega, rfl⟩)

/-- A successful `Alloc` returns the block at `write_idx_`, with the size stored and room for the
message. -/
lemma Holds.alloc_some (h : Holds Q ed q ms) {size : UInt16} {p : Nat}
    (hp : (q.alloc Q size).2 = some p) :
    p = (q.alloc Q size).1.writeIdx.toNat ∧
    p + (blkSz (size + 8)).toNat ≤ Q.blkCnt.toNat ∧
    ((q.alloc Q size).1.blk p).size = size + 8 ∧
    Holds Q ed (q.alloc Q size).1 ms ∧
    (q.alloc Q size).1.readSeqNum = q.readSeqNum ∧
    (q.alloc Q size).1.ackSeqNum = q.ackSeqNum ∧
    (q.alloc Q size).1.sendIdx - (q.alloc Q size).1.readIdx = q.sendIdx - q.readIdx := by
  obtain ⟨_, heq⟩ | ⟨hle, heq⟩ | ⟨_, hle, heq⟩ := h.alloc_cases size
  · simp [heq] at hp
  · rw [heq] at hp ⊢
    obtain rfl : q.writeIdx.toNat = p := by simpa using hp
    exact ⟨rfl, hle, by simp [PTCPQueue.setSize], h.setSize _, rfl, rfl, rfl⟩
  · rw [heq] at hp ⊢
    obtain rfl : q.compact.writeIdx.toNat = p := by simpa using hp
    refine ⟨rfl, ?_, by simp [PTCPQueue.setSize], h.compact.setSize _, rfl, rfl, ?_⟩
    · have : q.compact.writeIdx.toNat = blkCnts ms := h.toNat_write_sub_read
      omega
    · show q.sendIdx - q.readIdx - 0 = _
      simp

/-- `Alloc` returns null exactly when the message does not fit beside the held ones. -/
lemma Holds.alloc_none_iff (h : Holds Q ed q ms) (size : UInt16) :
    (q.alloc Q size).2 = none ↔ Q.blkCnt.toNat < blkCnts ms + (blkSz (size + 8)).toNat := by
  have := h.write_eq
  obtain ⟨hlt, heq⟩ | ⟨hle, heq⟩ | ⟨_, hle, heq⟩ := h.alloc_cases size
  · simpa [heq] using hlt
  · simp only [heq, reduceCtorEq, false_iff]
    omega
  · simp only [heq, reduceCtorEq, false_iff]
    omega

lemma Holds.alloc_none (h : Holds Q ed q ms) {size : UInt16} (hn : (q.alloc Q size).2 = none) :
    (q.alloc Q size).1 = q := by
  obtain ⟨_, heq⟩ | ⟨_, heq⟩ | ⟨_, _, heq⟩ := h.alloc_cases size
  · rw [heq]
  · simp [heq] at hn
  · simp [heq] at hn

lemma Holds.alloc (h : Holds Q ed q ms) (size : UInt16) :
    Holds Q ed (q.alloc Q size).1 ms := by
  cases hp : (q.alloc Q size).2 with
  | none => rwa [h.alloc_none hp]
  | some p => exact (h.alloc_some hp).2.2.2.1

/-- `Alloc` never changes the window. -/
theorem Represents.alloc (h : Represents Q ed q W) (size : UInt16) :
    Represents Q ed (q.alloc Q size).1 W := by
  cases hp : (q.alloc Q size).2 with
  | none => rwa [h.toHolds.alloc_none hp]
  | some p =>
    obtain ⟨-, -, -, hh, hseq, -, -⟩ := h.toHolds.alloc_some hp
    refine ⟨hh, hseq.trans h.first_eq, ?_, h.sent_le⟩
    obtain ⟨_, heq⟩ | ⟨_, heq⟩ | ⟨_, _, heq⟩ := h.toHolds.alloc_cases size
    · simp [heq] at hp
    · rw [heq]
      exact h.send_eq
    · rw [heq]
      have := h.send_eq
      show (q.sendIdx - q.readIdx).toNat = (0 : UInt32).toNat + W.sent
      rw [UInt32.toNat_sub_of_le' (by omega)]
      simp only [UInt32.toNat_zero]
      omega

/-! ### Push -/

/-- `Push` appends the message that lies at `write_idx_`. -/
lemma Holds.push (h : Holds Q ed q ms) (m : Msg)
    (hm : m.header = { q.blk q.writeIdx.toNat with ackSeq := q.ackSeqNum })
    (hbody : q.blk.slice (q.writeIdx.toNat + 1) m.body.length = m.body)
    (hroom : q.writeIdx.toNat + m.blkCnt ≤ Q.blkCnt.toNat) :
    Holds Q ed (q.push ed) (ms ++ [m]) := by
  have hQ := Q.blkCnt_lt
  have he := h.write_eq
  have hsize : (blkSz (q.blk q.writeIdx.toNat).size).toNat = m.blkCnt := by
    rw [m.blkCnt_eq, hm]
  have hwrite : (q.push ed).writeIdx.toNat = q.writeIdx.toNat + m.blkCnt := by
    show (q.writeIdx + blkSz (q.blk q.writeIdx.toNat).size).toNat = _
    rw [UInt32.toNat_add_of_lt (by omega), hsize]
  have hblk : (q.push ed).blk =
      q.blk.write q.writeIdx.toNat [m.header.convertByteOrder ed] := by
    rw [hm]
    rfl
  refine ⟨by rw [hwrite]; exact hroom, ?_, ?_⟩
  · rw [hwrite, he, blkCnts_append]
    show _ = q.readIdx.toNat + _
    simp
    omega
  · have hold : (q.push ed).blk.slice q.readIdx.toNat (blkCnts ms) = storedAll ed ms := by
      rw [hblk, Mem.slice_write_of_disjoint _ (Or.inl (by omega)), h.blk_eq]
    have hnew : (q.push ed).blk.slice q.writeIdx.toNat m.blkCnt = m.stored ed := by
      rw [Msg.blkCnt, Mem.slice_succ, hblk, Mem.write_singleton_self,
        Mem.slice_write_of_disjoint _ (Or.inr (by simp)), hbody]
      rfl
    show (q.push ed).blk.slice q.readIdx.toNat _ = _
    rw [blkCnts_append, storedAll_append]
    apply Mem.slice_append_slice hold
    rw [← he]
    simpa using hnew

/-- The message that `Push` submits after a successful `Alloc` of `size` and a `fill`. -/
def filled (q : PTCPQueue) (size msgType : UInt16) (body : List MsgHeader)
    (hbody : body.length + 1 = (blkSz (size + 8)).toNat) : Msg where
  header := ⟨size + 8, msgType, q.ackSeqNum⟩
  body := body
  length_body := hbody

/-- After `fill` at `write_idx_` the filled message lies there. -/
lemma fill_at_write (q : PTCPQueue) {size : UInt16} (t : UInt16) {body : List MsgHeader}
    (hbody : body.length + 1 = (blkSz (size + 8)).toNat)
    (hsize : (q.blk q.writeIdx.toNat).size = size + 8) :
    let q' := q.fill q.writeIdx.toNat t body
    (q.filled size t body hbody).header = { q'.blk q'.writeIdx.toNat with ackSeq := q'.ackSeqNum } ∧
    q'.blk.slice (q'.writeIdx.toNat + 1) body.length = body := by
  constructor
  · show _ = { ((q.blk.write q.writeIdx.toNat [{ q.blk q.writeIdx.toNat with msgType := t }]).write
        (q.writeIdx.toNat + 1) body) q.writeIdx.toNat with ackSeq := q.ackSeqNum }
    rw [Mem.write_apply_of_lt (Nat.lt_succ_self _), Mem.write_singleton_self]
    simp only [filled, hsize]
  · exact Mem.slice_write_self _ _ _

/-- `Alloc`, filling the returned message and `Push` append exactly the filled message. -/
lemma Holds.alloc_fill_push (h : Holds Q ed q ms) {size : UInt16} {p : Nat}
    (hp : (q.alloc Q size).2 = some p) (t : UInt16) {body : List MsgHeader}
    (hbody : body.length + 1 = (blkSz (size + 8)).toNat) :
    Holds Q ed (((q.alloc Q size).1.fill p t body).push ed)
      (ms ++ [q.filled size t body hbody]) := by
  obtain ⟨rfl, hroom, hsize, hh, -, hack, -⟩ := h.alloc_some hp
  obtain ⟨h₁, h₂⟩ := fill_at_write (q.alloc Q size).1 t hbody hsize
  have hfilled : q.filled size t body hbody = (q.alloc Q size).1.filled size t body hbody := by
    simp only [filled, hack]
  rw [hfilled]
  refine (hh.fill t body).push _ h₁ h₂ ?_
  rw [Msg.blkCnt_eq]
  exact hroom

theorem Represents.alloc_fill_push (h : Represents Q ed q W) {size : UInt16} {p : Nat}
    (hp : (q.alloc Q size).2 = some p) (t : UInt16) {body : List MsgHeader}
    (hbody : body.length + 1 = (blkSz (size + 8)).toNat) :
    Represents Q ed (((q.alloc Q size).1.fill p t body).push ed)
      (W.push (q.filled size t body hbody)) := by
  have ha := h.alloc size
  refine ⟨h.toHolds.alloc_fill_push hp t hbody, ha.first_eq, ha.send_eq, ?_⟩
  have := h.sent_le
  simp only [Window.push, blkCnts_append]
  omega

/-! ### Sendable blocks -/

/-- `GetSendable` points at the unsent blocks. -/
lemma Represents.getSendable (h : Represents Q ed q W) :
    q.blk.slice q.getSendable.1 q.getSendable.2.toNat = (storedAll ed W.msgs).drop W.sent := by
  have he := h.write_eq
  have hs := h.send_eq
  have hle := h.sent_le
  have : q.getSendable.2.toNat = blkCnts W.msgs - W.sent := by
    show (q.writeIdx - q.sendIdx).toNat = _
    rw [UInt32.toNat_sub_of_le' (by omega)]
    omega
  rw [this, ← h.blk_eq, Mem.drop_slice _ _ _ _ hle]
  show q.blk.slice q.sendIdx.toNat _ = _
  rw [hs]

lemma Represents.toNat_sendable (h : Represents Q ed q W) :
    q.getSendable.2.toNat = blkCnts W.msgs - W.sent := by
  have := congrArg List.length h.getSendable
  simpa using this

theorem Represents.sendout (h : Represents Q ed q W) {n : UInt32}
    (hn : W.sent + n.toNat ≤ blkCnts W.msgs) :
    Represents Q ed (q.sendout n) (W.sendout n.toNat) := by
  have hQ := Q.blkCnt_lt
  have hw := h.write_le
  have he := h.write_eq
  have hs := h.send_eq
  refine ⟨⟨hw, he, h.blk_eq⟩, h.first_eq, ?_, hn⟩
  show (q.sendIdx + n).toNat = q.readIdx.toNat + (W.sent + n.toNat)
  rw [UInt32.toNat_add_of_lt (by omega)]
  omega

/-! ### Ack -/

/-- The loop of `Ack` walks over as many messages as it makes turns. -/
lemma ackLoop_eq {k : Nat} {ms : List Msg} (hk : k ≤ ms.length) (q : PTCPQueue)
    (hblk : q.blk.slice q.readIdx.toNat (blkCnts ms) = storedAll ed ms)
    (hlt : q.readIdx.toNat + blkCnts ms < 2 ^ 32) :
    ackLoop ed k q = { q with
      readIdx := UInt32.ofNat (q.readIdx.toNat + blkCnts (ms.take k))
      readSeqNum := q.readSeqNum + UInt32.ofNat k } := by
  induction k generalizing q ms with
  | zero => simp [ackLoop]
  | succ k ih =>
    obtain _ | ⟨m, ms⟩ := ms
    · simp at hk
    rw [blkCnts_cons, storedAll_cons] at hblk
    obtain ⟨hhead, htail⟩ := Mem.slice_eq_append hblk
    rw [Msg.length_stored, Nat.add_sub_cancel_left] at htail
    rw [Msg.length_stored, Msg.blkCnt, Mem.slice_succ, Msg.stored] at hhead
    have hsize : blkSz (ed.convert16 (q.blk q.readIdx.toNat).size) = blkSz m.header.size := by
      rw [(List.cons.inj hhead).1]
      simp
    have hread : (q.ackTurn ed).readIdx.toNat = q.readIdx.toNat + m.blkCnt := by
      show (q.readIdx + blkSz _).toNat = _
      rw [blkCnts_cons, m.blkCnt_eq] at hlt
      rw [hsize, m.blkCnt_eq, UInt32.toNat_add_of_lt (by omega)]
    rw [blkCnts_cons] at hlt
    rw [ackLoop, ih (by simpa using hk) (q.ackTurn ed) (by rw [hread]; exact htail)
      (by rw [hread]; omega), hread]
    simp only [ackTurn, List.take_succ_cons, blkCnts_cons, Nat.add_assoc, UInt32.ofNat_succ,
      mk.injEq, true_and, and_true]
    grind

/-- What `Ack` does with an ack that covers `k` messages: nothing, clear the queue, or move
`read_idx_` behind them. -/
lemma Holds.ack_cases (h : Holds Q ed q ms) {a : UInt32} {k : Nat}
    (hc : covered q.readSeqNum a = k) (hk : k ≤ ms.length) :
    (k = 0 ∧ q.ack ed a = q) ∨
    (0 < k ∧ k = ms.length ∧ q.ack ed a = { q with
      readIdx := 0, writeIdx := 0, sendIdx := 0
      readSeqNum := q.readSeqNum + UInt32.ofNat k }) ∨
    (0 < k ∧ k < ms.length ∧ q.ack ed a = { q with
      readIdx := UInt32.ofNat (q.readIdx.toNat + blkCnts (ms.take k))
      readSeqNum := q.readSeqNum + UInt32.ofNat k }) := by
  have hQ := Q.blkCnt_lt
  have hw := h.write_le
  have he := h.write_eq
  have hsplit := blkCnts_take_add_drop ms k
  unfold PTCPQueue.ack
  unfold covered at hc
  split_ifs at hc ⊢ with hle
  · exact Or.inl ⟨hc.symm, rfl⟩
  have hpos : 0 < k := hc ▸ ((UInt32.asInt_pos_iff _).mp (not_le.mp hle)).1
  rw [hc, ackLoop_eq hk q h.blk_eq (by omega)]
  have hread : (UInt32.ofNat (q.readIdx.toNat + blkCnts (ms.take k))).toNat =
      q.readIdx.toNat + blkCnts (ms.take k) := UInt32.toNat_ofNat_lt (by omega)
  simp only [← UInt32.toNat_inj (b := q.writeIdx), hread]
  split_ifs with hreset
  · have hnil : ms.drop k = [] := blkCnts_eq_zero.mp (by omega)
    exact Or.inr (Or.inl ⟨hpos, le_antisymm hk (List.drop_eq_nil_iff.mp hnil), rfl⟩)
  · refine Or.inr (Or.inr ⟨hpos, lt_of_le_of_ne hk ?_, rfl⟩)
    rintro rfl
    simp at hsplit
    simp [he] at hreset

/-- `Ack` removes the covered messages. -/
lemma Holds.ack (h : Holds Q ed q ms) {a : UInt32} (hk : covered q.readSeqNum a ≤ ms.length) :
    Holds Q ed (q.ack ed a) (ms.drop (covered q.readSeqNum a)) := by
  have hQ := Q.blkCnt_lt
  have hw := h.write_le
  have he := h.write_eq
  have hsplit := blkCnts_take_add_drop ms (covered q.readSeqNum a)
  obtain ⟨h₀, heq⟩ | ⟨_, hall, heq⟩ | ⟨_, hlt, heq⟩ := h.ack_cases rfl hk
  · rw [heq, h₀]
    exact h
  · rw [heq, hall, List.drop_length]
    exact ⟨Nat.zero_le _, rfl, rfl⟩
  · have hread : (UInt32.ofNat (q.readIdx.toNat + blkCnts (ms.take (covered q.readSeqNum a)))).toNat =
        q.readIdx.toNat + blkCnts (ms.take (covered q.readSeqNum a)) :=
      UInt32.toNat_ofNat_lt (by omega)
    rw [heq]
    refine ⟨hw, ?_, ?_⟩
    · show q.writeIdx.toNat = (UInt32.ofNat _).toNat + _
      omega
    · have hblk := h.blk_eq
      rw [← hsplit, ← List.take_append_drop (covered q.readSeqNum a) ms, storedAll_append,
        List.take_append_drop] at hblk
      have := (Mem.slice_eq_append hblk).2
      rw [length_storedAll, Nat.add_sub_cancel_left] at this
      show q.blk.slice (UInt32.ofNat _).toNat _ = _
      rw [hread, this]

lemma Holds.readSeqNum_ack (h : Holds Q ed q ms) {a : UInt32}
    (hk : covered q.readSeqNum a ≤ ms.length) :
    (q.ack ed a).readSeqNum = q.readSeqNum + UInt32.ofNat (covered q.readSeqNum a) := by
  obtain ⟨h₀, heq⟩ | ⟨_, _, heq⟩ | ⟨_, _, heq⟩ := h.ack_cases rfl hk
  · rw [heq, h₀]
    simp
  · rw [heq]
  · rw [heq]

/-- `Ack` writes neither the blocks nor `ack_seq_num_`. -/
lemma ack_frame (q : PTCPQueue) (a : UInt32) :
    (q.ack ed a).blk = q.blk ∧ (q.ack ed a).ackSeqNum = q.ackSeqNum := by
  have hloop : ∀ n (q : PTCPQueue),
      (ackLoop ed n q).blk = q.blk ∧ (ackLoop ed n q).ackSeqNum = q.ackSeqNum := by
    intro n
    induction n with
    | zero => exact fun q => ⟨rfl, rfl⟩
    | succ n ih => exact fun q => ih (q.ackTurn ed)
  unfold PTCPQueue.ack
  split_ifs
  · exact ⟨rfl, rfl⟩
  · dsimp only
    split_ifs <;> exact hloop _ _

/-- An ack not beyond the end of the window covers stored messages only. -/
lemma Represents.covered_le (h : Represents Q ed q W) {a : UInt32} (ha : W.NotBeyond a) :
    covered W.first a ≤ W.msgs.length := by
  have := h.toHolds.length_lt
  exact Tcpshm.covered_le (by omega) ha

lemma Represents.ack_of_covered (h : Represents Q ed q W) {a : UInt32}
    (hk : covered W.first a ≤ W.msgs.length) (hs : W.FullySent a) :
    Represents Q ed (q.ack ed a) (W.ack a) := by
  have hQ := Q.blkCnt_lt
  have hw := h.write_le
  have he := h.write_eq
  have hsend := h.send_eq
  have hle := h.sent_le
  have hk' := hk
  rw [← h.first_eq] at hk'
  have hseq := h.toHolds.readSeqNum_ack hk'
  have hh := h.toHolds.ack hk'
  rw [h.first_eq] at hseq hh
  unfold Window.FullySent at hs
  have hsplit := blkCnts_take_add_drop W.msgs (covered W.first a)
  refine ⟨hh, hseq, ?_, ?_⟩
  · simp only [Window.ack, Window.drop]
    obtain ⟨h₀, heq⟩ | ⟨_, hall, heq⟩ | ⟨_, _, heq⟩ := h.toHolds.ack_cases (by rw [h.first_eq]) hk
    · rw [heq, h₀]
      simpa using hsend
    · rw [heq, hall, List.take_length]
      simp
      omega
    · rw [heq]
      show q.sendIdx.toNat = (UInt32.ofNat _).toNat + _
      rw [UInt32.toNat_ofNat_lt (by omega)]
      omega
  · simp only [Window.ack, Window.drop]
    omega

theorem Represents.ack (h : Represents Q ed q W) {a : UInt32} (ha : W.NotBeyond a)
    (hs : W.FullySent a) : Represents Q ed (q.ack ed a) (W.ack a) :=
  h.ack_of_covered (h.covered_le ha) hs

/-- `LoginAck` starts to send anew, wherever `send_idx_` was. -/
lemma Holds.loginAck (h : Holds Q ed q ms) {a : UInt32} (hk : covered q.readSeqNum a ≤ ms.length) :
    Represents Q ed (q.loginAck ed a) (Window.loginAck ⟨q.readSeqNum, ms, 0⟩ a) := by
  have hseq := h.readSeqNum_ack hk
  have hh := h.ack hk
  exact ⟨⟨hh.write_le, hh.write_eq, hh.blk_eq⟩, hseq, rfl, Nat.zero_le _⟩

theorem Represents.loginAck (h : Represents Q ed q W) {a : UInt32} (ha : W.NotBeyond a) :
    Represents Q ed (q.loginAck ed a) (W.loginAck a) := by
  have hk := h.covered_le ha
  rw [← h.first_eq] at hk
  have hl := h.toHolds.loginAck hk
  rw [h.first_eq] at hl
  exact ⟨hl.toHolds, hl.first_eq, hl.send_eq, Nat.zero_le _⟩

/-! ### The check -/

/-- No stored message carries an ack newer than `ack_seq_num_`. -/
def AcksOld (q : PTCPQueue) (ms : List Msg) : Prop :=
  ∀ m ∈ ms, 0 ≤ (q.ackSeqNum - m.header.ackSeq).asInt

instance (q : PTCPQueue) (ms : List Msg) : Decidable (q.AcksOld ms) :=
  inferInstanceAs (Decidable (∀ m ∈ ms, _))

/-- On stored messages the loop runs to the end, unless one carries too new an ack. -/
lemma sanityLoop_eq {ms : List Msg} {fuel : Nat} {idx end_ : UInt32} (hf : ms.length < fuel)
    (hblk : q.blk.slice idx.toNat (blkCnts ms) = storedAll ed ms)
    (hidx : q.writeIdx.toNat = idx.toNat + blkCnts ms)
    (hw : q.writeIdx.toNat ≤ Q.blkCnt.toNat) :
    q.sanityLoop Q ed fuel idx end_ =
      if q.AcksOld ms then .ok q.readSeqNum (end_ + UInt32.ofNat ms.length) else .corrupt := by
  have hQ := Q.blkCnt_lt
  induction ms generalizing fuel idx end_ with
  | nil =>
    obtain ⟨f, rfl⟩ := Nat.exists_eq_add_of_lt hf
    have heq : idx = q.writeIdx := UInt32.toNat_inj.mp (by simpa using hidx.symm)
    simp [sanityLoop, heq, AcksOld]
  | cons m ms ih =>
    obtain ⟨f, rfl⟩ : ∃ f, fuel = f + 1 := ⟨fuel - 1, by simp at hf; omega⟩
    have hpos := m.blkCnt_pos
    rw [blkCnts_cons, storedAll_cons] at hblk
    rw [blkCnts_cons] at hidx
    obtain ⟨hhead, htail⟩ := Mem.slice_eq_append hblk
    rw [Msg.length_stored, Nat.add_sub_cancel_left] at htail
    rw [Msg.length_stored, Msg.blkCnt, Mem.slice_succ, Msg.stored] at hhead
    have hheader : (q.blk idx.toNat).convertByteOrder ed = m.header := by
      rw [(List.cons.inj hhead).1]
      simp
    have hnext : (idx + blkSz m.header.size).toNat = idx.toNat + m.blkCnt := by
      rw [m.blkCnt_eq] at hidx ⊢
      rw [UInt32.toNat_add_of_lt (by omega)]
    have hlt : idx < q.writeIdx := UInt32.lt_iff_toNat_lt.mpr (by omega)
    have hlt' : idx < Q.blkCnt := UInt32.lt_iff_toNat_lt.mpr (by omega)
    simp only [sanityLoop, hlt, hlt', if_true, hheader]
    by_cases hold : (q.ackSeqNum - m.header.ackSeq).asInt < 0
    · rw [if_pos hold, if_neg]
      intro hall
      exact absurd hold (not_lt.mpr (hall m List.mem_cons_self))
    · rw [if_neg hold, ih (by simpa using hf) (by rw [hnext]; exact htail) (by omega)]
      simp only [AcksOld, List.forall_mem_cons, not_lt.mp hold, true_and, List.length_cons,
        UInt32.ofNat_succ]
      congr 2
      grind

/-- What the check says about a queue that holds messages. -/
theorem Holds.sanityCheck (h : Holds Q ed q ms) :
    q.sanityCheckAndGetSeq Q ed =
      if q.AcksOld ms then .ok q.readSeqNum (q.readSeqNum + UInt32.ofNat ms.length)
      else .corrupt := by
  have := length_le_blkCnts ms
  have := h.blkCnts_le
  exact sanityLoop_eq (by omega) h.blk_eq h.write_eq h.write_le

/-- At a header of size 0 the loop stays where it is. -/
lemma sanityLoop_stuck {fuel : Nat} {idx : UInt32}
    (h₀ : blkSz ((q.blk idx.toNat).convertByteOrder ed).size = 0) (hlt : idx < q.writeIdx)
    {s e end_ : UInt32} : q.sanityLoop Q ed fuel idx end_ ≠ .ok s e := by
  induction fuel generalizing end_ with
  | zero => simp [sanityLoop]
  | succ fuel ih =>
    simp only [sanityLoop, hlt, if_true, h₀, UInt32.add_zero]
    split_ifs
    · simp
    · exact ih
    · simp

lemma exists_msgs_of_sanityLoop {fuel : Nat} {idx end_ s e : UInt32}
    (h : q.sanityLoop Q ed fuel idx end_ = .ok s e) :
    ∃ ms, q.blk.slice idx.toNat (blkCnts ms) = storedAll ed ms ∧
      q.writeIdx.toNat = idx.toNat + blkCnts ms ∧ q.AcksOld ms ∧
      s = q.readSeqNum ∧ e = end_ + UInt32.ofNat ms.length := by
  have hQ := Q.blkCnt_lt
  induction fuel generalizing idx end_ with
  | zero => simp [sanityLoop] at h
  | succ fuel ih =>
    by_cases hlt : idx < q.writeIdx
    · by_cases h₀ : blkSz ((q.blk idx.toNat).convertByteOrder ed).size = 0
      · exact absurd h (sanityLoop_stuck h₀ hlt)
      simp only [sanityLoop, hlt, if_true] at h
      split_ifs at h with hin hold
      set header := (q.blk idx.toNat).convertByteOrder ed with hheader
      have hsz := blkSz_le header.size
      have hin' := UInt32.lt_iff_toNat_lt.mp hin
      have hnext : (idx + blkSz header.size).toNat = idx.toNat + (blkSz header.size).toNat :=
        UInt32.toNat_add_of_lt (by omega)
      have hpos : (blkSz header.size).toNat ≠ 0 := fun hz => h₀ (UInt32.toNat_inj.mp hz)
      obtain ⟨ms, hblk, hw, hacks, hs, he⟩ := ih h
      -- the message read in this turn, followed by those of the later turns
      let m : Msg := ⟨header, q.blk.slice (idx.toNat + 1) ((blkSz header.size).toNat - 1),
        by rw [Mem.length_slice]; omega⟩
      have hm : m.blkCnt = (blkSz header.size).toNat := m.blkCnt_eq
      have hstored : q.blk.slice idx.toNat m.blkCnt = m.stored ed := by
        rw [hm, show (blkSz header.size).toNat = (blkSz header.size).toNat - 1 + 1 by omega,
          Mem.slice_succ, Msg.stored]
        simp [m, hheader]
      refine ⟨m :: ms, ?_, ?_, ?_, hs, ?_⟩
      · rw [hnext, ← hm] at hblk
        exact Mem.slice_append_slice hstored hblk
      · rw [blkCnts_cons, hm]
        omega
      · exact List.forall_mem_cons.mpr ⟨not_lt.mp hold, hacks⟩
      · rw [he, List.length_cons, UInt32.ofNat_succ]
        grind
    · simp only [sanityLoop, hlt, if_false] at h
      split_ifs at h with hne
      obtain ⟨rfl, rfl⟩ := SanityCheck.ok.inj h
      have heq : idx = q.writeIdx := not_not.mp hne
      exact ⟨[], rfl, by simp [heq], by simp [AcksOld], rfl, by simp⟩

/-- A queue that passes the check, with `write_idx_` inside `blk_`, holds messages. -/
theorem exists_holds_of_sanityCheck {s e : UInt32} (hw : q.writeIdx.toNat ≤ Q.blkCnt.toNat)
    (h : q.sanityCheckAndGetSeq Q ed = .ok s e) :
    ∃ ms, Holds Q ed q ms ∧ q.AcksOld ms ∧
      s = q.readSeqNum ∧ e = q.readSeqNum + UInt32.ofNat ms.length := by
  obtain ⟨ms, hblk, hwrite, hacks, hs, he⟩ := exists_msgs_of_sanityLoop h
  exact ⟨ms, ⟨hw, hwrite, hblk⟩, hacks, hs, he⟩

end PTCPQueue

end Tcpshm
