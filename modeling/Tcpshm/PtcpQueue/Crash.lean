import Tcpshm.PtcpQueue.Run

/-!
# Crashes in the middle of an operation

The queue lives in a mapped file, so what a crash leaves behind is the effect of the stores made
so far. The stores of `Alloc` and `Push` are listed here in program order (`memmove` as a sequence
of block copies), and a crash keeps a prefix of the list.
-/

namespace Tcpshm

namespace PTCPQueue

/-- One store to the mapped object. -/
inductive Store where
  | cell (i : Nat) (h : MsgHeader)
  | size (i : Nat) (v : UInt16)
  | msgType (i : Nat) (v : UInt16)
  | ackSeq (i : Nat) (v : UInt32)
  | writeIdx (v : UInt32)
  | sendIdx (v : UInt32)
  | readIdx (v : UInt32)
  | readSeqNum (v : UInt32)

def Store.apply (q : PTCPQueue) : Store → PTCPQueue
  | cell i h => { q with blk := q.blk.write i [h] }
  | size i v => { q with blk := q.blk.write i [{ q.blk i with size := v }] }
  | msgType i v => { q with blk := q.blk.write i [{ q.blk i with msgType := v }] }
  | ackSeq i v => { q with blk := q.blk.write i [{ q.blk i with ackSeq := v }] }
  | writeIdx v => { q with writeIdx := v }
  | sendIdx v => { q with sendIdx := v }
  | readIdx v => { q with readIdx := v }
  | readSeqNum v => { q with readSeqNum := v }

def applyStores (q : PTCPQueue) (stores : List Store) : PTCPQueue :=
  stores.foldl Store.apply q

/-- What the file may hold if the process dies during an operation that makes these stores. -/
def crashStates (q : PTCPQueue) (stores : List Store) : List PTCPQueue :=
  stores.inits.map q.applyStores

variable (Q : QueueSize) (ed : Endian)

/-- The block copies of `memmove`. -/
def moveStores (q : PTCPQueue) : List Store :=
  (List.range (q.writeIdx - q.readIdx).toNat).map fun i => .cell i (q.blk (q.readIdx.toNat + i))

/-- The stores of `Alloc`. -/
def allocStores (q : PTCPQueue) (size : UInt16) : List Store :=
  let size := size + 8
  let availSz := Q.blkCnt - q.writeIdx
  if blkSz size > availSz then
    if blkSz size > availSz + q.readIdx then []
    else q.moveStores ++ [.writeIdx (q.writeIdx - q.readIdx), .sendIdx (q.sendIdx - q.readIdx),
      .readIdx 0, .size (q.writeIdx - q.readIdx).toNat size]
  else [.size q.writeIdx.toNat size]

/-- The stores of `Push`. -/
def pushStores (q : PTCPQueue) : List Store :=
  let w := q.writeIdx.toNat
  let header := q.blk w
  [.ackSeq w q.ackSeqNum, .size w (ed.convert16 header.size),
    .msgType w (ed.convert16 header.msgType), .ackSeq w (ed.convert32 q.ackSeqNum),
    .writeIdx (q.writeIdx + blkSz header.size)]

/-- `Alloc` takes the branch that moves the messages to the front. -/
def Compacts (q : PTCPQueue) (size : UInt16) : Prop :=
  blkSz (size + 8) > Q.blkCnt - q.writeIdx ∧
    ¬ blkSz (size + 8) > Q.blkCnt - q.writeIdx + q.readIdx

instance (q : PTCPQueue) (size : UInt16) : Decidable (q.Compacts Q size) :=
  inferInstanceAs (Decidable (_ ∧ _))

/-! ### The stores are those of the operations -/

variable {Q ed} {q : PTCPQueue} {ms : List Msg} {W : Window}

@[simp] lemma applyStores_nil (q : PTCPQueue) : q.applyStores [] = q := rfl

@[simp] lemma applyStores_cons (q : PTCPQueue) (s : Store) (ss : List Store) :
    q.applyStores (s :: ss) = (s.apply q).applyStores ss := rfl

lemma applyStores_append (q : PTCPQueue) (ss ss' : List Store) :
    q.applyStores (ss ++ ss') = (q.applyStores ss).applyStores ss' :=
  List.foldl_append

lemma applyStores_moveStores (q : PTCPQueue) :
    q.applyStores q.moveStores =
      { q with blk := q.blk.move 0 q.readIdx.toNat (q.writeIdx - q.readIdx).toNat } := by
  have h : ∀ n, q.applyStores ((List.range n).map fun i =>
      .cell i (q.blk (q.readIdx.toNat + i))) =
      { q with blk := q.blk.move 0 q.readIdx.toNat n } := by
    intro n
    induction n with
    | zero => simp [Mem.move]
    | succ n ih =>
      have hmove : q.blk.move 0 q.readIdx.toNat (n + 1) =
          (q.blk.move 0 q.readIdx.toNat n).write n [q.blk (q.readIdx.toNat + n)] := by
        rw [Mem.move, Mem.slice_add, Mem.write_append, Mem.length_slice, Nat.zero_add]
        rfl
      rw [List.range_succ, List.map_append, applyStores_append, ih, hmove]
      rfl
  exact h _

theorem alloc_eq_applyStores (q : PTCPQueue) (size : UInt16) :
    (q.alloc Q size).1 = q.applyStores (q.allocStores Q size) := by
  simp only [alloc, allocStores]
  split_ifs
  · rfl
  · rw [applyStores_append, applyStores_moveStores]
    rfl
  · rfl

lemma write_set_header (m : Mem MsgHeader) (w : Nat) (h h' : MsgHeader) :
    (m.write w [h]).write w [h'] = m.write w [h'] :=
  Mem.write_write m w rfl

theorem push_eq_applyStores (q : PTCPQueue) :
    q.push ed = q.applyStores (q.pushStores ed) := by
  simp only [pushStores, applyStores_cons, applyStores_nil, Store.apply, write_set_header,
    Mem.write_singleton_self]
  rfl

/-! ### What survives -/

/-- After a crash the check passes from the same first sequence number to one of `ends`, and the
messages of the window are still stored first, under their sequence numbers. -/
def Survives (Q : QueueSize) (ed : Endian) (W : Window) (ends : List UInt32) (q : PTCPQueue) :
    Prop :=
  q.readSeqNum = W.first ∧ (∃ tail, Holds Q ed q (W.msgs ++ tail)) ∧
    ∃ e ∈ ends, q.sanityCheckAndGetSeq Q ed = .ok W.first e

/-- Every crash during the operation is survived. -/
def CrashAtomic (Q : QueueSize) (ed : Endian) (W : Window) (ends : List UInt32) (q : PTCPQueue)
    (stores : List Store) : Prop :=
  ∀ q' ∈ q.crashStates stores, Survives Q ed W ends q'

lemma mem_crashStates {q q' : PTCPQueue} {stores : List Store} :
    q' ∈ q.crashStates stores ↔ ∃ ss, ss <+: stores ∧ q' = q.applyStores ss := by
  simp only [crashStates, List.mem_map, List.mem_inits]
  constructor
  · rintro ⟨ss, h, rfl⟩
    exact ⟨ss, h, rfl⟩
  · rintro ⟨ss, h, rfl⟩
    exact ⟨ss, h, rfl⟩

lemma self_mem_crashStates (q : PTCPQueue) (stores : List Store) : q ∈ q.crashStates stores :=
  mem_crashStates.mpr ⟨[], List.nil_prefix, rfl⟩

lemma crashStates_cons (q : PTCPQueue) (s : Store) (ss : List Store) :
    q.crashStates (s :: ss) = q :: (s.apply q).crashStates ss := by
  simp [crashStates, Function.comp_def]

@[simp] lemma crashStates_nil (q : PTCPQueue) : q.crashStates [] = [q] := rfl

lemma Holds.survives (h : Holds Q ed q W.msgs) (hseq : q.readSeqNum = W.first)
    (hold : q.AcksOld W.msgs) {ends : List UInt32} (hmem : W.seqEnd ∈ ends) :
    Survives Q ed W ends q := by
  refine ⟨hseq, ⟨[], by simpa using h⟩, _, hmem, ?_⟩
  rw [h.sanityCheck, if_pos hold, hseq, Window.seqEnd]

/-- A queue that survives with its own messages has no message with too new an ack. -/
lemma Holds.acksOld_of_survives (h : Holds Q ed q ms) {ends : List UInt32}
    (hs : Survives Q ed W ends q) : q.AcksOld ms := by
  obtain ⟨-, -, e, -, hok⟩ := hs
  rw [h.sanityCheck] at hok
  by_contra hno
  simp [hno] at hok

/-- Dying after the messages are moved and `write_idx_` is lowered leaves too few blocks between
the two indices. -/
lemma Represents.not_survives_of_compacts (h : Represents Q ed q W) {size : UInt16}
    (hc : q.Compacts Q size) (ends : List UInt32) :
    ∃ q' ∈ q.crashStates (q.allocStores Q size), ¬ Survives Q ed W ends q' := by
  have hw := h.write_le
  have he := h.write_eq
  have hQ := Q.blkCnt_lt
  refine ⟨q.applyStores (q.moveStores ++ [.writeIdx (q.writeIdx - q.readIdx)]), ?_, ?_⟩
  · refine mem_crashStates.mpr ⟨_, ?_, rfl⟩
    rw [allocStores, if_pos hc.1, if_neg hc.2]
    exact (List.prefix_append_right_inj _).mpr ⟨_, rfl⟩
  · rintro ⟨-, ⟨tail, hh⟩, -⟩
    have hwrite := hh.write_eq
    rw [applyStores_append, applyStores_moveStores] at hwrite
    -- `read_idx_` is still the old one, and positive since the move gains room
    have hpos : 0 < q.readIdx.toNat := by
      obtain ⟨h₁, h₂⟩ := hc
      rw [gt_iff_lt, UInt32.lt_iff_toNat_lt] at h₁ h₂
      rw [UInt32.toNat_sub_of_le' hw] at h₁
      rw [UInt32.toNat_add_of_lt, UInt32.toNat_sub_of_le' hw] at h₂
      · omega
      · rw [UInt32.toNat_sub_of_le' hw]
        omega
    have hmoved : (q.writeIdx - q.readIdx).toNat =
        q.readIdx.toNat + blkCnts (W.msgs ++ tail) := hwrite
    rw [h.toHolds.toNat_write_sub_read, blkCnts_append] at hmoved
    omega

/-- `Alloc` is crash-atomic exactly on queues that pass the check and are not moved to the
front. -/
theorem Represents.alloc_crashAtomic_iff (h : Represents Q ed q W) (size : UInt16) :
    CrashAtomic Q ed W [W.seqEnd] q (q.allocStores Q size) ↔
      q.AcksOld W.msgs ∧ ¬ q.Compacts Q size := by
  constructor
  · intro hall
    refine ⟨h.toHolds.acksOld_of_survives (hall q (self_mem_crashStates _ _)), fun hc => ?_⟩
    obtain ⟨q', hmem, hno⟩ := h.not_survives_of_compacts hc [W.seqEnd]
    exact hno (hall q' hmem)
  · rintro ⟨hold, hc⟩
    have hsame : Survives Q ed W [W.seqEnd] q := h.toHolds.survives h.first_eq hold (by simp)
    have hsize : Survives Q ed W [W.seqEnd] (q.setSize (size + 8)) :=
      (h.toHolds.setSize _).survives h.first_eq hold (by simp)
    unfold CrashAtomic allocStores
    dsimp only
    split_ifs with h₁ h₂
    · simpa using hsame
    · exact absurd ⟨h₁, h₂⟩ hc
    · intro q' hq'
      rw [crashStates_cons, crashStates_nil] at hq'
      rcases List.mem_cons.mp hq' with rfl | hq'
      · exact hsame
      · rw [List.mem_singleton.mp hq']
        exact hsize

/-- `Push` of the message that lies at `write_idx_` is crash-atomic on queues that pass the
check. -/
lemma Represents.push_crashAtomic (h : Represents Q ed q W) (m : Msg)
    (hm : m.header = { q.blk q.writeIdx.toNat with ackSeq := q.ackSeqNum })
    (hbody : q.blk.slice (q.writeIdx.toNat + 1) m.body.length = m.body)
    (hroom : q.writeIdx.toNat + m.blkCnt ≤ Q.blkCnt.toNat) (hold : q.AcksOld W.msgs) :
    CrashAtomic Q ed W [W.seqEnd, W.seqEnd + 1] q (q.pushStores ed) := by
  -- stores at `write_idx_` leave the messages and the sequence numbers alone
  have hwrite : ∀ v, Survives Q ed W [W.seqEnd, W.seqEnd + 1]
      { q with blk := q.blk.write q.writeIdx.toNat [v] } := fun v =>
    (h.toHolds.write le_rfl [v]).survives h.first_eq hold (by simp)
  have hlast : Survives Q ed W [W.seqEnd, W.seqEnd + 1] (q.push ed) := by
    have hp := h.toHolds.push m hm hbody hroom
    refine ⟨h.first_eq, ⟨[m], hp⟩, W.seqEnd + 1, by simp, ?_⟩
    have hack : (q.push ed).ackSeqNum = q.ackSeqNum := rfl
    have hnew : m.header.ackSeq = q.ackSeqNum := by rw [hm]
    rw [hp.sanityCheck, if_pos]
    · show SanityCheck.ok q.readSeqNum (q.readSeqNum + _) = _
      rw [List.length_append, List.length_singleton, UInt32.ofNat_succ, h.first_eq,
        Window.seqEnd, UInt32.add_assoc]
    · intro m' hm'
      rcases List.mem_append.mp hm' with hm' | hm'
      · rw [hack]
        exact hold m' hm'
      · rw [List.mem_singleton.mp hm', hack, hnew, UInt32.sub_self]
        decide
  rw [push_eq_applyStores] at hlast
  intro q' hq'
  simp only [pushStores, crashStates_cons, crashStates_nil, List.mem_cons, List.not_mem_nil,
    or_false] at hq'
  simp only [pushStores, applyStores_cons, applyStores_nil] at hlast
  simp only [Store.apply, write_set_header, Mem.write_singleton_self] at hq' hlast
  rcases hq' with rfl | rfl | rfl | rfl | rfl | rfl
  · exact h.toHolds.survives h.first_eq hold (by simp)
  · exact hwrite _
  · exact hwrite _
  · exact hwrite _
  · exact hwrite _
  · exact hlast

/-- A queue of four blocks holds one message of one block at index 1, the message before it being
acked; `Alloc` of two further blocks' worth has to move it. -/
def movingQueue : PTCPQueue :=
  let Q : QueueSize := .fourBlocks
  let ed : Endian := ⟨true, true⟩
  let q₁ := ((((init fun _ => default).alloc Q 0).1.fill 0 1 []).push ed)
  let q₂ := ((((q₁.alloc Q 0).1.fill 1 2 []).push ed).sendout 2)
  q₂.ack ed 1

end PTCPQueue

end Tcpshm
