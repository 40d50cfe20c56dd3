import Tcpshm.PtcpQueue.Crash
import Tcpshm.Login.Sync

/-!
# Crashes in the middle of an ack

`Ack` moves `read_idx_` and `read_seq_num_` one after the other, a message a turn, and may set three
indices to 0 at its end. The next login goes by what a crash leaves of that.
-/

namespace Tcpshm

namespace PTCPQueue

variable (ed : Endian)

/-- The stores of the loop in `Ack`. -/
def ackLoopStores : Nat → PTCPQueue → List Store
  | 0, _ => []
  | n + 1, q =>
    .readIdx (q.ackTurn ed).readIdx :: .readSeqNum (q.ackTurn ed).readSeqNum ::
      ackLoopStores n (q.ackTurn ed)

/-- The stores of `Ack`. -/
def ackStores (q : PTCPQueue) (ackSeq : UInt32) : List Store :=
  if (ackSeq - q.readSeqNum).asInt ≤ 0 then []
  else
    let turns := (ackSeq - q.readSeqNum).toNat
    let q' := ackLoop ed turns q
    ackLoopStores ed turns q ++
      if q'.readIdx = q'.writeIdx then [.sendIdx 0, .writeIdx 0, .readIdx 0] else []

/-- The stores of `LoginAck`. -/
def loginAckStores (q : PTCPQueue) (ackSeq : UInt32) : List Store :=
  q.ackStores ed ackSeq ++ [.sendIdx (q.ack ed ackSeq).readIdx]

variable {Q : QueueSize} {ed} {q : PTCPQueue} {W : Window} {a : UInt32}

lemma applyStores_ackLoopStores (n : Nat) (q : PTCPQueue) :
    q.applyStores (ackLoopStores ed n q) = ackLoop ed n q := by
  induction n generalizing q with
  | zero => rfl
  | succ n ih =>
    rw [ackLoopStores, applyStores_cons, applyStores_cons, ackLoop, ← ih]
    rfl

theorem ack_eq_applyStores (q : PTCPQueue) (a : UInt32) :
    q.ack ed a = q.applyStores (q.ackStores ed a) := by
  unfold ack ackStores
  split_ifs with h
  · rfl
  · dsimp only
    rw [applyStores_append, applyStores_ackLoopStores]
    split_ifs <;> rfl

theorem loginAck_eq_applyStores (q : PTCPQueue) (a : UInt32) :
    q.loginAck ed a = q.applyStores (q.loginAckStores ed a) := by
  rw [loginAckStores, applyStores_append, ← ack_eq_applyStores]
  rfl

/-! ### What the next login finds -/

/-- A peer that has popped `k` messages of the window logs in: its ack is accepted, and `LoginAck`
discards exactly these messages. -/
def LoginKeeps (Q : QueueSize) (ed : Endian) (W : Window) (q : PTCPQueue) (k : Nat) : Prop :=
  let ack := W.first + UInt32.ofNat k
  (∃ s e, q.sanityCheckAndGetSeq Q ed = .ok s e ∧ checkAckInQueue ack s e = true) ∧
    (q.loginAck ed ack).Holds Q ed (W.msgs.drop k)

/-- After a crash while the ack `a` was applied: the check passes, the message at `read_idx_` has
the number `read_seq_num_`, and a login of the peer, which has popped at least what it acked, loses
nothing. -/
structure Recovers (Q : QueueSize) (ed : Endian) (W : Window) (a : UInt32) (q : PTCPQueue) :
    Prop where
  passes : ∃ s e, q.sanityCheckAndGetSeq Q ed = .ok s e
  numbered : ∃ i ≤ W.msgs.length, q.Holds Q ed (W.msgs.drop i) ∧
    (i < W.msgs.length → q.readSeqNum = W.first + UInt32.ofNat i)
  logsIn : ∀ k, covered W.first a ≤ k → k ≤ W.msgs.length → LoginKeeps Q ed W q k

/-- Every crash while the ack is applied is recovered from. -/
def AckCrashSafe (Q : QueueSize) (ed : Endian) (W : Window) (a : UInt32) (q : PTCPQueue)
    (stores : List Store) : Prop :=
  ∀ q' ∈ q.crashStates stores, Recovers Q ed W a q'

/-- A queue with all its messages and its number recovers, wherever `send_idx_` is. -/
lemma Holds.recovers (h : Holds Q ed q W.msgs) (hseq : q.readSeqNum = W.first)
    (hold : q.AcksOld W.msgs) : Recovers Q ed W a q := by
  have hlt := h.length_lt
  have hpass : q.sanityCheckAndGetSeq Q ed = .ok W.first W.seqEnd := by
    rw [h.sanityCheck, if_pos hold, hseq, Window.seqEnd]
  constructor
  · exact ⟨_, _, hpass⟩
  · refine ⟨0, Nat.zero_le _, h, fun _ => ?_⟩
    rw [hseq]
    simp
  · intro k _ hk
    refine ⟨⟨_, _, hpass, ?_⟩, ?_⟩
    · have hspan : W.seqEnd - W.first = UInt32.ofNat W.msgs.length := by
        rw [Window.seqEnd]
        grind
      have hpos : W.first + UInt32.ofNat k - W.first = UInt32.ofNat k := by grind
      have hlen : (UInt32.ofNat W.msgs.length).toNat = W.msgs.length :=
        UInt32.toNat_ofNat_lt (by omega)
      rw [checkAckInQueue_iff (by rw [hspan, hlen]; omega), InSeqInterval, hspan, hpos, hlen,
        UInt32.toNat_ofNat_lt (by omega)]
      exact hk
    · have hcov : covered q.readSeqNum (W.first + UInt32.ofNat k) = k := by
        rw [hseq, covered_add (by omega)]
      have hl := (h.loginAck (a := W.first + UInt32.ofNat k) (by rw [hcov]; exact hk)).toHolds
      simp only [Window.loginAck, Window.ack, Window.drop, hcov] at hl
      exact hl

/-- A queue that recovers passed the check. -/
lemma Holds.acksOld_of_recovers (h : Holds Q ed q W.msgs) (hr : Recovers Q ed W a q) :
    q.AcksOld W.msgs := by
  obtain ⟨s, e, hok⟩ := hr.passes
  rw [h.sanityCheck] at hok
  by_contra hno
  simp [hno] at hok

/-- Only one message is missing from `ms` when its blocks are those of the tail. -/
lemma eq_one_of_blkCnts_drop {m : Msg} {ms : List Msg} {i : Nat}
    (h : blkCnts ((m :: ms).drop i) = blkCnts ms) (hi : i ≤ ms.length + 1) : i = 1 := by
  cases i with
  | zero =>
    have hpos := m.blkCnt_pos
    simp only [List.drop_zero, blkCnts_cons] at h
    omega
  | succ i =>
    have hsplit := blkCnts_take_add_drop ms i
    rw [List.drop_succ_cons] at h
    have hnil : ms.take i = [] := blkCnts_eq_zero.mp (by omega)
    have hlen := congrArg List.length hnil
    simp only [List.length_take, List.length_nil] at hlen
    omega

/-- A turn of the loop moves `read_idx_` behind the oldest message. -/
lemma Holds.toNat_readIdx_ackTurn {m : Msg} {ms : List Msg} (h : Holds Q ed q (m :: ms)) :
    (q.ackTurn ed).readIdx.toNat = q.readIdx.toNat + m.blkCnt := by
  have hQ := Q.blkCnt_lt
  have hle := h.blkCnts_le
  have hw := h.write_le
  have he := h.write_eq
  have hturn : q.ackTurn ed = ackLoop ed 1 q := rfl
  rw [hturn, ackLoop_eq (by simp) q h.blk_eq (by omega)]
  simp only [blkCnts_cons] at he
  simp only [List.take_succ_cons, List.take_zero, blkCnts_cons, blkCnts_nil]
  rw [UInt32.toNat_ofNat_lt (by omega), Nat.add_zero]

/-- After the first store of the loop the oldest message is skipped, and the next one goes by its
number. -/
lemma Represents.not_recovers_of_turn (h : Represents Q ed q W) (hc : 0 < covered W.first a)
    (hle : covered W.first a ≤ W.msgs.length) :
    ¬ Recovers Q ed W a { q with readIdx := (q.ackTurn ed).readIdx } := by
  obtain ⟨first, msgs, sent⟩ := W
  obtain _ | ⟨m, ms⟩ := msgs
  · exact absurd hle (not_le.mpr hc)
  have hread := h.toHolds.toNat_readIdx_ackTurn
  rintro ⟨⟨s, e, hpass⟩, ⟨i, hi, hh, hnum⟩, hlog⟩
  -- the indices leave exactly the tail
  obtain rfl : i = 1 := by
    have hmoved : q.writeIdx.toNat =
        (q.ackTurn ed).readIdx.toNat + blkCnts ((m :: ms).drop i) := hh.write_eq
    have htotal : q.writeIdx.toNat = q.readIdx.toNat + (m.blkCnt + blkCnts ms) := h.write_eq
    have htail : blkCnts ((m :: ms).drop i) = blkCnts ms := by omega
    exact eq_one_of_blkCnts_drop htail (by simpa using hi)
  obtain _ | ⟨m', ms⟩ := ms
  · -- nothing is stored, so the login of the peer that popped the message is refused
    obtain ⟨⟨s, e, hok, hcheck⟩, -⟩ := hlog 1 hle (by simp)
    rw [hh.sanityCheck] at hok
    split_ifs at hok
    obtain ⟨rfl, rfl⟩ := SanityCheck.ok.inj hok
    have hfirst : q.readSeqNum = first := h.first_eq
    have h₁ : first + UInt32.ofNat 1 - first = 1 := by grind
    have h₀ : first + UInt32.ofNat 0 - first = 0 := by grind
    simp only [hfirst, List.drop_succ_cons, List.drop_zero, List.length_nil] at hcheck
    rw [checkAckInQueue_iff (by rw [h₀]; decide), InSeqInterval, h₁, h₀] at hcheck
    simp at hcheck
  · have hseq : q.readSeqNum = first + UInt32.ofNat 1 := hnum (by simp)
    rw [h.first_eq] at hseq
    grind

lemma mem_crashStates_append {q q' : PTCPQueue} {ss ss' : List Store}
    (h : q' ∈ q.crashStates ss) : q' ∈ q.crashStates (ss ++ ss') := by
  obtain ⟨begun, hb, rfl⟩ := mem_crashStates.mp h
  exact mem_crashStates.mpr ⟨begun, hb.trans (List.prefix_append _ _), rfl⟩

/-- An ack of a stored message begins with the store to `read_idx_` alone. -/
lemma turn_mem_crashStates (h : 0 < (a - q.readSeqNum).asInt) :
    { q with readIdx := (q.ackTurn ed).readIdx } ∈ q.crashStates (q.ackStores ed a) := by
  obtain ⟨n, hn⟩ : ∃ n, (a - q.readSeqNum).toNat = n + 1 :=
    Nat.exists_eq_succ_of_ne_zero ((UInt32.asInt_pos_iff _).mp h).1.ne'
  rw [ackStores, if_neg (not_le.mpr h), hn]
  exact mem_crashStates_append (mem_crashStates.mpr ⟨[_], ⟨_, rfl⟩, rfl⟩)

/-- Exactly the acks of no stored message are crash-safe, on queues that pass the check. -/
theorem Run.ackCrashSafe_iff {births : List Nat} {acks : Nat} (h : Run Q ed q W births acks)
    (ha : W.NotBeyond a) :
    (AckCrashSafe Q ed W a q (q.ackStores ed a) ↔
      q.AcksOld W.msgs ∧ (a - W.first).asInt ≤ 0) ∧
    (AckCrashSafe Q ed W a q (q.loginAckStores ed a) ↔
      q.AcksOld W.msgs ∧ (a - W.first).asInt ≤ 0) := by
  have hr := h.inv.represents
  have hnewer : 0 < (a - W.first).asInt →
      ¬ Recovers Q ed W a { q with readIdx := (q.ackTurn ed).readIdx } := by
    intro hpos
    refine hr.not_recovers_of_turn ?_ (hr.covered_le ha)
    rw [covered, if_neg (not_le.mpr hpos)]
    exact ((UInt32.asInt_pos_iff _).mp hpos).1
  rw [← hr.first_eq] at hnewer ⊢
  constructor
  · constructor
    · intro hall
      refine ⟨hr.toHolds.acksOld_of_recovers (hall q (self_mem_crashStates _ _)), ?_⟩
      by_contra hpos
      exact hnewer (not_le.mp hpos) (hall _ (turn_mem_crashStates (not_le.mp hpos)))
    · rintro ⟨hold, hle⟩ q' hq'
      rw [ackStores, if_pos hle, crashStates_nil, List.mem_singleton] at hq'
      rw [hq']
      exact hr.toHolds.recovers hr.first_eq hold
  · constructor
    · intro hall
      refine ⟨hr.toHolds.acksOld_of_recovers (hall q (self_mem_crashStates _ _)), ?_⟩
      by_contra hpos
      exact hnewer (not_le.mp hpos)
        (hall _ (mem_crashStates_append (turn_mem_crashStates (not_le.mp hpos))))
    · rintro ⟨hold, hle⟩ q' hq'
      rw [loginAckStores, ackStores, if_pos hle, List.nil_append, crashStates_cons,
        crashStates_nil, List.mem_cons, List.mem_singleton] at hq'
      rcases hq' with rfl | rfl
      · exact hr.toHolds.recovers hr.first_eq hold
      · have hh := hr.toHolds
        refine Holds.recovers ?_ hr.first_eq hold
        exact ⟨hh.write_le, hh.write_eq, hh.blk_eq⟩

/-- A queue that has pushed and sent two messages of one block. -/
def twoSent : PTCPQueue :=
  let Q : QueueSize := .fourBlocks
  let ed : Endian := ⟨true, true⟩
  let q₁ := ((((init fun _ => default).alloc Q 0).1.fill 0 1 []).push ed)
  ((((q₁.alloc Q 0).1.fill 1 2 []).push ed).sendout 2)

lemma run_twoSent : ∃ W births acks, Run ⟨32, rfl⟩ ⟨true, true⟩ twoSent W births acks ∧
    W.msgs.length = 2 ∧ W.first = 0 ∧ W.sent = 2 ∧ twoSent.AcksOld W.msgs :=
  ⟨_, _, _, .sendout 2 (by decide) (.allocPush 0 2 [] 1 (by decide) rfl rfl
    (.allocPush 0 1 [] 0 (by decide) rfl rfl (.init fun _ => default))), rfl, rfl, rfl, by decide⟩

/-- The ack 0 covers neither message. -/
theorem Run.ackCrashSafe_iff_twoSent :
    ∃ W, AckCrashSafe ⟨32, rfl⟩ ⟨true, true⟩ W 0 twoSent (twoSent.ackStores ⟨true, true⟩ 0) := by
  obtain ⟨W, births, acks, hrun, hlen, hfirst, -, hold⟩ := run_twoSent
  have ha : W.NotBeyond 0 := by
    rw [Window.NotBeyond, Window.seqEnd, hlen, hfirst]
    decide
  exact ⟨W, (hrun.ackCrashSafe_iff ha).1.mpr ⟨hold, by rw [hfirst]; decide⟩⟩

/-- The peer popped the first of two sent messages, and the process dies while it applies the ack.
The check then passes on the second message under the number of the first, the next login is
accepted, and its `LoginAck` empties the queue: the second message is lost. -/
theorem ack_not_crashSafe :
    ∃ W births acks, Run ⟨32, rfl⟩ ⟨true, true⟩ twoSent W births acks ∧ W.msgs.length = 2 ∧
      W.NotBeyond 1 ∧ W.FullySent 1 ∧
      (∃ q' ∈ twoSent.crashStates (twoSent.ackStores ⟨true, true⟩ 1),
        q'.sanityCheckAndGetSeq ⟨32, rfl⟩ ⟨true, true⟩ = .ok 0 1 ∧
        checkAckInQueue 1 0 1 = true ∧
        (q'.loginAck ⟨true, true⟩ 1).sanityCheckAndGetSeq ⟨32, rfl⟩ ⟨true, true⟩ = .ok 1 1) ∧
      ¬ AckCrashSafe ⟨32, rfl⟩ ⟨true, true⟩ W 1 twoSent (twoSent.ackStores ⟨true, true⟩ 1) ∧
      ¬ AckCrashSafe ⟨32, rfl⟩ ⟨true, true⟩ W 1 twoSent
        (twoSent.loginAckStores ⟨true, true⟩ 1) := by
  obtain ⟨W, births, acks, hrun, hlen, hfirst, hsent, -⟩ := run_twoSent
  have hr := hrun.inv.represents
  have ha : W.NotBeyond 1 := by
    rw [Window.NotBeyond, Window.seqEnd, hlen, hfirst]
    decide
  have hcov : covered W.first 1 = 1 := by
    rw [hfirst]
    decide
  have hno : ¬ Recovers ⟨32, rfl⟩ ⟨true, true⟩ W 1
      { twoSent with readIdx := (twoSent.ackTurn ⟨true, true⟩).readIdx } :=
    hr.not_recovers_of_turn (by omega) (by omega)
  have hmem : { twoSent with readIdx := (twoSent.ackTurn ⟨true, true⟩).readIdx } ∈
      twoSent.crashStates (twoSent.ackStores ⟨true, true⟩ 1) := turn_mem_crashStates (by decide)
  refine ⟨W, births, acks, hrun, hlen, ha, ?_, ⟨_, hmem, by decide, by decide, by decide⟩, ?_, ?_⟩
  · -- both messages have been sent completely
    have hle := blkCnts_take_add_drop W.msgs (covered W.first 1)
    have hall := hr.toNat_sendable
    have hzero : twoSent.getSendable.2.toNat = 0 := by decide
    rw [Window.FullySent]
    have := hr.sent_le
    omega
  · exact fun hall => hno (hall _ hmem)
  · exact fun hall => hno (hall _ (mem_crashStates_append hmem))

end PTCPQueue

end Tcpshm
