import Tcpshm.PtcpQueue.Refinement

/-!
# Runs of a queue

A run starts from an initialised queue and performs the operations of its owner, each under the
conditions the callers keep. It carries along the window the operations should leave, and, for
each stored message, how many times `MyAck` had been incremented when it was pushed.
-/

namespace Tcpshm

namespace PTCPQueue

/-- `Run Q ed q W births acks`: a run of `acks` increments reaches `q`, whose window should
be `W`; the stored messages were pushed after `births` increments. -/
inductive Run (Q : QueueSize) (ed : Endian) : PTCPQueue → Window → List Nat → Nat → Prop where
  | init (blk : Mem MsgHeader) : Run Q ed (init blk) Window.init [] 0
  | alloc {q W births acks} (size : UInt16) (hsize : size.toNat + 8 ≤ 65535)
      (h : Run Q ed q W births acks) : Run Q ed (q.alloc Q size).1 W births acks
  | allocPush {q W births acks} (size msgType : UInt16) (body : List MsgHeader) (p : Nat)
      (hsize : size.toNat + 8 ≤ 65535) (hp : (q.alloc Q size).2 = some p)
      (hbody : body.length + 1 = (blkSz (size + 8)).toNat) (h : Run Q ed q W births acks) :
      Run Q ed (((q.alloc Q size).1.fill p msgType body).push ed)
        (W.push (q.filled size msgType body hbody)) (births ++ [acks]) acks
  | sendout {q W births acks} (n : UInt32) (hn : n ≤ q.getSendable.2)
      (h : Run Q ed q W births acks) : Run Q ed (q.sendout n) (W.sendout n.toNat) births acks
  | ack {q W births acks} (a : UInt32) (ha : W.NotBeyond a) (hs : W.FullySent a)
      (h : Run Q ed q W births acks) :
      Run Q ed (q.ack ed a) (W.ack a) (births.drop (covered W.first a)) acks
  | loginAck {q W births acks} (a : UInt32) (ha : W.NotBeyond a) (h : Run Q ed q W births acks) :
      Run Q ed (q.loginAck ed a) (W.loginAck a) (births.drop (covered W.first a)) acks
  | incMyAck {q W births acks} (h : Run Q ed q W births acks) :
      Run Q ed q.incMyAck W births (acks + 1)

variable {Q : QueueSize} {ed : Endian} {q : PTCPQueue} {W : Window} {births : List Nat} {acks : Nat}

/-- A message carries the ack number of the moment it was pushed. -/
def BornAt (acks : Nat) (m : Msg) (b : Nat) : Prop :=
  m.header.ackSeq = UInt32.ofNat b ∧ b ≤ acks

/-- The run invariant. -/
structure Run.Inv (Q : QueueSize) (ed : Endian) (q : PTCPQueue) (W : Window) (births : List Nat)
    (acks : Nat) : Prop where
  represents : Represents Q ed q W
  ackSeqNum : q.ackSeqNum = UInt32.ofNat acks
  born : List.Forall₂ (BornAt acks) W.msgs births

lemma represents_init (blk : Mem MsgHeader) : Represents Q ed (init blk) Window.init where
  write_le := Nat.zero_le _
  write_eq := rfl
  blk_eq := rfl
  first_eq := rfl
  send_eq := rfl
  sent_le := le_rfl

lemma ackSeqNum_alloc (q : PTCPQueue) (size : UInt16) :
    (q.alloc Q size).1.ackSeqNum = q.ackSeqNum := by
  simp only [alloc]
  split_ifs <;> rfl

theorem Run.inv (h : Run Q ed q W births acks) : Run.Inv Q ed q W births acks := by
  induction h with
  | init blk => exact ⟨represents_init blk, rfl, .nil⟩
  | alloc size _ _ ih =>
    exact ⟨ih.represents.alloc size, (ackSeqNum_alloc _ size).trans ih.ackSeqNum, ih.born⟩
  | allocPush size t body p _ hp hbody _ ih =>
    refine ⟨ih.represents.alloc_fill_push hp t hbody,
      (ackSeqNum_alloc _ size).trans ih.ackSeqNum, ?_⟩
    exact List.rel_append ih.born (.cons ⟨ih.ackSeqNum, le_rfl⟩ .nil)
  | sendout n hn _ ih =>
    have hle := ih.represents.sent_le
    rw [UInt32.le_iff_toNat_le, ih.represents.toNat_sendable] at hn
    exact ⟨ih.represents.sendout (by omega), ih.ackSeqNum, ih.born⟩
  | ack a ha hs _ ih =>
    exact ⟨ih.represents.ack ha hs, (ack_frame _ a).2.trans ih.ackSeqNum,
      List.forall₂_drop _ ih.born⟩
  | loginAck a ha _ ih =>
    exact ⟨ih.represents.loginAck ha, (ack_frame _ a).2.trans ih.ackSeqNum,
      List.forall₂_drop _ ih.born⟩
  | incMyAck _ ih =>
    obtain ⟨hr, hack, hborn⟩ := ih
    refine ⟨⟨⟨hr.write_le, hr.write_eq, hr.blk_eq⟩, hr.first_eq, hr.send_eq, hr.sent_le⟩, ?_,
      hborn.imp fun _ _ hb => ⟨hb.1, Nat.le_succ_of_le hb.2⟩⟩
    show _ + 1 = _
    rw [hack, UInt32.ofNat_succ]

/-- Acks stay old while fewer than `2 ^ 31` increments happen during a message's lifetime. -/
lemma Run.Inv.acksOld (h : Run.Inv Q ed q W births acks)
    (hlife : ∀ b ∈ births, acks - b < 2 ^ 31) : q.AcksOld W.msgs := by
  intro m hm
  obtain ⟨i, hi, rfl⟩ := List.mem_iff_getElem.mp hm
  have hi' : i < births.length := h.born.length_eq ▸ hi
  obtain ⟨hb, hle⟩ := h.born.get hi hi'
  have := hlife _ (List.getElem_mem hi')
  simp only [List.get_eq_getElem] at hb hle
  rw [h.ackSeqNum, hb, UInt32.asInt_ofNat_sub_ofNat (by omega) (by omega)]
  omega

/-- A queue refines its window: after every run it represents the window the operations should
leave, with its indices in order; `Alloc` keeps the window, fails exactly for want of room and
then changes nothing; `GetSendable` gives the unsent blocks; and the check accepts the queue and
reports the window's sequence numbers. -/
theorem Run.refines (h : Run Q ed q W births acks) :
    (q.readIdx ≤ q.sendIdx ∧ q.sendIdx ≤ q.writeIdx ∧ q.writeIdx ≤ Q.blkCnt) ∧
    Represents Q ed q W ∧
    (∀ size : UInt16, size.toNat + 8 ≤ 65535 →
      Represents Q ed (q.alloc Q size).1 W ∧
      ((q.alloc Q size).2 = none ↔
        Q.blkCnt.toNat < blkCnts W.msgs + (size.toNat + 8 + 7) / 8) ∧
      ((q.alloc Q size).2 = none → (q.alloc Q size).1 = q)) ∧
    q.blk.slice q.getSendable.1 q.getSendable.2.toNat = (storedAll ed W.msgs).drop W.sent ∧
    ((∀ b ∈ births, acks - b < 2 ^ 31) →
      q.sanityCheckAndGetSeq Q ed = .ok W.first W.seqEnd) := by
  have hinv := h.inv
  have hr := hinv.represents
  have he := hr.write_eq
  have hs := hr.send_eq
  have hle := hr.sent_le
  refine ⟨⟨?_, ?_, UInt32.le_iff_toNat_le.mpr hr.write_le⟩, hr, ?_, hr.getSendable, ?_⟩
  · exact UInt32.le_iff_toNat_le.mpr (by omega)
  · exact UInt32.le_iff_toNat_le.mpr (by omega)
  · intro size hsize
    refine ⟨hr.alloc size, ?_, hr.toHolds.alloc_none⟩
    rw [hr.toHolds.alloc_none_iff, toNat_blkSz_add_eight hsize]
  · intro hlife
    rw [hr.toHolds.sanityCheck, if_pos (hinv.acksOld hlife), hr.first_eq, Window.seqEnd]

/-- A queue of eight blocks takes a message of two, sends one block of it and pops a message of
the peer: the check reports one message. -/
theorem Run.refines_one_message :
    let Q : QueueSize := ⟨64, rfl⟩
    let ed : Endian := ⟨true, true⟩
    let q : PTCPQueue := ((PTCPQueue.init fun _ => default).alloc Q 4).1
    (((q.fill 0 7 [default]).push ed).sendout 1).incMyAck.sanityCheckAndGetSeq Q ed = .ok 0 1 := by
  have h : Run ⟨64, rfl⟩ ⟨true, true⟩ _ _ _ _ := Run.incMyAck (.sendout 1 (by decide)
    (.allocPush 4 7 [default] 0 (by decide) rfl rfl (.init fun _ => default)))
  exact h.refines.2.2.2.2 (by decide)

end PTCPQueue

end Tcpshm
