import Tcpshm.PtcpQueue.Run
import Tcpshm.SpscVarQueue.Fifo

/-!
# What `Alloc` hands out

`Alloc` adds the size of the header to a 16-bit size. Where the sum wraps, it hands out fewer blocks
than were asked for; here is exactly when it does not.
-/

namespace Tcpshm

/-- The size `Alloc` stores where the addition of the header wraps. -/
lemma toNat_add_eight_of_le {size : UInt16} (h : 65528 ≤ size.toNat) :
    (size + 8).toNat = size.toNat - 65528 := by
  have h8 : (8 : UInt16).toNat = 8 := rfl
  have hlt := size.toNat_lt
  rw [UInt16.toNat_add, h8]
  omega

lemma eq_65528_iff (size : UInt16) : size = 65528 ↔ size.toNat = 65528 := by
  rw [← UInt16.toNat_inj]
  rfl

/-- A size that wraps takes at most one block. -/
lemma toNat_blkSz_of_le {size : UInt16} (h : 65528 ≤ size.toNat) :
    (blkSz (size + 8)).toNat = if size = 65528 then 0 else 1 := by
  have hlt := size.toNat_lt
  rw [toNat_blkSz, toNat_add_eight_of_le h]
  simp only [eq_65528_iff]
  split_ifs <;> omega

lemma ringBlocks_of_le {size : UInt16} (h : 65528 ≤ size.toNat) :
    ringBlocks (size + 8) = if size = 65528 then 0 else 1 := by
  have hlt := size.toNat_lt
  rw [ringBlocks, toNat_add_eight_of_le h]
  simp only [eq_65528_iff]
  split_ifs <;> omega

namespace PTCPQueue

/-- With the messages `ms` stored, the `size + 8` bytes at the pointer `Alloc` returns, if any, lie
inside `blk_` and apart from the messages, and the next `Push` advances `write_idx_` over them; in
any case the messages stay stored. -/
structure AllocCovers (Q : QueueSize) (ed : Endian) (q : PTCPQueue) (ms : List Msg)
    (size : UInt16) : Prop where
  inside : ∀ p ∈ (q.alloc Q size).2, 8 * p + (size.toNat + 8) ≤ 8 * Q.blkCnt.toNat
  apart : ∀ p ∈ (q.alloc Q size).2,
    8 * p + (size.toNat + 8) ≤ 8 * (q.alloc Q size).1.readIdx.toNat ∨
    8 * ((q.alloc Q size).1.readIdx.toNat + blkCnts ms) ≤ 8 * p
  advanced : ∀ p ∈ (q.alloc Q size).2, ∀ t body, size.toNat + 8 ≤
    8 * ((((q.alloc Q size).1.fill p t body).push ed).writeIdx -
      (q.alloc Q size).1.writeIdx).toNat
  kept : Holds Q ed (q.alloc Q size).1 ms

variable {Q : QueueSize} {ed : Endian} {q : PTCPQueue} {ms : List Msg} {W : Window}

/-- `Push` advances `write_idx_` by the blocks of the stored size. -/
lemma Holds.push_advance (h : Holds Q ed q ms) {size : UInt16} {p : Nat}
    (hp : (q.alloc Q size).2 = some p) (t : UInt16) (body : List MsgHeader) :
    (((q.alloc Q size).1.fill p t body).push ed).writeIdx - (q.alloc Q size).1.writeIdx =
      blkSz (size + 8) := by
  obtain ⟨rfl, -, hsize, -, -, -, -⟩ := h.alloc_some hp
  set q' := (q.alloc Q size).1 with hq'
  have hfill : ((q'.fill q'.writeIdx.toNat t body).blk q'.writeIdx.toNat).size = size + 8 := by
    show ((q'.blk.write q'.writeIdx.toNat [{ q'.blk q'.writeIdx.toNat with msgType := t }]).write
        (q'.writeIdx.toNat + 1) body q'.writeIdx.toNat).size = _
    rw [Mem.write_apply_of_lt (Nat.lt_succ_self _), Mem.write_singleton_self]
    exact hsize
  show q'.writeIdx + blkSz ((q'.fill q'.writeIdx.toNat t body).blk q'.writeIdx.toNat).size -
    q'.writeIdx = _
  rw [hfill]
  grind

/-- A size that wraps is handed out too short, unless the queue is full. -/
theorem Holds.allocCovers_iff (h : Holds Q ed q ms) (size : UInt16) :
    AllocCovers Q ed q ms size ↔
      size.toNat ≤ 65527 ∨ size ≠ 65528 ∧ blkCnts ms = Q.blkCnt.toNat := by
  have hnone := h.alloc_none_iff size
  have hle := h.blkCnts_le
  rcases Nat.lt_or_ge 65527 size.toNat with hsize | hsize
  · -- the pointer, if any, is to at most one block
    have hblk := toNat_blkSz_of_le hsize
    have hnull : (q.alloc Q size).2 = none ↔ size ≠ 65528 ∧ blkCnts ms = Q.blkCnt.toNat := by
      rw [hnone, hblk]
      split_ifs with heq
      · simp [heq, hle]
      · simp only [ne_eq, heq, not_false_eq_true, true_and]
        omega
    rw [← hnull, or_iff_right (by omega)]
    constructor
    · intro hc
      cases hp : (q.alloc Q size).2 with
      | none => rfl
      | some p =>
        have hadv := hc.advanced p hp 0 []
        rw [h.push_advance hp, hblk] at hadv
        split_ifs at hadv <;> omega
    · intro hp
      exact ⟨by simp [hp], by simp [hp], by simp [hp], h.alloc size⟩
  · have hfit : size.toNat + 8 ≤ 65535 := by omega
    have hblk := toNat_blkSz_add_eight hfit
    refine iff_of_true ⟨?_, ?_, ?_, h.alloc size⟩ (Or.inl hsize)
    · intro p hp
      obtain ⟨-, hroom, -⟩ := h.alloc_some hp
      omega
    · intro p hp
      obtain ⟨rfl, -, -, hh, -⟩ := h.alloc_some hp
      have hwrite := hh.write_eq
      right
      omega
    · intro p hp t body
      rw [h.push_advance hp]
      omega

end PTCPQueue

namespace SPSCVarQueue

/-- In the state `s`, the `size + 8` bytes at the pointer `Alloc` returns, if any, lie inside `blk`
and apart from the unread messages, and the next `Push` advances `write_idx` over them; in any case
the unread messages stay what they are. -/
structure AllocCovers (R : RingSize) (s : Traffic) (size : UInt16) : Prop where
  inside : ∀ p ∈ (s.q.alloc R size).2, 64 * p + (size.toNat + 8) ≤ 64 * R.blkCnt.toNat
  apart : ∀ p ∈ (s.q.alloc R size).2, ∀ u ∈ s.unread,
    64 * p + (size.toNat + 8) ≤ 64 * u.ptr ∨ 64 * (u.ptr + u.blocks) ≤ 64 * p
  advanced : ∀ p ∈ (s.q.alloc R size).2, ∀ t body, size.toNat + 8 ≤
    64 * ((((s.q.alloc R size).1.fill p t body).push R).writeIdx -
      (s.q.alloc R size).1.writeIdx).toNat
  kept : ∀ u ∈ s.unread, (s.q.alloc R size).1.msgAt u.ptr = u.msg

variable {R : RingSize} {q : SPSCVarQueue} {us : List Placed} {rc r wa w : Nat}

lemma header_fill_self (q : SPSCVarQueue) (p : Nat) (t : UInt16) (body : List MsgHeader) :
    (q.fill p t body).header p = { q.header p with msgType := t } := by
  show (q.blk.write (8 * p) [{ q.header p with msgType := t }]).write (8 * p + 1) body (8 * p) = _
  rw [Mem.write_apply_of_lt (by omega), Mem.write_singleton_self]

/-- `Push` advances `write_idx` by the blocks of the stored size. -/
lemma place_push_advance (q : SPSCVarQueue) {size : UInt16} {p : Nat}
    (hp : (q.place R size).2 = some p) (t : UInt16) (body : List MsgHeader) :
    (((q.place R size).1.fill p t body).push R).writeIdx - (q.place R size).1.writeIdx =
      ringBlkSz size := by
  have hslot : slot R (q.place R size).1.writeIdx = p := Option.some.inj hp
  have hsize : ((q.place R size).1.header p).size = size := Traffic.msgAt_place q size hp
  show (q.place R size).1.writeIdx +
    ringBlkSz (((q.place R size).1.fill p t body).header (slot R (q.place R size).1.writeIdx)).size -
      (q.place R size).1.writeIdx = _
  rw [hslot, header_fill_self, hsize]
  grind

lemma alloc_push_advance (q : SPSCVarQueue) {size : UInt16} {p : Nat}
    (hp : (q.alloc R size).2 = some p) (t : UInt16) (body : List MsgHeader) :
    (((q.alloc R size).1.fill p t body).push R).writeIdx - (q.alloc R size).1.writeIdx =
      ringBlkSz (size + 8) := by
  unfold SPSCVarQueue.alloc at hp ⊢
  dsimp only at hp ⊢
  split_ifs at hp ⊢ with h₁ h₂
  · exact place_push_advance _ hp t body
  · exact place_push_advance _ hp t body

/-- A message that wraps needs at most one block, and never rewinds. -/
lemma need_of_le {size : UInt16} (h : 65528 ≤ size.toNat) (w : Nat) :
    need R w (size + 8) = if size = 65528 then 0 else 1 := by
  have hlt := Nat.mod_lt w R.blocks_pos
  rw [need, ringBlocks_of_le h]
  split_ifs <;> omega

/-- The indices are a whole turn apart. -/
lemma Spans.full_iff (h : Spans R q us rc r wa w) :
    q.writeIdx - q.readIdx = R.blkCnt ↔ w = r + R.blocks := by
  have hB := R.blocks_le
  have hwa := h.wa_le
  have hra := h.read_le
  have hturn := h.turn
  have hcr := h.cach_le
  rw [← UInt32.toNat_inj, h.write_eq, h.read_eq,
    UInt32.toNat_ofNat_sub_ofNat (by omega) (by omega), ← RingSize.blocks]
  omega

/-- Unread messages lie in front of the position `w'` where one is placed, and less than a turn
away. -/
lemma Spans.apart {w' n : Nat} {u : Placed} (h : Spans R q us rc r wa w) (hw : w ≤ w')
    (hfit : w' % R.blocks + n ≤ R.blocks) (hn : 0 < n) (hturn : w' + n ≤ r + R.blocks)
    (hu : u ∈ us) : w' % R.blocks + n ≤ u.ptr ∨ u.ptr + u.blocks ≤ w' % R.blocks := by
  have hwa := h.wa_le
  obtain ⟨y, hlies, hy, hy'⟩ := h.layout.exists_liesAt R.blocks_pos hu
  have hpos := hlies.blocks_pos
  rw [hlies.ptr_eq]
  have hdis : ∀ i < u.blocks, ∀ j < n, y % R.blocks + i ≠ w' % R.blocks + j := fun i hi j hj =>
    Ring.disjoint_of_lt hlies.fits hfit (by omega) (by omega) hi hj
  by_contra hno
  rcases Nat.le_total (y % R.blocks) (w' % R.blocks) with hle | hle
  · exact hdis (w' % R.blocks - y % R.blocks) (by omega) 0 hn (by omega)
  · exact hdis 0 hpos (y % R.blocks - w' % R.blocks) (by omega) (by omega)

/-- Every unread message is at its pointer. -/
lemma Spans.msgAt_eq {u : Placed} (h : Spans R q us rc r wa w) (hu : u ∈ us) :
    q.msgAt u.ptr = u.msg := by
  obtain ⟨y, hlies, -, -⟩ := h.layout.exists_liesAt R.blocks_pos hu
  rw [hlies.ptr_eq, hlies.msgAt_eq]

/-- A size that wraps is handed out too short, unless the ring is full. -/
theorem Traffic.Inv.allocCovers_iff {s : Traffic} (h : Traffic.Inv R s us rc r wa w)
    (size : UInt16) :
    AllocCovers R s size ↔
      size.toNat ≤ 65527 ∨ size ≠ 65528 ∧ s.q.writeIdx - s.q.readIdx = R.blkCnt := by
  have hs := h.spans
  have hturn := hs.turn
  have hcr := hs.cach_le
  have hnone := hs.alloc_none_iff size
  rcases Nat.lt_or_ge 65527 size.toNat with hsize | hsize
  · -- the pointer, if any, is to at most one block
    have hblk : (ringBlkSz (size + 8)).toNat = if size = 65528 then 0 else 1 := by
      rw [toNat_ringBlkSz, ← ringBlocks, ringBlocks_of_le hsize]
    have hnull : (s.q.alloc R size).2 = none ↔
        size ≠ 65528 ∧ s.q.writeIdx - s.q.readIdx = R.blkCnt := by
      rw [hnone, need_of_le hsize, hs.full_iff]
      split_ifs with heq
      · simp only [heq, ne_eq, not_true_eq_false, false_and, iff_false]
        omega
      · simp only [ne_eq, heq, not_false_eq_true, true_and]
        omega
    rw [← hnull, or_iff_right (by omega)]
    constructor
    · intro hc
      cases hp : (s.q.alloc R size).2 with
      | none => rfl
      | some p =>
        have hadv := hc.advanced p hp 0 []
        rw [alloc_push_advance _ hp, hblk] at hadv
        split_ifs at hadv <;> omega
    · intro hp
      refine ⟨by simp [hp], by simp [hp], by simp [hp], ?_⟩
      rcases hs.alloc_cases size with ⟨halloc, -⟩ | ⟨q', c, -, -, -, -, halloc, -⟩
      · rw [halloc, h.unread_eq]
        exact fun u hu => hs.reload.msgAt_eq hu
      · simp [halloc, SPSCVarQueue.place] at hp
  · have hfit : size.toNat + 8 ≤ 65535 := by omega
    have hblk : (ringBlkSz (size + 8)).toNat = (size.toNat + 8 + 63) / 64 := by
      rw [toNat_ringBlkSz, toNat_add_eight hfit]
    have hblocks : ringBlocks (size + 8) = (size.toNat + 8 + 63) / 64 := by
      rw [ringBlocks, toNat_add_eight hfit]
    refine iff_of_true ?_ (Or.inl hsize)
    rcases hs.alloc_cases size with ⟨halloc, -⟩ | ⟨q', c, pre, hq', hroom, hs', halloc, -⟩
    · refine ⟨by simp [halloc], by simp [halloc], by simp [halloc], ?_⟩
      rw [halloc, h.unread_eq]
      exact fun u hu => hs.reload.msgAt_eq hu
    · have hc : c ≤ r := by
        rcases hq' with ⟨-, rfl, -⟩ | ⟨-, rfl, -⟩
        · exact hcr
        · exact le_rfl
      have hnull : AtFirst R q' none us r := fun p hp => by cases hp
      obtain ⟨w', p, hp, hle, hs'', -, hlies, hle', -⟩ :=
        hs'.place hnull (add_eight_ne_zero hfit) hroom
      have hplaced : Placed.blocks ⟨p, (q'.place R (size + 8)).1.msgAt p⟩ =
          ringBlocks (size + 8) := by
        rw [Placed.blocks, Traffic.msgAt_place q' (size + 8) hp]
      have hin := hlies.fits
      have hptr : p = w' % R.blocks := hlies.ptr_eq
      rw [hplaced] at hin
      rw [← halloc] at hp hs''
      constructor
      · intro p' hp'
        obtain rfl : p = p' := by simpa [hp] using hp'
        rw [← RingSize.blocks]
        omega
      · intro p' hp' u hu
        obtain rfl : p = p' := by simpa [hp] using hp'
        rw [h.unread_eq] at hu
        have hapart := hs'.apart hle hin (by omega) (by omega) hu
        omega
      · intro p' hp' t body
        rw [alloc_push_advance _ hp']
        omega
      · rw [h.unread_eq]
        exact fun u hu => hs''.msgAt_eq hu

end SPSCVarQueue

/-! ### Runs -/

/-- A run goes on with every `Alloc` that hands out enough. -/
theorem PTCPQueue.Run.alloc_of_covers {Q : QueueSize} {ed : Endian} {q : PTCPQueue} {W : Window}
    {births : List Nat} {acks : Nat} (h : Run Q ed q W births acks) {size : UInt16}
    (hc : AllocCovers Q ed q W.msgs size) : Run Q ed (q.alloc Q size).1 W births acks := by
  have hh := h.inv.represents.toHolds
  rcases (hh.allocCovers_iff size).mp hc with hsize | ⟨hne, hfull⟩
  · exact h.alloc size (by omega)
  · have hnull : (q.alloc Q size).2 = none := by
      rw [hh.alloc_none_iff, hfull, Nat.lt_add_right_iff_pos, Nat.pos_iff_ne_zero]
      by_cases hsize : size.toNat ≤ 65527
      · rw [toNat_blkSz_add_eight (by omega)]
        omega
      · rw [toNat_blkSz_of_le (by omega), if_neg hne]
        omega
    rwa [hh.alloc_none hnull]

theorem SPSCVarQueue.Traffic.Reaches.alloc_of_covers {R : RingSize} {blk : Mem MsgHeader}
    {s : Traffic} (h : Reaches R blk s) {size : UInt16} (hc : AllocCovers R s size) :
    Reaches R blk (s.alloc R size) := by
  obtain ⟨us, rc, r, wa, w, hinv⟩ := h.inv
  have hs := hinv.spans
  rcases (hinv.allocCovers_iff size).mp hc with hsize | ⟨hne, hfull⟩
  · exact h.tail (.alloc size (by omega))
  · -- on a full ring `Alloc` only loads `read_idx`, whatever the size
    rw [hs.full_iff] at hfull
    have hnull : ∀ size : UInt16, 0 < need R w (size + 8) →
        s.q.alloc R size = (s.q.reload, none) := by
      intro size hpos
      rcases hs.alloc_cases size with ⟨halloc, -⟩ | ⟨q', c, pre, hq', hroom, -⟩
      · exact halloc
      · have hcr := hs.cach_le
        rcases hq' with ⟨-, rfl, -⟩ | ⟨-, rfl, -⟩ <;> omega
    have hneed : ∀ size : UInt16, size ≠ 65528 → 0 < need R w (size + 8) := by
      intro size hne
      have hpos : 0 < ringBlocks (size + 8) := by
        apply ringBlocks_pos
        intro h0
        exact hne (by grind)
      unfold need
      split_ifs <;> omega
    have hsame : s.alloc R size = s.alloc R 0 := by
      simp only [Traffic.alloc, hnull size (hneed size hne), hnull 0 (hneed 0 (by decide))]
    rw [hsame]
    exact h.tail (.alloc 0 (by decide))

/-- In every reached state, `Alloc` hands out what was asked for exactly when the size with the
header does not wrap, or returns null because the queue is full. -/
theorem alloc_covers_iff {Q : QueueSize} {ed : Endian} {q : PTCPQueue} {W : Window}
    {births : List Nat} {acks : Nat} {R : RingSize} {blk : Mem MsgHeader}
    {s : SPSCVarQueue.Traffic} (hq : PTCPQueue.Run Q ed q W births acks)
    (hs : SPSCVarQueue.Traffic.Reaches R blk s) (size : UInt16) :
    (PTCPQueue.AllocCovers Q ed q W.msgs size ↔
      size.toNat ≤ 65527 ∨ size ≠ 65528 ∧ blkCnts W.msgs = Q.blkCnt.toNat) ∧
    (SPSCVarQueue.AllocCovers R s size ↔
      size.toNat ≤ 65527 ∨ size ≠ 65528 ∧ s.q.writeIdx - s.q.readIdx = R.blkCnt) := by
  constructor
  · exact hq.inv.represents.toHolds.allocCovers_iff size
  · obtain ⟨us, rc, r, wa, w, hinv⟩ := hs.inv
    exact hinv.allocCovers_iff size

/-- The largest size that does not wrap, on new queues. -/
theorem alloc_covers_iff_largest :
    PTCPQueue.AllocCovers ⟨65536, rfl⟩ ⟨true, true⟩ (.init fun _ => default) [] 65527 ∧
    SPSCVarQueue.AllocCovers ⟨65536, by decide⟩ (.init fun _ => default) 65527 := by
  have hq : PTCPQueue.Run ⟨65536, rfl⟩ ⟨true, true⟩ _ _ _ _ := .init fun _ => default
  have hs : SPSCVarQueue.Traffic.Reaches ⟨65536, by decide⟩ (fun _ => default)
    (.init fun _ => default) := .refl
  have hiff := alloc_covers_iff hq hs 65527
  exact ⟨hiff.1.mpr (Or.inl (by decide)), hiff.2.mpr (Or.inl (by decide))⟩

/-- A ring of one block that holds one message. -/
def fullRing : SPSCVarQueue.Traffic :=
  let R : RingSize := ⟨64, by decide⟩
  ((SPSCVarQueue.Traffic.init fun _ => default).alloc R 0).push R ⟨0, ⟨8, 0, []⟩⟩

/-- `Alloc(65528)` returns a message of size 0 on a queue of four blocks, and on the full ring it
returns the block of the unread message, whose size it sets to 0. -/
theorem alloc_not_covers :
    ((PTCPQueue.init fun _ => default).alloc ⟨32, rfl⟩ 65528).2 = some 0 ∧
    ¬ PTCPQueue.AllocCovers ⟨32, rfl⟩ ⟨true, true⟩ (.init fun _ => default) [] 65528 ∧
    SPSCVarQueue.Traffic.Reaches ⟨64, by decide⟩ (fun _ => default) fullRing ∧
    fullRing.unread = [⟨0, ⟨8, 0, []⟩⟩] ∧
    (fullRing.q.alloc ⟨64, by decide⟩ 65528).2 = some 0 ∧
    ((fullRing.q.alloc ⟨64, by decide⟩ 65528).1.msgAt 0).size = 0 ∧
    ¬ SPSCVarQueue.AllocCovers ⟨64, by decide⟩ fullRing 65528 := by
  have halloc : ((PTCPQueue.init fun _ => default).alloc ⟨32, rfl⟩ 65528).2 = some 0 := by decide
  have hring : (fullRing.q.alloc ⟨64, by decide⟩ 65528).2 = some 0 := by decide
  refine ⟨halloc, ?_, ?_, by decide, hring, by decide, ?_⟩
  · intro hc
    exact absurd (hc.inside 0 halloc) (by decide)
  · exact .tail (.single (.alloc 0 (by decide))) (.push (by decide))
  · intro hc
    exact absurd (hc.inside 0 hring) (by decide)

end Tcpshm
