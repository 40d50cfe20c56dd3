import Tcpshm.SpscVarQueue.Layout

/-!
# Positions behind the indices

The 32-bit indices of the queue stand for unbounded positions, with the unread messages between
them. What `Alloc` and `Front` do is said here in terms of those positions.
-/

namespace Tcpshm

namespace SPSCVarQueue

/-! ### Positions -/

/-- The indices stand for positions `rc ≤ r ≤ wa ≤ w` within a turn; the unread messages lie from
`r` to `wa`; where the producer has gone on to the start of the ring, the mark is set. -/
structure Spans (R : RingSize) (q : SPSCVarQueue) (us : List Placed) (rc r wa w : Nat) :
    Prop where
  write_eq : q.writeIdx = UInt32.ofNat w
  atom_eq : q.writeIdxAtom = UInt32.ofNat wa
  cach_eq : q.readIdxCach = UInt32.ofNat rc
  read_eq : q.readIdx = UInt32.ofNat r
  cach_le : rc ≤ r
  turn : w ≤ rc + R.blocks
  layout : Layout R.blocks q r us wa
  gap : w = wa ∨ w = Ring.nextTurn R.blocks wa ∧ (q.header (wa % R.blocks)).size = 0

/-- What `Alloc` has returned lies at the write index, in free blocks. -/
def Room (R : RingSize) (q : SPSCVarQueue) (pending : Option Placed) (rc w : Nat) : Prop :=
  ∀ u ∈ pending, LiesAt R.blocks q w u ∧ w + u.blocks ≤ rc + R.blocks

/-- The consumer's pointer is at the first unread message. -/
def AtFirst (R : RingSize) (q : SPSCVarQueue) (fronted : Option Nat) (us : List Placed)
    (r : Nat) : Prop :=
  ∀ p ∈ fronted, ∃ u ∈ us.head?, u.ptr = p ∧ LiesAt R.blocks q r u

variable {R : RingSize} {q : SPSCVarQueue} {us : List Placed} {rc r wa w : Nat}

namespace Spans

lemma wa_le (h : Spans R q us rc r wa w) : wa ≤ w := by
  rcases h.gap with h' | ⟨h', -⟩
  · exact h'.ge
  · rw [h']
    exact (Ring.lt_nextTurn R.blocks_pos).le

lemma read_le (h : Spans R q us rc r wa w) : r ≤ wa :=
  h.layout.le R.blocks_pos

lemma write_slot (h : Spans R q us rc r wa w) : slot R q.writeIdx = w % R.blocks := by
  rw [h.write_eq, R.slot_ofNat]

lemma read_slot (h : Spans R q us rc r wa w) : slot R q.readIdx = r % R.blocks := by
  rw [h.read_eq, R.slot_ofNat]

/-- A write to free blocks at the write index. -/
lemma write {n a : Nat} (xs : List MsgHeader) (h : Spans R q us rc r wa w)
    (hfit : w % R.blocks + n ≤ R.blocks) (hturn : w + n ≤ rc + R.blocks)
    (ha : 8 * (w % R.blocks) ≤ a) (ha' : a + xs.length ≤ 8 * (w % R.blocks + n)) :
    Spans R { q with blk := q.blk.write a xs } us rc r wa w := by
  have hr := h.cach_le
  have hwa := h.wa_le
  have hra := h.read_le
  have hsame := sameFrom_write (q := q) (p := r) hfit le_rfl (by omega) ha ha'
  refine ⟨h.write_eq, h.atom_eq, h.cach_eq, h.read_eq, hr, h.turn,
    h.layout.congr R.blocks_pos (hsame.mono le_rfl hwa), ?_⟩
  rcases h.gap with h' | ⟨h', hskip⟩
  · exact Or.inl h'
  · refine Or.inr ⟨h', ?_⟩
    have := Ring.lt_nextTurn (p := wa) R.blocks_pos
    rw [hsame.header_eq hra (by omega), hskip]

/-- The first unread message stays where it is, too. -/
lemma liesAt_write {n a : Nat} (xs : List MsgHeader) {u : Placed} (h : Spans R q us rc r wa w)
    (hfit : w % R.blocks + n ≤ R.blocks) (hturn : w + n ≤ rc + R.blocks)
    (ha : 8 * (w % R.blocks) ≤ a) (ha' : a + xs.length ≤ 8 * (w % R.blocks + n))
    (hu : u ∈ us.head?) (hlies : LiesAt R.blocks q r u) :
    LiesAt R.blocks { q with blk := q.blk.write a xs } r u := by
  have hr := h.cach_le
  have hwa := h.wa_le
  have hsame := sameFrom_write (q := q) (p := r) hfit le_rfl (by omega) ha ha'
  obtain ⟨v, vs, rfl⟩ := List.exists_cons_of_ne_nil (List.ne_nil_of_mem (List.mem_of_mem_head? hu))
  obtain rfl : v = u := by simpa using hu
  have hle : r + v.blocks ≤ wa := by
    rcases h.layout.cons_inv with ⟨-, hrest⟩ | ⟨hskip, -, -⟩
    · exact hrest.le R.blocks_pos
    · exact absurd (hlies.size_header ▸ hskip) hlies.size_ne
  exact hlies.congr (hsame.mono le_rfl (by omega))

/-- The test in `Alloc`: the difference is the free room less what is needed. -/
lemma asInt_room (h : Spans R q us rc r wa w) {n c : Nat} (hc : rc ≤ c) (hc' : c ≤ r)
    (hn : n ≤ 2 ^ 26) :
    (UInt32.ofNat c - (q.writeIdx + UInt32.ofNat n - R.blkCnt)).asInt =
      (c + R.blocks : Nat) - (w + n : Nat) := by
  have hB := R.blocks_le
  have hturn := h.turn
  have hwa := h.wa_le
  have hra := h.read_le
  have hcnt : R.blkCnt = UInt32.ofNat R.blocks := by
    rw [RingSize.blocks, UInt32.ofNat_toNat]
  have : UInt32.ofNat c - (q.writeIdx + UInt32.ofNat n - R.blkCnt) =
      UInt32.ofNat (c + R.blocks) - UInt32.ofNat (w + n) := by
    rw [h.write_eq, UInt32.ofNat_add, UInt32.ofNat_add, hcnt]
    grind
  rw [this, UInt32.asInt_ofNat_sub_ofNat (by omega) (by omega)]

lemma reload (h : Spans R q us rc r wa w) : Spans R q.reload us r r wa w :=
  ⟨h.write_eq, h.atom_eq, h.read_eq, h.read_eq, le_rfl, h.turn.trans (by have := h.cach_le; omega),
    h.layout.congr R.blocks_pos fun _ _ _ _ _ => rfl, h.gap⟩

end Spans

/-! ### `Alloc` -/

/-- The blocks `Alloc` needs: those of the message, after the rest of the ring if it rewinds. -/
def need (R : RingSize) (w : Nat) (size : UInt16) : Nat :=
  if R.blocks - w % R.blocks < ringBlocks size then
    ringBlocks size + (R.blocks - w % R.blocks)
  else ringBlocks size

lemma need_le (R : RingSize) (w : Nat) (size : UInt16) : need R w size ≤ 2 ^ 26 := by
  have h₁ := ringBlocks_le size
  have h₂ := R.blocks_le
  unfold need
  split_ifs <;> omega

namespace Spans

lemma rewinds_iff (h : Spans R q us rc r wa w) (size : UInt16) :
    q.rewinds R size = decide (R.blocks - w % R.blocks < ringBlocks size) := by
  rw [rewinds, decide_eq_decide, gt_iff_lt, UInt32.lt_iff_toNat_lt, paddingSz, h.write_eq,
    R.toNat_padding_ofNat, toNat_ringBlkSz, ringBlocks]

lemma minReadIdx_eq (h : Spans R q us rc r wa w) (size : UInt16) :
    q.minReadIdx R size = q.writeIdx + UInt32.ofNat (need R w size) - R.blkCnt := by
  have hpad : q.paddingSz R = UInt32.ofNat (R.blocks - w % R.blocks) := by
    rw [paddingSz, h.write_eq, ← R.toNat_padding_ofNat, UInt32.ofNat_toNat]
  rw [minReadIdx, h.rewinds_iff, need, ofNat_ringBlocks]
  by_cases hrew : R.blocks - w % R.blocks < ringBlocks size
  · rw [if_pos hrew, if_pos (by simpa using hrew), hpad, UInt32.ofNat_add]
    grind
  · rw [if_neg hrew, if_neg (by simpa using hrew)]
    grind

/-- `Alloc` fails for want of room, or places the message in front of the reader. -/
theorem alloc_cases (h : Spans R q us rc r wa w) (size : UInt16) :
    ((q.alloc R size) = (q.reload, none) ∧ q.allocStores R size = [.readIdxCach q.readIdx]) ∨
    ∃ q' c pre, (q' = q ∧ c = rc ∧ pre = [] ∨
        q' = q.reload ∧ c = r ∧ pre = [Store.readIdxCach q.readIdx]) ∧
      w + need R w (size + 8) ≤ c + R.blocks ∧ Spans R q' us c r wa w ∧
      q.alloc R size = q'.place R (size + 8) ∧
      q.allocStores R size = pre ++ q'.placeStores R (size + 8) := by
  have hn := need_le R w (size + 8)
  have hold := h.asInt_room le_rfl h.cach_le hn
  have hnew := h.asInt_room h.cach_le le_rfl hn
  rw [← h.minReadIdx_eq] at hold hnew
  rw [← h.cach_eq] at hold
  rw [← h.read_eq] at hnew
  unfold SPSCVarQueue.alloc allocStores
  by_cases h₁ : (q.readIdxCach - q.minReadIdx R (size + 8)).asInt < 0
  · by_cases h₂ : (q.readIdx - q.minReadIdx R (size + 8)).asInt < 0
    · refine Or.inl ⟨?_, ?_⟩
      · rw [if_pos h₁]
        exact if_pos h₂
      · rw [if_pos h₁, if_pos h₂]
    · refine Or.inr ⟨q.reload, r, _, Or.inr ⟨rfl, rfl, rfl⟩, by omega, h.reload, ?_, ?_⟩
      · rw [if_pos h₁]
        exact if_neg h₂
      · rw [if_pos h₁, if_neg h₂]
        rfl
  · refine Or.inr ⟨q, rc, _, Or.inl ⟨rfl, rfl, rfl⟩, by omega, h, if_neg h₁, ?_⟩
    rw [if_neg h₁]
    rfl

/-- `Alloc` returns null exactly when the reader leaves too little room. -/
theorem alloc_none_iff (h : Spans R q us rc r wa w) (size : UInt16) :
    (q.alloc R size).2 = none ↔ r + R.blocks < w + need R w (size + 8) := by
  have hcr := h.cach_le
  have hn := need_le R w (size + 8)
  have hold := h.asInt_room le_rfl hcr hn
  have hnew := h.asInt_room hcr le_rfl hn
  rw [← h.minReadIdx_eq] at hold hnew
  rw [← h.cach_eq] at hold
  rw [← h.read_eq] at hnew
  have hplace : ∀ q : SPSCVarQueue, (q.place R (size + 8)).2 ≠ none := fun _ => by
    simp [SPSCVarQueue.place]
  have hcach : q.reload.readIdxCach = q.readIdx := rfl
  unfold SPSCVarQueue.alloc
  by_cases h₁ : (q.readIdxCach - q.minReadIdx R (size + 8)).asInt < 0
  · rw [if_pos h₁]
    by_cases h₂ : (q.readIdx - q.minReadIdx R (size + 8)).asInt < 0
    · have hroom : r + R.blocks < w + need R w (size + 8) := by omega
      simpa [hcach, h₂] using hroom
    · have hroom : ¬ r + R.blocks < w + need R w (size + 8) := by omega
      simpa [hcach, h₂, hroom] using hplace q.reload
  · have hroom : ¬ r + R.blocks < w + need R w (size + 8) := by omega
    simpa [h₁, hroom] using hplace q

/-- A header size written at the write index, where there is a free block. -/
lemma setSize (h : Spans R q us rc r wa w) (hturn : w + 1 ≤ rc + R.blocks) (size : UInt16) :
    Spans R (q.setSize (w % R.blocks) size) us rc r wa w :=
  have hlt := Nat.mod_lt w R.blocks_pos
  h.write (n := 1) _ (by omega) hturn le_rfl (by simp)

lemma atFirst_setSize {fronted : Option Nat} (h : Spans R q us rc r wa w)
    (hturn : w + 1 ≤ rc + R.blocks) (size : UInt16) (hf : AtFirst R q fronted us r) :
    AtFirst R (q.setSize (w % R.blocks) size) fronted us r := by
  intro p hp
  obtain ⟨u, hu, hptr, hlies⟩ := hf p hp
  have hlt := Nat.mod_lt w R.blocks_pos
  exact ⟨u, hu, hptr, h.liesAt_write (n := 1) _ (by omega) hturn le_rfl (by simp) hu hlies⟩

/-- The rewind leaves the mark and moves the write index to the start of the ring. -/
lemma rewind (h : Spans R q us rc r wa w) (hw : w = wa)
    (hturn : Ring.nextTurn R.blocks w ≤ rc + R.blocks) :
    Spans R (q.rewind R) us rc r wa (Ring.nextTurn R.blocks w) := by
  have hlt := Ring.lt_nextTurn (p := w) R.blocks_pos
  have hset := h.setSize (by omega) 0
  rw [← h.write_slot] at hset
  refine ⟨?_, hset.atom_eq, hset.cach_eq, hset.read_eq, h.cach_le, hturn,
    hset.layout.congr R.blocks_pos fun _ _ _ _ _ => rfl, Or.inr ⟨by rw [hw], ?_⟩⟩
  · show q.writeIdx + q.paddingSz R = _
    rw [paddingSz, h.write_eq, R.ofNat_nextTurn]
  · rw [← hw, ← h.write_slot]
    show ((q.setSize (slot R q.writeIdx) 0).header _).size = 0
    simp [SPSCVarQueue.setSize, header]

/-- A message that goes to the start of the ring: the gap cannot be there already. -/
lemma rewind_room {size : UInt16} (h : Spans R q us rc r wa w)
    (hcase : R.blocks - w % R.blocks < ringBlocks size)
    (hroom : w + need R w size ≤ rc + R.blocks) :
    w = wa ∧ Ring.nextTurn R.blocks w + ringBlocks size ≤ rc + R.blocks := by
  have hcr := h.cach_le
  have hwa := h.wa_le
  have hra := h.read_le
  have hnext : Ring.nextTurn R.blocks w = w + (R.blocks - w % R.blocks) := rfl
  rw [need, if_pos hcase] at hroom
  refine ⟨?_, by omega⟩
  rcases h.gap with hw | ⟨hw, -⟩
  · exact hw
  · have := Ring.nextTurn_mod (p := wa) R.blocks_pos
    rw [← hw] at this
    omega

lemma atFirst_rewind {fronted : Option Nat} (h : Spans R q us rc r wa w)
    (hturn : w + 1 ≤ rc + R.blocks) (hf : AtFirst R q fronted us r) :
    AtFirst R (q.rewind R) fronted us r := by
  have := h.atFirst_setSize hturn 0 hf
  rw [← h.write_slot] at this
  intro p hp
  obtain ⟨u, hu, hptr, hlies⟩ := this p hp
  exact ⟨u, hu, hptr, hlies.congr fun _ _ _ _ _ => rfl⟩

end Spans

@[simp] lemma header_setSize_self (q : SPSCVarQueue) (i : Nat) (size : UInt16) :
    (q.setSize i size).header i = { q.header i with size := size } := by
  simp [setSize, header]

/-- With the size in its header, the message `Alloc` returns lies at the write index. -/
lemma liesAt_setSize (q : SPSCVarQueue) {B w : Nat} {size : UInt16} (hne : size ≠ 0)
    (hfit : w % B + ringBlocks size ≤ B) :
    LiesAt B (q.setSize (w % B) size) w ⟨w % B, (q.setSize (w % B) size).msgAt (w % B)⟩ := by
  have hsize : ((q.setSize (w % B) size).msgAt (w % B)).size = size := by
    simp [msgAt]
  refine ⟨rfl, ?_, ?_, rfl⟩
  · rwa [hsize]
  · rwa [Placed.blocks, hsize]

/-- A block at a position that is free for the producer. -/
def Free (R : RingSize) (r wa i : Nat) : Prop := ∃ x, i = x % R.blocks ∧ wa ≤ x ∧ x < r + R.blocks

/-- Placing a message where there is room for it. -/
theorem Spans.place {fronted : Option Nat} {size : UInt16} (h : Spans R q us rc r wa w)
    (hf : AtFirst R q fronted us r) (hne : size ≠ 0)
    (hroom : w + need R w size ≤ rc + R.blocks) :
    ∃ w' p, (q.place R size).2 = some p ∧ w ≤ w' ∧ Spans R (q.place R size).1 us rc r wa w' ∧
      AtFirst R (q.place R size).1 fronted us r ∧
      LiesAt R.blocks (q.place R size).1 w' ⟨p, (q.place R size).1.msgAt p⟩ ∧
      w' + ringBlocks size ≤ rc + R.blocks ∧
      ∀ st ∈ q.placeStores R size, ∀ i, st.block = some i → Free R r wa i := by
  have hpos := ringBlocks_pos hne
  have hlt := Nat.mod_lt w R.blocks_pos
  have hr := h.cach_le
  have hwa := h.wa_le
  have hra := h.read_le
  have hrew := h.rewinds_iff size
  by_cases hcase : R.blocks - w % R.blocks < ringBlocks size
  · -- the message goes to the start of the ring
    obtain ⟨hw, hle⟩ := h.rewind_room hcase hroom
    rw [decide_eq_true hcase] at hrew
    have hnext : Ring.nextTurn R.blocks w = w + (R.blocks - w % R.blocks) := rfl
    have hs := h.rewind hw (by omega)
    have hmod := Ring.nextTurn_mod (p := w) R.blocks_pos
    have hfr := h.atFirst_rewind (by omega) hf
    have hplace : q.place R size = ((q.rewind R).setSize (Ring.nextTurn R.blocks w % R.blocks) size,
        some (Ring.nextTurn R.blocks w % R.blocks)) := by
      rw [SPSCVarQueue.place, hrew, ← hs.write_slot]
      rfl
    rw [hplace]
    refine ⟨_, _, rfl, by omega, hs.setSize (by omega) size, hs.atFirst_setSize (by omega) size hfr,
      liesAt_setSize _ hne (by omega), by omega, ?_⟩
    intro st hst i hi
    rw [placeStores, hrew, if_pos rfl] at hst
    have hidx : slot R (q.writeIdx + q.paddingSz R) = Ring.nextTurn R.blocks w % R.blocks :=
      hs.write_slot
    simp only [List.mem_cons, List.not_mem_nil, or_false] at hst
    rcases hst with rfl | rfl | rfl
    · obtain rfl : slot R q.writeIdx = i := Option.some.inj hi
      exact ⟨w, h.write_slot, hwa, by omega⟩
    · cases hi
    · obtain rfl : slot R (q.writeIdx + q.paddingSz R) = i := Option.some.inj hi
      exact ⟨_, hidx, by omega, by omega⟩
  · rw [need, if_neg hcase] at hroom
    rw [decide_eq_false hcase] at hrew
    have hplace : q.place R size = (q.setSize (w % R.blocks) size, some (w % R.blocks)) := by
      rw [SPSCVarQueue.place, hrew, ← h.write_slot]
      rfl
    rw [hplace]
    refine ⟨w, _, rfl, le_rfl, h.setSize (by omega) size, h.atFirst_setSize (by omega) size hf,
      liesAt_setSize _ hne (by omega), hroom, ?_⟩
    intro st hst i hi
    rw [placeStores, hrew, if_neg (by decide), List.mem_singleton] at hst
    subst hst
    obtain rfl : slot R q.writeIdx = i := Option.some.inj hi
    exact ⟨w, h.write_slot, hwa, by omega⟩

lemma AtFirst.congr {q' : SPSCVarQueue} {fronted : Option Nat} (hf : AtFirst R q fronted us r)
    (hblk : q'.blk = q.blk) : AtFirst R q' fronted us r := by
  intro p hp
  obtain ⟨u, hu, hptr, hlies⟩ := hf p hp
  exact ⟨u, hu, hptr, hlies.congr fun _ _ _ _ _ => by rw [hblk]⟩

lemma add_eight_ne_zero {size : UInt16} (h : size.toNat + 8 ≤ 65535) : size + 8 ≠ 0 := by
  intro h0
  have h8 : (8 : UInt16).toNat = 8 := rfl
  have := congrArg UInt16.toNat h0
  rw [UInt16.toNat_add, h8] at this
  simp at this
  omega

/-- The block `i` is one of the message's. -/
def Placed.Owns (u : Placed) (i : Nat) : Prop := u.ptr ≤ i ∧ i < u.ptr + u.blocks

/-- A block that is free for the producer belongs to no unread message. -/
lemma Spans.not_owns (h : Spans R q us rc r wa w) {i : Nat} (hi : Free R r wa i) {u : Placed}
    (hu : u ∈ us) : ¬ u.Owns i := by
  rintro ⟨hle, hlt⟩
  obtain ⟨x, rfl, hx, hx'⟩ := hi
  obtain ⟨y, hlies, hy, hy'⟩ := h.layout.exists_liesAt R.blocks_pos hu
  have hxB := Nat.mod_lt x R.blocks_pos
  rw [hlies.ptr_eq] at hle hlt
  have := Ring.disjoint_of_lt (n := u.blocks) (k := 1) hlies.fits hxB (by omega) (by omega)
    (i := x % R.blocks - y % R.blocks) (j := 0) (by omega) (by omega)
  omega

/-! ### `Front` -/

/-- `Front` points at the first unread message, after going to the start of the ring where a mark
says so, and returns null when there is none. -/
theorem Spans.front (h : Spans R q us rc r wa w) :
    ∃ r', Spans R (q.front R).1 us rc r' wa w ∧ AtFirst R (q.front R).1 (q.front R).2 us r' ∧
      ((q.front R).2 = none → us = []) := by
  have hB := R.blocks_le
  have hturn := h.turn
  have hwa := h.wa_le
  have hra := h.read_le
  have hcr := h.cach_le
  have hinj : ∀ x, rc ≤ x → x ≤ wa → (UInt32.ofNat x = q.writeIdxAtom ↔ x = wa) := by
    intro x hx hx'
    rw [h.atom_eq]
    constructor
    · intro heq
      have := UInt32.toNat_ofNat_sub_ofNat hx' (by omega)
      rw [heq, UInt32.sub_self] at this
      have h0 : (0 : UInt32).toNat = 0 := rfl
      omega
    · rintro rfl
      rfl
  unfold SPSCVarQueue.front
  rw [h.read_slot]
  by_cases hempty : q.readIdx = q.writeIdxAtom
  · rw [if_pos hempty]
    have hr : r = wa := by
      rw [h.read_eq] at hempty
      exact (hinj r hcr hra).mp hempty
    refine ⟨r, h, ?_, fun _ => ?_⟩
    · intro p hp
      cases hp
    · have hlay := h.layout
      rw [← hr] at hlay
      exact hlay.eq_nil R.blocks_pos
  rw [if_neg hempty]
  have hne : r ≠ wa := by
    intro hr
    rw [h.read_eq] at hempty
    exact hempty ((hinj r hcr hra).mpr hr)
  obtain ⟨u, us', rfl⟩ : ∃ u us', us = u :: us' := by
    cases us with
    | nil =>
      have hlay := h.layout
      cases hlay
      exact absurd rfl hne
    | cons u us' => exact ⟨u, us', rfl⟩
  rcases h.layout.cons_inv with ⟨hlies, -⟩ | ⟨hskip, hlies, hrest⟩
  · rw [if_neg (hlies.size_header ▸ hlies.size_ne)]
    refine ⟨r, h, ?_, fun hp => by cases hp⟩
    intro p hp
    refine ⟨u, rfl, ?_, hlies⟩
    rw [hlies.ptr_eq]
    exact Option.some.inj hp
  · have hlt := Ring.lt_nextTurn (p := r) R.blocks_pos
    have hle := hrest.le R.blocks_pos
    have hpos := hlies.blocks_pos
    have hidx : q.readIdx + (R.blkCnt - q.readIdx % R.blkCnt) =
        UInt32.ofNat (Ring.nextTurn R.blocks r) := by
      rw [h.read_eq, R.ofNat_nextTurn]
    have hnot : UInt32.ofNat (Ring.nextTurn R.blocks r) ≠ q.writeIdxAtom := by
      rw [Ne, hinj _ (by omega) (by omega)]
      omega
    rw [if_pos hskip, hidx, if_neg hnot, R.slot_ofNat]
    have hsame : ∀ x y, SameFrom R.blocks q
        { q with readIdx := UInt32.ofNat (Ring.nextTurn R.blocks r) } x y := fun _ _ _ _ _ _ _ => rfl
    have hlies' := hlies.congr (hsame _ _)
    refine ⟨Ring.nextTurn R.blocks r, ⟨h.write_eq, h.atom_eq, h.cach_eq, rfl, by omega, hturn,
      .msg hlies' (hrest.congr R.blocks_pos (hsame _ _)), h.gap⟩, ?_, fun hp => by cases hp⟩
    intro p hp
    refine ⟨u, rfl, ?_, hlies'⟩
    rw [hlies.ptr_eq]
    exact Option.some.inj hp

end SPSCVarQueue

end Tcpshm
