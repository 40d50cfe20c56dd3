import Tcpshm.Ring
import Tcpshm.SpscVarQueue.Basic

/-!
# What lies on the ring

Between the reader and the writer the ring holds the unread messages one after the other. A message
never runs over the end of the ring: where it would, a header of size 0 sends the reader to the
start. Positions here are unbounded block numbers; the 32-bit indices are their remainders.
-/

namespace Tcpshm

namespace RingSize

variable (R : RingSize)

/-- The number of blocks, as a number. -/
def blocks : Nat := R.blkCnt.toNat

lemma exists_blocks_eq : ∃ k ≤ 25, R.blocks = 2 ^ k := by
  have hlt : R.blocks < 2 ^ 26 := by
    have := R.bytes.toNat_lt
    have h64 : (64 : UInt32).toNat = 64 := rfl
    rw [blocks, blkCnt, UInt32.toNat_div, h64]
    omega
  have hpow : R.blocks ≠ 0 ∧ R.blocks &&& (R.blocks - 1) = 0 := by
    obtain ⟨h₀, h₁⟩ := R.pow2
    have hne : R.blocks ≠ 0 := fun h => h₀ (UInt32.toNat_inj.mp h)
    refine ⟨hne, ?_⟩
    have h1 : (1 : UInt32).toNat = 1 := rfl
    have := congrArg UInt32.toNat h₁
    rwa [UInt32.toNat_and, UInt32.toNat_sub_of_le' (by rw [h1]; exact Nat.one_le_iff_ne_zero.mpr hne),
      h1] at this
  obtain ⟨k, hk⟩ := Nat.ne_zero_and_sub_one_eq_zero_iff_isPowerOfTwo.mp hpow
  refine ⟨k, ?_, hk⟩
  rw [hk] at hlt
  exact Nat.lt_succ_iff.mp ((Nat.pow_lt_pow_iff_right (by omega)).mp hlt)

lemma blocks_pos : 0 < R.blocks := by
  obtain ⟨k, -, hk⟩ := R.exists_blocks_eq
  rw [hk]
  exact Nat.two_pow_pos k

lemma blocks_le : R.blocks ≤ 2 ^ 25 := by
  obtain ⟨k, hk, h⟩ := R.exists_blocks_eq
  rw [h]
  exact Nat.pow_le_pow_right (by omega) hk

lemma blocks_dvd : R.blocks ∣ 2 ^ 32 := by
  obtain ⟨k, hk, h⟩ := R.exists_blocks_eq
  rw [h]
  exact Nat.pow_dvd_pow 2 (by omega)

/-- Wrapping an index does not change its slot. -/
lemma slot_ofNat (p : Nat) : SPSCVarQueue.slot R (UInt32.ofNat p) = p % R.blocks := by
  rw [SPSCVarQueue.slot, UInt32.toNat_mod, UInt32.toNat_ofNat', ← blocks,
    Nat.mod_mod_of_dvd p R.blocks_dvd]

lemma toNat_padding_ofNat (p : Nat) :
    (R.blkCnt - UInt32.ofNat p % R.blkCnt).toNat = R.blocks - p % R.blocks := by
  have hmod : (UInt32.ofNat p % R.blkCnt).toNat = p % R.blocks := R.slot_ofNat p
  have hlt := Nat.mod_lt p R.blocks_pos
  rw [UInt32.toNat_sub_of_le', hmod]
  · rfl
  · rw [hmod]
    exact hlt.le

/-- Going to the start of the ring. -/
lemma ofNat_nextTurn (p : Nat) :
    UInt32.ofNat p + (R.blkCnt - UInt32.ofNat p % R.blkCnt) =
      UInt32.ofNat (Ring.nextTurn R.blocks p) := by
  rw [Ring.nextTurn, UInt32.ofNat_add, ← R.toNat_padding_ofNat, UInt32.ofNat_toNat]

end RingSize

lemma toNat_ringBlkSz (size : UInt16) : (ringBlkSz size).toNat = (size.toNat + 63) / 64 := by
  have := size.toNat_lt
  rw [ringBlkSz, UInt32.toNat_ofNat_lt (by omega)]
  omega

/-- The blocks of a message of the given size, as a number. -/
def ringBlocks (size : UInt16) : Nat := (size.toNat + 63) / 64

lemma ofNat_ringBlocks (size : UInt16) : ringBlkSz size = UInt32.ofNat (ringBlocks size) := by
  apply UInt32.toNat_inj.mp
  have := size.toNat_lt
  rw [toNat_ringBlkSz, UInt32.toNat_ofNat_lt (by unfold ringBlocks; omega), ringBlocks]

lemma ringBlocks_pos {size : UInt16} (h : size ≠ 0) : 0 < ringBlocks size := by
  have : size.toNat ≠ 0 := fun h' => h (UInt16.toNat_inj.mp h')
  unfold ringBlocks
  omega

lemma ringBlocks_le (size : UInt16) : ringBlocks size ≤ 1024 := by
  have := size.toNat_lt
  unfold ringBlocks
  omega

/-- The words of a message lie in its blocks. -/
lemma words_le (size : UInt16) : words size ≤ 8 * ringBlocks size := by
  unfold words ringBlocks
  omega

namespace SPSCVarQueue

/-- A message in its place: the block its header is in, and what it says. -/
structure Placed where
  ptr : Nat
  msg : Payload
deriving DecidableEq, Repr

/-- The number of blocks the message takes. -/
def Placed.blocks (u : Placed) : Nat := ringBlocks u.msg.size

/-- The message `u` lies at position `p`, within one turn of the ring. -/
structure LiesAt (B : Nat) (q : SPSCVarQueue) (p : Nat) (u : Placed) : Prop where
  ptr_eq : u.ptr = p % B
  size_ne : u.msg.size ≠ 0
  fits : p % B + u.blocks ≤ B
  msgAt_eq : q.msgAt (p % B) = u.msg

/-- The messages lie one after the other from position `p` to position `e`. -/
inductive Layout (B : Nat) (q : SPSCVarQueue) : Nat → List Placed → Nat → Prop where
  | nil (p : Nat) : Layout B q p [] p
  | msg {p e : Nat} {u : Placed} {us : List Placed} (h : LiesAt B q p u)
      (hrest : Layout B q (p + u.blocks) us e) : Layout B q p (u :: us) e
  | rewind {p e : Nat} {u : Placed} {us : List Placed} (hskip : (q.header (p % B)).size = 0)
      (h : LiesAt B q (Ring.nextTurn B p) u)
      (hrest : Layout B q (Ring.nextTurn B p + u.blocks) us e) : Layout B q p (u :: us) e

variable {B : Nat} {q q' : SPSCVarQueue} {p e : Nat} {u : Placed} {us : List Placed}

lemma LiesAt.size_header (h : LiesAt B q p u) : (q.header (p % B)).size = u.msg.size := by
  rw [← h.msgAt_eq]
  rfl

lemma LiesAt.blocks_pos (h : LiesAt B q p u) : 0 < u.blocks :=
  ringBlocks_pos h.size_ne

lemma Layout.le (hB : 0 < B) (h : Layout B q p us e) : p ≤ e := by
  induction h with
  | nil => exact le_rfl
  | msg _ _ ih => omega
  | @rewind p _ _ _ _ _ _ ih =>
    have := Ring.lt_nextTurn (p := p) hB
    omega

/-- The blocks at positions from `p` to `e` are the same in both queues. -/
def SameFrom (B : Nat) (q q' : SPSCVarQueue) (p e : Nat) : Prop :=
  ∀ x, p ≤ x → x < e → ∀ j < 8, q'.blk (8 * (x % B) + j) = q.blk (8 * (x % B) + j)

lemma SameFrom.mono {p' e' : Nat} (h : SameFrom B q q' p e) (hp : p ≤ p') (he : e' ≤ e) :
    SameFrom B q q' p' e' :=
  fun x hx hx' => h x (by omega) (by omega)

lemma SameFrom.header_eq (h : SameFrom B q q' p e) {x : Nat} (hx : p ≤ x) (hx' : x < e) :
    q'.header (x % B) = q.header (x % B) :=
  h x hx hx' 0 (by omega)

/-- A write to the `n` blocks from position `w` on leaves earlier positions alone, as long as they
are within a turn. -/
lemma sameFrom_write {w n a : Nat} {xs : List MsgHeader} (hfit : w % B + n ≤ B) (hle : e ≤ w)
    (hturn : w + n ≤ p + B) (ha : 8 * (w % B) ≤ a) (ha' : a + xs.length ≤ 8 * (w % B + n)) :
    SameFrom B q { q with blk := q.blk.write a xs } p e := by
  intro x hx hx' j hj
  by_cases hxs : xs = []
  · subst hxs
    simp
  have hlen : 0 < xs.length := List.length_pos_iff.mpr hxs
  have hxB : x % B < B := Nat.mod_lt x (by omega)
  have hne : ∀ k < n, x % B + 0 ≠ w % B + k := fun k hk =>
    Ring.disjoint_of_lt (n := 1) (by omega) hfit (by omega) (by omega) (by omega) hk
  by_cases hlt : x % B < w % B
  · exact Mem.write_apply_of_lt (by omega)
  · have : w % B + n ≤ x % B := by
      by_contra hcon
      exact hne (x % B - w % B) (by omega) (by omega)
    exact Mem.write_apply_of_le (by omega)

lemma LiesAt.congr (h : LiesAt B q p u) (hs : SameFrom B q q' p (p + u.blocks)) :
    LiesAt B q' p u := by
  have hpos := h.blocks_pos
  have hhead : q'.header (p % B) = q.header (p % B) := hs.header_eq le_rfl (by omega)
  refine ⟨h.ptr_eq, h.size_ne, h.fits, ?_⟩
  rw [← h.msgAt_eq]
  unfold msgAt
  rw [hhead]
  congr 1
  apply Mem.slice_congr
  intro i hi hi'
  have hw : words u.msg.size ≤ 8 * u.blocks := words_le u.msg.size
  rw [h.size_header] at hi'
  -- word `i` is word `i % 8` of the block `i / 8` of the ring
  have hblk := hs (p + (i / 8 - p % B)) (by omega) (by omega) (i % 8) (by omega)
  rw [Ring.mod_add_of_fits h.fits (by omega)] at hblk
  have hi8 : 8 * (p % B + (i / 8 - p % B)) + i % 8 = i := by omega
  rwa [hi8] at hblk

/-- Messages stay where they are when their blocks do. -/
lemma Layout.congr (hB : 0 < B) (h : Layout B q p us e) (hs : SameFrom B q q' p e) :
    Layout B q' p us e := by
  induction h with
  | nil p => exact .nil p
  | msg hu hrest ih =>
    have hle := hrest.le hB
    exact .msg (hu.congr (hs.mono le_rfl hle)) (ih (hs.mono (by omega) le_rfl))
  | @rewind p _ u _ hskip hu hrest ih =>
    have hle := hrest.le hB
    have hpos := hu.blocks_pos
    have hlt := Ring.lt_nextTurn (p := p) hB
    refine .rewind ?_ (hu.congr (hs.mono hlt.le hle)) (ih (hs.mono (by omega) le_rfl))
    rw [hs.header_eq le_rfl (by omega), hskip]

/-- A message put at the end, directly or after going to the start of the ring. -/
lemma Layout.snoc (h : Layout B q p us e) (hu : LiesAt B q e u) :
    Layout B q p (us ++ [u]) (e + u.blocks) := by
  induction h with
  | nil p => exact .msg hu (.nil _)
  | msg hu' _ ih => exact .msg hu' (ih hu)
  | rewind hskip hu' _ ih => exact .rewind hskip hu' (ih hu)

lemma Layout.snoc_rewind (h : Layout B q p us e) (hskip : (q.header (e % B)).size = 0)
    (hu : LiesAt B q (Ring.nextTurn B e) u) :
    Layout B q p (us ++ [u]) (Ring.nextTurn B e + u.blocks) := by
  induction h with
  | nil p => exact .rewind hskip hu (.nil _)
  | msg hu' _ ih => exact .msg hu' (ih hskip hu)
  | rewind hskip' hu' _ ih => exact .rewind hskip' hu' (ih hskip hu)

lemma Layout.eq_nil (hB : 0 < B) (h : Layout B q p us p) : us = [] := by
  cases h with
  | nil => rfl
  | msg hu hrest =>
    have := hrest.le hB
    have := hu.blocks_pos
    omega
  | rewind _ hu hrest =>
    have := hrest.le hB
    have := Ring.lt_nextTurn (p := p) hB
    omega

/-- The first message is at `p`, or a mark there sends the reader to the start of the ring. -/
lemma Layout.cons_inv (h : Layout B q p (u :: us) e) :
    (LiesAt B q p u ∧ Layout B q (p + u.blocks) us e) ∨
    ((q.header (p % B)).size = 0 ∧ LiesAt B q (Ring.nextTurn B p) u ∧
      Layout B q (Ring.nextTurn B p + u.blocks) us e) := by
  cases h with
  | msg hu hrest => exact Or.inl ⟨hu, hrest⟩
  | rewind hskip hu hrest => exact Or.inr ⟨hskip, hu, hrest⟩

/-- Every message lies between the ends. -/
lemma Layout.exists_liesAt (hB : 0 < B) (h : Layout B q p us e) (hu : u ∈ us) :
    ∃ x, LiesAt B q x u ∧ p ≤ x ∧ x + u.blocks ≤ e := by
  induction h with
  | nil => cases hu
  | msg hv hrest ih =>
    rcases List.mem_cons.mp hu with rfl | hu
    · exact ⟨_, hv, le_rfl, hrest.le hB⟩
    · obtain ⟨x, hx, hle, hle'⟩ := ih hu
      exact ⟨x, hx, by omega, hle'⟩
  | @rewind p _ _ _ _ hv hrest ih =>
    have hlt := Ring.lt_nextTurn (p := p) hB
    rcases List.mem_cons.mp hu with rfl | hu
    · exact ⟨_, hv, hlt.le, hrest.le hB⟩
    · obtain ⟨x, hx, hle, hle'⟩ := ih hu
      exact ⟨x, hx, by omega, hle'⟩

end SPSCVarQueue

end Tcpshm
