import Tcpshm.PtcpQueue.Run
import Tcpshm.SpscVarQueue.Crash

/-!
# The room `Alloc` finds

`Alloc` looks at its copy of `read_idx` first and loads `read_idx` only where the copy leaves too
little room. The copy is never more than a turn behind, so that the comparison comes out as if
`read_idx` had been loaded. What room there is also depends on where the write index stands: a
message does not run over the end of the ring, even if the ring is empty.
-/

namespace Tcpshm

namespace SPSCVarQueue

variable (R : RingSize)

/-- The blocks of a message of the given size, and those up to the end of the ring where it does
not fit before it. -/
def needed (q : SPSCVarQueue) (size : UInt16) : UInt32 :=
  ringBlkSz size + if q.rewinds R size then q.paddingSz R else 0

/-- `Alloc` as it would be if it always loaded `read_idx`. -/
def allocLoading (q : SPSCVarQueue) (size : UInt16) : SPSCVarQueue × Option Nat :=
  let q := q.reload
  let size := size + 8
  if (q.readIdxCach - q.minReadIdx R size).asInt < 0 then (q, none) else q.place R size

variable {R} {q : SPSCVarQueue} {us : List Placed} {rc r wa w : Nat}

/-! ### The copy of the read index -/

lemma place_reload (q : SPSCVarQueue) (size : UInt16) :
    q.reload.place R size = ((q.place R size).1.reload, (q.place R size).2) := by
  have hrew : q.reload.rewinds R size = q.rewinds R size := rfl
  simp only [place, hrew]
  split_ifs <;> rfl

namespace Spans

/-- With an old copy of `read_idx`, `Alloc` does what it does with a new one. -/
theorem alloc_loading (h : Spans R q us rc r wa w) (size : UInt16) :
    (q.alloc R size).2 = (q.allocLoading R size).2 ∧
    (q.alloc R size).1.reload = (q.allocLoading R size).1 := by
  have hcr := h.cach_le
  have hn := need_le R w (size + 8)
  have hold := h.asInt_room le_rfl hcr hn
  have hnew := h.asInt_room hcr le_rfl hn
  rw [← h.minReadIdx_eq] at hold hnew
  rw [← h.cach_eq] at hold
  rw [← h.read_eq] at hnew
  have hcach : q.reload.readIdxCach = q.readIdx := rfl
  have hmin : q.reload.minReadIdx R (size + 8) = q.minReadIdx R (size + 8) := rfl
  have hplace : (q.reload.place R (size + 8)).1.reload = (q.reload.place R (size + 8)).1 := by
    rw [place_reload]
    rfl
  simp only [SPSCVarQueue.alloc, allocLoading, hcach, hmin]
  by_cases h₁ : (q.readIdxCach - q.minReadIdx R (size + 8)).asInt < 0
  · rw [if_pos h₁]
    split_ifs
    · exact ⟨rfl, rfl⟩
    · exact ⟨rfl, hplace⟩
  · -- the reader is not behind the copy
    have h₂ : ¬ (q.readIdx - q.minReadIdx R (size + 8)).asInt < 0 := by omega
    rw [if_neg h₁, if_neg h₂, place_reload]
    exact ⟨rfl, rfl⟩

lemma toNat_needed (h : Spans R q us rc r wa w) (size : UInt16) :
    (q.needed R size).toNat = need R w size := by
  have hpad : (q.paddingSz R).toNat = R.blocks - w % R.blocks := by
    rw [paddingSz, h.write_eq, R.toNat_padding_ofNat]
  have hle := need_le R w size
  rw [needed, h.rewinds_iff]
  unfold need at hle ⊢
  by_cases hrew : R.blocks - w % R.blocks < ringBlocks size
  · rw [if_pos hrew] at hle ⊢
    have hsum : (ringBlkSz size).toNat + (q.paddingSz R).toNat < 2 ^ 32 := by
      rw [hpad, toNat_ringBlkSz]
      unfold ringBlocks at hle
      omega
    rw [if_pos (by simpa using hrew), UInt32.toNat_add_of_lt hsum, hpad, toNat_ringBlkSz]
    rfl
  · rw [if_neg hrew, if_neg (by simpa using hrew), UInt32.add_zero, toNat_ringBlkSz]
    rfl

lemma toNat_used (h : Spans R q us rc r wa w) : (q.writeIdx - q.readIdx).toNat = w - r := by
  have hB := R.blocks_le
  have hturn := h.turn
  have hcr := h.cach_le
  rw [h.write_eq, h.read_eq, UInt32.toNat_ofNat_sub_ofNat (h.read_le.trans h.wa_le) (by omega)]

/-- `Alloc` succeeds exactly when what it needs is free. -/
theorem alloc_ne_none_iff (h : Spans R q us rc r wa w) (size : UInt16) :
    (q.alloc R size).2 ≠ none ↔
      q.needed R (size + 8) ≤ R.blkCnt - (q.writeIdx - q.readIdx) := by
  have hturn := h.turn
  have hcr := h.cach_le
  have hwa := h.wa_le
  have hra := h.read_le
  have hused := h.toNat_used
  have hB : R.blkCnt.toNat = R.blocks := rfl
  have hfree : (R.blkCnt - (q.writeIdx - q.readIdx)).toNat = R.blocks - (w - r) := by
    rw [UInt32.toNat_sub_of_le' (by omega), hused, hB]
  rw [Ne, h.alloc_none_iff, UInt32.le_iff_toNat_le, h.toNat_needed, hfree]
  omega

/-- The copy of `read_idx` is at most a turn behind the write index. -/
theorem cach_within (h : Spans R q us rc r wa w) : q.writeIdx - q.readIdxCach ≤ R.blkCnt := by
  have hB := R.blocks_le
  have hturn := h.turn
  have hcr := h.cach_le
  have hwa := h.wa_le
  have hra := h.read_le
  have hcnt : R.blkCnt.toNat = R.blocks := rfl
  rw [UInt32.le_iff_toNat_le, h.write_eq, h.cach_eq,
    UInt32.toNat_ofNat_sub_ofNat (by omega) (by omega), hcnt]
  omega

/-- A failed `Alloc` has loaded `read_idx`, and nothing else has changed. -/
lemma alloc_eq_reload (h : Spans R q us rc r wa w) {size : UInt16}
    (hnone : (q.alloc R size).2 = none) : (q.alloc R size).1 = q.reload := by
  rcases h.alloc_cases size with ⟨halloc, -⟩ | ⟨q', -, -, -, -, -, halloc, -⟩
  · rw [halloc]
  · simp [halloc, SPSCVarQueue.place] at hnone

end Spans

namespace Traffic

variable {s : Traffic} {blk : Mem MsgHeader}

/-- The copy changes nothing: `Alloc` returns what it would return had it loaded `read_idx`, and
leaves the same queue but for the copy; it fails exactly for want of room, which leaves everything
but the copy as it was; and after every store of either producer call, the copy is at most a turn
behind. -/
theorem Reaches.cache_transparent (h : Reaches R blk s) :
    (∀ size : UInt16, size.toNat + 8 ≤ 65535 →
      (s.q.alloc R size).2 = (s.q.allocLoading R size).2 ∧
      (s.q.alloc R size).1.reload = (s.q.allocLoading R size).1 ∧
      ((s.q.alloc R size).2 ≠ none ↔
        s.q.needed R (size + 8) ≤ R.blkCnt - (s.q.writeIdx - s.q.readIdx)) ∧
      ((s.q.alloc R size).2 = none → (s.q.alloc R size).1 = { s.q with readIdxCach := s.q.readIdx }) ∧
      ∀ n, let q := ((s.q.allocStores R size).take n).foldl Store.apply s.q
        q.writeIdx - q.readIdxCach ≤ R.blkCnt) ∧
    (∀ u ∈ s.pending, ∀ n, let q := ((s.q.pushStores R).take n).foldl Store.apply s.q
      q.writeIdx - q.readIdxCach ≤ R.blkCnt) ∧
    s.q.writeIdx - s.q.readIdxCach ≤ R.blkCnt := by
  obtain ⟨us, rc, r, wa, w, hinv⟩ := h.inv
  have hs := hinv.spans
  refine ⟨?_, ?_, hs.cach_within⟩
  · intro size hsize
    obtain ⟨hptr, hq⟩ := hs.alloc_loading size
    refine ⟨hptr, hq, hs.alloc_ne_none_iff size, hs.alloc_eq_reload, fun n => ?_⟩
    obtain ⟨rc', w', hs', -⟩ := hs.allocStores_take hinv.atFirst hsize n
    exact hs'.cach_within
  · intro u hu n
    match n with
    | 0 => exact hs.cach_within
    | 1 => exact (hinv.push hu).spans.cach_within
    | n + 2 =>
      have hcut : ((s.q.pushStores R).take (n + 2)).foldl Store.apply s.q = s.q.push R := by
        simp [pushStores, push_eq_foldl]
      rw [hcut]
      exact (hinv.push hu).spans.cach_within

/-- On a ring of four blocks a message of two has gone through, and the copy still says 0. -/
theorem Reaches.cache_transparent_stale :
    let R : RingSize := ⟨256, by decide⟩
    let u : Placed := ⟨0, ⟨128, 0, List.replicate 15 default⟩⟩
    let s := ((((init fun _ => default).alloc R 120).push R u).front R).pop R 0
    s.q.readIdxCach = 0 ∧ s.q.readIdx = 2 ∧
      (s.q.alloc R 150).2 = (s.q.allocLoading R 150).2 := by
  intro R u s
  have h₁ : Reaches R (fun _ => default) ((init fun _ => default).alloc R 120) :=
    .single (.alloc 120 (by decide))
  have h₂ := (h₁.tail (.push (u := u) (by decide +kernel))).tail .front
  have h₃ : Reaches R (fun _ => default) s := h₂.tail (.pop (p := 0) (by decide +kernel))
  exact ⟨by decide +kernel, by decide +kernel, (h₃.cache_transparent.1 150 (by decide)).1⟩

end Traffic

/-! ### An emptied queue -/

variable (R) in
/-- There is room for the message before the read index, or behind it where the producer has not
gone on to the start of the ring. -/
def FitsBeside (q : SPSCVarQueue) (size : UInt16) : Prop :=
  ringBlkSz size ≤ q.readIdx % R.blkCnt ∨
    q.writeIdx = q.readIdx ∧ ringBlkSz size ≤ R.blkCnt - q.readIdx % R.blkCnt

instance (q : SPSCVarQueue) (size : UInt16) : Decidable (q.FitsBeside R size) :=
  inferInstanceAs (Decidable (_ ∨ _))

lemma spans_init (blk : Mem MsgHeader) : Spans R (init blk) [] 0 0 0 0 :=
  (Traffic.inv_init blk).spans

/-- A new queue takes what is not larger than the ring. -/
lemma alloc_init_ne_none_iff (blk : Mem MsgHeader) (size : UInt16) :
    ((init blk).alloc R size).2 ≠ none ↔ ringBlocks (size + 8) ≤ R.blocks := by
  rw [Ne, (spans_init blk).alloc_none_iff, need, Nat.zero_mod]
  split_ifs <;> omega

/-- With no message on the ring, the offset of the read index decides. -/
theorem Spans.alloc_ne_none_iff_of_empty (h : Spans R q [] rc r wa w) {size : UInt16}
    (hle : ringBlocks (size + 8) ≤ R.blocks) :
    (q.alloc R size).2 ≠ none ↔ q.FitsBeside R (size + 8) := by
  obtain rfl : r = wa := by
    cases h.layout
    rfl
  have hB := R.blocks_le
  have hmod := Nat.mod_lt r R.blocks_pos
  have hoff : (q.readIdx % R.blkCnt).toNat = r % R.blocks := h.read_slot
  have hrest : (R.blkCnt - q.readIdx % R.blkCnt).toNat = R.blocks - r % R.blocks := by
    rw [h.read_eq, R.toNat_padding_ofNat]
  rw [Ne, h.alloc_none_iff, FitsBeside, UInt32.le_iff_toNat_le, UInt32.le_iff_toNat_le,
    toNat_ringBlkSz, hoff, hrest]
  show _ ↔ ringBlocks (size + 8) ≤ _ ∨ _ ∧ ringBlocks (size + 8) ≤ _
  rcases h.gap with rfl | ⟨hw, -⟩
  · have hidx : q.writeIdx = q.readIdx := by rw [h.write_eq, h.read_eq]
    rw [need]
    simp only [hidx, true_and]
    split_ifs <;> omega
  · -- the producer stands at the start of the ring, less than a turn ahead of the consumer
    have hlt := Ring.lt_nextTurn (p := r) R.blocks_pos
    have hzero : w % R.blocks = 0 := by rw [hw, Ring.nextTurn_mod R.blocks_pos]
    have hnext : w = r + (R.blocks - r % R.blocks) := hw
    have hidx : q.writeIdx ≠ q.readIdx := by
      intro heq
      have hused := h.toNat_used
      rw [heq, UInt32.sub_self, UInt32.toNat_zero] at hused
      omega
    rw [need, hzero]
    simp only [hidx, false_and, or_false]
    split_ifs <;> omega

lemma Spans.front_of_empty (h : Spans R q [] rc r wa w) : q.front R = (q, none) := by
  have hr : r = wa := by
    cases h.layout
    rfl
  exact if_pos (by rw [h.read_eq, h.atom_eq, hr])

namespace Traffic

variable (R) in
/-- An operation of the producer or of the consumer, with any size that does not wrap to 0. -/
inductive AnyStep : Traffic → Traffic → Prop where
  | step {s s' : Traffic} (h : Step R s s') : AnyStep s s'
  | alloc {s : Traffic} (size : UInt16) (hne : size + 8 ≠ 0) : AnyStep s (s.alloc R size)

variable (R) in
/-- The states reached from an initialised queue. -/
def AnyReaches (blk : Mem MsgHeader) (s : Traffic) : Prop :=
  Relation.ReflTransGen (AnyStep R) (init blk) s

variable {s s' : Traffic} {blk : Mem MsgHeader}

lemma AnyStep.inv (hstep : AnyStep R s s') (h : Inv R s us rc r wa w) :
    ∃ us rc r wa w, Inv R s' us rc r wa w := by
  cases hstep with
  | step hstep => exact hstep.inv h
  | alloc size hne =>
    obtain ⟨rc', w', h'⟩ := h.alloc_of_ne hne
    exact ⟨us, rc', r, wa, w', h'⟩

theorem AnyReaches.inv (h : AnyReaches R blk s) : ∃ us rc r wa w, Inv R s us rc r wa w := by
  induction h with
  | refl => exact ⟨[], 0, 0, 0, 0, inv_init blk⟩
  | tail _ hstep ih =>
    obtain ⟨us, rc, r, wa, w, hinv⟩ := ih
    exact hstep.inv hinv

variable (R) in
/-- The producer asks for the same size again, or the consumer looks for a message. -/
def Retry (size : UInt16) (s s' : Traffic) : Prop := s' = s.alloc R size ∨ s' = s.front R

/-- A size that is refused on an empty queue is refused however often it is asked for. -/
theorem Inv.refused (h : Inv R s [] rc r wa w) {size : UInt16}
    (hnone : (s.q.alloc R size).2 = none) (hrun : Relation.ReflTransGen (Retry R size) s s') :
    ∃ rc, Inv R s' [] rc r wa w ∧ (s'.q.alloc R size).2 = none := by
  induction hrun with
  | refl => exact ⟨rc, h, hnone⟩
  | @tail s₁ s₂ _ hretry ih =>
    obtain ⟨rc₁, h₁, hnone₁⟩ := ih
    rcases hretry with rfl | rfl
    · have hq : s₁.alloc R size = { s₁ with q := s₁.q.reload } := by
        rw [Traffic.alloc, hnone₁, h₁.spans.alloc_eq_reload hnone₁]
      have hs := h₁.spans.reload
      rw [hq]
      refine ⟨r, ⟨hs, ?_, h₁.atFirst.congr rfl, h₁.pushed_eq⟩, ?_⟩
      · intro u hu
        obtain ⟨hlies, hle⟩ := h₁.room u hu
        have hcr := h₁.spans.cach_le
        exact ⟨hlies.congr fun _ _ _ _ _ => rfl, by omega⟩
      · exact (hs.alloc_none_iff size).mpr ((h₁.spans.alloc_none_iff size).mp hnone₁)
    · have hq : s₁.front R = { s₁ with fronted := none } := by
        rw [Traffic.front, h₁.spans.front_of_empty]
      rw [hq]
      exact ⟨rc₁, ⟨h₁.spans, h₁.room, fun p hp => (by cases hp), h₁.pushed_eq⟩, hnone₁⟩

/-- With all messages popped, what a new queue takes is taken exactly when it fits beside the read
index; else it is refused for as long as nothing smaller is sent. -/
theorem AnyReaches.drained_alloc_iff (h : AnyReaches R blk s)
    (hdrained : s.popped = s.pushed.map Placed.msg) {size : UInt16}
    (hnew : ((SPSCVarQueue.init blk).alloc R size).2 ≠ none) :
    ((s.q.alloc R size).2 ≠ none ↔ s.q.FitsBeside R (size + 8)) ∧
    (¬ s.q.FitsBeside R (size + 8) → ∀ s', Relation.ReflTransGen (Retry R size) s s' →
      (s'.q.alloc R size).2 = none) := by
  obtain ⟨us, rc, r, wa, w, hinv⟩ := h.inv
  have hmap := hinv.pushed_map
  rw [← hdrained] at hmap
  obtain rfl : us = [] := by simpa using hmap
  have hiff := hinv.spans.alloc_ne_none_iff_of_empty ((alloc_init_ne_none_iff blk size).mp hnew)
  refine ⟨hiff, fun hnot s' hrun => ?_⟩
  obtain ⟨-, -, hnone⟩ := hinv.refused (not_ne_iff.mp (mt hiff.mp hnot)) hrun
  exact hnone

/-- A ring of four blocks after a message of one block has gone through. -/
def oneGone : Traffic :=
  let R : RingSize := ⟨256, by decide⟩
  ((((init fun _ => default).alloc R 8).push R ⟨0, ⟨16, 0, [default]⟩⟩).front R).pop R 0

lemma reaches_oneGone : AnyReaches ⟨256, by decide⟩ (fun _ => default) oneGone := by
  have h₁ : AnyReaches ⟨256, by decide⟩ (fun _ => default) _ := .single (.step (.alloc 8 (by decide)))
  have h₂ := h₁.tail (.step (.push (u := ⟨0, ⟨16, 0, [default]⟩⟩) (by decide +kernel)))
  exact (h₂.tail (.step .front)).tail (.step (.pop (p := 0) (by decide +kernel)))

/-- Three blocks fit behind the read index. -/
theorem AnyReaches.drained_alloc_iff_three :
    (oneGone.q.alloc ⟨256, by decide⟩ 180).2 ≠ none :=
  (reaches_oneGone.drained_alloc_iff (by decide +kernel) (by decide +kernel)).1.mpr
    (by decide +kernel)

/-- Four blocks, which a new queue takes, are refused on the emptied one however often they are
asked for. -/
theorem drained_queue_refuses :
    AnyReaches ⟨256, by decide⟩ (fun _ => default) oneGone ∧
    oneGone.popped = oneGone.pushed.map Placed.msg ∧
    ((SPSCVarQueue.init fun _ => default).alloc ⟨256, by decide⟩ 240).2 ≠ none ∧
    ∀ s, Relation.ReflTransGen (Retry ⟨256, by decide⟩ 240) oneGone s →
      (s.q.alloc ⟨256, by decide⟩ 240).2 = none := by
  refine ⟨reaches_oneGone, by decide +kernel, by decide +kernel, ?_⟩
  obtain ⟨us, rc, r, wa, w, hinv⟩ := reaches_oneGone.inv
  have hmap := hinv.pushed_map
  have hdrained : oneGone.popped = oneGone.pushed.map Placed.msg := by decide +kernel
  rw [← hdrained] at hmap
  obtain rfl : us = [] := by simpa using hmap
  intro s hrun
  have hrefused : (oneGone.q.alloc ⟨256, by decide⟩ 240).2 = none := by decide +kernel
  obtain ⟨-, -, hnone⟩ := hinv.refused hrefused hrun
  exact hnone

end Traffic

end SPSCVarQueue

namespace PTCPQueue

/-- The persistent queue starts anew where it is emptied, and takes what a new one takes. -/
theorem Holds.alloc_of_empty {Q : QueueSize} {ed : Endian} {q : PTCPQueue} (h : Holds Q ed q [])
    (blk : Mem MsgHeader) (size : UInt16) :
    (q.alloc Q size).2 ≠ none ↔ ((PTCPQueue.init blk).alloc Q size).2 ≠ none := by
  have hinit : Holds Q ed (PTCPQueue.init blk) [] := (represents_init blk).toHolds
  rw [Ne, Ne, h.alloc_none_iff, hinit.alloc_none_iff]

end PTCPQueue

end Tcpshm
