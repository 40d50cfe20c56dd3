import Tcpshm.SpscVarQueue.Spans

/-!
# The shared-memory queue is a FIFO

Producer and consumer take turns in any order, each operation as a whole. A run carries along what
was pushed and what was popped; the invariant places the unread messages on the ring between the
two 32-bit indices, which stand for unbounded positions.
-/

namespace Tcpshm

namespace SPSCVarQueue

/-- A queue in use: what the producer was given and has not pushed, the consumer's pointer, and
what has gone through so far. -/
structure Traffic where
  q : SPSCVarQueue
  pending : Option Placed
  fronted : Option Nat
  pushed : List Placed
  popped : List Payload

namespace Traffic

def init (blk : Mem MsgHeader) : Traffic := ⟨SPSCVarQueue.init blk, none, none, [], []⟩

variable (R : RingSize)

/-- `Alloc`. A failed call leaves the message of an earlier one to be pushed. -/
def alloc (s : Traffic) (size : UInt16) : Traffic where
  q := (s.q.alloc R size).1
  pending := match (s.q.alloc R size).2 with
    | none => s.pending
    | some p => some ⟨p, { (s.q.alloc R size).1.msgAt p with size := size + 8 }⟩
  fronted := s.fronted
  pushed := s.pushed
  popped := s.popped

/-- The user fills the message `u` that `Alloc` returned. -/
def fill (s : Traffic) (u : Placed) (msgType : UInt16) (body : List MsgHeader) : Traffic :=
  { s with
    q := s.q.fill u.ptr msgType body
    pending := some ⟨u.ptr, ⟨u.msg.size, msgType, body⟩⟩ }

def push (s : Traffic) (u : Placed) : Traffic :=
  { s with q := s.q.push R, pending := none, pushed := s.pushed ++ [u] }

def front (s : Traffic) : Traffic :=
  { s with q := (s.q.front R).1, fronted := (s.q.front R).2 }

/-- `Pop` of the message `Front` returned. -/
def pop (s : Traffic) (p : Nat) : Traffic :=
  { s with q := s.q.pop R, fronted := none, popped := s.popped ++ [s.q.msgAt p] }

/-- One operation of the producer or of the consumer. -/
inductive Step : Traffic → Traffic → Prop where
  | alloc {s : Traffic} (size : UInt16) (hsize : size.toNat + 8 ≤ 65535) : Step s (s.alloc R size)
  | fill {s : Traffic} {u : Placed} (hu : s.pending = some u) (msgType : UInt16)
      (body : List MsgHeader) (hbody : body.length + 1 = words u.msg.size) :
      Step s (s.fill u msgType body)
  | push {s : Traffic} {u : Placed} (hu : s.pending = some u) : Step s (s.push R u)
  | front {s : Traffic} : Step s (s.front R)
  | pop {s : Traffic} {p : Nat} (hp : s.fronted = some p) : Step s (s.pop R p)

/-- The states reached from an initialised queue. -/
def Reaches (blk : Mem MsgHeader) (s : Traffic) : Prop :=
  Relation.ReflTransGen (Step R) (init blk) s

/-- The messages that were pushed and not popped. -/
def unread (s : Traffic) : List Placed := s.pushed.drop s.popped.length

end Traffic

/-! ### The invariant -/

structure Traffic.Inv (R : RingSize) (s : Traffic) (us : List Placed) (rc r wa w : Nat) :
    Prop where
  spans : Spans R s.q us rc r wa w
  room : Room R s.q s.pending rc w
  atFirst : AtFirst R s.q s.fronted us r
  pushed_eq : ∃ done, s.pushed = done ++ us ∧ done.map Placed.msg = s.popped

variable {R : RingSize} {us : List Placed} {rc r wa w : Nat}

/-! ### What one operation preserves -/

namespace Traffic

variable {s : Traffic}

/-- The size in the header of the returned message is the one asked for. -/
lemma msgAt_place (q : SPSCVarQueue) (size : UInt16) {p : Nat} (hp : (q.place R size).2 = some p) :
    ((q.place R size).1.msgAt p).size = size := by
  simp only [SPSCVarQueue.place, Option.some.injEq] at hp
  subst hp
  simp [SPSCVarQueue.place, msgAt]

lemma with_size {m : Payload} {size : UInt16} (h : m.size = size) :
    { m with size := size } = m := by
  rw [← h]

theorem Inv.alloc_of_ne (h : Inv R s us rc r wa w) {size : UInt16} (hne : size + 8 ≠ 0) :
    ∃ rc' w', Inv R (s.alloc R size) us rc' r wa w' := by
  obtain ⟨hs, hroom, hf, hpushed⟩ := h
  rcases hs.alloc_cases size with ⟨halloc, -⟩ | ⟨q', c, pre, hq', hfits, hs', halloc, -⟩
  · refine ⟨r, w, ?_, ?_, ?_, hpushed⟩
    · simpa only [Traffic.alloc, halloc] using hs.reload
    · intro u hu
      simp only [Traffic.alloc, halloc] at hu ⊢
      obtain ⟨hlies, hle⟩ := hroom u hu
      have := hs.cach_le
      exact ⟨hlies.congr fun _ _ _ _ _ => rfl, by omega⟩
    · simp only [Traffic.alloc, halloc]
      exact hf.congr rfl
  · have hf' : AtFirst R q' s.fronted us r := by
      rcases hq' with ⟨rfl, -⟩ | ⟨rfl, -⟩
      · exact hf
      · exact hf.congr rfl
    obtain ⟨w', p, hp, -, hs'', hf'', hlies, hle, -⟩ := hs'.place hf' hne hfits
    have hmsg := msgAt_place q' (size + 8) hp
    refine ⟨c, w', ?_, ?_, ?_, hpushed⟩
    · simpa only [Traffic.alloc, halloc] using hs''
    · intro u hu
      simp only [Traffic.alloc, halloc, hp, Option.mem_some_iff] at hu ⊢
      rw [← hu, with_size hmsg]
      refine ⟨hlies, ?_⟩
      rw [Placed.blocks, hmsg]
      exact hle
    · simpa only [Traffic.alloc, halloc] using hf''

theorem Inv.alloc (h : Inv R s us rc r wa w) {size : UInt16} (hsize : size.toNat + 8 ≤ 65535) :
    ∃ rc' w', Inv R (s.alloc R size) us rc' r wa w' :=
  h.alloc_of_ne (add_eight_ne_zero hsize)

/-- What the user writes is what lies there. -/
lemma msgAt_fill (q : SPSCVarQueue) (p : Nat) (msgType : UInt16) {body : List MsgHeader}
    (hbody : body.length + 1 = words (q.header p).size) :
    (q.fill p msgType body).msgAt p = ⟨(q.header p).size, msgType, body⟩ := by
  have hhead : (q.fill p msgType body).header p = { q.header p with msgType := msgType } := by
    show (q.blk.write (8 * p) [{ q.header p with msgType := msgType }]).write (8 * p + 1) body
      (8 * p) = _
    rw [Mem.write_apply_of_lt (by omega), Mem.write_singleton_self]
  have hlen : words (q.header p).size - 1 = body.length := by omega
  unfold msgAt
  rw [hhead]
  simp only [hlen]
  congr 1
  exact Mem.slice_write_self _ _ _

theorem Inv.fill (h : Inv R s us rc r wa w) {u : Placed} (hu : s.pending = some u)
    (msgType : UInt16) {body : List MsgHeader} (hbody : body.length + 1 = words u.msg.size) :
    Inv R (s.fill u msgType body) us rc r wa w := by
  obtain ⟨hs, hroom, hf, hpushed⟩ := h
  obtain ⟨hlies, hle⟩ := hroom u hu
  have hfit := hlies.fits
  have hpos := hlies.blocks_pos
  have hw : words u.msg.size ≤ 8 * u.blocks := words_le u.msg.size
  have hs₁ := hs.write [{ s.q.header u.ptr with msgType := msgType }] hfit hle
    (a := 8 * u.ptr) (by rw [hlies.ptr_eq]) (by simp; rw [hlies.ptr_eq]; omega)
  have hs₂ := hs₁.write body hfit hle
    (a := 8 * u.ptr + 1) (by rw [hlies.ptr_eq]; omega) (by rw [hlies.ptr_eq]; omega)
  refine ⟨hs₂, ?_, ?_, hpushed⟩
  · intro v hv
    simp only [Traffic.fill, Option.mem_some_iff] at hv
    subst hv
    refine ⟨⟨hlies.ptr_eq, hlies.size_ne, hfit, ?_⟩, hle⟩
    rw [← hlies.ptr_eq]
    have hhead : (s.q.header u.ptr).size = u.msg.size := by
      rw [hlies.ptr_eq, hlies.size_header]
    show (s.q.fill u.ptr msgType body).msgAt u.ptr = _
    rw [msgAt_fill _ _ _ (by rw [hhead, hbody]), hhead]
  · intro p hp
    obtain ⟨v, hv, hptr, hlies'⟩ := hf p hp
    refine ⟨v, hv, hptr, ?_⟩
    have hl₁ := hs.liesAt_write [{ s.q.header u.ptr with msgType := msgType }] hfit hle
      (a := 8 * u.ptr) (by rw [hlies.ptr_eq]) (by simp; rw [hlies.ptr_eq]; omega) hv hlies'
    exact hs₁.liesAt_write body hfit hle
      (a := 8 * u.ptr + 1) (by rw [hlies.ptr_eq]; omega) (by rw [hlies.ptr_eq]; omega) hv hl₁

theorem Inv.push (h : Inv R s us rc r wa w) {u : Placed} (hu : s.pending = some u) :
    Inv R (s.push R u) (us ++ [u]) rc r (w + u.blocks) (w + u.blocks) := by
  obtain ⟨hs, hroom, hf, done, hpushed, hpopped⟩ := h
  obtain ⟨hlies, hle⟩ := hroom u hu
  have hidx : s.q.writeIdx + ringBlkSz (s.q.header (slot R s.q.writeIdx)).size =
      UInt32.ofNat (w + u.blocks) := by
    rw [hs.write_slot, hlies.size_header, hs.write_eq, ofNat_ringBlocks, UInt32.ofNat_add]
    rfl
  have hsame : ∀ x y, SameFrom R.blocks s.q (s.q.push R) x y := fun _ _ _ _ _ _ _ => rfl
  have hlay : Layout R.blocks s.q r (us ++ [u]) (w + u.blocks) := by
    rcases hs.gap with hw | ⟨hw, hskip⟩
    · rw [hw] at hlies ⊢
      exact hs.layout.snoc hlies
    · rw [hw] at hlies ⊢
      exact hs.layout.snoc_rewind hskip hlies
  refine ⟨⟨hidx, hidx, hs.cach_eq, hs.read_eq, hs.cach_le, hle,
    hlay.congr R.blocks_pos (hsame _ _), Or.inl rfl⟩, ?_, ?_, done, ?_, hpopped⟩
  · intro v hv
    cases hv
  · intro p hp
    obtain ⟨v, hv, hptr, hlies'⟩ := hf p hp
    refine ⟨v, ?_, hptr, hlies'.congr (hsame _ _)⟩
    rw [List.head?_append]
    simp [Option.mem_def.mp hv]
  · show s.pushed ++ [u] = _
    rw [hpushed, List.append_assoc]

lemma blk_front (q : SPSCVarQueue) : (q.front R).1.blk = q.blk := by
  unfold SPSCVarQueue.front
  dsimp only
  split_ifs <;> rfl

theorem Inv.front (h : Inv R s us rc r wa w) : ∃ r', Inv R (s.front R) us rc r' wa w := by
  obtain ⟨hs, hroom, hf, hpushed⟩ := h
  obtain ⟨r', hs', hf', -⟩ := hs.front
  refine ⟨r', hs', ?_, hf', hpushed⟩
  intro u hu
  obtain ⟨hlies, hle⟩ := hroom u hu
  exact ⟨hlies.congr fun _ _ _ _ _ => by rw [Traffic.front, blk_front], hle⟩

theorem Inv.pop (h : Inv R s us rc r wa w) {p : Nat} (hp : s.fronted = some p) :
    ∃ u us', us = u :: us' ∧ s.q.msgAt p = u.msg ∧
      Inv R (s.pop R p) us' rc (r + u.blocks) wa w := by
  obtain ⟨hs, hroom, hf, done, hpushed, hpopped⟩ := h
  obtain ⟨u, hu, hptr, hlies⟩ := hf p hp
  obtain ⟨v, us', rfl⟩ := List.exists_cons_of_ne_nil (List.ne_nil_of_mem (List.mem_of_mem_head? hu))
  obtain rfl : v = u := by simpa using hu
  have hmsg : s.q.msgAt p = v.msg := by
    rw [← hptr, hlies.ptr_eq, hlies.msgAt_eq]
  have hrest : Layout R.blocks s.q (r + v.blocks) us' wa := by
    rcases hs.layout.cons_inv with ⟨-, hrest⟩ | ⟨hskip, -, -⟩
    · exact hrest
    · exact absurd (hlies.size_header ▸ hskip) hlies.size_ne
  have hidx : s.q.readIdx + ringBlkSz (s.q.header (slot R s.q.readIdx)).size =
      UInt32.ofNat (r + v.blocks) := by
    rw [hs.read_slot, hlies.size_header, hs.read_eq, ofNat_ringBlocks, UInt32.ofNat_add]
    rfl
  have hcr := hs.cach_le
  have hsame : ∀ x y, SameFrom R.blocks s.q (s.q.pop R) x y := fun _ _ _ _ _ _ _ => rfl
  refine ⟨v, us', rfl, hmsg, ⟨hs.write_eq, hs.atom_eq, hs.cach_eq, hidx, by omega, hs.turn,
    hrest.congr R.blocks_pos (hsame _ _), hs.gap⟩, ?_, ?_, done ++ [v], ?_, ?_⟩
  · intro u' hu'
    obtain ⟨hlies', hle⟩ := hroom u' hu'
    exact ⟨hlies'.congr (hsame _ _), hle⟩
  · intro p' hp'
    cases hp'
  · show s.pushed = _
    rw [hpushed, List.append_assoc]
    rfl
  · show _ = s.popped ++ [s.q.msgAt p]
    rw [List.map_append, hpopped, hmsg]
    rfl

/-! ### Whole runs -/

lemma inv_init (blk : Mem MsgHeader) : Inv R (init blk) [] 0 0 0 0 where
  spans := ⟨rfl, rfl, rfl, rfl, le_rfl, Nat.zero_le _, .nil 0, Or.inl rfl⟩
  room := fun u hu => by cases hu
  atFirst := fun p hp => by cases hp
  pushed_eq := ⟨[], rfl, rfl⟩

theorem Step.inv {s' : Traffic} (hstep : Step R s s') (h : Inv R s us rc r wa w) :
    ∃ us rc r wa w, Inv R s' us rc r wa w := by
  cases hstep with
  | alloc size hsize =>
    obtain ⟨rc', w', h'⟩ := h.alloc hsize
    exact ⟨us, rc', r, wa, w', h'⟩
  | fill hu msgType body hbody => exact ⟨us, rc, r, wa, w, h.fill hu msgType hbody⟩
  | push hu => exact ⟨_, rc, r, _, _, h.push hu⟩
  | front =>
    obtain ⟨r', h'⟩ := h.front
    exact ⟨us, rc, r', wa, w, h'⟩
  | pop hp =>
    obtain ⟨u, us', -, -, h'⟩ := h.pop hp
    exact ⟨us', rc, _, wa, w, h'⟩

theorem Reaches.inv {blk : Mem MsgHeader} (h : Reaches R blk s) :
    ∃ us rc r wa w, Inv R s us rc r wa w := by
  induction h with
  | refl => exact ⟨[], 0, 0, 0, 0, inv_init blk⟩
  | tail _ hstep ih =>
    obtain ⟨us, rc, r, wa, w, hinv⟩ := ih
    exact hstep.inv hinv

lemma Inv.unread_eq (h : Inv R s us rc r wa w) : s.unread = us := by
  obtain ⟨done, hpushed, hpopped⟩ := h.pushed_eq
  rw [unread, hpushed, ← hpopped, List.length_map, List.drop_left]

lemma Inv.pushed_map (h : Inv R s us rc r wa w) :
    s.pushed.map Placed.msg = s.popped ++ us.map Placed.msg := by
  obtain ⟨done, hpushed, hpopped⟩ := h.pushed_eq
  rw [hpushed, List.map_append, hpopped]

/-- What is popped is what was pushed, in order; `Front` points at the next message and returns
null only when there is none; and neither `Alloc` nor the user who fills its message stores to a
block of an unread message. -/
theorem Reaches.lossless_fifo {blk : Mem MsgHeader} (h : Reaches R blk s) :
    s.popped <+: s.pushed.map Placed.msg ∧
    (∀ p ∈ s.fronted, ∃ u ∈ s.unread.head?, u.ptr = p ∧ s.q.msgAt p = u.msg) ∧
    ((s.q.front R).2 = none → s.popped = s.pushed.map Placed.msg) ∧
    (∀ size : UInt16, size.toNat + 8 ≤ 65535 → ∀ st ∈ s.q.allocStores R size, ∀ i ∈ st.block,
      ∀ u ∈ s.unread, ¬ u.Owns i) ∧
    (∀ v ∈ s.pending, ∀ a, 8 * v.ptr ≤ a → a < 8 * v.ptr + words v.msg.size →
      ∀ u ∈ s.unread, ¬ u.Owns (a / 8)) := by
  obtain ⟨us, rc, r, wa, w, hinv⟩ := h.inv
  have hs := hinv.spans
  have hmap := hinv.pushed_map
  rw [hinv.unread_eq]
  refine ⟨⟨us.map Placed.msg, hmap.symm⟩, ?_, ?_, ?_, ?_⟩
  · intro p hp
    obtain ⟨u, hu, hptr, hlies⟩ := hinv.atFirst p hp
    refine ⟨u, hu, hptr, ?_⟩
    rw [← hptr, hlies.ptr_eq, hlies.msgAt_eq]
  · intro hnull
    obtain ⟨r', -, -, hempty⟩ := hs.front
    rw [hmap, hempty hnull, List.map_nil, List.append_nil]
  · intro size hsize st hst i hi u hu
    rcases hs.alloc_cases size with ⟨-, hstores⟩ | ⟨q', c, pre, hpre, hfits, hs', -, hstores⟩
    · rw [hstores, List.mem_singleton] at hst
      subst hst
      cases hi
    · have hnone : AtFirst R q' none us r := fun p hp => by cases hp
      obtain ⟨-, -, -, -, -, -, -, -, hfree⟩ := hs'.place hnone (add_eight_ne_zero hsize) hfits
      rw [hstores] at hst
      rcases List.mem_append.mp hst with hmem | hmem
      · rcases hpre with ⟨-, -, rfl⟩ | ⟨-, -, rfl⟩
        · cases hmem
        · rw [List.mem_singleton.mp hmem] at hi
          cases hi
      · exact hs.not_owns (hfree st hmem i hi) hu
  · intro v hv a ha ha' u hu
    obtain ⟨hlies, hle⟩ := hinv.room v hv
    have hw : words v.msg.size ≤ 8 * v.blocks := words_le v.msg.size
    have hwa := hs.wa_le
    have hcr := hs.cach_le
    have hfit := hlies.fits
    rw [hlies.ptr_eq] at ha ha'
    refine hs.not_owns ⟨w + (a / 8 - w % R.blocks), ?_, by omega, by omega⟩ hu
    rw [Ring.mod_add_of_fits hfit (by omega)]
    omega

/-- On a ring of two blocks, a message is pushed, read and popped, and the producer allocates a
second one that is not pushed. -/
theorem Reaches.lossless_fifo_one_message :
    let R : RingSize := ⟨128, by decide⟩
    let s₁ := (init fun _ => default).alloc R 8
    let s₂ := (((s₁.fill ⟨0, ⟨16, 0, [default]⟩⟩ 7 [default]).push R
      ⟨0, ⟨16, 7, [default]⟩⟩).front R).pop R 0
    s₂.popped <+: (s₂.alloc R 40).pushed.map Placed.msg := by
  intro R s₁ s₂
  have h₁ : Reaches R (fun _ => default) s₁ := .single (.alloc 8 (by decide))
  have h₂ := h₁.tail (.fill (u := ⟨0, ⟨16, 0, [default]⟩⟩) (by decide) 7 [default] (by decide))
  have h₃ := h₂.tail (.push (u := ⟨0, ⟨16, 7, [default]⟩⟩) (by decide))
  have h₄ := (h₃.tail .front).tail (.pop (p := 0) (by decide))
  exact (Reaches.lossless_fifo (h₄.tail (.alloc 40 (by decide)))).1

end Traffic

end SPSCVarQueue

end Tcpshm
