import Tcpshm.SpscVarQueue.Fifo

/-!
# Crashes on the shared-memory queue

The queue object stays in shared memory when a process dies, with the stores made so far. A process
that is started again goes on with `Alloc` or `Front` on what it finds. A run carries along the
messages `Push` has advanced `write_idx` over and those that are published; the invariant places
the advanced ones behind the published ones on the ring.
-/

namespace Tcpshm

namespace SPSCVarQueue

variable (R : RingSize)

/-! ### Stores -/

/-- The stores of `Push`, in program order. -/
def pushStores (q : SPSCVarQueue) : List Store :=
  let writeIdx := q.writeIdx + ringBlkSz (q.header (slot R q.writeIdx)).size
  [.writeIdx writeIdx, .writeIdxAtom writeIdx]

/-- The consumer's one kind of store. -/
def setReadIdx (q : SPSCVarQueue) (v : UInt32) : SPSCVarQueue := { q with readIdx := v }

/-- The values `Front` stores to `read_idx`. -/
def frontStores (q : SPSCVarQueue) : List UInt32 :=
  if q.readIdx = q.writeIdxAtom then []
  else if (q.header (slot R q.readIdx)).size = 0 then
    [q.readIdx + (R.blkCnt - q.readIdx % R.blkCnt)]
  else []

/-- The values `Pop` stores to `read_idx`. -/
def popStores (q : SPSCVarQueue) : List UInt32 :=
  [q.readIdx + ringBlkSz (q.header (slot R q.readIdx)).size]

theorem push_eq_foldl (q : SPSCVarQueue) :
    q.push R = (q.pushStores R).foldl Store.apply q := rfl

theorem front_eq_foldl (q : SPSCVarQueue) :
    (q.front R).1 = (q.frontStores R).foldl setReadIdx q := by
  simp only [front, frontStores]
  split_ifs <;> rfl

lemma exists_front_eq (q : SPSCVarQueue) : ∃ v, (q.front R).1 = q.setReadIdx v := by
  simp only [front]
  split_ifs
  · exact ⟨q.readIdx, rfl⟩
  · exact ⟨_, rfl⟩
  · exact ⟨_, rfl⟩
  · exact ⟨q.readIdx, rfl⟩

theorem pop_eq_foldl (q : SPSCVarQueue) : q.pop R = (q.popStores R).foldl setReadIdx q := rfl

/-! ### Runs with crashes -/

/-- A queue in use by processes that may die: what the producer was given, the consumer's pointer,
the messages `write_idx` was advanced over, those of them that are published, and those that were
popped. -/
structure Shared where
  q : SPSCVarQueue
  pending : Option Placed
  fronted : Option Nat
  advanced : List Placed
  published : List Placed
  popped : List Payload

namespace Shared

def init (blk : Mem MsgHeader) : Shared := ⟨SPSCVarQueue.init blk, none, none, [], [], []⟩

/-- `Alloc`. A failed call leaves the message of an earlier one to be pushed. -/
def alloc (s : Shared) (size : UInt16) : Shared :=
  { s with
    q := (s.q.alloc R size).1
    pending := match (s.q.alloc R size).2 with
      | none => s.pending
      | some p => some ⟨p, { (s.q.alloc R size).1.msgAt p with size := size + 8 }⟩ }

/-- The user fills the message `u` that `Alloc` returned. -/
def fill (s : Shared) (u : Placed) (msgType : UInt16) (body : List MsgHeader) : Shared :=
  { s with
    q := s.q.fill u.ptr msgType body
    pending := some ⟨u.ptr, ⟨u.msg.size, msgType, body⟩⟩ }

def push (s : Shared) (u : Placed) : Shared :=
  { s with
    q := s.q.push R, pending := none
    advanced := s.advanced ++ [u], published := s.advanced ++ [u] }

def front (s : Shared) : Shared :=
  { s with q := (s.q.front R).1, fronted := (s.q.front R).2 }

/-- `Pop` of the message `Front` returned. -/
def pop (s : Shared) (p : Nat) : Shared :=
  { s with q := s.q.pop R, fronted := none, popped := s.popped ++ [s.q.msgAt p] }

/-- The producer dies in `Alloc` after `n` stores. -/
def dieInAlloc (s : Shared) (size : UInt16) (n : Nat) : Shared :=
  { s with q := ((s.q.allocStores R size).take n).foldl Store.apply s.q, pending := none }

/-- The producer dies in `Push` after `n` stores. -/
def dieInPush (s : Shared) (u : Placed) (n : Nat) : Shared :=
  { s with
    q := ((s.q.pushStores R).take n).foldl Store.apply s.q
    pending := none
    advanced := if n = 0 then s.advanced else s.advanced ++ [u]
    published := if n ≤ 1 then s.published else s.advanced ++ [u] }

/-- The consumer dies in `Front` after `n` stores. -/
def dieInFront (s : Shared) (n : Nat) : Shared :=
  { s with q := ((s.q.frontStores R).take n).foldl setReadIdx s.q, fronted := none }

/-- The consumer dies in `Pop` after `n` stores. -/
def dieInPop (s : Shared) (p : Nat) (n : Nat) : Shared :=
  { s with
    q := ((s.q.popStores R).take n).foldl setReadIdx s.q
    fronted := none
    popped := if n = 0 then s.popped else s.popped ++ [s.q.msgAt p] }

/-- One operation of the producer or of the consumer, completed or cut off by a crash. With no
store made, a process dies between two operations. -/
inductive Step : Shared → Shared → Prop where
  | alloc {s : Shared} (size : UInt16) (hsize : size.toNat + 8 ≤ 65535) : Step s (s.alloc R size)
  | fill {s : Shared} {u : Placed} (hu : s.pending = some u) (msgType : UInt16)
      (body : List MsgHeader) (hbody : body.length + 1 = words u.msg.size) :
      Step s (s.fill u msgType body)
  | push {s : Shared} {u : Placed} (hu : s.pending = some u) : Step s (s.push R u)
  | front {s : Shared} : Step s (s.front R)
  | pop {s : Shared} {p : Nat} (hp : s.fronted = some p) : Step s (s.pop R p)
  | dieInAlloc {s : Shared} (size : UInt16) (hsize : size.toNat + 8 ≤ 65535) (n : Nat) :
      Step s (s.dieInAlloc R size n)
  | dieInPush {s : Shared} {u : Placed} (hu : s.pending = some u) (n : Nat) :
      Step s (s.dieInPush R u n)
  | dieInFront {s : Shared} (n : Nat) : Step s (s.dieInFront R n)
  | dieInPop {s : Shared} {p : Nat} (hp : s.fronted = some p) (n : Nat) :
      Step s (s.dieInPop R p n)

/-- The states reached from an initialised queue. -/
def Reaches (blk : Mem MsgHeader) (s : Shared) : Prop :=
  Relation.ReflTransGen (Step R) (init blk) s

end Shared

/-! ### Splitting the layout -/

variable {R} {B : Nat} {q q' : SPSCVarQueue} {p e e' : Nat} {us us' : List Placed}

lemma Layout.append {m : Nat} (h : Layout B q p us m) (h' : Layout B q m us' e) :
    Layout B q p (us ++ us') e := by
  induction h with
  | nil => exact h'
  | msg hu _ ih => exact .msg hu (ih h')
  | rewind hskip hu _ ih => exact .rewind hskip hu (ih h')

lemma Layout.append_inv (h : Layout B q p (us ++ us') e) :
    ∃ m, Layout B q p us m ∧ Layout B q m us' e := by
  induction us generalizing p with
  | nil => exact ⟨p, .nil p, h⟩
  | cons u us ih =>
    rcases Layout.cons_inv h with ⟨hu, hrest⟩ | ⟨hskip, hu, hrest⟩
    · obtain ⟨m, h₁, h₂⟩ := ih hrest
      exact ⟨m, .msg hu h₁, h₂⟩
    · obtain ⟨m, h₁, h₂⟩ := ih hrest
      exact ⟨m, .rewind hskip hu h₁, h₂⟩

/-- Within a turn, where messages lie determines where they end. -/
lemma Layout.end_unique (hB : 0 < B) (h : Layout B q p us e) (h' : Layout B q' p us e')
    (he : e ≤ p + B) (he' : e' ≤ p + B) : e = e' := by
  induction us generalizing p with
  | nil =>
    cases h
    cases h'
    rfl
  | cons u us ih =>
    -- a message at the start of the ring cannot also be a whole turn away
    have hfar : ∀ {q : SPSCVarQueue}, LiesAt B q (Ring.nextTurn B p) u → u.ptr = p % B →
        ∀ {x : Nat}, Layout B q (Ring.nextTurn B p + u.blocks) us x → ¬ x ≤ p + B := by
      intro q hu hptr x hrest hx
      have hzero : p % B = 0 := by
        rw [← hptr, hu.ptr_eq, Ring.nextTurn_mod hB]
      have hle := hrest.le hB
      have hpos := hu.blocks_pos
      rw [Ring.nextTurn, hzero] at hle
      omega
    have hlt := Ring.lt_nextTurn (p := p) hB
    rcases Layout.cons_inv h with ⟨hu, hrest⟩ | ⟨-, hu, hrest⟩
    · rcases Layout.cons_inv h' with ⟨hu', hrest'⟩ | ⟨-, hu', hrest'⟩
      · exact ih hrest hrest' (by omega) (by omega)
      · exact absurd he' (hfar hu' hu.ptr_eq hrest')
    · rcases Layout.cons_inv h' with ⟨hu', hrest'⟩ | ⟨-, hu', hrest'⟩
      · exact absurd he (hfar hu hu'.ptr_eq hrest)
      · exact ih hrest hrest' (by omega) (by omega)

lemma Layout.of_blk_eq (hB : 0 < B) (h : Layout B q p us e) (hblk : q'.blk = q.blk) :
    Layout B q' p us e :=
  h.congr hB fun _ _ _ _ _ => by rw [hblk]

/-- A later layout is split where an earlier one was. -/
lemma Layout.resplit {m : Nat} (hB : 0 < B) (h : Layout B q p us m)
    (h' : Layout B q' p (us ++ us') e) (hm : m ≤ p + B) (he : e ≤ p + B) :
    Layout B q' p us m ∧ Layout B q' m us' e := by
  obtain ⟨m', h₁, h₂⟩ := h'.append_inv
  have hle := h₂.le hB
  obtain rfl := h.end_unique hB h₁ hm (by omega)
  exact ⟨h₁, h₂⟩

/-! ### A prefix of the stores of `Alloc` -/

section

variable {rc r wa w : Nat} {fronted : Option Nat}

lemma Spans.placeStores_take {size : UInt16} (h : Spans R q us rc r wa w)
    (hf : AtFirst R q fronted us r) (hne : size ≠ 0)
    (hroom : w + need R w size ≤ rc + R.blocks) (n : Nat) :
    ∃ w', Spans R (((q.placeStores R size).take n).foldl Store.apply q) us rc r wa w' ∧
      AtFirst R (((q.placeStores R size).take n).foldl Store.apply q) fronted us r := by
  obtain ⟨w', p, -, -, hs, hf', -⟩ := h.place hf hne hroom
  rw [place_eq_foldl] at hs hf'
  by_cases hn : (q.placeStores R size).length ≤ n
  · rw [List.take_of_length_le hn]
    exact ⟨w', hs, hf'⟩
  -- what is left are the states before the size of the message is stored
  have hrew := h.rewinds_iff size
  by_cases hcase : R.blocks - w % R.blocks < ringBlocks size
  · obtain ⟨hw, hle⟩ := h.rewind_room hcase hroom
    have hlt := Ring.lt_nextTurn (p := w) R.blocks_pos
    rw [decide_eq_true hcase] at hrew
    rw [placeStores, hrew, if_pos rfl] at hn ⊢
    rcases n with _ | _ | _ | n
    · exact ⟨w, h, hf⟩
    · have hset := h.setSize (by omega) 0
      have hset' := h.atFirst_setSize (by omega) 0 hf
      rw [← h.write_slot] at hset hset'
      exact ⟨w, hset, hset'⟩
    · exact ⟨_, h.rewind hw (by omega), h.atFirst_rewind (by omega) hf⟩
    · simp at hn
  · rw [decide_eq_false hcase] at hrew
    rw [placeStores, hrew, if_neg (by decide)] at hn ⊢
    obtain rfl : n = 0 := by simpa using hn
    exact ⟨w, h, hf⟩

/-- Wherever `Alloc` is cut off, the unread messages are in place and the write index is behind
them, possibly at the start of the ring. -/
theorem Spans.allocStores_take {size : UInt16} (h : Spans R q us rc r wa w)
    (hf : AtFirst R q fronted us r) (hsize : size.toNat + 8 ≤ 65535) (n : Nat) :
    ∃ rc' w', Spans R (((q.allocStores R size).take n).foldl Store.apply q) us rc' r wa w' ∧
      AtFirst R (((q.allocStores R size).take n).foldl Store.apply q) fronted us r := by
  rcases h.alloc_cases size with ⟨-, hstores⟩ | ⟨q', c, pre, hpre, hroom, hs, -, hstores⟩
  · rw [hstores]
    match n with
    | 0 => exact ⟨rc, w, h, hf⟩
    | n + 1 =>
      rw [List.take_of_length_le (by simp)]
      exact ⟨r, w, h.reload, hf.congr rfl⟩
  · rw [hstores]
    have hne := add_eight_ne_zero hsize
    rcases hpre with ⟨rfl, rfl, rfl⟩ | ⟨rfl, rfl, rfl⟩
    · obtain ⟨w', hs', hf'⟩ := hs.placeStores_take hf hne hroom n
      exact ⟨c, w', hs', hf'⟩
    · match n with
      | 0 => exact ⟨rc, w, h, hf⟩
      | n + 1 =>
        have hf₀ : AtFirst R q.reload fronted us c := hf.congr rfl
        obtain ⟨w', hs', hf'⟩ := hs.placeStores_take hf₀ hne hroom n
        exact ⟨c, w', hs', hf'⟩

end

/-! ### The producer does not look at `write_idx_atom` -/

/-- `write_idx_atom` set to `v`. -/
def setAtom (q : SPSCVarQueue) (v : UInt32) : SPSCVarQueue := { q with writeIdxAtom := v }

lemma place_setAtom (q : SPSCVarQueue) (v : UInt32) (size : UInt16) :
    (q.setAtom v).place R size = ((q.place R size).1.setAtom v, (q.place R size).2) := by
  have hrew : (q.setAtom v).rewinds R size = q.rewinds R size := rfl
  simp only [place, hrew]
  split_ifs <;> rfl

lemma alloc_setAtom (q : SPSCVarQueue) (v : UInt32) (size : UInt16) :
    (q.setAtom v).alloc R size = ((q.alloc R size).1.setAtom v, (q.alloc R size).2) := by
  have hmin : (q.setAtom v).minReadIdx R (size + 8) = q.minReadIdx R (size + 8) := rfl
  have hcach : (q.setAtom v).readIdxCach = q.readIdxCach := rfl
  have hread : (q.setAtom v).reload.readIdxCach = q.reload.readIdxCach := rfl
  simp only [alloc, hmin, hcach, hread]
  split_ifs
  · rfl
  · exact q.reload.place_setAtom v (size + 8)
  · exact q.place_setAtom v (size + 8)

lemma allocStores_ne_atom {size : UInt16} {st : Store} (h : st ∈ q.allocStores R size)
    (v : UInt32) : st ≠ .writeIdxAtom v := by
  rintro rfl
  simp only [allocStores, placeStores] at h
  split_ifs at h <;> simp at h

lemma foldl_setAtom {sts : List Store} (h : ∀ st ∈ sts, ∀ v, st ≠ .writeIdxAtom v)
    (q : SPSCVarQueue) (v : UInt32) :
    sts.foldl Store.apply (q.setAtom v) = (sts.foldl Store.apply q).setAtom v := by
  induction sts generalizing q with
  | nil => rfl
  | cons st sts ih =>
    have hst : Store.apply (q.setAtom v) st = (Store.apply q st).setAtom v := by
      cases st with
      | writeIdxAtom x => exact absurd rfl (h _ List.mem_cons_self x)
      | size | writeIdx | readIdxCach => rfl
    rw [List.foldl_cons, hst, ih fun st hmem => h st (List.mem_cons_of_mem _ hmem)]
    rfl

/-! ### The invariant -/

namespace Shared

/-- The queue as it would be if all of `advanced` were published. -/
def view (s : Shared) (wa : Nat) : Traffic where
  q := s.q.setAtom (UInt32.ofNat wa)
  pending := s.pending
  fronted := s.fronted
  pushed := s.advanced
  popped := s.popped

/-- The published messages `ps` lie from `r` to `wp`, those advanced over since then, `vs`, from
`wp` to `wa`. -/
structure Inv (R : RingSize) (s : Shared) (ps vs : List Placed) (rc r wp wa w : Nat) : Prop where
  view : Traffic.Inv R (s.view wa) (ps ++ vs) rc r wa w
  atom_eq : s.q.writeIdxAtom = UInt32.ofNat wp
  published_layout : Layout R.blocks s.q r ps wp
  later_layout : Layout R.blocks s.q wp vs wa
  advanced_eq : s.advanced = s.published ++ vs
  fronted_ne : ∀ p ∈ s.fronted, ps ≠ []

variable {s s' : Shared} {ps vs : List Placed} {rc r wp wa w : Nat}

lemma Inv.wp_le (h : Inv R s ps vs rc r wp wa w) : wp ≤ wa :=
  h.later_layout.le R.blocks_pos

lemma Inv.turn (h : Inv R s ps vs rc r wp wa w) : wa ≤ r + R.blocks := by
  have := h.view.spans.turn
  have := h.view.spans.wa_le
  have := h.view.spans.cach_le
  omega

/-- What leaves the published and the advanced messages alone. -/
lemma Inv.of_view {rc' w' : Nat} (h : Inv R s ps vs rc r wp wa w) (s' : Shared)
    (hview : Traffic.Inv R (s'.view wa) (ps ++ vs) rc' r wa w')
    (hatom : s'.q.writeIdxAtom = s.q.writeIdxAtom) (hadv : s'.advanced = s.advanced)
    (hpub : s'.published = s.published) (hfronted : ∀ p ∈ s'.fronted, p ∈ s.fronted) :
    Inv R s' ps vs rc' r wp wa w' := by
  have hturn := h.turn
  have hle := h.wp_le
  have hlay : Layout R.blocks s'.q r (ps ++ vs) wa :=
    hview.spans.layout.of_blk_eq R.blocks_pos rfl
  obtain ⟨h₁, h₂⟩ := h.published_layout.resplit R.blocks_pos hlay (by omega) hturn
  refine ⟨hview, ?_, h₁, h₂, ?_, ?_⟩
  · rw [hatom, h.atom_eq]
  · rw [hadv, hpub, h.advanced_eq]
  · intro p hp
    exact h.fronted_ne p (hfronted p hp)

/-- A process forgets what it was given or shown. -/
lemma Inv.forget (h : Inv R s ps vs rc r wp wa w) (pending : Option Placed)
    (fronted : Option Nat) (hpending : ∀ u ∈ pending, u ∈ s.pending)
    (hfronted : ∀ p ∈ fronted, p ∈ s.fronted) :
    Inv R { s with pending := pending, fronted := fronted } ps vs rc r wp wa w := by
  obtain ⟨hs, hroom, hf, hpushed⟩ := h.view
  refine h.of_view { s with pending := pending, fronted := fronted } ⟨hs, ?_, ?_, hpushed⟩
    rfl rfl rfl hfronted
  · intro u hu
    exact hroom u (hpending u hu)
  · intro p hp
    exact hf p (hfronted p hp)

/-! ### What one operation preserves -/

lemma view_alloc (s : Shared) (size : UInt16) (wa : Nat) :
    (s.alloc R size).view wa = (s.view wa).alloc R size := by
  have h : (s.view wa).q.alloc R size = ((s.q.alloc R size).1.setAtom (UInt32.ofNat wa),
      (s.q.alloc R size).2) := s.q.alloc_setAtom (UInt32.ofNat wa) size
  rw [Traffic.alloc, h]
  rfl

theorem Inv.alloc (h : Inv R s ps vs rc r wp wa w) {size : UInt16}
    (hsize : size.toNat + 8 ≤ 65535) :
    ∃ rc' w', Inv R (s.alloc R size) ps vs rc' r wp wa w' := by
  obtain ⟨rc', w', hview⟩ := h.view.alloc hsize
  rw [← view_alloc] at hview
  refine ⟨rc', w', h.of_view _ hview ?_ rfl rfl fun _ hp => hp⟩
  -- of the stores of `Alloc`, none goes to `write_idx_atom`
  have hself : s.q.setAtom s.q.writeIdxAtom = s.q := rfl
  have halloc := s.q.alloc_setAtom (R := R) s.q.writeIdxAtom size
  rw [hself] at halloc
  exact congrArg (fun x => x.1.writeIdxAtom) halloc

theorem Inv.fill (h : Inv R s ps vs rc r wp wa w) {u : Placed} (hu : s.pending = some u)
    (msgType : UInt16) {body : List MsgHeader} (hbody : body.length + 1 = words u.msg.size) :
    Inv R (s.fill u msgType body) ps vs rc r wp wa w :=
  h.of_view (s.fill u msgType body) (h.view.fill hu msgType hbody) rfl rfl rfl fun _ hp => hp

/-- The message is advanced over, whether or not it is published. -/
lemma Inv.view_push (h : Inv R s ps vs rc r wp wa w) {u : Placed} (hu : s.pending = some u) :
    Traffic.Inv R ((s.push R u).view (w + u.blocks)) (ps ++ vs ++ [u]) rc r
      (w + u.blocks) (w + u.blocks) := by
  have hpush := h.view.push hu
  have hatom := hpush.spans.atom_eq
  have hview : (s.push R u).view (w + u.blocks) = (s.view wa).push R u := by
    show Traffic.mk _ _ _ _ _ = Traffic.mk _ _ _ _ _
    rw [Traffic.mk.injEq]
    refine ⟨?_, rfl, rfl, rfl, rfl⟩
    show (s.q.push R).setAtom (UInt32.ofNat (w + u.blocks)) = _
    rw [← hatom]
    rfl
  rw [hview]
  exact hpush

theorem Inv.push (h : Inv R s ps vs rc r wp wa w) {u : Placed} (hu : s.pending = some u) :
    Inv R (s.push R u) (ps ++ vs ++ [u]) [] rc r (w + u.blocks) (w + u.blocks) (w + u.blocks) := by
  have hview := h.view_push hu
  have hwrite := hview.spans.write_eq
  refine ⟨?_, hwrite, hview.spans.layout.of_blk_eq R.blocks_pos rfl, .nil _, ?_, ?_⟩
  · rw [List.append_nil]
    exact hview
  · exact (List.append_nil _).symm
  · intro p hp
    simp

/-- The producer dies in `Push` after the store to `write_idx`. -/
theorem Inv.advance (h : Inv R s ps vs rc r wp wa w) {u : Placed} (hu : s.pending = some u) :
    Inv R (s.dieInPush R u 1) ps (vs ++ [u]) rc r wp (w + u.blocks) (w + u.blocks) := by
  have hview := h.view_push hu
  have hlay : Layout R.blocks (s.dieInPush R u 1).q r (ps ++ (vs ++ [u])) (w + u.blocks) := by
    rw [← List.append_assoc]
    exact hview.spans.layout.of_blk_eq R.blocks_pos rfl
  have hturn := h.turn
  have hle := h.wp_le
  have hturn' := hview.spans.turn
  have hcr := hview.spans.cach_le
  obtain ⟨h₁, h₂⟩ := h.published_layout.resplit R.blocks_pos hlay (by omega) (by omega)
  refine ⟨?_, h.atom_eq, h₁, h₂, ?_, h.fronted_ne⟩
  · rw [← List.append_assoc]
    exact hview
  · show s.advanced ++ [u] = s.published ++ _
    rw [h.advanced_eq, List.append_assoc]

theorem Inv.dieInAlloc (h : Inv R s ps vs rc r wp wa w) {size : UInt16}
    (hsize : size.toNat + 8 ≤ 65535) (n : Nat) :
    ∃ rc' w', Inv R (s.dieInAlloc R size n) ps vs rc' r wp wa w' := by
  obtain ⟨hs, hroom, hf, hpushed⟩ := h.view
  obtain ⟨rc', w', hs', hf'⟩ := hs.allocStores_take hf hsize n
  have hstores : ∀ st ∈ (s.q.allocStores R size).take n, ∀ v, st ≠ .writeIdxAtom v :=
    fun st hst => allocStores_ne_atom (List.mem_of_mem_take hst)
  have hcut : ∀ v, ((s.q.allocStores R size).take n).foldl Store.apply (s.q.setAtom v) =
      (s.dieInAlloc R size n).q.setAtom v := foldl_setAtom hstores s.q
  have hsame : (s.view wa).q.allocStores R size = s.q.allocStores R size := rfl
  rw [hsame] at hs' hf'
  have hq : (s.view wa).q = s.q.setAtom (UInt32.ofNat wa) := rfl
  rw [hq, hcut] at hs' hf'
  refine ⟨rc', w', h.of_view (s.dieInAlloc R size n) ⟨hs', ?_, hf', hpushed⟩ ?_ rfl rfl
    fun _ hp => hp⟩
  · intro u hu
    cases hu
  · have hself : (s.dieInAlloc R size n).q = (s.dieInAlloc R size n).q.setAtom s.q.writeIdxAtom :=
      hcut s.q.writeIdxAtom
    rw [hself]
    rfl

theorem Inv.dieInPush (h : Inv R s ps vs rc r wp wa w) {u : Placed} (hu : s.pending = some u)
    (n : Nat) : ∃ ps vs wp wa w, Inv R (s.dieInPush R u n) ps vs rc r wp wa w := by
  match n with
  | 0 =>
    exact ⟨ps, vs, wp, wa, w, h.forget none s.fronted (fun _ hu => by cases hu) fun _ hp => hp⟩
  | 1 => exact ⟨ps, vs ++ [u], wp, _, _, h.advance hu⟩
  | n + 2 =>
    have hcut : s.dieInPush R u (n + 2) = s.push R u := by
      simp [Shared.dieInPush, Shared.push, pushStores, push_eq_foldl]
    rw [hcut]
    exact ⟨ps ++ vs ++ [u], [], _, _, _, h.push hu⟩

/-- The consumer sees the published messages only. -/
lemma Inv.spans_front (h : Inv R s ps vs rc r wp wa w) :
    ∃ r', Layout R.blocks (s.q.front R).1 r' ps wp ∧ rc ≤ r' ∧
      (s.q.front R).1.readIdx = UInt32.ofNat r' ∧
      AtFirst R (s.q.front R).1 (s.q.front R).2 ps r' ∧ ((s.q.front R).2 = none → ps = []) := by
  have hs := h.view.spans
  have hle := h.wp_le
  have hwa := hs.wa_le
  have hturn := hs.turn
  have hpub : Spans R { s.q with writeIdx := UInt32.ofNat wp } ps rc r wp wp :=
    ⟨rfl, h.atom_eq, hs.cach_eq, hs.read_eq, hs.cach_le, by omega,
      h.published_layout.of_blk_eq R.blocks_pos rfl, Or.inl rfl⟩
  have hfront : { s.q with writeIdx := UInt32.ofNat wp }.front R =
      ({ (s.q.front R).1 with writeIdx := UInt32.ofNat wp }, (s.q.front R).2) := by
    have hhead : { s.q with writeIdx := UInt32.ofNat wp }.header (slot R s.q.readIdx) =
        s.q.header (slot R s.q.readIdx) := rfl
    simp only [SPSCVarQueue.front, hhead]
    split_ifs <;> rfl
  obtain ⟨r', hs', hf', hnull⟩ := hpub.front
  rw [hfront] at hs' hf' hnull
  exact ⟨r', hs'.layout.of_blk_eq R.blocks_pos rfl, hs'.cach_le, hs'.read_eq, hf'.congr rfl, hnull⟩

theorem Inv.front (h : Inv R s ps vs rc r wp wa w) :
    ∃ r', Inv R (s.front R) ps vs rc r' wp wa w := by
  obtain ⟨hs, hroom, -, hpushed⟩ := h.view
  obtain ⟨r', hlay, hle, hread, hf, -⟩ := h.spans_front
  have hblk := Traffic.blk_front (R := R) s.q
  obtain ⟨v, hv⟩ := s.q.exists_front_eq R
  have hlater : Layout R.blocks (s.q.front R).1 wp vs wa :=
    h.later_layout.of_blk_eq R.blocks_pos hblk
  refine ⟨r', ⟨⟨?_, rfl, ?_, hread, hle, hs.turn,
    (hlay.append hlater).of_blk_eq R.blocks_pos rfl, ?_⟩, ?_, ?_, hpushed⟩, ?_, hlay, hlater,
    h.advanced_eq, ?_⟩
  · show (s.q.front R).1.writeIdx = _
    rw [hv]
    exact hs.write_eq
  · show (s.q.front R).1.readIdxCach = _
    rw [hv]
    exact hs.cach_eq
  · rcases hs.gap with hw | ⟨hw, hskip⟩
    · exact Or.inl hw
    · refine Or.inr ⟨hw, ?_⟩
      rw [← hskip]
      show ((s.q.front R).1.header _).size = _
      rw [hv]
      rfl
  · intro u hu
    obtain ⟨hlies, hfits⟩ := hroom u hu
    exact ⟨hlies.congr fun _ _ _ _ _ => by
      show (s.q.front R).1.blk _ = s.q.blk _
      rw [hblk], hfits⟩
  · intro p hp
    obtain ⟨u, hu, hptr, hlies⟩ := hf p hp
    refine ⟨u, ?_, hptr, hlies.congr fun _ _ _ _ _ => rfl⟩
    rw [List.head?_append]
    simp [Option.mem_def.mp hu]
  · show (s.q.front R).1.writeIdxAtom = _
    rw [hv]
    exact h.atom_eq
  · intro p hp
    obtain ⟨u, hu, -⟩ := hf p hp
    exact List.ne_nil_of_mem (List.mem_of_mem_head? hu)

theorem Inv.pop (h : Inv R s ps vs rc r wp wa w) {p : Nat} (hp : s.fronted = some p) :
    ∃ u ps', ps = u :: ps' ∧ s.q.msgAt p = u.msg ∧
      Inv R (s.pop R p) ps' vs rc (r + u.blocks) wp wa w := by
  obtain ⟨u, us', hus, hmsg, hview⟩ := h.view.pop hp
  obtain ⟨u', ps', rfl⟩ := List.exists_cons_of_ne_nil (h.fronted_ne p hp)
  obtain ⟨rfl, rfl⟩ := List.cons.inj hus
  obtain ⟨v, hv, -, hlies⟩ := h.view.atFirst p hp
  obtain rfl : u' = v := by simpa using hv
  have hrest : Layout R.blocks s.q (r + u'.blocks) ps' wp := by
    rcases h.published_layout.cons_inv with ⟨-, hrest⟩ | ⟨hskip, -, -⟩
    · exact hrest
    · have hsize : (s.q.header (r % R.blocks)).size = u'.msg.size := hlies.size_header
      exact absurd (hsize ▸ hskip) hlies.size_ne
  refine ⟨u', ps', rfl, hmsg, hview, h.atom_eq, hrest.of_blk_eq R.blocks_pos rfl,
    h.later_layout.of_blk_eq R.blocks_pos rfl, h.advanced_eq, ?_⟩
  intro p' hp'
  cases hp'

theorem Inv.dieInFront (h : Inv R s ps vs rc r wp wa w) (n : Nat) :
    ∃ r', Inv R (s.dieInFront R n) ps vs rc r' wp wa w := by
  match n with
  | 0 => exact ⟨r, h.forget _ none (fun _ hu => hu) fun _ hp => by cases hp⟩
  | n + 1 =>
    obtain ⟨r', h'⟩ := h.front
    have hlen : (s.q.frontStores R).length ≤ n + 1 := by
      unfold frontStores
      split_ifs <;> simp
    have hcut : s.dieInFront R (n + 1) = { s.front R with fronted := none } := by
      unfold Shared.dieInFront Shared.front
      rw [List.take_of_length_le hlen, front_eq_foldl]
    rw [hcut]
    exact ⟨r', h'.forget _ none (fun _ hu => hu) fun _ hp => by cases hp⟩

theorem Inv.dieInPop (h : Inv R s ps vs rc r wp wa w) {p : Nat} (hp : s.fronted = some p)
    (n : Nat) : ∃ ps r', Inv R (s.dieInPop R p n) ps vs rc r' wp wa w := by
  match n with
  | 0 => exact ⟨ps, r, h.forget _ none (fun _ hu => hu) fun _ hp => by cases hp⟩
  | n + 1 =>
    obtain ⟨u, ps', -, -, h'⟩ := h.pop hp
    have hcut : s.dieInPop R p (n + 1) = s.pop R p := by
      simp [Shared.dieInPop, Shared.pop, popStores, pop_eq_foldl]
    rw [hcut]
    exact ⟨ps', _, h'⟩

/-! ### Whole runs -/

lemma inv_init (blk : Mem MsgHeader) : Inv R (init blk) [] [] 0 0 0 0 0 where
  view := Traffic.inv_init blk
  atom_eq := rfl
  published_layout := .nil 0
  later_layout := .nil 0
  advanced_eq := rfl
  fronted_ne := fun p hp => by cases hp

theorem Step.inv (hstep : Step R s s') (h : Inv R s ps vs rc r wp wa w) :
    ∃ ps vs rc r wp wa w, Inv R s' ps vs rc r wp wa w := by
  cases hstep with
  | alloc size hsize =>
    obtain ⟨rc', w', h'⟩ := h.alloc hsize
    exact ⟨ps, vs, rc', r, wp, wa, w', h'⟩
  | fill hu msgType body hbody => exact ⟨ps, vs, rc, r, wp, wa, w, h.fill hu msgType hbody⟩
  | push hu => exact ⟨_, _, rc, r, _, _, _, h.push hu⟩
  | front =>
    obtain ⟨r', h'⟩ := h.front
    exact ⟨ps, vs, rc, r', wp, wa, w, h'⟩
  | pop hp =>
    obtain ⟨u, ps', -, -, h'⟩ := h.pop hp
    exact ⟨ps', vs, rc, _, wp, wa, w, h'⟩
  | dieInAlloc size hsize n =>
    obtain ⟨rc', w', h'⟩ := h.dieInAlloc hsize n
    exact ⟨ps, vs, rc', r, wp, wa, w', h'⟩
  | dieInPush hu n =>
    obtain ⟨ps', vs', wp', wa', w', h'⟩ := h.dieInPush hu n
    exact ⟨ps', vs', rc, r, wp', wa', w', h'⟩
  | dieInFront n =>
    obtain ⟨r', h'⟩ := h.dieInFront n
    exact ⟨ps, vs, rc, r', wp, wa, w, h'⟩
  | dieInPop hp n =>
    obtain ⟨ps', r', h'⟩ := h.dieInPop hp n
    exact ⟨ps', vs, rc, r', wp, wa, w, h'⟩

theorem Reaches.inv {blk : Mem MsgHeader} (h : Reaches R blk s) :
    ∃ ps vs rc r wp wa w, Inv R s ps vs rc r wp wa w := by
  induction h with
  | refl => exact ⟨[], [], 0, 0, 0, 0, 0, inv_init blk⟩
  | tail _ hstep ih =>
    obtain ⟨ps, vs, rc, r, wp, wa, w, hinv⟩ := ih
    exact hstep.inv hinv

/-! ### What is delivered -/

variable (R)

/-- `Front`, and `Pop` if there is a message. -/
def deliver (s : Shared) : Shared :=
  match (s.q.front R).2 with
  | none => s.front R
  | some p => (s.front R).pop R p

/-- The consumer takes up to `n` messages. -/
def drain (s : Shared) : Nat → Shared
  | 0 => s
  | n + 1 => (s.deliver R).drain n

variable {R}

lemma Inv.published_map (h : Inv R s ps vs rc r wp wa w) :
    s.published.map Placed.msg = s.popped ++ ps.map Placed.msg := by
  obtain ⟨done, hpushed, hpopped⟩ := h.view.pushed_eq
  have hadv : s.advanced = done ++ (ps ++ vs) := hpushed
  have hpop : done.map Placed.msg = s.popped := hpopped
  rw [h.advanced_eq, ← List.append_assoc] at hadv
  rw [List.append_cancel_right hadv, List.map_append, hpop]

/-- `Front` shows the first message that is published and not popped. -/
lemma Inv.front_eq (h : Inv R s ps vs rc r wp wa w) :
    (s.q.front R).2.map s.q.msgAt = ps.head?.map Placed.msg := by
  obtain ⟨r', -, -, -, hf, hnull⟩ := h.spans_front
  obtain ⟨v, hv⟩ := s.q.exists_front_eq R
  cases hfront : (s.q.front R).2 with
  | none =>
    rw [hnull hfront]
    rfl
  | some p =>
    obtain ⟨u, hu, hptr, hlies⟩ := hf p hfront
    have hmsg := hlies.msgAt_eq
    rw [← hlies.ptr_eq, hptr, hv] at hmsg
    rw [Option.mem_def.mp hu]
    exact congrArg some hmsg

lemma Inv.deliver (h : Inv R s ps vs rc r wp wa w) :
    ∃ r', Inv R (s.deliver R) ps.tail vs rc r' wp wa w ∧
      (s.deliver R).popped = s.popped ++ (ps.take 1).map Placed.msg := by
  obtain ⟨r₁, h₁⟩ := h.front
  cases hfront : (s.q.front R).2 with
  | none =>
    obtain ⟨-, -, -, -, -, hnull⟩ := h.spans_front
    obtain rfl := hnull hfront
    have heq : s.deliver R = s.front R := by
      rw [Shared.deliver, hfront]
    rw [heq]
    exact ⟨r₁, h₁, (List.append_nil _).symm⟩
  | some p =>
    obtain ⟨u, ps', rfl, hmsg, h₂⟩ := h₁.pop hfront
    have heq : s.deliver R = (s.front R).pop R p := by
      rw [Shared.deliver, hfront]
    rw [heq]
    refine ⟨_, h₂, ?_⟩
    show s.popped ++ [(s.front R).q.msgAt p] = _
    rw [hmsg]
    rfl

theorem Inv.drain_popped (h : Inv R s ps vs rc r wp wa w) (n : Nat) :
    (s.drain R n).popped = s.popped ++ (ps.take n).map Placed.msg := by
  induction n generalizing s ps r with
  | zero => exact (List.append_nil _).symm
  | succ n ih =>
    obtain ⟨r', h', hpopped⟩ := h.deliver
    rw [drain, ih h', hpopped]
    cases ps with
    | nil => simp
    | cons u ps => simp

lemma Inv.drain_eq (h : Inv R s ps vs rc r wp wa w) (n : Nat) :
    (s.drain R n).popped = (s.published.map Placed.msg).take (s.popped.length + n) := by
  rw [h.drain_popped, h.published_map, List.take_length_add_append, List.map_take]

/-- Whatever crashes there were: the messages popped are the first ones `Push` has advanced over, in
order; a consumer that goes on gets the published ones; after the next `Push` these are all that
were advanced over, whether or not an earlier `Push` was cut off; and what `Front` returns is the
message published next. -/
theorem Reaches.delivers_advanced {blk : Mem MsgHeader} (h : Reaches R blk s) :
    s.popped <+: s.advanced.map Placed.msg ∧ s.published <+: s.advanced ∧
    (∀ n, (s.drain R n).popped = (s.published.map Placed.msg).take (s.popped.length + n)) ∧
    (∀ u ∈ s.pending, ∀ n, ((s.push R u).drain R n).popped =
      ((s.advanced ++ [u]).map Placed.msg).take (s.popped.length + n)) ∧
    (s.q.front R).2.map s.q.msgAt = (s.published.map Placed.msg)[s.popped.length]? ∧
    (∀ p ∈ s.fronted, (s.published.map Placed.msg)[s.popped.length]? = some (s.q.msgAt p)) := by
  obtain ⟨ps, vs, rc, r, wp, wa, w, hinv⟩ := h.inv
  have hmap := hinv.published_map
  have hnext : (s.published.map Placed.msg)[s.popped.length]? = ps.head?.map Placed.msg := by
    rw [hmap, List.getElem?_append_right le_rfl, Nat.sub_self, List.getElem?_map]
    cases ps <;> rfl
  refine ⟨?_, ⟨vs, hinv.advanced_eq.symm⟩, hinv.drain_eq, ?_, ?_, ?_⟩
  · exact ⟨(ps ++ vs).map Placed.msg, hinv.view.pushed_map.symm⟩
  · intro u hu n
    exact (hinv.push hu).drain_eq n
  · rw [hnext, hinv.front_eq]
  · intro p hp
    obtain ⟨u, ps', rfl, hmsg, -⟩ := hinv.pop hp
    rw [hnext, hmsg]
    rfl

/-- On a ring of four blocks, after a first message has gone through, the producer dies between the
two stores of `Push`, and its successor in `Alloc` right after the rewind; the next one pushes a
message, and both are popped. -/
theorem Reaches.delivers_advanced_two_crashes :
    let R : RingSize := ⟨256, by decide⟩
    let u : Placed := ⟨0, ⟨128, 0, List.replicate 15 default⟩⟩
    let v : Placed := ⟨2, ⟨16, 0, [default]⟩⟩
    let s := (((((init fun _ => default).alloc R 120).push R u).front R).pop R 0).alloc R 8
    let t := ((s.dieInPush R v 1).dieInAlloc R 120 3).alloc R 120
    ((t.push R u).drain R 2).popped = [u.msg, v.msg, u.msg] := by
  intro R u v s t
  have h₁ : Reaches R (fun _ => default) ((init fun _ => default).alloc R 120) :=
    .single (.alloc 120 (by decide))
  have h₂ := (h₁.tail (.push (u := u) (by decide +kernel))).tail .front
  have h₃ := (h₂.tail (.pop (p := 0) (by decide +kernel))).tail (.alloc 8 (by decide))
  have h₄ := h₃.tail (.dieInPush (u := v) (by decide +kernel) 1)
  have h₅ := (h₄.tail (.dieInAlloc 120 (by decide) 3)).tail (.alloc 120 (by decide))
  obtain ⟨-, -, -, hdrain, -⟩ := Reaches.delivers_advanced h₅
  rw [hdrain u (by decide +kernel) 2]
  decide +kernel

end Shared

end SPSCVarQueue

end Tcpshm
