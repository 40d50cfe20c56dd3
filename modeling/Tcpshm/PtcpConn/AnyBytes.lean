import Tcpshm.PtcpConn.Stream

/-!
# `Front` on arbitrary bytes

The second loop of `Front` goes by the sizes it reads from the peer. On bytes that need not be a
stream of frames it ends unless it meets a header of size 0, and the indices stay in order as long
as every queued heartbeat is as long as the first loop takes it to be.
-/

namespace Tcpshm

lemma padded_eq_zero_iff {size : UInt16} : (padded size).toNat = 0 ↔ size = 0 := by
  rw [toNat_padded, ← UInt16.toNat_inj]
  simp
  omega

namespace PTCPConnection

variable (C : Conf)

/-! ### What the bytes say -/

/-- The header `bytes` begin with, in host order already if `conv`. -/
def firstHeader (conv : Bool) (bytes : List UInt8) : MsgHeader :=
  let header := .ofBytes C.endian.isLittle (bytes.take 8)
  if conv then header else header.convertByteOrder C.endian

/-- The length of the first message, by its header. -/
def firstLength (conv : Bool) (bytes : List UInt8) : Nat :=
  (padded (firstHeader C conv bytes).size).toNat

/-- `bytes` begin with a message that fits the buffer and is complete. -/
structure Complete (conv : Bool) (bytes : List UInt8) : Prop where
  header : 8 ≤ bytes.length
  fits : firstLength C conv bytes ≤ C.tcpRecvBufMaxSize.toNat
  whole : firstLength C conv bytes ≤ bytes.length

/-- One of the headers the loop comes to has size 0. -/
inductive ZeroSized : Bool → List UInt8 → Prop where
  | here {conv : Bool} {bytes : List UInt8} (h8 : 8 ≤ bytes.length)
      (hsize : (firstHeader C conv bytes).size = 0) : ZeroSized conv bytes
  | later {conv : Bool} {bytes : List UInt8} (hc : Complete C conv bytes)
      (h : ZeroSized false (bytes.drop (firstLength C conv bytes))) : ZeroSized conv bytes

/-- A heartbeat that does not take 8 bytes is queued behind a message; `waiting` says that there
is one. -/
inductive LongHeartbeat : Bool → Bool → List UInt8 → Prop where
  | here {conv : Bool} {bytes : List UInt8} (hc : Complete C conv bytes)
      (htype : (firstHeader C conv bytes).msgType = 0) (hlen : firstLength C conv bytes ≠ 8) :
      LongHeartbeat true conv bytes
  | later {waiting conv : Bool} {bytes : List UInt8} (hc : Complete C conv bytes)
      (h : LongHeartbeat (waiting || (firstHeader C conv bytes).msgType != 0) false
        (bytes.drop (firstLength C conv bytes))) : LongHeartbeat waiting conv bytes

/-- Complete messages with their headers in host order, and heartbeats of 8 bytes. -/
inductive HostFrames : List UInt8 → Prop where
  | nil : HostFrames []
  | cons {bytes : List UInt8} (hc : Complete C true bytes)
      (hsize : (firstHeader C true bytes).size ≠ 0)
      (hhb : (firstHeader C true bytes).msgType = 0 → firstLength C true bytes = 8)
      (h : HostFrames (bytes.drop (firstLength C true bytes))) : HostFrames bytes

/-- The first message is not complete, or there is no room for it. -/
def Blocked (bytes : List UInt8) : Prop :=
  8 ≤ bytes.length → C.tcpRecvBufMaxSize.toNat < firstLength C true bytes ∨
    bytes.length < firstLength C true bytes

variable {C} {bytes bytes' : List UInt8} {conv : Bool}

lemma firstHeader_append (conv : Bool) (h : 8 ≤ bytes.length) (bytes' : List UInt8) :
    firstHeader C conv (bytes ++ bytes') = firstHeader C conv bytes := by
  rw [firstHeader, firstHeader, List.take_append_of_le_length h]

lemma firstLength_append (conv : Bool) (h : 8 ≤ bytes.length) (bytes' : List UInt8) :
    firstLength C conv (bytes ++ bytes') = firstLength C conv bytes := by
  rw [firstLength, firstHeader_append conv h, firstLength]

lemma firstHeader_take {n : Nat} (hn : 8 ≤ n) :
    firstHeader C conv (bytes.take n) = firstHeader C conv bytes := by
  rw [firstHeader, firstHeader, List.take_take, min_eq_left hn]

lemma firstLength_mod (conv : Bool) (bytes : List UInt8) : firstLength C conv bytes % 8 = 0 := by
  rw [firstLength, toNat_padded]
  omega

lemma firstLength_ge (h : (firstHeader C conv bytes).size ≠ 0) : 8 ≤ firstLength C conv bytes := by
  have hne := mt padded_eq_zero_iff.mp h
  have hmod := firstLength_mod (C := C) conv bytes
  unfold firstLength at *
  omega

lemma HostFrames.append (h : HostFrames C bytes) (h' : HostFrames C bytes') :
    HostFrames C (bytes ++ bytes') := by
  induction h with
  | nil => exact h'
  | @cons bytes hc hsize hhb _ ih =>
    have h8 := hc.header
    have hlen := firstLength_append (C := C) true h8 bytes'
    have hhead := firstHeader_append (C := C) true h8 bytes'
    refine .cons ⟨?_, ?_, ?_⟩ ?_ ?_ ?_
    · rw [List.length_append]
      omega
    · rw [hlen]
      exact hc.fits
    · rw [hlen, List.length_append]
      exact hc.whole.trans (Nat.le_add_right _ _)
    · rwa [hhead]
    · rwa [hhead, hlen]
    · rwa [hlen, List.drop_append_of_le_length hc.whole]

/-- A complete message by itself. -/
lemma HostFrames.single (hc : Complete C true bytes) (hsize : (firstHeader C true bytes).size ≠ 0)
    (hhb : (firstHeader C true bytes).msgType = 0 → firstLength C true bytes = 8) :
    HostFrames C (bytes.take (firstLength C true bytes)) := by
  have h8 := firstLength_ge hsize
  have hhead : firstHeader C true (bytes.take (firstLength C true bytes)) =
      firstHeader C true bytes := firstHeader_take h8
  have hlen : firstLength C true (bytes.take (firstLength C true bytes)) =
      firstLength C true bytes := by
    rw [firstLength, hhead]
    rfl
  have htake : (bytes.take (firstLength C true bytes)).length = firstLength C true bytes :=
    List.length_take_of_le hc.whole
  refine .cons ⟨?_, ?_, ?_⟩ ?_ ?_ ?_
  · rwa [htake]
  · rw [hlen]
    exact hc.fits
  · rw [hlen, htake]
  · rwa [hhead]
  · rwa [hhead, hlen]
  · rw [hlen, List.drop_of_length_le htake.le]
    exact .nil

lemma HostFrames.length_mod (h : HostFrames C bytes) : bytes.length % 8 = 0 := by
  induction h with
  | nil => rfl
  | @cons bytes hc _ _ _ ih =>
    have hmod := firstLength_mod (C := C) true bytes
    have hle := hc.whole
    rw [List.length_drop] at ih
    omega

/-! ### The buffer -/

/-- The bytes of the messages `Front` has parsed. -/
def readyBytes (c : PTCPConnection) : List UInt8 :=
  c.recvbuf.slice c.readidx.toNat (c.nextmsgIdx.toNat - c.readidx.toNat)

/-- The bytes `Front` has still to parse. -/
def pendingBytes (c : PTCPConnection) : List UInt8 :=
  c.recvbuf.slice c.nextmsgIdx.toNat (c.writeidx.toNat - c.nextmsgIdx.toNat)

variable {c c' : PTCPConnection}

@[simp] lemma length_readyBytes :
    c.readyBytes.length = c.nextmsgIdx.toNat - c.readidx.toNat := by
  simp [readyBytes]

@[simp] lemma length_pendingBytes :
    c.pendingBytes.length = c.writeidx.toNat - c.nextmsgIdx.toNat := by
  simp [pendingBytes]

lemma Bounds.readyBytes_eq (h : Bounds C c) :
    c.readyBytes = c.unreadBytes.take (c.nextmsgIdx.toNat - c.readidx.toNat) := by
  have := h.read_le
  have := h.next_le
  rw [unreadBytes, Mem.take_slice _ _ _ _ (by omega), readyBytes]

lemma Bounds.pendingBytes_eq (h : Bounds C c) :
    c.pendingBytes = c.unreadBytes.drop (c.nextmsgIdx.toNat - c.readidx.toNat) := by
  have := h.read_le
  have := h.next_le
  rw [unreadBytes, Mem.drop_slice _ _ _ _ (by omega), pendingBytes]
  congr 1 <;> omega

lemma Unread.readyBytes_eq (hb : Bounds C c) (h : Unread C c c') :
    c'.readyBytes = c.readyBytes := by
  rw [h.bounds.readyBytes_eq, hb.readyBytes_eq, h.unread_eq, h.ready_eq]

lemma Unread.pendingBytes_eq (hb : Bounds C c) (h : Unread C c c') :
    c'.pendingBytes = c.pendingBytes := by
  rw [h.bounds.pendingBytes_eq, hb.pendingBytes_eq, h.unread_eq, h.ready_eq]

/-! ### One turn of the second loop -/

/-- A turn of the second loop that does not leave it. -/
def parseTurn (C : Conf) (oldWriteidx : UInt32) (c : PTCPConnection) : Option PTCPConnection :=
  if 8 ≤ c.writeidx - c.nextmsgIdx then
    let c := c.convertNew C oldWriteidx
    let header := c.headerAt C c.nextmsgIdx
    let c := c.onQueue fun q => q.ack C.endian header.ackSeq
    if C.tcpRecvBufMaxSize < padded header.size then none
    else if c.writeidx - c.nextmsgIdx < padded header.size then none
    else some (c.gotMsg header)
  else none

variable {o : UInt32} {fuel : Nat}

lemma parseLoop_of_turn (h : c.parseTurn C o = some c') :
    c.parseLoop C o (fuel + 1) = c'.parseLoop C o fuel := by
  unfold parseTurn at h
  rw [parseLoop]
  by_cases h8 : 8 ≤ c.writeidx - c.nextmsgIdx
  · rw [if_pos h8] at h ⊢
    dsimp only at h ⊢
    split_ifs at h ⊢
    rw [Option.some.inj h]
  · rw [if_neg h8] at h
    cases h

/-- The header at `nextmsg_idx_` was converted if it was there before the last read. -/
def converted (c : PTCPConnection) (o : UInt32) : Bool := c.nextmsgIdx.toNat + 8 ≤ o.toNat

/-- What holds at every turn: what was there before the last read is not a complete message. -/
structure Parsing (C : Conf) (o : UInt32) (c : PTCPConnection) : Prop where
  bounds : Bounds C c
  old_le : o.toNat ≤ c.writeidx.toNat
  old_lt : c.converted o = true →
    o.toNat < c.nextmsgIdx.toNat + firstLength C true c.pendingBytes

lemma take_pendingBytes (h : 8 ≤ c.pendingBytes.length) :
    c.pendingBytes.take 8 = c.recvbuf.slice c.nextmsgIdx.toNat 8 := by
  rw [length_pendingBytes] at h
  exact Mem.take_slice _ _ _ _ h

lemma headerAt_next (h : 8 ≤ c.pendingBytes.length) :
    c.headerAt C c.nextmsgIdx = firstHeader C true c.pendingBytes := by
  rw [headerAt, ← take_pendingBytes h]
  rfl

/-- After the conversion the header is in host order, and nothing else has changed. -/
lemma Parsing.convertNew (h : Parsing C o c) (hmax : C.tcpRecvBufMaxSize.toNat < 2 ^ 31)
    (h8 : 8 ≤ c.pendingBytes.length) :
    ∃ buf, c.convertNew C o = { c with recvbuf := buf } ∧
      (c.convertNew C o).readyBytes = c.readyBytes ∧
      firstHeader C true (c.convertNew C o).pendingBytes =
        firstHeader C (c.converted o) c.pendingBytes ∧
      (c.convertNew C o).pendingBytes.drop 8 = c.pendingBytes.drop 8 := by
  have h₁ := h.bounds.read_le
  have h₂ := h.bounds.next_le
  have h₃ := h.bounds.write_le
  have h₄ := h.bounds.size_le
  have ho := h.old_le
  have hoInt : o.asInt = o.toNat := by
    rw [UInt32.asInt_eq, if_pos (by omega)]
  have hnInt : c.nextmsgIdx.asInt = c.nextmsgIdx.toNat := by
    rw [UInt32.asInt_eq, if_pos (by omega)]
  by_cases hlt : o.asInt - c.nextmsgIdx.asInt < 8
  · have hconv : c.converted o = false := by
      rw [hoInt, hnInt] at hlt
      simp only [converted, decide_eq_false_iff_not]
      omega
    have heq : c.convertNew C o = c.convertHeader C c.nextmsgIdx := if_pos hlt
    have hpend := h8
    rw [length_pendingBytes] at hpend
    set header := (c.headerAt C c.nextmsgIdx).convertByteOrder C.endian with hheader
    set buf := c.recvbuf.write c.nextmsgIdx.toNat (header.toBytes C.endian.isLittle) with hbuf
    have hconvert : c.convertHeader C c.nextmsgIdx = { c with recvbuf := buf } := rfl
    rw [heq, hconvert, hconv]
    have hhead : buf.slice c.nextmsgIdx.toNat 8 = header.toBytes C.endian.isLittle := by
      have := Mem.slice_write_self c.recvbuf c.nextmsgIdx.toNat
        (header.toBytes C.endian.isLittle)
      rwa [MsgHeader.length_toBytes] at this
    refine ⟨buf, rfl, ?_, ?_, ?_⟩
    · show buf.slice c.readidx.toNat (c.nextmsgIdx.toNat - c.readidx.toNat) = c.readyBytes
      exact Mem.slice_write_of_disjoint _ (Or.inl (by omega))
    · rw [firstHeader, take_pendingBytes (by simpa using hpend)]
      show MsgHeader.ofBytes C.endian.isLittle (buf.slice c.nextmsgIdx.toNat 8) = _
      rw [hhead, MsgHeader.ofBytes_toBytes, hheader, headerAt, ← take_pendingBytes h8]
      rfl
    · show (buf.slice c.nextmsgIdx.toNat _).drop 8 = (c.recvbuf.slice c.nextmsgIdx.toNat _).drop 8
      rw [Mem.drop_slice _ _ _ _ hpend, Mem.drop_slice _ _ _ _ hpend]
      exact Mem.slice_write_of_disjoint _ (Or.inr (by simp))
  · have hconv : c.converted o = true := by
      rw [hoInt, hnInt] at hlt
      simp only [converted, decide_eq_true_eq]
      omega
    have heq : c.convertNew C o = c := if_neg hlt
    rw [heq, hconv]
    exact ⟨c.recvbuf, rfl, rfl, rfl, rfl⟩

/-- `c'` is `c` with the first pending header converted, and its ack applied. -/
structure Converted (C : Conf) (o : UInt32) (c c' : PTCPConnection) : Prop where
  bounds : Bounds C c'
  readidx : c'.readidx = c.readidx
  nextmsgIdx : c'.nextmsgIdx = c.nextmsgIdx
  writeidx : c'.writeidx = c.writeidx
  ready_eq : c'.readyBytes = c.readyBytes
  head_eq : firstHeader C true c'.pendingBytes = firstHeader C (c.converted o) c.pendingBytes
  rest_eq : c'.pendingBytes.drop 8 = c.pendingBytes.drop 8

/-- The message that is looked at. -/
def nextHeader (C : Conf) (o : UInt32) (c : PTCPConnection) : MsgHeader :=
  firstHeader C (c.converted o) c.pendingBytes

def nextLength (C : Conf) (o : UInt32) (c : PTCPConnection) : Nat :=
  firstLength C (c.converted o) c.pendingBytes

/-- A turn closes the connection, leaves the loop, or takes the message. -/
theorem Parsing.turn_cases (h : Parsing C o c) (hmax : C.tcpRecvBufMaxSize.toNat < 2 ^ 31)
    (h8 : 8 ≤ c.pendingBytes.length) (fuel : Nat) :
    ∃ c', Converted C o c c' ∧
      ((C.tcpRecvBufMaxSize.toNat < c.nextLength C o ∧ c.parseTurn C o = none ∧
          c.parseLoop C o (fuel + 1) =
            (c'.close "Msg size larger than recv buf max size" 0, some .null)) ∨
        (c.pendingBytes.length < c.nextLength C o ∧ c.parseTurn C o = none ∧
          c.parseLoop C o (fuel + 1) = (c', none)) ∨
        (Complete C (c.converted o) c.pendingBytes ∧
          c.parseTurn C o = some (c'.gotMsg (c.nextHeader C o)))) := by
  obtain ⟨buf, heq, hready, hhead, hrest⟩ := h.convertNew hmax h8
  have hb := h.bounds
  have hsub : (c.writeidx - c.nextmsgIdx).toNat = c.pendingBytes.length := by
    rw [UInt32.toNat_sub_of_le' hb.next_le, length_pendingBytes]
  have hlen8 : 8 ≤ c.writeidx - c.nextmsgIdx := by
    rw [UInt32.le_iff_toNat_le, hsub]
    exact h8
  have hheader : (c.convertNew C o).headerAt C (c.convertNew C o).nextmsgIdx =
      c.nextHeader C o := by
    rw [headerAt_next, hhead]
    · rfl
    · rw [heq]
      simpa using h8
  have hlen : (padded (c.nextHeader C o).size).toNat = c.nextLength C o := rfl
  refine ⟨(c.convertNew C o).onQueue fun q => q.ack C.endian (c.nextHeader C o).ackSeq,
    ⟨?_, ?_, ?_, ?_, hready, hhead, hrest⟩, ?_⟩
  · rw [heq]
    exact ⟨hb.1, hb.2, hb.3, hb.4, hb.5, hb.6⟩
  · rw [heq]
    rfl
  · rw [heq]
    rfl
  · rw [heq]
    rfl
  · set c' := (c.convertNew C o).onQueue fun q => q.ack C.endian (c.nextHeader C o).ackSeq with hc'
    have hsub' : (c'.writeidx - c'.nextmsgIdx).toNat = c.pendingBytes.length := by
      rw [hc', heq]
      exact hsub
    rw [parseTurn, parseLoop, if_pos hlen8, if_pos hlen8]
    simp only [hheader, ← hc', UInt32.lt_iff_toNat_lt, hsub', hlen]
    by_cases hbig : C.tcpRecvBufMaxSize.toNat < c.nextLength C o
    · rw [if_pos hbig, if_pos hbig]
      exact Or.inl ⟨hbig, rfl, rfl⟩
    · rw [if_neg hbig, if_neg hbig]
      by_cases hpart : c.pendingBytes.length < c.nextLength C o
      · rw [if_pos hpart, if_pos hpart]
        exact Or.inr (Or.inl ⟨hpart, rfl, rfl⟩)
      · rw [if_neg hpart, if_neg hpart]
        exact Or.inr (Or.inr ⟨⟨h8, not_lt.mp hbig, not_lt.mp hpart⟩, rfl⟩)

/-- With less than a header the loop is left. -/
lemma Parsing.short (h : Parsing C o c) (h8 : ¬ 8 ≤ c.pendingBytes.length) (fuel : Nat) :
    c.parseTurn C o = none ∧ c.parseLoop C o (fuel + 1) = (c, none) := by
  have hlen8 : ¬ 8 ≤ c.writeidx - c.nextmsgIdx := by
    rw [UInt32.le_iff_toNat_le, UInt32.toNat_sub_of_le' h.bounds.next_le]
    rwa [length_pendingBytes] at h8
  rw [parseTurn, parseLoop, if_neg hlen8, if_neg hlen8]
  exact ⟨rfl, rfl⟩

/-- What taking a message with a size does to the buffer. -/
lemma Parsing.gotMsg (h : Parsing C o c) (hmax : C.tcpRecvBufMaxSize.toNat < 2 ^ 31)
    (hc : Complete C (c.converted o) c.pendingBytes) (hsize : (c.nextHeader C o).size ≠ 0)
    (hconv : Converted C o c c') :
    let got := c'.gotMsg (c.nextHeader C o)
    Parsing C o got ∧ got.converted o = false ∧
    got.nextmsgIdx.toNat = c.nextmsgIdx.toNat + c.nextLength C o ∧
    got.pendingBytes = c.pendingBytes.drop (c.nextLength C o) ∧
    got.writeidx = c.writeidx ∧
    ((c.nextHeader C o).msgType = 0 ∧ c.readidx = c.nextmsgIdx ∧ got.readidx = got.nextmsgIdx ∨
      ¬ ((c.nextHeader C o).msgType = 0 ∧ c.readidx = c.nextmsgIdx) ∧ got.readidx = c.readidx ∧
      got.readyBytes = c.readyBytes ++ c'.pendingBytes.take (c.nextLength C o)) := by
  intro got
  obtain ⟨hb', hread, hnext, hwrite, hready, -, hrest⟩ := hconv
  have hb := h.bounds
  have h₁ := hb.read_le
  have h₂ := hb.next_le
  have h₃ := hb.write_le
  have h₄ := hb.size_le
  have h₃' := hb'.write_le
  have hra := hb.read_aligned
  have hna := hb.next_aligned
  have hge : 8 ≤ c.nextLength C o := firstLength_ge hsize
  have hmod : c.nextLength C o % 8 = 0 := firstLength_mod _ _
  have hwhole : c.nextLength C o ≤ c.pendingBytes.length := hc.whole
  rw [length_pendingBytes] at hwhole
  have hlen : (padded (c.nextHeader C o).size).toNat = c.nextLength C o := rfl
  have hgotNext : got.nextmsgIdx.toNat = c.nextmsgIdx.toNat + c.nextLength C o := by
    show (c'.nextmsgIdx + padded (c.nextHeader C o).size).toNat = _
    rw [hnext, UInt32.toNat_add_of_lt (by omega), hlen]
  have hgotWrite : got.writeidx = c.writeidx := hwrite
  have hpend : got.pendingBytes = c.pendingBytes.drop (c.nextLength C o) := by
    have hdrop : c'.pendingBytes.drop (c.nextLength C o) =
        c.pendingBytes.drop (c.nextLength C o) := by
      obtain ⟨k, hk⟩ := Nat.exists_eq_add_of_le hge
      rw [hk, ← List.drop_drop, hrest, List.drop_drop]
    rw [← hdrop, pendingBytes, pendingBytes, hnext, hwrite, Mem.drop_slice _ _ _ _ hwhole,
      hgotNext, hgotWrite, Nat.sub_add_eq]
    rfl
  have hconvFalse : got.converted o = false := by
    have hold := h.old_lt
    simp only [converted, decide_eq_false_iff_not, hgotNext]
    simp only [converted, decide_eq_true_eq] at hold
    by_cases hconv : c.nextmsgIdx.toNat + 8 ≤ o.toNat
    · have heq : c.nextLength C o = firstLength C true c.pendingBytes := by
        rw [nextLength, converted, decide_eq_true hconv]
      have := hold hconv
      omega
    · omega
  have hbound : ∀ r : UInt32, r.toNat ≤ c.nextmsgIdx.toNat + c.nextLength C o → r.toNat % 8 = 0 →
      got.readidx = r → Bounds C got := by
    intro r hr hr8 heq
    refine ⟨?_, ?_, h₃', hb'.size_le, ?_, ?_⟩
    · rw [heq, hgotNext]
      exact hr
    · rw [hgotNext, hgotWrite]
      omega
    · rw [heq]
      exact hr8
    · rw [hgotNext]
      omega
  have hold : got.converted o = true → o.toNat < got.nextmsgIdx.toNat +
      firstLength C true got.pendingBytes := by
    intro htrue
    rw [hconvFalse] at htrue
    cases htrue
  have hole : o.toNat ≤ got.writeidx.toNat := by
    rw [hgotWrite]
    exact h.old_le
  by_cases hskip : (c.nextHeader C o).msgType = 0 ∧ c.readidx = c.nextmsgIdx
  · have hgotRead : got.readidx = got.nextmsgIdx := by
      show (if (c.nextHeader C o).msgType = 0 ∧ c'.readidx = c'.nextmsgIdx then _ else _) = _
      rw [hread, hnext, if_pos hskip, hskip.2]
      show _ = c'.nextmsgIdx + _
      rw [hnext]
    refine ⟨⟨hbound _ ?_ ?_ hgotRead, hole, hold⟩, hconvFalse, hgotNext, hpend, hgotWrite,
      Or.inl ⟨hskip.1, hskip.2, hgotRead⟩⟩
    · rw [hgotNext]
    · rw [hgotNext]
      omega
  · have hgotRead : got.readidx = c.readidx := by
      show (if (c.nextHeader C o).msgType = 0 ∧ c'.readidx = c'.nextmsgIdx then _ else _) = _
      rw [hread, hnext, if_neg hskip]
    refine ⟨⟨hbound _ (by omega) hra hgotRead, hole, hold⟩, hconvFalse, hgotNext, hpend, hgotWrite,
      Or.inr ⟨hskip, hgotRead, ?_⟩⟩
    have htake : c'.pendingBytes.take (c.nextLength C o) =
        c'.recvbuf.slice c.nextmsgIdx.toNat (c.nextLength C o) := by
      rw [pendingBytes, hnext, hwrite, Mem.take_slice _ _ _ _ hwhole]
    have hready' : c'.recvbuf.slice c.readidx.toNat (c.nextmsgIdx.toNat - c.readidx.toNat) =
        c.readyBytes := by
      rw [← hready, readyBytes, hread, hnext]
    rw [htake, readyBytes, hgotRead, hgotNext]
    show c'.recvbuf.slice _ _ = _
    rw [show c.nextmsgIdx.toNat + c.nextLength C o - c.readidx.toNat =
      c.nextmsgIdx.toNat - c.readidx.toNat + c.nextLength C o by omega]
    exact Mem.slice_append_slice hready' (by
      rw [show c.readidx.toNat + (c.nextmsgIdx.toNat - c.readidx.toNat) = c.nextmsgIdx.toNat by
        omega])

lemma SameReceiver.bounds (hs : SameReceiver c c') (hb : Bounds C c) : Bounds C c' := by
  obtain ⟨-, h₂, h₃, h₄, h₅, -, -⟩ := hs
  constructor
  · rw [h₄, h₅]
    exact hb.read_le
  · rw [h₃, h₄]
    exact hb.next_le
  · rw [h₂, h₃]
    exact hb.write_le
  · rw [h₂]
    exact hb.size_le
  · rw [h₅]
    exact hb.read_aligned
  · rw [h₄]
    exact hb.next_aligned

lemma SameReceiver.readyBytes_eq (hs : SameReceiver c c') : c'.readyBytes = c.readyBytes := by
  rw [readyBytes, hs.recvbuf, hs.readidx, hs.nextmsgIdx, readyBytes]

lemma SameReceiver.pendingBytes_eq (hs : SameReceiver c c') :
    c'.pendingBytes = c.pendingBytes := by
  rw [pendingBytes, hs.recvbuf, hs.writeidx, hs.nextmsgIdx, pendingBytes]

/-! ### The second loop -/

/-- Some message is queued. -/
def waiting (c : PTCPConnection) : Bool := c.readidx ≠ c.nextmsgIdx

lemma waiting_eq_false_iff : c.waiting = false ↔ c.readidx = c.nextmsgIdx := by
  simp [waiting]

lemma waiting_eq_true_iff : c.waiting = true ↔ c.readidx ≠ c.nextmsgIdx := by
  simp [waiting]

/-- A turn strictly advances `nextmsg_idx_`, on messages with a size. -/
theorem Parsing.turn (h : Parsing C o c) (hmax : C.tcpRecvBufMaxSize.toNat < 2 ^ 31)
    (hz : ¬ ZeroSized C (c.converted o) c.pendingBytes) (ht : c.parseTurn C o = some c') :
    Parsing C o c' ∧ ¬ ZeroSized C (c'.converted o) c'.pendingBytes ∧
    c.nextmsgIdx.toNat + 8 ≤ c'.nextmsgIdx.toNat ∧
    c'.pendingBytes.length + 8 ≤ c.pendingBytes.length ∧
    (HostFrames C c.readyBytes →
      ¬ LongHeartbeat C c.waiting (c.converted o) c.pendingBytes →
      HostFrames C c'.readyBytes ∧
        ¬ LongHeartbeat C c'.waiting (c'.converted o) c'.pendingBytes) := by
  by_cases h8 : 8 ≤ c.pendingBytes.length
  · have hsize : (c.nextHeader C o).size ≠ 0 := fun h0 => hz (.here h8 h0)
    obtain ⟨c₁, hconv, ⟨-, hnone, -⟩ | ⟨-, hnone, -⟩ | ⟨hc, hsome⟩⟩ := h.turn_cases hmax h8 0
    · rw [hnone] at ht
      cases ht
    · rw [hnone] at ht
      cases ht
    · rw [hsome] at ht
      obtain rfl := Option.some.inj ht
      obtain ⟨hp, hfalse, hnext, hpend, -, hcases⟩ := h.gotMsg hmax hc hsize hconv
      have hge : 8 ≤ c.nextLength C o := firstLength_ge hsize
      have hwhole : c.nextLength C o ≤ c.pendingBytes.length := hc.whole
      have h₁ := h.bounds.read_le
      refine ⟨hp, ?_, by omega, ?_, ?_⟩
      · rw [hfalse, hpend]
        exact fun hz' => hz (.later hc hz')
      · rw [hpend, List.length_drop]
        omega
      · intro hframes hlong
        rw [hfalse, hpend]
        rcases hcases with ⟨htype, heq, hread⟩ | ⟨hno, hread, hready⟩
        · -- a heartbeat with nothing before it
          have hw : c.waiting = false := waiting_eq_false_iff.mpr heq
          rw [waiting_eq_false_iff.mpr hread]
          constructor
          · rw [readyBytes, hread, Nat.sub_self]
            exact .nil
          · intro hlong'
            apply hlong
            refine .later hc ?_
            have hno : ((firstHeader C (c.converted o) c.pendingBytes).msgType != 0) = false := by
              rw [bne_eq_false_iff_eq]
              exact htype
            rw [hw, hno]
            exact hlong'
        · have hw : (c₁.gotMsg (c.nextHeader C o)).waiting = true := by
            rw [waiting_eq_true_iff, hread]
            intro heq
            have := congrArg UInt32.toNat heq
            omega
          have hwait : (c.waiting || (firstHeader C (c.converted o) c.pendingBytes).msgType != 0) =
              true := by
            rw [Bool.or_eq_true, waiting_eq_true_iff, bne_iff_ne]
            by_cases heq : c.readidx = c.nextmsgIdx
            · exact Or.inr fun htype => hno ⟨htype, heq⟩
            · exact Or.inl heq
          rw [hw, hready]
          constructor
          · have hlen : firstLength C true c₁.pendingBytes = c.nextLength C o := by
              rw [firstLength, hconv.head_eq]
              rfl
            have hpend₁ : c₁.pendingBytes.length = c.pendingBytes.length := by
              rw [length_pendingBytes, length_pendingBytes, hconv.writeidx, hconv.nextmsgIdx]
            rw [← hlen]
            refine hframes.append (.single ⟨?_, ?_, ?_⟩ ?_ ?_)
            · rwa [hpend₁]
            · rw [hlen]
              exact hc.fits
            · rw [hlen, hpend₁]
              exact hwhole
            · rw [hconv.head_eq]
              exact hsize
            · rw [hconv.head_eq, hlen]
              intro htype
              by_contra hne
              apply hlong
              have : c.waiting = true := waiting_eq_true_iff.mpr fun heq => hno ⟨htype, heq⟩
              rw [this]
              exact .here hc htype hne
          · intro hlong'
            apply hlong
            refine .later hc ?_
            rw [hwait]
            exact hlong'
  · rw [(h.short h8 0).1] at ht
    cases ht

/-- How the second loop is left. -/
structure Stopped (C : Conf) (c : PTCPConnection) (r : Option FrontResult) : Prop where
  bounds : Bounds C c
  blocked : Blocked C c.pendingBytes
  result : r = none ∨ r = some .null

lemma Converted.blocked (hconv : Converted C o c c')
    (h : C.tcpRecvBufMaxSize.toNat < c.nextLength C o ∨
      c.pendingBytes.length < c.nextLength C o) : Blocked C c'.pendingBytes := by
  intro _
  have hlen : firstLength C true c'.pendingBytes = c.nextLength C o := by
    rw [firstLength, hconv.head_eq]
    rfl
  have hpend : c'.pendingBytes.length = c.pendingBytes.length := by
    rw [length_pendingBytes, length_pendingBytes, hconv.writeidx, hconv.nextmsgIdx]
  rw [hlen, hpend]
  exact h

/-- The loop ends if no header has size 0, after at most as many turns as there are headers. -/
theorem Parsing.loop (hmax : C.tcpRecvBufMaxSize.toNat < 2 ^ 31) (h : Parsing C o c)
    (hz : ¬ ZeroSized C (c.converted o) c.pendingBytes)
    (hfuel : c.pendingBytes.length / 8 < fuel) :
    Stopped C (c.parseLoop C o fuel).1 (c.parseLoop C o fuel).2 ∧
    (HostFrames C c.readyBytes →
      ¬ LongHeartbeat C c.waiting (c.converted o) c.pendingBytes →
      HostFrames C (c.parseLoop C o fuel).1.readyBytes) := by
  induction fuel generalizing c with
  | zero => omega
  | succ fuel ih =>
    by_cases h8 : 8 ≤ c.pendingBytes.length
    · obtain ⟨c', hconv, ⟨hbig, -, hloop⟩ | ⟨hpart, -, hloop⟩ | ⟨hc, hsome⟩⟩ :=
        h.turn_cases hmax h8 fuel
      · have hclose := sameReceiver_close (c := c') "Msg size larger than recv buf max size" 0
        rw [hloop]
        refine ⟨⟨hclose.bounds hconv.bounds, ?_, Or.inr rfl⟩, fun hframes _ => ?_⟩
        · rw [hclose.pendingBytes_eq]
          exact hconv.blocked (Or.inl hbig)
        · rwa [hclose.readyBytes_eq, hconv.ready_eq]
      · rw [hloop]
        refine ⟨⟨hconv.bounds, hconv.blocked (Or.inr hpart), Or.inl rfl⟩, fun hframes _ => ?_⟩
        rwa [hconv.ready_eq]
      · obtain ⟨hp, hz', -, hlen, hframes⟩ := h.turn hmax hz hsome
        rw [parseLoop_of_turn hsome]
        obtain ⟨hstop, hrest⟩ := ih hp hz' (by omega)
        refine ⟨hstop, fun hf hl => ?_⟩
        obtain ⟨hf', hl'⟩ := hframes hf hl
        exact hrest hf' hl'
    · rw [(h.short h8 fuel).2]
      exact ⟨⟨h.bounds, fun h8' => absurd h8' h8, Or.inl rfl⟩, fun hframes _ => hframes⟩

/-! ### A header of size 0 -/

lemma convert16_zero (ed : Endian) : ed.convert16 0 = 0 := by
  unfold Endian.convert16
  split_ifs <;> decide

/-- At a header of size 0 the loop stays, whatever order the header is put in. -/
lemma parseLoop_stays (h8 : 8 ≤ c.writeidx - c.nextmsgIdx)
    (h0 : (c.headerAt C c.nextmsgIdx).size = 0) (fuel : Nat) :
    (c.parseLoop C o fuel).2 = some .hangs := by
  induction fuel generalizing c with
  | zero => rfl
  | succ fuel ih =>
    obtain ⟨buf, heq, hsize⟩ : ∃ buf, c.convertNew C o = { c with recvbuf := buf } ∧
        ((c.convertNew C o).headerAt C c.nextmsgIdx).size = 0 := by
      unfold convertNew
      split_ifs
      · refine ⟨_, rfl, ?_⟩
        have hslice : (c.convertHeader C c.nextmsgIdx).recvbuf.slice c.nextmsgIdx.toNat 8 =
            ((c.headerAt C c.nextmsgIdx).convertByteOrder C.endian).toBytes C.endian.isLittle := by
          have := Mem.slice_write_self c.recvbuf c.nextmsgIdx.toNat
            (((c.headerAt C c.nextmsgIdx).convertByteOrder C.endian).toBytes C.endian.isLittle)
          rwa [MsgHeader.length_toBytes] at this
        rw [headerAt, hslice, MsgHeader.ofBytes_toBytes, MsgHeader.size_convertByteOrder, h0,
          convert16_zero]
      · exact ⟨c.recvbuf, rfl, h0⟩
    have hidx : (c.convertNew C o).nextmsgIdx = c.nextmsgIdx := by rw [heq]
    have hwidx : (c.convertNew C o).writeidx = c.writeidx := by rw [heq]
    have hpad : padded 0 = 0 := rfl
    have h0' : (0 : UInt32).toNat = 0 := rfl
    set c' := (c.convertNew C o).onQueue fun q =>
      q.ack C.endian ((c.convertNew C o).headerAt C c.nextmsgIdx).ackSeq with hc'
    have hidx' : c'.nextmsgIdx = c.nextmsgIdx := hidx
    have hwidx' : c'.writeidx = c.writeidx := hwidx
    rw [parseLoop, if_pos h8]
    simp only [hidx, ← hc', hsize, hpad, UInt32.lt_iff_toNat_lt, h0', Nat.not_lt_zero, if_false]
    have hgot : (c'.gotMsg ((c.convertNew C o).headerAt C c.nextmsgIdx)).nextmsgIdx =
        c.nextmsgIdx := by
      show c'.nextmsgIdx + padded ((c.convertNew C o).headerAt C c.nextmsgIdx).size = _
      rw [hsize, hpad, hidx', UInt32.add_zero]
    apply ih
    · rw [hgot]
      show 8 ≤ c'.writeidx - c.nextmsgIdx
      rwa [hwidx']
    · rw [hgot]
      exact hsize

lemma Converted.gotMsg_stays (hconv : Converted C o c c') (h8 : 8 ≤ c.pendingBytes.length)
    (hsize : (c.nextHeader C o).size = 0) (fuel : Nat) :
    ((c'.gotMsg (c.nextHeader C o)).parseLoop C o fuel).2 = some .hangs := by
  have hpend : c'.pendingBytes.length = c.pendingBytes.length := by
    rw [length_pendingBytes, length_pendingBytes, hconv.writeidx, hconv.nextmsgIdx]
  have hidx : (c'.gotMsg (c.nextHeader C o)).nextmsgIdx = c'.nextmsgIdx := by
    show c'.nextmsgIdx + padded (c.nextHeader C o).size = _
    rw [hsize]
    exact UInt32.add_zero _
  apply parseLoop_stays
  · rw [hidx, UInt32.le_iff_toNat_le]
    show 8 ≤ (c'.writeidx - c'.nextmsgIdx).toNat
    rw [UInt32.toNat_sub_of_le' hconv.bounds.next_le, ← length_pendingBytes, hpend]
    exact h8
  · rw [hidx]
    show (c'.headerAt C c'.nextmsgIdx).size = 0
    rw [headerAt_next (by rw [hpend]; exact h8), hconv.head_eq]
    exact hsize

/-- The loop never ends if it comes to a header of size 0. -/
theorem Parsing.loop_hangs (hmax : C.tcpRecvBufMaxSize.toNat < 2 ^ 31) (h : Parsing C o c)
    (hz : ZeroSized C (c.converted o) c.pendingBytes) (fuel : Nat) :
    (c.parseLoop C o fuel).2 = some .hangs := by
  generalize hconv : c.converted o = conv at hz
  generalize hpend : c.pendingBytes = bytes at hz
  induction hz generalizing c fuel with
  | @here conv bytes h8 hsize =>
    cases fuel with
    | zero => rfl
    | succ fuel =>
      subst hconv hpend
      have hzero : c.nextLength C o = 0 := padded_eq_zero_iff.mpr hsize
      obtain ⟨c', hc', ⟨hbig, -⟩ | ⟨hpart, -⟩ | ⟨-, hsome⟩⟩ := h.turn_cases hmax h8 fuel
      · omega
      · omega
      · rw [parseLoop_of_turn hsome]
        exact hc'.gotMsg_stays h8 hsize fuel
  | @later conv bytes hc hz ih =>
    cases fuel with
    | zero => rfl
    | succ fuel =>
      subst hconv hpend
      obtain ⟨c', hc', ⟨hbig, -⟩ | ⟨hpart, -⟩ | ⟨-, hsome⟩⟩ := h.turn_cases hmax hc.header fuel
      · exact absurd hbig (not_lt.mpr hc.fits)
      · exact absurd hpart (not_lt.mpr hc.whole)
      · rw [parseLoop_of_turn hsome]
        by_cases hsize : (c.nextHeader C o).size = 0
        · exact hc'.gotMsg_stays hc.header hsize fuel
        · obtain ⟨hp, hfalse, -, hpend, -, -⟩ := h.gotMsg hmax hc hsize hc'
          exact ih hp fuel hfalse hpend

end PTCPConnection

end Tcpshm
