import Tcpshm.PtcpConn.FrontTotal

/-!
# The arithmetic of `DoRecv`

On a stream of frames that fit, `DoRecv` keeps its indices in order and its copies inside their
buffers, and it declines to read only when a message is waiting: otherwise a large message would
wedge the connection.
-/

namespace Tcpshm

namespace PTCPConnection

/-! ### The copies -/

/-- A `memcpy` or `memmove` of `len` bytes, each side a buffer and where in it the bytes are. -/
structure Copy where
  dst : UInt32
  dstSize : UInt32
  src : UInt32
  srcSize : UInt32
  len : UInt32
deriving DecidableEq, Repr

namespace Copy

/-- The bytes are inside both buffers. -/
def Within (m : Copy) : Prop :=
  m.dst.toNat + m.len.toNat ≤ m.dstSize.toNat ∧ m.src.toNat + m.len.toNat ≤ m.srcSize.toNat

/-- The destination after the copy. -/
def run (m : Copy) (dst src : Mem UInt8) : Mem UInt8 :=
  dst.write m.dst.toNat (src.slice m.src.toNat m.len.toNat)

end Copy

variable (C : Conf)

/-- `memmove` of the unread bytes to the start of the buffer. -/
def moveUnread (c : PTCPConnection) : Copy :=
  ⟨0, c.recvbufSize, c.readidx, c.recvbufSize, c.recvbufSize - c.readidx⟩

/-- `memcpy` of the unread bytes to the start of the new buffer. -/
def copyUnread (c : PTCPConnection) (ret : UInt32) : Copy :=
  ⟨0, c.newbufsize C ret, c.readidx, c.recvbufSize, c.recvbufSize - c.readidx⟩

/-- `memcpy` from `stackbuf` to what follows the unread bytes, in a buffer of `size` bytes. -/
def copyStackbuf (c : PTCPConnection) (size ret : UInt32) : Copy :=
  ⟨c.recvbufSize - c.readidx, size, 0, 65536, ret - c.writable⟩

/-- The copies `DoRecv` makes after a successful read of `ret` bytes, in order. -/
def copies (c : PTCPConnection) (ret : UInt32) : List Copy :=
  if ret ≤ c.writable then []
  else if ret ≤ c.writable + c.readidx then [c.moveUnread, c.copyStackbuf c.recvbufSize ret]
  else [c.copyUnread C ret, c.copyStackbuf (c.newbufsize C ret) ret]

/-- The read is larger than what `recvbuf_` can take. -/
def Expands (c : PTCPConnection) (ret : UInt32) : Prop := c.writable + c.readidx < ret

variable {C} {c c' : PTCPConnection} {bs : List UInt8}

/-- A memory that begins with `bs`. -/
def stackbuf (bs : List UInt8) : Mem UInt8 := Mem.write (fun _ => 0) 0 bs

/-- The part of a read that does not fit behind `writeidx_` is the last that is copied. -/
lemma length_drop_writable (hlen : bs.length < 2 ^ 32) (hle : c.writable.toNat ≤ bs.length) :
    (bs.drop c.writable.toNat).length = (UInt32.ofNat bs.length - c.writable).toNat := by
  have hofNat : (UInt32.ofNat bs.length).toNat = bs.length := UInt32.toNat_ofNat_lt hlen
  rw [List.length_drop, UInt32.toNat_sub_of_le' (by rw [hofNat]; exact hle), hofNat]

lemma slice_stackbuf (hlen : bs.length < 2 ^ 32) (hle : c.writable.toNat ≤ bs.length) (size : UInt32) :
    (stackbuf (bs.drop c.writable.toNat)).slice
      (c.copyStackbuf size (UInt32.ofNat bs.length)).src.toNat
      (c.copyStackbuf size (UInt32.ofNat bs.length)).len.toNat = bs.drop c.writable.toNat := by
  have := Mem.slice_write_self (fun _ => (0 : UInt8)) 0 (bs.drop c.writable.toNat)
  rw [length_drop_writable hlen hle] at this
  exact this

/-- The two copies are all that happens to the buffer where it is shifted. -/
theorem recvbuf_shift (hlen : bs.length < 2 ^ 32) (hle : c.writable.toNat ≤ bs.length) :
    (c.shift (bs.drop c.writable.toNat)).recvbuf =
      (c.copyStackbuf c.recvbufSize (UInt32.ofNat bs.length)).run
        (c.moveUnread.run c.recvbuf c.recvbuf) (stackbuf (bs.drop c.writable.toNat)) := by
  rw [Copy.run, slice_stackbuf hlen hle]
  rfl

/-- The two copies are all that happens to the new buffer. -/
theorem recvbuf_expand (hlen : bs.length < 2 ^ 32) (hle : c.writable.toNat ≤ bs.length) :
    let ret := UInt32.ofNat bs.length
    (c.expand C (bs.drop c.writable.toNat) ret).recvbuf =
      (c.copyStackbuf (c.newbufsize C ret) ret).run
        ((c.copyUnread C ret).run (fun _ => 0) c.recvbuf)
        (stackbuf (bs.drop c.writable.toNat)) := by
  intro ret
  rw [Copy.run, slice_stackbuf hlen hle]
  rfl

lemma toNat_ret {n : Nat} (hn : n ≤ (c.writable + c.extraSize C).toNat) :
    (UInt32.ofNat n).toNat = n :=
  UInt32.toNat_ofNat_lt (hn.trans_lt (UInt32.toNat_lt _))

lemma Bounds.toNat_room (h : Bounds C c) (hmax : C.tcpRecvBufMaxSize.toNat < 2 ^ 31) :
    (c.writable + c.readidx).toNat = c.writable.toNat + c.readidx.toNat := by
  have h₁ := h.read_le
  have h₂ := h.next_le
  have h₃ := h.write_le
  have h₄ := h.size_le
  have hw := h.toNat_writable
  exact UInt32.toNat_add_of_lt (by omega)

/-- A read that does not fit is only made where the buffer may grow, and then not too far. -/
lemma Bounds.le_max_of_expands (h : Bounds C c) (hmax : C.tcpRecvBufMaxSize.toNat < 2 ^ 31) {n : Nat}
    (hn : n ≤ (c.writable + c.extraSize C).toNat) (hexp : c.Expands (UInt32.ofNat n)) :
    c.writeidx.toNat - c.readidx.toNat + n ≤ C.tcpRecvBufMaxSize.toNat := by
  have h₁ := h.read_le
  have h₂ := h.next_le
  have h₃ := h.write_le
  have h₄ := h.size_le
  have hw := h.toNat_writable
  have hext := h.toNat_extraSize hmax
  rw [Expands, UInt32.lt_iff_toNat_lt, h.toNat_room hmax, toNat_ret hn] at hexp
  rw [h.toNat_offered hmax] at hn
  have hallow : c.allowExpand = true := by
    by_contra hno
    rw [if_neg hno] at hext
    omega
  rw [if_pos hallow] at hext
  omega

/-- The new buffer holds the unread bytes and what was read. -/
lemma Bounds.expands_large (h : Bounds C c) (hmax : C.tcpRecvBufMaxSize.toNat < 2 ^ 31) {n : Nat}
    (hn : n ≤ (c.writable + c.extraSize C).toNat) (hexp : c.Expands (UInt32.ofNat n)) :
    c.unreadBytes.length + n ≤ (c.newbufsize C (UInt32.ofNat n)).toNat := by
  rw [unreadBytes, Mem.length_slice]
  exact (h.newbufsize_spec hmax (h.le_max_of_expands hmax hn hexp)).1

/-- A read is not larger than what was offered, and the overflow goes to `stackbuf`. -/
lemma Bounds.copies_within (h : Bounds C c) (hmax : C.tcpRecvBufMaxSize.toNat < 2 ^ 31) {n : Nat}
    (hn : n ≤ (c.writable + c.extraSize C).toNat) :
    ∀ m ∈ c.copies C (UInt32.ofNat n), m.Within := by
  have h₁ := h.read_le
  have h₂ := h.next_le
  have h₃ := h.write_le
  have hw := h.toNat_writable
  have hk := h.toNat_size_sub_read
  have hext := h.toNat_extraSize hmax
  have hret := toNat_ret hn
  have hroom := h.toNat_room hmax
  have h64 : (65536 : UInt32).toNat = 65536 := rfl
  have h0 : (0 : UInt32).toNat = 0 := rfl
  have hlarge := @Bounds.expands_large C c h hmax n hn
  have hgrow := @Bounds.le_max_of_expands C c h hmax n hn
  rw [h.toNat_offered hmax] at hn
  rw [unreadBytes, Mem.length_slice] at hlarge
  unfold Expands at hlarge hgrow
  unfold copies
  simp only [UInt32.le_iff_toNat_le, UInt32.lt_iff_toNat_lt, hret, hroom] at hlarge hgrow ⊢
  by_cases hfit : n ≤ c.writable.toNat
  · rw [if_pos hfit]
    simp
  have hrest : (UInt32.ofNat n - c.writable).toNat = n - c.writable.toNat := by
    rw [UInt32.toNat_sub_of_le' (by omega), hret]
  rw [if_neg hfit]
  intro m hm
  by_cases hshift : n ≤ c.writable.toNat + c.readidx.toNat
  · rw [if_pos hshift, List.mem_cons, List.mem_singleton] at hm
    rcases hm with rfl | rfl
    · simp only [Copy.Within, moveUnread, hk, h0]
      omega
    · simp only [Copy.Within, copyStackbuf, hk, hrest, h0, h64]
      omega
  · rw [if_neg hshift, List.mem_cons, List.mem_singleton] at hm
    have hlarge := hlarge (not_le.mp hshift)
    have hnew := (h.newbufsize_spec hmax (hgrow (not_le.mp hshift))).2.1
    rcases hm with rfl | rfl
    · simp only [Copy.Within, copyUnread, hk, h0]
      omega
    · simp only [Copy.Within, copyStackbuf, hk, hrest, h0, h64]
      omega

/-- `DoRecv` declines only on a buffer of full size without a free byte. -/
lemma Bounds.declines (h : Bounds C c) (hmax : C.tcpRecvBufMaxSize.toNat < 2 ^ 31)
    (hpos : 0 < c.recvbufSize.toNat) (hoff : c.offered C = 0) :
    c.readidx.toNat = 0 ∧ c.writeidx.toNat = C.tcpRecvBufMaxSize.toNat := by
  have hb := (rewindBuf_spec h).1
  have hsize : c.rewindBuf.recvbufSize = c.recvbufSize := (rewindBuf_spec h).2.2.2.1
  have hext := hb.toNat_extraSize hmax
  have hallow := hb.allowExpand_iff hmax
  have h₃ := hb.write_le
  have h₄ := hb.size_le
  rw [offered, hb.toNat_offered hmax] at hoff
  rw [hsize] at hoff hext hallow h₃ h₄
  have hfull : c.rewindBuf.writeidx.toNat = c.recvbufSize.toNat := by omega
  have hread : c.rewindBuf.readidx.toNat = 0 := by omega
  rw [if_pos (hallow.mpr (by omega))] at hext
  -- an emptied buffer would have been used from its start
  have hkeep : c.rewindBuf = c := by
    unfold rewindBuf at hfull ⊢
    split_ifs with hemp
    · rw [if_pos hemp] at hfull
      exact absurd hfull hpos.ne
    · rfl
  rw [hkeep] at hfull hread
  exact ⟨hread, by omega⟩

/-! ### Frames -/

variable (C) in
/-- A header that begins a frame of at most `TcpRecvBufMaxSize` bytes. A heartbeat is nothing but
its header. -/
structure IsFrame (header : MsgHeader) : Prop where
  ge : 8 ≤ (padded header.size).toNat
  fits : (padded header.size).toNat ≤ C.tcpRecvBufMaxSize.toNat
  heartbeat : header.msgType = 0 → (padded header.size).toNat = 8

variable (C) in
/-- `bytes` are a sequence of frames, of which the last may be cut off; the first header is in host
order already if `conv`. -/
inductive Framed : Bool → List UInt8 → Prop where
  | short {conv : Bool} {bytes : List UInt8} (hlt : bytes.length < 8) : Framed conv bytes
  | part {conv : Bool} {bytes : List UInt8} (h8 : 8 ≤ bytes.length)
      (hf : IsFrame C (firstHeader C conv bytes)) (hlt : bytes.length < firstLength C conv bytes) :
      Framed conv bytes
  | cons {conv : Bool} {bytes : List UInt8} (hf : IsFrame C (firstHeader C conv bytes))
      (hc : Complete C conv bytes) (h : Framed false (bytes.drop (firstLength C conv bytes))) :
      Framed conv bytes

variable {bytes : List UInt8} {conv waiting : Bool} {o : UInt32} {fuel : Nat}

lemma Framed.first (h : Framed C conv bytes) (h8 : 8 ≤ bytes.length) :
    IsFrame C (firstHeader C conv bytes) := by
  cases h with
  | short hlt => omega
  | part _ hf _ => exact hf
  | cons hf _ _ => exact hf

lemma Framed.rest (h : Framed C conv bytes) (hc : Complete C conv bytes) :
    Framed C false (bytes.drop (firstLength C conv bytes)) := by
  have h8 := hc.header
  have hwhole := hc.whole
  cases h with
  | short hlt => omega
  | part _ _ hlt => omega
  | cons _ _ h => exact h

lemma Framed.not_zeroSized (h : Framed C conv bytes) : ¬ ZeroSized C conv bytes := by
  intro hz
  induction hz with
  | here h8 hsize =>
    have hge := (h.first h8).ge
    rw [padded_eq_zero_iff.mpr hsize] at hge
    omega
  | later hc _ ih => exact ih (h.rest hc)

lemma Framed.not_longHeartbeat (h : Framed C conv bytes) :
    ¬ LongHeartbeat C waiting conv bytes := by
  intro hl
  induction hl with
  | here hc htype hlen => exact hlen ((h.first hc.header).heartbeat htype)
  | later hc _ ih => exact ih (h.rest hc)

variable (C) in
/-- What a call of `Front` reads goes on with frames, where these are parsed. -/
def OnFrames (c : PTCPConnection) (res : ReadResult) : Prop :=
  c.q.isSome = true → c.frontRead C res ≠ [] →
    Framed C (decide (8 ≤ c.pendingBytes.length)) (c.arriving C res)

lemma OnFrames.not_meetsZero {res : ReadResult} (h : OnFrames C c res) : ¬ c.MeetsZero C res :=
  fun ⟨hq, hne, hz⟩ => (h hq hne).not_zeroSized hz

lemma OnFrames.not_meetsLongHeartbeat {res : ReadResult} (h : OnFrames C c res) :
    ¬ c.MeetsLongHeartbeat C res :=
  fun ⟨hq, hne, hl⟩ => (h hq hne).not_longHeartbeat hl

variable (C) in
/-- The message that is being received will fit. -/
def NextFits (c : PTCPConnection) : Prop :=
  8 ≤ c.pendingBytes.length → firstLength C true c.pendingBytes ≤ C.tcpRecvBufMaxSize.toNat

lemma NextFits.congr (h : NextFits C c) (heq : c'.pendingBytes = c.pendingBytes) :
    NextFits C c' := by
  rw [NextFits, heq]
  exact h

/-- On frames the second loop stops in front of a frame. -/
lemma Parsing.loop_nextFits (hmax : C.tcpRecvBufMaxSize.toNat < 2 ^ 31) (h : Parsing C o c)
    (hf : Framed C (c.converted o) c.pendingBytes) (hfuel : c.pendingBytes.length / 8 < fuel) :
    NextFits C (c.parseLoop C o fuel).1 := by
  induction fuel generalizing c with
  | zero => omega
  | succ fuel ih =>
    by_cases h8 : 8 ≤ c.pendingBytes.length
    · have hfirst := hf.first h8
      obtain ⟨c', hconv, ⟨hbig, -⟩ | ⟨-, -, hloop⟩ | ⟨hc, hsome⟩⟩ := h.turn_cases hmax h8 fuel
      · exact absurd hfirst.fits (not_le.mpr hbig)
      · rw [hloop]
        intro _
        have hlen : firstLength C true c'.pendingBytes = c.nextLength C o := by
          rw [firstLength, hconv.head_eq]
          rfl
        rw [hlen]
        exact hfirst.fits
      · have hsize : (c.nextHeader C o).size ≠ 0 := fun h0 => hf.not_zeroSized (.here h8 h0)
        obtain ⟨hp, hfalse, -, hpend, -, -⟩ := h.gotMsg hmax hc hsize hconv
        have hlen : 8 ≤ c.nextLength C o := hfirst.ge
        rw [parseLoop_of_turn hsome]
        apply ih hp
        · rw [hfalse, hpend]
          exact hf.rest hc
        · rw [hpend, List.length_drop]
          omega
    · rw [(h.short h8 fuel).2]
      exact fun h8' => absurd h8' h8

/-! ### The size of the buffer -/

lemma recvbufSize_skipLoop (myAck : UInt32) (fuel : Nat) (c : PTCPConnection) :
    (c.skipLoop C myAck fuel).1.recvbufSize = c.recvbufSize := by
  induction fuel generalizing c with
  | zero => rfl
  | succ fuel ih =>
    rw [skipLoop]
    split_ifs
    · rfl
    · rw [ih]
    · rfl
    · rfl

lemma recvbufSize_close (reason : String) (errno : Int) :
    (c.close reason errno).recvbufSize = c.recvbufSize :=
  (sameReceiver_close reason errno).recvbufSize

lemma recvbufSize_parseLoop (o : UInt32) (fuel : Nat) (c : PTCPConnection) :
    (c.parseLoop C o fuel).1.recvbufSize = c.recvbufSize := by
  induction fuel generalizing c with
  | zero => rfl
  | succ fuel ih =>
    have hconv : (c.convertNew C o).recvbufSize = c.recvbufSize := by
      unfold convertNew
      split_ifs <;> rfl
    rw [parseLoop]
    by_cases h8 : 8 ≤ c.writeidx - c.nextmsgIdx
    · rw [if_pos h8]
      simp only
      split_ifs
      · rw [recvbufSize_close]
        exact hconv
      · exact hconv
      · rw [ih]
        exact hconv
    · rw [if_neg h8]

lemma recvbufSize_frontParse (c : PTCPConnection) (len : UInt32) :
    (c.frontParse C len).1.recvbufSize = c.recvbufSize := by
  have hloop := recvbufSize_parseLoop (C := C) c.writeidx ((c.writeidx + len).toNat / 8 + 1)
    { c with writeidx := c.writeidx + len }
  unfold frontParse
  simp only
  generalize parseLoop C c.writeidx ((c.writeidx + len).toNat / 8 + 1)
    { c with writeidx := c.writeidx + len } = parsed at hloop ⊢
  obtain ⟨c', r⟩ := parsed
  cases r <;> exact hloop

lemma Bounds.le_recvbufSize_doRecv (h : Bounds C c) (hmax : C.tcpRecvBufMaxSize.toNat < 2 ^ 31)
    {res : ReadResult} (hres : c.Admissible C res) :
    c.recvbufSize.toNat ≤ (c.doRecv C res).1.recvbufSize.toNat := by
  rcases doRecv_cases h hmax hres with ⟨-, hunread, -⟩ | ⟨bs, d, -, -, -, -, -, -, happ⟩
  · rw [hunread.size_eq]
  · rw [← (rewindBuf_unread h).size_eq]
    exact happ.size_ge

/-- Until `writeidx_` is updated, nothing is pending that was not. -/
lemma Bounds.pendingBytes_doRecv (h : Bounds C c) (hmax : C.tcpRecvBufMaxSize.toNat < 2 ^ 31)
    {res : ReadResult} (hres : c.Admissible C res) :
    Bounds C (c.doRecv C res).1 ∧ (c.doRecv C res).1.pendingBytes = c.pendingBytes := by
  rcases doRecv_cases h hmax hres with ⟨-, hunread, -⟩ | ⟨bs, d, -, -, -, -, -, -, happ⟩
  · exact ⟨hunread.bounds, hunread.pendingBytes_eq h⟩
  · generalize c.doRecv C res = recv at happ ⊢
    have hrew := rewindBuf_unread h
    have hzero : (0 : UInt32).toNat ≤ bs.length := Nat.zero_le _
    have hsame : ({ recv.1 with writeidx := recv.1.writeidx + 0 } : PTCPConnection) = recv.1 := by
      rw [UInt32.add_zero]
    obtain ⟨hb, -, hpend⟩ := happ.parts hmax hrew.bounds hzero
    rw [hsame] at hb hpend
    rw [UInt32.toNat_zero, List.take_zero, List.append_nil] at hpend
    exact ⟨hb, hpend.trans (hrew.pendingBytes_eq h)⟩

/-! ### A call of `Front` -/

lemma Parsing.frontParse_nextFits {len : UInt32} (hmax : C.tcpRecvBufMaxSize.toNat < 2 ^ 31)
    (hp : Parsing C c.writeidx { c with writeidx := c.writeidx + len })
    (hf : Framed C (converted { c with writeidx := c.writeidx + len } c.writeidx)
      (pendingBytes { c with writeidx := c.writeidx + len })) :
    NextFits C (c.frontParse C len).1 := by
  have hfuel : (pendingBytes { c with writeidx := c.writeidx + len }).length / 8 <
      (c.writeidx + len).toNat / 8 + 1 := by
    rw [length_pendingBytes]
    simp only
    omega
  have hloop := hp.loop_nextFits hmax hf hfuel
  unfold PTCPConnection.frontParse
  simp only
  generalize parseLoop C c.writeidx ((c.writeidx + len).toNat / 8 + 1)
    { c with writeidx := c.writeidx + len } = parsed at hloop ⊢
  obtain ⟨c', r⟩ := parsed
  cases r <;> exact hloop

/-- From `DoRecv` on the buffer does not shrink, and on frames the next message will fit. -/
lemma Sound.frontRecv_nextFits (h : Sound C c) (hmax : C.tcpRecvBufMaxSize.toNat < 2 ^ 31)
    {res : ReadResult} (hres : c.Admissible C res) (hn : NextFits C c)
    (hf : c.recvRead C res ≠ [] →
      Framed C (decide (8 ≤ c.pendingBytes.length)) (c.pendingBytes ++ c.recvRead C res)) :
    c.recvbufSize.toNat ≤ (c.frontRecv C res).1.recvbufSize.toNat ∧
    NextFits C (c.frontRecv C res).1 := by
  have hgrow := h.bounds.le_recvbufSize_doRecv hmax hres
  have hdef : c.frontRecv C res = if (c.doRecv C res).2 = 0 then (c.doRecv C res).1.frontEnd
      else (c.doRecv C res).1.frontParse C (c.doRecv C res).2 := rfl
  rw [hdef]
  rcases doRecv_cases h.bounds hmax hres with ⟨hlen, hunread, -⟩ |
    ⟨bs, d, -, hbs, hpos, hlen, hne, -, happ⟩
  · rw [if_pos hlen, frontEnd_fst]
    exact ⟨hgrow, hn.congr (hunread.pendingBytes_eq h.bounds)⟩
  · rw [if_neg hne]
    generalize c.doRecv C res = recv at hlen happ hgrow ⊢
    obtain ⟨hp, hconv, hpend, -, -⟩ := h.enter hmax happ hlen
    have hframed := hf (by rw [hbs]; exact List.length_pos_iff.mp hpos)
    rw [hbs, ← hconv, ← hpend] at hframed
    exact ⟨by rw [recvbufSize_frontParse]; exact hgrow, hp.frontParse_nextFits hmax hframed⟩

lemma Sound.buffered (h : Sound C c) :
    Sound C (c.buffered C).1 ∧ (c.buffered C).1.pendingBytes = c.pendingBytes := by
  have hfuel : c.readyBytes.length / 8 < (c.nextmsgIdx - c.readidx).toNat / 8 + 1 := by
    rw [h.bounds.toNat_next_sub_read, length_readyBytes]
    omega
  obtain ⟨c₁, r, hbuf, hs, hpend, -⟩ := @Sound.skipLoop C c _ (c.q.elim 0 PTCPQueue.myAck) h hfuel
  rw [PTCPConnection.buffered, hbuf]
  exact ⟨hs, hpend⟩

/-- The same of a whole call. -/
lemma Sound.front_nextFits (h : Sound C c) (hmax : C.tcpRecvBufMaxSize.toNat < 2 ^ 31)
    {res : ReadResult} (hres : CanAnswer C c res) (hf : OnFrames C c res) (hn : NextFits C c) :
    c.recvbufSize.toNat ≤ (c.front C res).1.recvbufSize.toNat ∧
    NextFits C (c.front C res).1 := by
  cases hq : c.q with
  | none =>
    have hadm := hres.shm hq
    have hfront : c.front C res = ((c.doRecv C res).1, .null) := by
      rw [PTCPConnection.front, if_pos (by rw [hq]; rfl)]
    rw [hfront]
    exact ⟨h.bounds.le_recvbufSize_doRecv hmax hadm,
      hn.congr (h.bounds.pendingBytes_doRecv hmax hadm).2⟩
  | some q =>
    have hsome : c.q.isSome = true := by rw [hq]; rfl
    obtain ⟨hs, hpend⟩ := h.buffered
    have hsize : (c.buffered C).1.recvbufSize = c.recvbufSize := recvbufSize_skipLoop _ _ _
    have hadm := hres.tcp hsome
    have hf := hf hsome
    unfold arriving frontRead at hf
    unfold FrontAdmissible at hadm
    have hn₁ : NextFits C (c.buffered C).1 := hn.congr hpend
    rw [← hpend] at hf
    rw [front_eq hsome, ← hsize]
    generalize c.buffered C = skipped at hs hadm hf hn₁ ⊢
    obtain ⟨c₁, r⟩ := skipped
    cases r with
    | some r => exact ⟨le_rfl, hn₁⟩
    | none =>
      simp only [if_true] at hf
      exact hs.frontRecv_nextFits hmax (hadm rfl) hn₁ hf

/-! ### What `DoRecv` guarantees -/

/-- A call of `DoRecv` in the state `c` that came to `recv` and read `bs`; `grown` is the state once
the caller has updated `writeidx_`. -/
structure SafeRecv (C : Conf) (c : PTCPConnection) (recv : PTCPConnection × UInt32)
    (bs : List UInt8) (grown : PTCPConnection) : Prop where
  len_eq : recv.2.toNat = bs.length
  grown_eq : grown = { recv.1 with writeidx := recv.1.writeidx + recv.2 }
  bounds : Bounds C recv.1
  grown_bounds : Bounds C grown
  unread_eq : grown.unreadBytes = c.unreadBytes ++ bs
  copies : ∀ m ∈ c.rewindBuf.copies C recv.2, m.Within
  large : c.rewindBuf.Expands recv.2 →
    c.unreadBytes.length + bs.length ≤ (c.rewindBuf.newbufsize C recv.2).toNat

/-- The buffer begins with a complete message of the application that was not popped. -/
structure MsgWaiting (C : Conf) (c : PTCPConnection) : Prop where
  unpopped : c.readidx ≠ c.nextmsgIdx
  complete : Complete C true c.readyBytes
  app : (c.headerAt C c.readidx).msgType ≠ 0

theorem Bounds.safeRecv (h : Bounds C c) (hmax : C.tcpRecvBufMaxSize.toNat < 2 ^ 31)
    {res : ReadResult} (hres : c.Admissible C res) :
    ∃ grown, SafeRecv C c (c.doRecv C res) (c.recvRead C res) grown := by
  obtain ⟨hb, -, hunread, -⟩ := rewindBuf_spec h
  have hbounds := (h.pendingBytes_doRecv hmax hres).1
  rcases doRecv_cases h hmax hres with ⟨hlen, hu, hread⟩ |
    ⟨bs, d, rfl, hread, -, hlen, -, -, happ⟩
  · rw [hread]
    generalize c.doRecv C res = recv at hlen hu hbounds ⊢
    have hsame : ({ recv.1 with writeidx := recv.1.writeidx + recv.2 } : PTCPConnection) =
        recv.1 := by
      rw [hlen, UInt32.add_zero]
    refine ⟨recv.1, ?_, hsame.symm, hbounds, hbounds, ?_, ?_, ?_⟩
    · rw [hlen]
      rfl
    · rw [hu.unread_eq, List.append_nil]
    · rw [hlen, copies, if_pos (UInt32.le_iff_toNat_le.mpr (Nat.zero_le _))]
      simp
    · rw [hlen, Expands, UInt32.lt_iff_toNat_lt]
      exact fun hlt => absurd hlt (Nat.not_lt_zero _)
  · have hle : bs.length ≤ (c.rewindBuf.writable + c.rewindBuf.extraSize C).toNat := hres.2.1
    rw [hread]
    generalize c.doRecv C (.data bs) = recv at hlen happ hbounds ⊢
    have hret : recv.2 = UInt32.ofNat bs.length := by
      rw [← hlen, UInt32.ofNat_toNat]
    obtain ⟨hgrown, -, -, hbytes⟩ := happ.grown hmax hb hlen.le
    rw [hlen, List.take_length, hunread] at hbytes
    refine ⟨_, hlen, rfl, hbounds, hgrown, hbytes, ?_, ?_⟩
    · rw [hret]
      exact hb.copies_within hmax hle
    · rw [hret, ← hunread]
      exact hb.expands_large hmax hle

/-- The first loop leaves no heartbeat in front. -/
lemma skipLoop_none {myAck : UInt32} (h : (c.skipLoop C myAck fuel).2 = none) :
    let c₁ := (c.skipLoop C myAck fuel).1
    c₁.nextmsgIdx = c₁.readidx ∨ (c₁.headerAt C c₁.readidx).msgType ≠ 0 := by
  induction fuel generalizing c with
  | zero => cases h
  | succ fuel ih =>
    rw [skipLoop] at h ⊢
    split_ifs at h ⊢ with hidx htype hack
    · exact Or.inl hidx
    · exact ih h
    · exact Or.inr htype

/-- A connection that cannot read has a message for its user. -/
theorem Sound.msgWaiting (h : Sound C c) (hmax : C.tcpRecvBufMaxSize.toNat < 2 ^ 31)
    (hmin : 8 ≤ C.tcpRecvBufMaxSize.toNat) (hpos : 0 < c.recvbufSize.toNat) (hn : NextFits C c)
    (hhead : c.nextmsgIdx = c.readidx ∨ (c.headerAt C c.readidx).msgType ≠ 0)
    (hoff : c.offered C = 0) : MsgWaiting C c := by
  obtain ⟨hread, hwrite⟩ := h.bounds.declines hmax hpos hoff
  have hne : c.readidx ≠ c.nextmsgIdx := by
    intro heq
    -- the message that is being received would fill the buffer
    have hlen : c.pendingBytes.length = C.tcpRecvBufMaxSize.toNat := by
      rw [length_pendingBytes, ← heq, hread, hwrite, Nat.sub_zero]
    have h8 : 8 ≤ c.pendingBytes.length := by omega
    have hfits := hn h8
    rcases h.blocked h8 with hbig | hpart <;> omega
  have hready : c.readyBytes ≠ [] :=
    h.bounds.waiting_eq_true_iff.mp (waiting_eq_true_iff.mpr hne)
  refine ⟨hne, ?_, hhead.resolve_left (Ne.symm hne)⟩
  have hframes := h.frames
  generalize c.readyBytes = bytes at hready hframes ⊢
  cases hframes with
  | nil => exact absurd rfl hready
  | cons hc _ _ _ => exact hc

/-! ### Runs on frames -/

namespace Session

/-- One operation of a connection whose peer sends frames. -/
inductive FramedStep (C : Conf) : Session → Session → Prop where
  | «open» {s : Session} (hclosed : s.c.isClosed = true) (sockFd : Int) (ack : UInt32) (now : Int)
      (rs : List SendResult) : FramedStep C s ⟨(s.c.open C sockFd ack now rs).1, false⟩
  | front {s : Session} (res : ReadResult) (h : s.c.CanAnswer C res) (hf : s.c.OnFrames C res) :
      FramedStep C s (s.front C res)
  | pop {s : Session} (h : s.fronted = true) : FramedStep C s ⟨s.c.pop C, false⟩
  | other {s : Session} {c' : PTCPConnection} (h : SameReceiver s.c c') :
      FramedStep C s ⟨c', s.fronted⟩

/-- Frames are among the bytes on which `Front` is total. -/
lemma FramedStep.step {s s' : Session} (h : FramedStep C s s') : Step C s s' := by
  cases h with
  | «open» hclosed sockFd ack now rs => exact .open hclosed sockFd ack now rs
  | front res h hf => exact .front res h hf.not_meetsZero hf.not_meetsLongHeartbeat
  | pop h => exact .pop h
  | other h => exact .other h

/-- The states a connection can be in after a call of `Open`, whatever it was used for before. -/
inductive Opened (C : Conf) : Session → Prop where
  | «open» {s : Session} (h : Reaches C s) (hclosed : s.c.isClosed = true) (sockFd : Int)
      (ack : UInt32) (now : Int) (rs : List SendResult) :
      Opened C ⟨(s.c.open C sockFd ack now rs).1, false⟩
  | step {s s' : Session} (h : Opened C s) (hstep : FramedStep C s s') : Opened C s'

lemma Opened.reaches {s : Session} (h : Opened C s) : Reaches C s := by
  induction h with
  | «open» h hclosed sockFd ack now rs => exact .tail h (.open hclosed sockFd ack now rs)
  | step _ hstep ih => exact .tail ih hstep.step

/-- `Open` leaves a buffer, with nothing in it. -/
lemma open_buffer (hinit : 8 ≤ C.tcpRecvBufInitSize.toNat) (c : PTCPConnection) (sockFd : Int)
    (ack : UInt32) (now : Int) (rs : List SendResult) :
    0 < (c.open C sockFd ack now rs).1.recvbufSize.toNat ∧
    NextFits C (c.open C sockFd ack now rs).1 := by
  obtain ⟨hs, -⟩ := sendPending_frame (C := C) (c.openAck C sockFd ack now) rs
  have hnext : (c.open C sockFd ack now rs).1.nextmsgIdx = 0 := by
    simp only [PTCPConnection.open, openBuf]
    split_ifs <;> exact hs.nextmsgIdx
  have hwrite : (c.open C sockFd ack now rs).1.writeidx = 0 := by
    simp only [PTCPConnection.open, openBuf]
    split_ifs <;> exact hs.writeidx
  constructor
  · simp only [PTCPConnection.open, openBuf]
    split_ifs with h0
    · simp only
      omega
    · exact Nat.pos_of_ne_zero fun h => h0 (UInt32.toNat_inj.mp h)
  · intro h8
    rw [length_pendingBytes, hnext, hwrite] at h8
    simp at h8

/-- What holds in a run on frames, beside the invariant of all runs. -/
lemma Opened.inv {s : Session} (hinit : 8 ≤ C.tcpRecvBufInitSize.toNat)
    (hmax : C.tcpRecvBufMaxSize.toNat < 2 ^ 31) (h : Opened C s) :
    0 < s.c.recvbufSize.toNat ∧ NextFits C s.c := by
  induction h with
  | @«open» s _ _ sockFd ack now rs => exact open_buffer hinit s.c sockFd ack now rs
  | @step s s' h hstep ih =>
    obtain ⟨hpos, hn⟩ := ih
    have hs := (h.reaches.inv hmax).sound
    cases hstep with
    | «open» _ sockFd ack now rs => exact open_buffer hinit s.c sockFd ack now rs
    | front res hres hf =>
      obtain ⟨hle, hn'⟩ := hs.front_nextFits hmax hres hf hn
      exact ⟨hpos.trans_le hle, hn'⟩
    | pop _ => exact ⟨hpos, hn.congr rfl⟩
    | other hsame =>
      rw [hsame.recvbufSize]
      exact ⟨hpos, hn.congr hsame.pendingBytes_eq⟩

/-- A message as large as the buffer. -/
def fullMsg : List UInt8 := [64, 0, 1, 0, 0, 0, 0, 0] ++ List.replicate 56 0

/-- The message is received, and its user does not pop it. -/
def wideFull : Session := wideOpen.front wideConf (.data fullMsg)

lemma opened_wideFull : Opened wideConf wideFull := by
  have hsame : SameReceiver (PTCPConnection.new wideConf)
      ((PTCPConnection.new wideConf).openFile (.init fun _ => default)) :=
    ⟨rfl, rfl, rfl, rfl, rfl, rfl, Or.inl rfl⟩
  have hopen : Opened wideConf wideOpen := .open (.single (.other hsame)) (by decide) 3 0 0 []
  refine hopen.step (.front (.data fullMsg) (canAnswer_wideOpen (by decide) (by decide)) ?_)
  intro _ _
  have harr : wideOpen.c.arriving wideConf (.data fullMsg) = fullMsg := by decide +kernel
  have hconv : decide (8 ≤ wideOpen.c.pendingBytes.length) = false := by decide
  rw [harr, hconv]
  refine .cons ⟨by decide, by decide, by decide⟩ ⟨by decide, by decide, by decide⟩ (.short ?_)
  decide

end Session

end PTCPConnection

end Tcpshm
