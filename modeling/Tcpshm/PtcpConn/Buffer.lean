import Tcpshm.PtcpConn.Basic

/-!
# The receive buffer

`DoRecv` appends what was read to the unread bytes. Where these do not fit behind `writeidx_`, it
first moves the unread bytes to the front, of the same buffer or of a larger one.
-/

namespace Tcpshm

lemma toNat_padded (size : UInt16) : (padded size).toNat = (size.toNat + 7) / 8 * 8 := by
  have := size.toNat_lt
  rw [padded, UInt32.toNat_ofNat_lt (by omega)]

namespace PTCPConnection

variable {C : Conf} {c c' : PTCPConnection}

/-- The indices are in order, at multiples of 8, and the buffer is not larger than allowed. -/
structure Bounds (C : Conf) (c : PTCPConnection) : Prop where
  read_le : c.readidx.toNat ≤ c.nextmsgIdx.toNat
  next_le : c.nextmsgIdx.toNat ≤ c.writeidx.toNat
  write_le : c.writeidx.toNat ≤ c.recvbufSize.toNat
  size_le : c.recvbufSize.toNat ≤ C.tcpRecvBufMaxSize.toNat
  read_aligned : c.readidx.toNat % 8 = 0
  next_aligned : c.nextmsgIdx.toNat % 8 = 0

/-- The bytes in the buffer that were not consumed. -/
def unreadBytes (c : PTCPConnection) : List UInt8 :=
  c.recvbuf.slice c.readidx.toNat (c.writeidx.toNat - c.readidx.toNat)

/-- Everything but the receive buffer and the time of the last read is the same. -/
structure SameSession (c c' : PTCPConnection) : Prop where
  q : c'.q = c.q
  sockfd : c'.sockfd = c.sockfd
  fdToClose : c'.fdToClose = c.fdToClose
  now : c'.now = c.now
  sendTime : c'.sendTime = c.sendTime
  hbmsg : c'.hbmsg = c.hbmsg
  lastMyAck : c'.lastMyAck = c.lastMyAck

lemma SameSession.rfl' : SameSession c c := ⟨rfl, rfl, rfl, rfl, rfl, rfl, rfl⟩

lemma SameSession.trans {c'' : PTCPConnection} (h : SameSession c c') (h' : SameSession c' c'') :
    SameSession c c'' :=
  ⟨h'.q.trans h.q, h'.sockfd.trans h.sockfd, h'.fdToClose.trans h.fdToClose, h'.now.trans h.now,
    h'.sendTime.trans h.sendTime, h'.hbmsg.trans h.hbmsg, h'.lastMyAck.trans h.lastMyAck⟩

/-- The buffer of `c'` is that of `c` moved `d` bytes to the front, with `bs` read behind it;
`writeidx_` is not updated yet. -/
structure Appended (C : Conf) (c c' : PTCPConnection) (bs : List UInt8) (d : Nat) : Prop where
  read_eq : c'.readidx.toNat + d = c.readidx.toNat
  next_eq : c'.nextmsgIdx.toNat + d = c.nextmsgIdx.toNat
  write_eq : c'.writeidx.toNat + d = c.writeidx.toNat
  aligned : d % 8 = 0
  room : c'.writeidx.toNat + bs.length ≤ c'.recvbufSize.toNat
  size_le : c'.recvbufSize.toNat ≤ C.tcpRecvBufMaxSize.toNat
  size_ge : c.recvbufSize.toNat ≤ c'.recvbufSize.toNat
  bytes_eq : c'.recvbuf.slice c'.readidx.toNat (c.writeidx.toNat - c.readidx.toNat + bs.length) =
    c.unreadBytes ++ bs

namespace Bounds

lemma toNat_writable (h : Bounds C c) :
    c.writable.toNat = c.recvbufSize.toNat - c.writeidx.toNat := by
  rw [writable, UInt32.toNat_sub_of_le' h.write_le]

lemma toNat_write_sub_read (h : Bounds C c) :
    (c.writeidx - c.readidx).toNat = c.writeidx.toNat - c.readidx.toNat :=
  UInt32.toNat_sub_of_le' (h.read_le.trans h.next_le)

lemma toNat_next_sub_read (h : Bounds C c) :
    (c.nextmsgIdx - c.readidx).toNat = c.nextmsgIdx.toNat - c.readidx.toNat :=
  UInt32.toNat_sub_of_le' h.read_le

lemma toNat_size_sub_read (h : Bounds C c) :
    (c.recvbufSize - c.readidx).toNat = c.recvbufSize.toNat - c.readidx.toNat :=
  UInt32.toNat_sub_of_le' (h.read_le.trans (h.next_le.trans h.write_le))

lemma allowExpand_iff (h : Bounds C c) (hmax : C.tcpRecvBufMaxSize.toNat < 2 ^ 31) :
    c.allowExpand = true ↔
      (c.recvbufSize.toNat - c.writeidx.toNat + c.readidx.toNat) * 2 < c.recvbufSize.toNat := by
  have h₁ := h.read_le
  have h₂ := h.next_le
  have h₃ := h.write_le
  have h₄ := h.size_le
  have h2 : (2 : UInt32).toNat = 2 := rfl
  have hsum : (c.writable + c.readidx).toNat =
      c.recvbufSize.toNat - c.writeidx.toNat + c.readidx.toNat := by
    rw [UInt32.toNat_add_of_lt (by rw [h.toNat_writable]; omega), h.toNat_writable]
  rw [allowExpand, decide_eq_true_eq, UInt32.lt_iff_toNat_lt, UInt32.toNat_mul, hsum, h2,
    Nat.mod_eq_of_lt (by omega)]

/-- What the second part of the vector can take. -/
lemma toNat_extraSize (h : Bounds C c) (hmax : C.tcpRecvBufMaxSize.toNat < 2 ^ 31) :
    (c.extraSize C).toNat = min 65536 (c.readidx.toNat +
      if c.allowExpand then C.tcpRecvBufMaxSize.toNat - c.recvbufSize.toNat else 0) := by
  have h₁ := h.read_le
  have h₂ := h.next_le
  have h₃ := h.write_le
  have h₄ := h.size_le
  have hk : (65536 : UInt32).toNat = 65536 := rfl
  have hgrow : (if c.allowExpand then C.tcpRecvBufMaxSize - c.recvbufSize else 0 : UInt32).toNat =
      if c.allowExpand then C.tcpRecvBufMaxSize.toNat - c.recvbufSize.toNat else 0 := by
    split_ifs
    · exact UInt32.toNat_sub_of_le' h₄
    · rfl
  have hadd : (c.readidx + if c.allowExpand then C.tcpRecvBufMaxSize - c.recvbufSize else 0).toNat =
      c.readidx.toNat + if c.allowExpand then C.tcpRecvBufMaxSize.toNat - c.recvbufSize.toNat
        else 0 := by
    rw [UInt32.toNat_add_of_lt, hgrow]
    rw [hgrow]
    split_ifs <;> omega
  rw [extraSize, UInt32.toNat_min, hadd, hk]

/-- What the whole vector can take. -/
lemma toNat_offered (h : Bounds C c) (hmax : C.tcpRecvBufMaxSize.toNat < 2 ^ 31) :
    (c.writable + c.extraSize C).toNat =
      c.recvbufSize.toNat - c.writeidx.toNat + (c.extraSize C).toNat := by
  have h₁ := h.read_le
  have h₂ := h.next_le
  have h₃ := h.write_le
  have h₄ := h.size_le
  have hext := h.toNat_extraSize hmax
  have := h.toNat_writable
  rw [UInt32.toNat_add_of_lt, h.toNat_writable]
  rw [h.toNat_writable]
  split_ifs at hext <;> omega

/-- The new buffer is large enough, and not too large. -/
lemma newbufsize_spec (h : Bounds C c) (hmax : C.tcpRecvBufMaxSize.toNat < 2 ^ 31) {n : Nat}
    (hn : c.writeidx.toNat - c.readidx.toNat + n ≤ C.tcpRecvBufMaxSize.toNat) :
    c.writeidx.toNat - c.readidx.toNat + n ≤ (c.newbufsize C (UInt32.ofNat n)).toNat ∧
    c.recvbufSize.toNat ≤ (c.newbufsize C (UInt32.ofNat n)).toNat ∧
    (c.newbufsize C (UInt32.ofNat n)).toNat ≤ C.tcpRecvBufMaxSize.toNat := by
  have h₁ := h.toNat_write_sub_read
  have h₄ := h.size_le
  have hal := C.max_aligned
  have h2 : (2 : UInt32).toNat = 2 := rfl
  have h7 : (7 : UInt32).toNat = 7 := rfl
  have hdouble : (c.recvbufSize * 2).toNat = c.recvbufSize.toNat * 2 := by
    rw [UInt32.toNat_mul, h2, Nat.mod_eq_of_lt (by omega)]
  have hneed : (c.writeidx - c.readidx + UInt32.ofNat n + 7).toNat =
      c.writeidx.toNat - c.readidx.toNat + n + 7 := by
    have hofNat : (UInt32.ofNat n).toNat = n := UInt32.toNat_ofNat_lt (by omega)
    rw [UInt32.toNat_add_of_lt, UInt32.toNat_add_of_lt, h₁, hofNat, h7]
    · rw [h₁, hofNat]
      omega
    · rw [UInt32.toNat_add_of_lt, h₁, hofNat, h7]
      · omega
      · rw [h₁, hofNat]
        omega
  rw [newbufsize, UInt32.toNat_min, UInt32.toNat_max, hdouble, UInt32.toNat_and_neg_eight, hneed]
  omega

end Bounds

/-! ### `DoRecv` -/

/-- The buffer once `writeidx_` is updated, and before. -/
lemma Appended.grown {bs : List UInt8} {d : Nat} {len : UInt32} (happ : Appended C c c' bs d)
    (hmax : C.tcpRecvBufMaxSize.toNat < 2 ^ 31) (hb : Bounds C c) (hlen : len.toNat ≤ bs.length) :
    let grown : PTCPConnection := { c' with writeidx := c'.writeidx + len }
    Bounds C grown ∧ grown.writeidx.toNat = c'.writeidx.toNat + len.toNat ∧
      grown.nextmsgIdx.toNat - grown.readidx.toNat = c.nextmsgIdx.toNat - c.readidx.toNat ∧
      grown.unreadBytes = c.unreadBytes ++ bs.take len.toNat := by
  intro grown
  have hroom := happ.room
  have hsize := happ.size_le
  have h₁ := happ.read_eq
  have h₂ := happ.next_eq
  have h₃ := happ.write_eq
  have h₄ := happ.aligned
  have hread := hb.read_le
  have hnext := hb.next_le
  have hra := hb.read_aligned
  have hna := hb.next_aligned
  have hwidx : grown.writeidx.toNat = c'.writeidx.toNat + len.toNat :=
    UInt32.toNat_add_of_lt (by omega)
  have hr : grown.readidx = c'.readidx := rfl
  have hn : grown.nextmsgIdx = c'.nextmsgIdx := rfl
  have hs : grown.recvbufSize = c'.recvbufSize := rfl
  have hbounds : Bounds C grown := by
    constructor <;> simp only [hr, hn, hs, hwidx] <;> omega
  refine ⟨hbounds, hwidx, by simp only [hr, hn]; omega, ?_⟩
  have hunread : c.unreadBytes.length = c.writeidx.toNat - c.readidx.toNat := by
    simp [unreadBytes]
  have hbytes := congrArg (List.take (c.writeidx.toNat - c.readidx.toNat + len.toNat)) happ.bytes_eq
  rw [Mem.take_slice _ _ _ _ (by omega), List.take_append, hunread, Nat.add_sub_cancel_left,
    List.take_of_length_le (by rw [hunread]; omega)] at hbytes
  rw [← hbytes]
  show c'.recvbuf.slice c'.readidx.toNat (grown.writeidx.toNat - c'.readidx.toNat) = _
  congr 1
  omega

lemma rewindBuf_spec (h : Bounds C c) :
    Bounds C c.rewindBuf ∧ SameSession c c.rewindBuf ∧ c.rewindBuf.unreadBytes = c.unreadBytes ∧
    c.rewindBuf.recvbufSize = c.recvbufSize ∧
    c.rewindBuf.nextmsgIdx.toNat - c.rewindBuf.readidx.toNat =
      c.nextmsgIdx.toNat - c.readidx.toNat := by
  unfold rewindBuf
  split_ifs with hemp
  · obtain ⟨-, heq⟩ := hemp
    have h₁ := h.read_le
    have h₂ := h.next_le
    have heq' := congrArg UInt32.toNat heq
    have h0 : (0 : UInt32).toNat = 0 := rfl
    refine ⟨⟨le_rfl, le_rfl, Nat.zero_le _, h.size_le, rfl, rfl⟩,
      ⟨rfl, rfl, rfl, rfl, rfl, rfl, rfl⟩, ?_, rfl, ?_⟩
    · simp [unreadBytes, heq]
    · show (0 : UInt32).toNat - (0 : UInt32).toNat = _
      omega
  · exact ⟨h, .rfl', rfl, rfl, rfl⟩

/-- A successful read appends its bytes to the unread ones. -/
theorem received_spec (h : Bounds C c) (hmax : C.tcpRecvBufMaxSize.toNat < 2 ^ 31)
    {bs : List UInt8} (hlen : bs.length ≤ (c.writable + c.extraSize C).toNat) :
    ∃ d, Appended C c (c.received C bs) bs d ∧ SameSession c (c.received C bs) := by
  have h₁ := h.read_le
  have h₂ := h.next_le
  have h₃ := h.write_le
  have h₄ := h.size_le
  have hw := h.toNat_writable
  have hk := h.toNat_size_sub_read
  have hext := h.toNat_extraSize hmax
  rw [h.toNat_offered hmax] at hlen
  have hle : bs.length ≤ 2 ^ 31 := by split_ifs at hext <;> omega
  have hofNat : (UInt32.ofNat bs.length).toNat = bs.length := UInt32.toNat_ofNat_lt (by omega)
  -- the part read into the buffer itself
  set buf := c.recvbuf.write c.writeidx.toNat (bs.take c.writable.toNat) with hbuf
  have hbufslice : buf.slice c.readidx.toNat
      (c.writeidx.toNat - c.readidx.toNat + (bs.take c.writable.toNat).length) =
      c.unreadBytes ++ bs.take c.writable.toNat := by
    apply Mem.slice_append_slice
    · exact Mem.slice_write_of_disjoint _ (Or.inl (by omega))
    · rw [show c.readidx.toNat + (c.writeidx.toNat - c.readidx.toNat) = c.writeidx.toNat by omega]
      exact Mem.slice_write_self _ _ _
  unfold received
  simp only [UInt32.le_iff_toNat_le, hofNat, ← hbuf]
  by_cases hfit : bs.length ≤ c.writable.toNat
  · rw [if_pos hfit]
    rw [List.take_of_length_le hfit] at hbufslice
    have hroom : c.writeidx.toNat + bs.length ≤ c.recvbufSize.toNat := by omega
    exact ⟨0, ⟨rfl, rfl, rfl, rfl, hroom, h₄, le_rfl, hbufslice⟩,
      ⟨rfl, rfl, rfl, rfl, rfl, rfl, rfl⟩⟩
  -- the buffer is filled to its end, and the rest goes behind it
  have htake : (bs.take c.writable.toNat).length = c.writable.toNat :=
    List.length_take_of_le (by omega)
  have hkeep : c.writeidx.toNat - c.readidx.toNat + c.writable.toNat =
      (c.recvbufSize - c.readidx).toNat := by omega
  rw [htake, hkeep] at hbufslice
  have hmoved : ∀ base : Mem UInt8, base.slice 0 (c.recvbufSize - c.readidx).toNat =
      c.unreadBytes ++ bs.take c.writable.toNat →
      (base.write (c.recvbufSize - c.readidx).toNat (bs.drop c.writable.toNat)).slice 0
        (c.writeidx.toNat - c.readidx.toNat + bs.length) = c.unreadBytes ++ bs := by
    intro base hbase
    have hlen' : c.writeidx.toNat - c.readidx.toNat + bs.length =
        (c.recvbufSize - c.readidx).toNat + (bs.drop c.writable.toNat).length := by
      rw [List.length_drop]
      omega
    rw [hlen']
    have := Mem.slice_append_slice
      ((Mem.slice_write_of_disjoint base (Or.inl (by omega))).trans hbase)
      (Mem.slice_write_self base (0 + (c.recvbufSize - c.readidx).toNat) (bs.drop c.writable.toNat))
    rw [Nat.zero_add, List.append_assoc, List.take_append_drop] at this
    exact this
  have hsum : (c.writable + c.readidx).toNat = c.writable.toNat + c.readidx.toNat :=
    UInt32.toNat_add_of_lt (by omega)
  have hw' := h.toNat_write_sub_read
  have hn' := h.toNat_next_sub_read
  rw [if_neg hfit, hsum]
  by_cases hshift : bs.length ≤ c.writable.toNat + c.readidx.toNat
  · rw [if_pos hshift]
    refine ⟨c.readidx.toNat, ⟨?_, ?_, ?_, h.read_aligned, ?_, h₄, le_rfl, ?_⟩,
      ⟨rfl, rfl, rfl, rfl, rfl, rfl, rfl⟩⟩
    · exact Nat.zero_add _
    · show (c.nextmsgIdx - c.readidx).toNat + _ = _
      omega
    · show (c.writeidx - c.readidx).toNat + _ = _
      omega
    · show (c.writeidx - c.readidx).toNat + _ ≤ c.recvbufSize.toNat
      omega
    · exact hmoved _ ((Mem.slice_move_self buf 0 _ _).trans hbufslice)
  · rw [if_neg hshift]
    have hexp : c.allowExpand = true := by
      by_contra hno
      rw [if_neg hno] at hext
      omega
    rw [if_pos hexp] at hext
    obtain ⟨hlarge, hgrow, hsmall⟩ := h.newbufsize_spec hmax (n := bs.length) (by omega)
    refine ⟨c.readidx.toNat, ⟨?_, ?_, ?_, h.read_aligned, ?_, hsmall, hgrow, ?_⟩,
      ⟨rfl, rfl, rfl, rfl, rfl, rfl, rfl⟩⟩
    · exact Nat.zero_add _
    · show (c.nextmsgIdx - c.readidx).toNat + _ = _
      omega
    · show (c.writeidx - c.readidx).toNat + _ = _
      omega
    · show (c.writeidx - c.readidx).toNat + _ ≤ (c.newbufsize C (UInt32.ofNat bs.length)).toNat
      omega
    · apply hmoved
      have := Mem.slice_write_self (fun _ => (0 : UInt8)) 0
        (buf.slice c.readidx.toNat (c.recvbufSize - c.readidx).toNat)
      rw [Mem.length_slice] at this
      exact this.trans hbufslice

/-- How many bytes `DoRecv` asks the kernel for. -/
def offered (C : Conf) (c : PTCPConnection) : Nat :=
  (c.rewindBuf.writable + c.rewindBuf.extraSize C).toNat

/-- What the kernel can answer: at least one byte and at most what was asked for, and no bytes on a
closed connection. -/
def Admissible (C : Conf) (c : PTCPConnection) : ReadResult → Prop
  | .data bs => 0 < bs.length ∧ bs.length ≤ c.offered C ∧ 0 ≤ c.sockfd
  | _ => True

instance (C : Conf) (c : PTCPConnection) (res : ReadResult) : Decidable (c.Admissible C res) := by
  cases res <;> unfold Admissible <;> infer_instance

/-- The bytes `DoRecv` takes from the socket when the kernel answers `res`. -/
def recvRead (C : Conf) (c : PTCPConnection) : ReadResult → List UInt8
  | .data bs => if c.offered C = 0 then [] else bs
  | _ => []

/-- The buffer is as it was, up to its position in memory, and the connection may be closed. -/
structure Unread (C : Conf) (c c' : PTCPConnection) : Prop where
  bounds : Bounds C c'
  q : c'.q = c.q
  lastMyAck : c'.lastMyAck = c.lastMyAck
  hbmsg : c'.hbmsg = c.hbmsg
  sockfd : c'.sockfd = c.sockfd ∨ c'.sockfd < 0
  unread_eq : c'.unreadBytes = c.unreadBytes
  ready_eq : c'.nextmsgIdx.toNat - c'.readidx.toNat = c.nextmsgIdx.toNat - c.readidx.toNat
  size_eq : c'.recvbufSize = c.recvbufSize

lemma Unread.close (h : Unread C c c') (reason : String) (errno : Int) :
    Unread C c (c'.close reason errno) := by
  unfold PTCPConnection.close
  split_ifs
  · exact h
  · have hneg : (-1 : Int) < 0 := by decide
    exact ⟨⟨h.bounds.1, h.bounds.2, h.bounds.3, h.bounds.4, h.bounds.5, h.bounds.6⟩, h.q,
      h.lastMyAck, h.hbmsg, Or.inr hneg, h.unread_eq, h.ready_eq, h.size_eq⟩

lemma rewindBuf_unread (h : Bounds C c) : Unread C c c.rewindBuf := by
  obtain ⟨hb, hsame, hunread, hsize, hready⟩ := rewindBuf_spec h
  exact ⟨hb, hsame.q, hsame.lastMyAck, hsame.hbmsg, Or.inl hsame.sockfd, hunread, hready, hsize⟩

/-- `DoRecv` reads nothing, or appends what it read. -/
theorem doRecv_cases (h : Bounds C c) (hmax : C.tcpRecvBufMaxSize.toNat < 2 ^ 31)
    {res : ReadResult} (hres : c.Admissible C res) :
    ((c.doRecv C res).2 = 0 ∧ Unread C c (c.doRecv C res).1 ∧ c.recvRead C res = []) ∨
    ∃ bs d, res = .data bs ∧ c.recvRead C res = bs ∧ 0 < bs.length ∧
      (c.doRecv C res).2.toNat = bs.length ∧ (c.doRecv C res).2 ≠ 0 ∧
      SameSession c (c.doRecv C res).1 ∧ Appended C c.rewindBuf (c.doRecv C res).1 bs d := by
  obtain ⟨hb, hsame, -⟩ := rewindBuf_spec h
  have hkeep := rewindBuf_unread h
  unfold doRecv
  simp only
  by_cases hfull : c.rewindBuf.writable + c.rewindBuf.extraSize C = 0
  · rw [if_pos hfull]
    refine Or.inl ⟨rfl, hkeep, ?_⟩
    have hoff : c.offered C = 0 := by
      rw [offered, hfull]
      rfl
    cases res with
    | data bs => exact if_pos hoff
    | _ => rfl
  rw [if_neg hfull]
  cases res with
  | data bs =>
    obtain ⟨hpos, hlen, -⟩ := hres
    have hofNat : (UInt32.ofNat bs.length).toNat = bs.length := by
      apply UInt32.toNat_ofNat_lt
      have := (c.rewindBuf.writable + c.rewindBuf.extraSize C).toNat_lt
      unfold offered at hlen
      omega
    obtain ⟨d, happ, hsess⟩ := received_spec hb hmax hlen
    refine Or.inr ⟨bs, d, rfl, if_neg (by omega), hpos, hofNat, ?_, hsame.trans hsess, happ⟩
    intro h0
    have := congrArg UInt32.toNat h0
    rw [hofNat] at this
    exact hpos.ne' this
  | eof => exact Or.inl ⟨rfl, hkeep.close _ _, rfl⟩
  | again =>
    refine Or.inl ?_
    split_ifs
    · exact ⟨rfl, hkeep.close _ _, rfl⟩
    · exact ⟨rfl, hkeep, rfl⟩
  | error errno => exact Or.inl ⟨rfl, hkeep.close _ _, rfl⟩

end PTCPConnection

end Tcpshm
