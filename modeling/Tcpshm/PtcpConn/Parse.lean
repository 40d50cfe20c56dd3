import Tcpshm.PtcpConn.Buffer
import Tcpshm.PtcpConn.Send

/-!
# Parsing the receive buffer

A well-formed stream is a sequence of frames. The receive buffer holds the complete frames that
were not consumed, with their headers in host order, and the beginning of the next one. The loop
of `Front` moves frames from the second part to the first.
-/

namespace Tcpshm

/-- A frame on the wire: a message or a heartbeat, its header in host order. -/
structure Frame where
  header : MsgHeader
  body : List UInt8
  size_ge : 8 ≤ header.size.toNat
  length_body : body.length + 8 = (padded header.size).toNat
  heartbeat : header.msgType = 0 → header.size = 8

namespace Frame

def length (f : Frame) : Nat := f.body.length + 8

def isHeartbeat (f : Frame) : Bool := f.header.msgType = 0

/-- The frame as it is sent. -/
def wire (C : Conf) (f : Frame) : List UInt8 := f.header.toBytes C.endian.toLittle ++ f.body

/-- The frame once its header is in host order. -/
def host (C : Conf) (f : Frame) : List UInt8 := f.header.toBytes C.endian.isLittle ++ f.body

/-- The receiver has room for the frame. -/
def Fits (C : Conf) (f : Frame) : Prop :=
  (padded f.header.size).toNat ≤ C.tcpRecvBufMaxSize.toNat

instance (C : Conf) (f : Frame) : Decidable (f.Fits C) := inferInstanceAs (Decidable (_ ≤ _))

variable {C : Conf} (f : Frame)

@[simp] lemma length_wire : (f.wire C).length = f.length := by
  simp [wire, length, Nat.add_comm]

@[simp] lemma length_host : (f.host C).length = f.length := by
  simp [host, length, Nat.add_comm]

lemma length_ge : 8 ≤ f.length := Nat.le_add_left _ _

lemma toNat_padded : (padded f.header.size).toNat = f.length := f.length_body.symm

lemma length_mod : f.length % 8 = 0 := by
  rw [← f.toNat_padded, Tcpshm.toNat_padded]
  omega

lemma length_le : f.length ≤ 65536 := by
  have := f.header.size.toNat_lt
  rw [← f.toNat_padded, Tcpshm.toNat_padded]
  omega

lemma length_heartbeat (h : f.isHeartbeat = true) : f.length = 8 := by
  have hsize := f.heartbeat (by simpa [isHeartbeat] using h)
  have h8 : (8 : UInt16).toNat = 8 := rfl
  rw [← f.toNat_padded, Tcpshm.toNat_padded, hsize, h8]

end Frame

/-- The bytes of a stream. -/
def wires (C : Conf) (fs : List Frame) : List UInt8 := fs.flatMap (Frame.wire C)

def hosts (C : Conf) (fs : List Frame) : List UInt8 := fs.flatMap (Frame.host C)

def lens (fs : List Frame) : Nat := (fs.map Frame.length).sum

section

variable {C : Conf} (f : Frame) (fs fs' : List Frame)

@[simp] lemma wires_nil : wires C [] = [] := rfl

@[simp] lemma wires_cons : wires C (f :: fs) = f.wire C ++ wires C fs := rfl

@[simp] lemma wires_append : wires C (fs ++ fs') = wires C fs ++ wires C fs' := by simp [wires]

@[simp] lemma hosts_nil : hosts C [] = [] := rfl

@[simp] lemma hosts_cons : hosts C (f :: fs) = f.host C ++ hosts C fs := rfl

@[simp] lemma hosts_append : hosts C (fs ++ fs') = hosts C fs ++ hosts C fs' := by simp [hosts]

@[simp] lemma lens_nil : lens [] = 0 := rfl

@[simp] lemma lens_cons : lens (f :: fs) = f.length + lens fs := rfl

@[simp] lemma lens_append : lens (fs ++ fs') = lens fs + lens fs' := by simp [lens]

@[simp] lemma length_wires : (wires C fs).length = lens fs := by
  induction fs with
  | nil => rfl
  | cons f fs ih => simp [ih]

@[simp] lemma length_hosts : (hosts C fs).length = lens fs := by
  induction fs with
  | nil => rfl
  | cons f fs ih => simp [ih]

end

/-- A stream whose first header may be in host order already. -/
def mixed (C : Conf) (conv : Bool) : List Frame → List UInt8
  | [] => []
  | f :: fs => (if conv then f.host C else f.wire C) ++ wires C fs

lemma mixed_false (C : Conf) (fs : List Frame) : mixed C false fs = wires C fs := by
  cases fs <;> rfl

@[simp] lemma length_mixed (C : Conf) (conv : Bool) (fs : List Frame) :
    (mixed C conv fs).length = lens fs := by
  cases fs <;> cases conv <;> simp [mixed]

namespace PTCPConnection

variable {C : Conf} {c c' : PTCPConnection} {ready rest : List Frame} {n : Nat} {conv : Bool}

/-- The buffer holds the frames `ready` and the first `n` bytes of the stream `rest`, whose first
header is in host order if `conv`. -/
structure Contents (C : Conf) (c : PTCPConnection) (ready rest : List Frame) (n : Nat)
    (conv : Bool) : Prop where
  next_eq : c.nextmsgIdx.toNat = c.readidx.toNat + lens ready
  write_eq : c.writeidx.toNat = c.nextmsgIdx.toNat + n
  ready_eq : c.recvbuf.slice c.readidx.toNat (lens ready) = hosts C ready
  rest_eq : c.recvbuf.slice c.nextmsgIdx.toNat n = (mixed C conv rest).take n
  n_le : n ≤ lens rest

lemma Contents.unread_eq (h : Contents C c ready rest n conv) :
    c.unreadBytes = hosts C ready ++ (mixed C conv rest).take n := by
  have h₁ := h.next_eq
  have h₂ := h.write_eq
  have hrest := h.rest_eq
  rw [h₁] at hrest
  rw [unreadBytes, ← Mem.slice_append_slice h.ready_eq hrest]
  congr 1
  omega

/-- What is in the buffer is determined by its unread bytes. -/
lemma Contents.of_unread (hb : Bounds C c)
    (hnext : c.nextmsgIdx.toNat - c.readidx.toNat = lens ready) (hle : n ≤ lens rest)
    (h : c.unreadBytes = hosts C ready ++ (mixed C conv rest).take n) :
    Contents C c ready rest n conv := by
  have h₁ := hb.read_le
  have h₂ := hb.next_le
  have hlen := congrArg List.length h
  simp only [unreadBytes, Mem.length_slice, List.length_append, length_hosts, List.length_take,
    length_mixed] at hlen
  obtain ⟨hready, hrest⟩ := Mem.slice_eq_append h
  rw [length_hosts] at hready hrest
  refine ⟨by omega, by omega, hready, ?_, hle⟩
  rw [← hrest]
  congr 1 <;> omega

/-- Acks in the order they are read. -/
def applyAcks (C : Conf) (q : PTCPQueue) (acks : List UInt32) : PTCPQueue :=
  acks.foldl (fun q a => q.ack C.endian a) q

/-- A heartbeat is skipped where nothing is before it. -/
def enqueue (ready : List Frame) (f : Frame) : List Frame :=
  if f.isHeartbeat ∧ ready = [] then [] else ready ++ [f]

/-- The header where parsing goes on. -/
lemma Contents.headerAt_next {f : Frame} {fs : List Frame}
    (h : Contents C c ready (f :: fs) n true) (hn : 8 ≤ n) :
    c.headerAt C c.nextmsgIdx = f.header := by
  have hslice : c.recvbuf.slice c.nextmsgIdx.toNat 8 = f.header.toBytes C.endian.isLittle := by
    rw [← Mem.take_slice _ _ _ _ hn, h.rest_eq, List.take_take, min_eq_left hn, mixed, if_pos rfl,
      Frame.host, List.append_assoc, List.take_left' (MsgHeader.length_toBytes _ _)]
  rw [headerAt, hslice, MsgHeader.ofBytes_toBytes]

lemma Contents.convert {f : Frame} {fs : List Frame}
    (h : Contents C c ready (f :: fs) n false) (hn : 8 ≤ n) :
    Contents C (c.convertHeader C c.nextmsgIdx) ready (f :: fs) n true := by
  have hslice : c.recvbuf.slice c.nextmsgIdx.toNat n =
      f.header.toBytes C.endian.toLittle ++ (f.body ++ wires C fs).take (n - 8) := by
    rw [h.rest_eq, mixed, if_neg (by decide), Frame.wire, List.append_assoc, List.take_append,
      MsgHeader.length_toBytes, List.take_of_length_le (by simpa using hn)]
  obtain ⟨hhead, htail⟩ := Mem.slice_eq_append hslice
  rw [MsgHeader.length_toBytes] at hhead htail
  have hheader : (c.headerAt C c.nextmsgIdx).convertByteOrder C.endian = f.header := by
    rw [headerAt, hhead, MsgHeader.convertByteOrder_ofBytes]
  have hnext := h.next_eq
  refine ⟨hnext, h.write_eq, ?_, ?_, h.n_le⟩
  · rw [← h.ready_eq]
    exact Mem.slice_write_of_disjoint _ (Or.inl hnext.ge)
  · show (c.recvbuf.write _ (((c.headerAt C c.nextmsgIdx).convertByteOrder C.endian).toBytes
      C.endian.isLittle)).slice _ _ = _
    rw [hheader]
    have hwrite := Mem.slice_write_self c.recvbuf c.nextmsgIdx.toNat
      (f.header.toBytes C.endian.isLittle)
    rw [MsgHeader.length_toBytes] at hwrite
    have hafter : (c.recvbuf.write c.nextmsgIdx.toNat (f.header.toBytes C.endian.isLittle)).slice
        (c.nextmsgIdx.toNat + 8) (n - 8) = (f.body ++ wires C fs).take (n - 8) := by
      rw [Mem.slice_write_of_disjoint _ (Or.inr (by simp)), htail]
    have := Mem.slice_append_slice hwrite hafter
    rw [show 8 + (n - 8) = n by omega] at this
    refine Eq.trans this ?_
    have hfirst : (f.header.toBytes C.endian.isLittle).take n =
        f.header.toBytes C.endian.isLittle := List.take_of_length_le (by simpa using hn)
    rw [mixed, if_pos rfl, Frame.host, List.append_assoc, List.take_append (i := n),
      MsgHeader.length_toBytes, hfirst]

/-- A complete frame, its header in host order, is behind `nextmsg_idx_` once that has moved. -/
lemma Contents.advance {f : Frame} {fs : List Frame} (h : Contents C c ready (f :: fs) n true)
    (hn : f.length ≤ n) (hidx : c'.nextmsgIdx.toNat = c.nextmsgIdx.toNat + f.length)
    (hread : c'.readidx = c.readidx) (hwrite : c'.writeidx = c.writeidx)
    (hbuf : c'.recvbuf = c.recvbuf) : Contents C c' (ready ++ [f]) fs (n - f.length) false := by
  have hnext := h.next_eq
  have hw := h.write_eq
  have hle := h.n_le
  have hslice : c.recvbuf.slice c.nextmsgIdx.toNat n =
      f.host C ++ (wires C fs).take (n - f.length) := by
    rw [h.rest_eq, mixed, if_pos rfl, List.take_append, Frame.length_host,
      List.take_of_length_le (by simpa using hn)]
  obtain ⟨hhead, htail⟩ := Mem.slice_eq_append hslice
  rw [Frame.length_host] at hhead htail
  refine ⟨?_, ?_, ?_, ?_, ?_⟩
  · rw [hread, hidx, hnext, lens_append, lens_cons, lens_nil]
    omega
  · rw [hwrite, hidx]
    omega
  · rw [hbuf, hread, lens_append, lens_cons, lens_nil, Nat.add_zero, hosts_append, hosts_cons,
      hosts_nil, List.append_nil]
    rw [hnext] at hhead
    exact Mem.slice_append_slice h.ready_eq hhead
  · rw [hbuf, hidx, htail, mixed_false]
  · rw [lens_cons] at hle
    omega

/-- Where nothing is before it, the frame may be skipped. -/
lemma Contents.skip {f : Frame} (h : Contents C c [f] rest n conv)
    (hread : c'.readidx.toNat = c.readidx.toNat + f.length) (hnext : c'.nextmsgIdx = c.nextmsgIdx)
    (hwrite : c'.writeidx = c.writeidx) (hbuf : c'.recvbuf = c.recvbuf) :
    Contents C c' [] rest n conv := by
  have hidx := h.next_eq
  refine ⟨?_, ?_, rfl, ?_, h.n_le⟩
  · rw [hnext, hread, hidx]
    simp
  · rw [hwrite, hnext, h.write_eq]
  · rw [hbuf, hnext, h.rest_eq]

/-- The acks in the headers that were read: those of complete frames, and of the next frame once
its header is there. -/
def headerAcks (done rest : List Frame) (n : Nat) : List UInt32 :=
  done.map (·.header.ackSeq) ++
    if 8 ≤ n then (rest.head?.map (·.header.ackSeq)).toList else []

/-- The acks the second loop of `Front` applies, in order. -/
def parseAcks (C : Conf) (oldWriteidx : UInt32) : Nat → PTCPConnection → List UInt32
  | 0, _ => []
  | fuel + 1, c =>
    if 8 ≤ c.writeidx - c.nextmsgIdx then
      let c := c.convertNew C oldWriteidx
      let header := c.headerAt C c.nextmsgIdx
      let c := c.onQueue fun q => q.ack C.endian header.ackSeq
      header.ackSeq ::
        if C.tcpRecvBufMaxSize < padded header.size then []
        else if c.writeidx - c.nextmsgIdx < padded header.size then []
        else parseAcks C oldWriteidx fuel (c.gotMsg header)
    else []

@[simp] lemma q_convertNew (o : UInt32) : (c.convertNew C o).q = c.q := by
  unfold convertNew
  split_ifs <;> rfl

@[simp] lemma q_gotMsg (header : MsgHeader) : (c.gotMsg header).q = c.q := rfl

/-- The loop changes the queue through these acks only. -/
lemma q_parseLoop (o : UInt32) (fuel : Nat) (c : PTCPConnection) :
    (c.parseLoop C o fuel).1.q = c.q.map fun q => applyAcks C q (c.parseAcks C o fuel) := by
  induction fuel generalizing c with
  | zero => cases hq : c.q <;> simp [parseLoop, parseAcks, applyAcks, hq]
  | succ fuel ih =>
    rw [parseLoop, parseAcks]
    by_cases h8 : 8 ≤ c.writeidx - c.nextmsgIdx
    · rw [if_pos h8, if_pos h8]
      simp only
      split_ifs
      · cases hq : c.q <;> simp [onQueue, applyAcks, hq]
      · cases hq : c.q <;> simp [onQueue, applyAcks, hq]
      · rw [ih, q_gotMsg]
        cases hq : c.q <;> simp [onQueue, applyAcks, hq]
    · rw [if_neg h8, if_neg h8]
      cases c.q <;> rfl

/-- What parsing leaves: the frames `done` are complete, and `n` bytes of `rest` remain. -/
structure Parsed (C : Conf) (c c' : PTCPConnection) (r : Option FrontResult)
    (ready done rest : List Frame) (n : Nat) : Prop where
  bounds : Bounds C c'
  contents : Contents C c' (done.foldl enqueue ready) rest n (decide (8 ≤ n))
  lastMyAck : c'.lastMyAck = c.lastMyAck
  hbmsg : c'.hbmsg = c.hbmsg
  size_eq : c'.recvbufSize = c.recvbufSize
  fits : ∀ f ∈ done, f.Fits C
  result : (r = none ∧ c'.sockfd = c.sockfd ∧ ∀ f ∈ rest.head?, n < f.length) ∨
    (r = some .null ∧ c'.isClosed = true ∧ 8 ≤ n ∧ ∃ f ∈ rest.head?, ¬ f.Fits C)

/-- What a turn of the loop does first: the header is in host order, and its ack is applied. -/
lemma Contents.turn {o : UInt32} {f : Frame} {fs : List Frame} (hb : Bounds C c)
    (hmax : C.tcpRecvBufMaxSize.toNat < 2 ^ 31) (h : Contents C c ready (f :: fs) n conv)
    (hconv : conv = true ↔ c.nextmsgIdx.toNat + 8 ≤ o.toNat) (ho : o.toNat ≤ c.writeidx.toNat)
    (hn : 8 ≤ n) :
    Contents C (c.convertNew C o) ready (f :: fs) n true ∧
    (c.convertNew C o).headerAt C (c.convertNew C o).nextmsgIdx = f.header ∧
    ∃ buf, c.convertNew C o = { c with recvbuf := buf } := by
  have h₂ := hb.next_le
  have h₃ := hb.write_le
  have h₄ := hb.size_le
  have hoInt : o.asInt = o.toNat := by
    rw [UInt32.asInt_eq, if_pos (by omega)]
  have hnInt : c.nextmsgIdx.asInt = c.nextmsgIdx.toNat := by
    rw [UInt32.asInt_eq, if_pos (by omega)]
  have hcont : Contents C (c.convertNew C o) ready (f :: fs) n true := by
    simp only [convertNew, hoInt, hnInt]
    split_ifs with hlt
    · have hfalse : conv = false := by
        rw [← Bool.not_eq_true, hconv]
        omega
      subst hfalse
      exact h.convert hn
    · have htrue : conv = true := by
        rw [hconv]
        omega
      subst htrue
      exact h
  refine ⟨hcont, hcont.headerAt_next hn, ?_⟩
  unfold convertNew
  split_ifs
  · exact ⟨_, rfl⟩
  · exact ⟨c.recvbuf, rfl⟩

lemma lens_eq_zero {fs : List Frame} : lens fs = 0 ↔ fs = [] := by
  cases fs with
  | nil => simp
  | cons f fs =>
    have := f.length_ge
    simp only [lens_cons, reduceCtorEq, iff_false]
    omega

lemma Contents.gotMsg {f : Frame} {fs : List Frame} (hb : Bounds C c)
    (hmax : C.tcpRecvBufMaxSize.toNat < 2 ^ 31) (h : Contents C c ready (f :: fs) n true)
    (hn : f.length ≤ n) :
    Contents C (c.gotMsg f.header) (enqueue ready f) fs (n - f.length) false ∧
    Bounds C (c.gotMsg f.header) ∧
    (c.gotMsg f.header).nextmsgIdx.toNat = c.nextmsgIdx.toNat + f.length := by
  have hnext := h.next_eq
  have hw := h.write_eq
  have h₃ := hb.write_le
  have h₄ := hb.size_le
  have hmod := f.length_mod
  have hra := hb.read_aligned
  have hna := hb.next_aligned
  have hidx : (c.nextmsgIdx + padded f.header.size).toNat = c.nextmsgIdx.toNat + f.length := by
    rw [UInt32.toNat_add_of_lt (by rw [f.toNat_padded]; omega), f.toNat_padded]
  have hcond : (f.header.msgType = 0 ∧ c.readidx = c.nextmsgIdx) ↔
      (f.isHeartbeat = true ∧ ready = []) := by
    rw [Frame.isHeartbeat, decide_eq_true_eq, ← lens_eq_zero, ← UInt32.toNat_inj]
    constructor <;> rintro ⟨h₁, h₂⟩ <;> exact ⟨h₁, by omega⟩
  have hadv : Contents C { c with nextmsgIdx := c.nextmsgIdx + padded f.header.size } (ready ++ [f])
      fs (n - f.length) false := h.advance hn hidx rfl rfl rfl
  unfold PTCPConnection.gotMsg enqueue
  rw [if_congr hcond rfl rfl]
  by_cases hskip : f.isHeartbeat = true ∧ ready = []
  · have hnil := hskip.2
    subst hnil
    have hread : (c.readidx + padded f.header.size).toNat = c.readidx.toNat + f.length := by
      simp only [lens_nil, Nat.add_zero] at hnext
      rw [UInt32.toNat_add_of_lt (by rw [f.toNat_padded]; omega), f.toNat_padded]
    rw [if_pos hskip, if_pos hskip]
    refine ⟨hadv.skip hread rfl rfl rfl, ⟨?_, ?_, h₃, h₄, ?_, ?_⟩, hidx⟩
    · simp only [hread, hidx, hnext, lens_nil]
      omega
    · simp only [hidx]
      omega
    · simp only [hread]
      omega
    · simp only [hidx]
      omega
  · rw [if_neg hskip, if_neg hskip]
    refine ⟨hadv, ⟨?_, ?_, h₃, h₄, hra, ?_⟩, hidx⟩
    · simp only [hidx]
      omega
    · simp only [hidx]
      omega
    · simp only [hidx]
      omega

/-- The loop of `Front` takes all complete frames, applies the acks in the headers it meets, and
ends; it closes the connection exactly on a frame there is no room for. -/
theorem parseLoop_spec {o : UInt32} (hmax : C.tcpRecvBufMaxSize.toNat < 2 ^ 31) {fuel : Nat}
    (hb : Bounds C c) (hopen : 0 ≤ c.sockfd) (h : Contents C c ready rest n conv)
    (hconv : conv = true ↔ c.nextmsgIdx.toNat + 8 ≤ o.toNat)
    (ho : ∀ f ∈ rest.head?, o.toNat < c.nextmsgIdx.toNat + f.length)
    (how : o.toNat ≤ c.writeidx.toNat) (hfuel : n / 8 < fuel) :
    ∃ done rest' n', rest = done ++ rest' ∧ n = lens done + n' ∧
      c.parseAcks C o fuel = headerAcks done rest' n' ∧
      Parsed C c (c.parseLoop C o fuel).1 (c.parseLoop C o fuel).2 ready done rest' n' := by
  induction fuel generalizing c ready rest n conv with
  | zero => omega
  | succ fuel ih =>
    have hsub : (c.writeidx - c.nextmsgIdx).toNat = n := by
      rw [UInt32.toNat_sub_of_le' hb.next_le, h.write_eq]
      omega
    have h8 : (8 : UInt32).toNat = 8 := rfl
    rw [parseLoop, parseAcks]
    simp only [UInt32.le_iff_toNat_le, UInt32.lt_iff_toNat_lt, h8]
    by_cases hn : 8 ≤ n
    · obtain ⟨f, fs, rfl⟩ : ∃ f fs, rest = f :: fs := by
        cases rest with
        | nil =>
          have := h.n_le
          simp at this
          omega
        | cons f fs => exact ⟨f, fs, rfl⟩
      obtain ⟨hcont, hheader, buf, hc₁⟩ := h.turn hb hmax hconv how hn
      have hturn : 8 ≤ (c.writeidx - c.nextmsgIdx).toNat := by rw [hsub]; exact hn
      rw [if_pos hturn, if_pos hturn, hheader]
      set c₂ := (c.convertNew C o).onQueue fun q => q.ack C.endian f.header.ackSeq with hc₂
      have hcont₂ : Contents C c₂ ready (f :: fs) n true :=
        ⟨hcont.1, hcont.2, hcont.3, hcont.4, hcont.5⟩
      have hb₂ : Bounds C c₂ := by
        rw [hc₂, hc₁]
        exact ⟨hb.1, hb.2, hb.3, hb.4, hb.5, hb.6⟩
      have hsub₂ : (c₂.writeidx - c₂.nextmsgIdx).toNat = n := by
        rw [hc₂, hc₁]
        exact hsub
      have hsock : c₂.sockfd = c.sockfd := by
        rw [hc₂, hc₁]
        rfl
      have hack : c₂.lastMyAck = c.lastMyAck ∧ c₂.hbmsg = c.hbmsg ∧
          c₂.recvbufSize = c.recvbufSize ∧ c₂.nextmsgIdx = c.nextmsgIdx ∧
          c₂.writeidx = c.writeidx := by
        rw [hc₂, hc₁]
        exact ⟨rfl, rfl, rfl, rfl, rfl⟩
      obtain ⟨hlast, hhb, hsize, hnidx, hwidx⟩ := hack
      rw [hsub₂, f.toNat_padded]
      by_cases hfit : f.Fits C
      · have hfit' := hfit
        rw [Frame.Fits, f.toNat_padded] at hfit'
        rw [if_neg (not_lt.mpr hfit'), if_neg (not_lt.mpr hfit')]
        by_cases hfull : n < f.length
        · -- the frame is not complete yet
          rw [if_pos hfull, if_pos hfull]
          refine ⟨[], f :: fs, n, rfl, by simp, by simp [headerAcks, hn], hb₂, ?_, hlast, hhb, hsize,
            by simp, Or.inl ⟨rfl, hsock, ?_⟩⟩
          · rw [decide_eq_true hn]
            exact hcont₂
          · intro f' hf'
            obtain rfl : f = f' := by simpa using hf'
            exact hfull
        · rw [if_neg hfull, if_neg hfull]
          obtain ⟨hgot, hbgot, hgidx⟩ := hcont₂.gotMsg hb₂ hmax (not_lt.mp hfull)
          have ho' := ho f rfl
          have hlen := f.length_ge
          obtain ⟨done, rest', n', rfl, hlens, hacks, hp⟩ := ih (c := c₂.gotMsg f.header) hbgot
            (by show 0 ≤ c₂.sockfd; rw [hsock]; exact hopen) hgot
            (by rw [hgidx, hnidx]; simp; omega)
            (by intro g _; rw [hgidx, hnidx]; have := g.length_ge; omega)
            (by show o.toNat ≤ c₂.writeidx.toNat; rw [hwidx]; exact how) (by omega)
          refine ⟨f :: done, rest', n', rfl, by rw [lens_cons]; omega, by rw [hacks]; rfl, hp.bounds,
            hp.contents, hp.lastMyAck.trans hlast, hp.hbmsg.trans hhb, hp.size_eq.trans hsize, ?_, ?_⟩
          · intro g hg
            rcases List.mem_cons.mp hg with rfl | hg
            · exact hfit
            · exact hp.fits g hg
          · rcases hp.result with ⟨hr, hs, hlt⟩ | hr
            · exact Or.inl ⟨hr, hs.trans hsock, hlt⟩
            · exact Or.inr hr
      · -- no room for the frame: the connection is closed
        have hfit' := hfit
        rw [Frame.Fits, f.toNat_padded] at hfit'
        rw [if_pos (not_le.mp hfit'), if_pos (not_le.mp hfit')]
        have hclose : c₂.close "Msg size larger than recv buf max size" 0 = { c₂ with
            sockfd := -1, closeReason := "Msg size larger than recv buf max size",
            closeErrno := 0 } := by
          rw [PTCPConnection.close, if_neg (by rw [hsock]; omega)]
        rw [hclose]
        refine ⟨[], f :: fs, n, rfl, by simp, by simp [headerAcks, hn],
          ⟨hb₂.1, hb₂.2, hb₂.3, hb₂.4, hb₂.5, hb₂.6⟩, ?_, hlast, hhb, hsize, by simp,
          Or.inr ⟨rfl, rfl, hn, f, rfl, hfit⟩⟩
        rw [decide_eq_true hn]
        exact ⟨hcont₂.1, hcont₂.2, hcont₂.3, hcont₂.4, hcont₂.5⟩
    · have hturn : ¬ 8 ≤ (c.writeidx - c.nextmsgIdx).toNat := by rw [hsub]; exact hn
      rw [if_neg hturn, if_neg hturn]
      have hfalse : conv = false := by
        rw [← Bool.not_eq_true, hconv]
        have := h.write_eq
        omega
      subst hfalse
      refine ⟨[], rest, n, rfl, by simp, by simp [headerAcks, hn], hb, ?_, rfl, rfl, rfl, by simp,
        Or.inl ⟨rfl, rfl, ?_⟩⟩
      · rw [decide_eq_false hn]
        exact h
      · intro f hf
        have := f.length_ge
        omega

end PTCPConnection

end Tcpshm
