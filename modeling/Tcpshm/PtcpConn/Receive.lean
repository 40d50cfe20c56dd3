import Tcpshm.PtcpConn.Parse

/-!
# `Front` and `Pop`

`Front` takes what the kernel gives it and returns the first message that was not popped, `Pop`
consumes it. What the user gets depends on the stream of frames, not on how it is cut into reads.
-/

namespace Tcpshm

namespace PTCPConnection

variable {C : Conf} {c c' : PTCPConnection} {ready rest : List Frame} {n : Nat}

/-- The buffer holds the frames `ready` and the first `n` bytes of `rest`; on an open connection
these are not a complete frame. -/
structure Receives (C : Conf) (c : PTCPConnection) (ready rest : List Frame) (n : Nat) : Prop where
  bounds : Bounds C c
  contents : Contents C c ready rest n (decide (8 ≤ n))
  lt_length : 0 ≤ c.sockfd → ∀ f ∈ rest.head?, n < f.length

/-- The kernel can answer `res` to a call of `Front`, if that comes to reading. -/
def FrontAdmissible (C : Conf) (c : PTCPConnection) (res : ReadResult) : Prop :=
  (c.buffered C).2 = none → (c.buffered C).1.Admissible C res

instance (C : Conf) (c : PTCPConnection) (res : ReadResult) : Decidable (c.FrontAdmissible C res) :=
  inferInstanceAs (Decidable (_ → _))

/-- The bytes `Front` takes from the socket when the kernel answers `res`. -/
def frontRead (C : Conf) (c : PTCPConnection) (res : ReadResult) : List UInt8 :=
  if (c.buffered C).2 = none then (c.buffered C).1.recvRead C res else []

/-- The acks `Front` applies after `DoRecv` has read `len` bytes. -/
def frontParseAcks (C : Conf) (c : PTCPConnection) (len : UInt32) : List UInt32 :=
  parseAcks C c.writeidx ((c.writeidx + len).toNat / 8 + 1) { c with writeidx := c.writeidx + len }

/-- The acks `Front` applies from `DoRecv` on. -/
def frontRecvAcks (C : Conf) (c : PTCPConnection) (res : ReadResult) : List UInt32 :=
  if (c.doRecv C res).2 = 0 then [] else frontParseAcks C (c.doRecv C res).1 (c.doRecv C res).2

/-- The acks `Front` applies when the kernel answers `res`. -/
def frontAcks (C : Conf) (c : PTCPConnection) (res : ReadResult) : List UInt32 :=
  if (c.buffered C).2 = none then frontRecvAcks C (c.buffered C).1 res else []

/-- The message behind a pointer into the buffer: its header and the bytes after it. -/
def msgAt (C : Conf) (c : PTCPConnection) (idx : Nat) : MsgHeader × List UInt8 :=
  let header := .ofBytes C.endian.isLittle (c.recvbuf.slice idx 8)
  (header, c.recvbuf.slice (idx + 8) ((padded header.size).toNat - 8))

/-- The user sees the first frame at `readidx_`. -/
lemma Contents.msgAt_read {f : Frame} {conv : Bool} (h : Contents C c (f :: ready) rest n conv) :
    c.msgAt C c.readidx.toNat = (f.header, f.body) := by
  have hslice := h.ready_eq
  rw [lens_cons, hosts_cons, Frame.host, List.append_assoc] at hslice
  obtain ⟨hhead, htail⟩ := Mem.slice_eq_append hslice
  rw [MsgHeader.length_toBytes] at hhead htail
  have hbody := (Mem.slice_eq_append htail).1
  simp only [msgAt, hhead, MsgHeader.ofBytes_toBytes, f.toNat_padded, Frame.length,
    Nat.add_sub_cancel, hbody]

lemma Contents.headerAt_read {f : Frame} {conv : Bool}
    (h : Contents C c (f :: ready) rest n conv) : c.headerAt C c.readidx = f.header :=
  congrArg Prod.fst h.msgAt_read

/-- The first frame leaves the buffer once `readidx_` has moved behind it. -/
lemma Receives.consume {f : Frame} (h : Receives C c (f :: ready) rest n)
    (hread : c'.readidx.toNat = c.readidx.toNat + f.length) (hnext : c'.nextmsgIdx = c.nextmsgIdx)
    (hwrite : c'.writeidx = c.writeidx) (hbuf : c'.recvbuf = c.recvbuf)
    (hsize : c'.recvbufSize = c.recvbufSize) (hsock : c'.sockfd = c.sockfd) :
    Receives C c' ready rest n := by
  obtain ⟨hb, hc, hlt⟩ := h
  have hidx := hc.next_eq
  have hmod := f.length_mod
  have hra := hb.read_aligned
  have hready := hc.ready_eq
  rw [lens_cons] at hidx hready
  obtain ⟨-, htail⟩ := Mem.slice_eq_append hready
  rw [Frame.length_host, Nat.add_sub_cancel_left] at htail
  refine ⟨⟨?_, ?_, ?_, ?_, by omega, ?_⟩, ⟨?_, ?_, ?_, ?_, hc.n_le⟩, ?_⟩
  · rw [hnext]
    omega
  · rw [hnext, hwrite]
    exact hb.next_le
  · rw [hwrite, hsize]
    exact hb.write_le
  · rw [hsize]
    exact hb.size_le
  · rw [hnext]
    exact hb.next_aligned
  · rw [hnext]
    omega
  · rw [hwrite, hnext]
    exact hc.write_eq
  · rw [hbuf, hread]
    exact htail
  · rw [hbuf, hnext]
    exact hc.rest_eq
  · rw [hsock]
    exact hlt

/-! ### The buffered messages -/

/-- The first loop of `Front` skips the heartbeats before the first message. It goes on to `DoRecv`
if there is no message, or if it returned this one before. -/
theorem skipLoop_spec (hmax : C.tcpRecvBufMaxSize.toNat < 2 ^ 31) {myAck : UInt32} {fuel : Nat}
    (h : Receives C c ready rest n) (hfuel : lens ready / 8 < fuel) :
    ∃ c₁ r, c.skipLoop C myAck fuel = (c₁, r) ∧
      Receives C c₁ (ready.dropWhile Frame.isHeartbeat) rest n ∧
      c₁.q = c.q ∧ c₁.sockfd = c.sockfd ∧ c₁.hbmsg = c.hbmsg ∧ c₁.now = c.now ∧
      c₁.recvbufSize = c.recvbufSize ∧
      (r = none ∨ r = some (.header c₁.readidx.toNat) ∧
        ready.dropWhile Frame.isHeartbeat ≠ []) := by
  induction fuel generalizing c ready with
  | zero => omega
  | succ fuel ih =>
    have hidx := h.contents.next_eq
    rw [skipLoop]
    cases ready with
    | nil =>
      have heq : c.nextmsgIdx = c.readidx := UInt32.toNat_inj.mp (by simpa using hidx)
      rw [if_pos heq]
      exact ⟨c, none, rfl, h, rfl, rfl, rfl, rfl, rfl, Or.inl rfl⟩
    | cons f ready =>
      have hlen := f.length_ge
      have hne : c.nextmsgIdx ≠ c.readidx := by
        intro heq
        rw [heq, lens_cons] at hidx
        omega
      rw [if_neg hne, h.contents.headerAt_read]
      by_cases hhb : f.header.msgType = 0
      · have hf : f.isHeartbeat = true := by simpa [Frame.isHeartbeat] using hhb
        have hlen8 := f.length_heartbeat hf
        have h8 : (8 : UInt32).toNat = 8 := rfl
        have hread : (c.readidx + 8).toNat = c.readidx.toNat + f.length := by
          have := h.bounds.next_le
          have := h.bounds.write_le
          have := h.bounds.size_le
          rw [lens_cons] at hidx
          rw [UInt32.toNat_add_of_lt (by omega), h8, hlen8]
        have hcons : Receives C { c with readidx := c.readidx + 8 } ready rest n :=
          h.consume hread rfl rfl rfl rfl rfl
        rw [lens_cons] at hfuel
        obtain ⟨c₁, r, heq, hrec, hq, hsock, hhbm, hnow, hsize, hr⟩ := ih hcons (by omega)
        rw [if_pos hhb, List.dropWhile_cons, if_pos hf]
        exact ⟨c₁, r, heq, hrec, hq, hsock, hhbm, hnow, hsize, hr⟩
      · have hf : ¬ f.isHeartbeat = true := by simpa [Frame.isHeartbeat] using hhb
        rw [if_neg hhb, List.dropWhile_cons, if_neg hf]
        split_ifs
        · exact ⟨c, none, rfl, h, rfl, rfl, rfl, rfl, rfl, Or.inl rfl⟩
        · refine ⟨_, _, rfl, ?_, rfl, rfl, rfl, rfl, rfl, Or.inr ⟨rfl, List.cons_ne_nil _ _⟩⟩
          exact ⟨⟨h.1.1, h.1.2, h.1.3, h.1.4, h.1.5, h.1.6⟩,
            ⟨h.2.1, h.2.2, h.2.3, h.2.4, h.2.5⟩, h.lt_length⟩

/-! ### What is read -/

/-- The headers that differ are in the part that was received. -/
lemma drop_mixed (rest : List Frame) (n : Nat) :
    (mixed C (decide (8 ≤ n)) rest).drop n = (wires C rest).drop n := by
  cases rest with
  | nil => rfl
  | cons f fs =>
    by_cases hn : 8 ≤ n
    · obtain ⟨k, rfl⟩ := Nat.exists_eq_add_of_le hn
      have hdrop : ∀ l, ((f.header.toBytes l ++ f.body) ++ wires C fs).drop (8 + k) =
          (f.body ++ wires C fs).drop k := by
        intro l
        rw [List.append_assoc, ← List.drop_drop,
          List.drop_left' (MsgHeader.length_toBytes l f.header)]
      rw [mixed, if_pos (by simp), wires_cons, Frame.host, Frame.wire, hdrop, hdrop]
    · rw [decide_eq_false hn, mixed_false]

lemma Receives.of_unread (h : Receives C c ready rest n) (hu : Unread C c c') :
    Receives C c' ready rest n := by
  have hnext := h.contents.next_eq
  refine ⟨hu.bounds, Contents.of_unread hu.bounds ?_ h.contents.n_le ?_, fun hopen => ?_⟩
  · rw [hu.ready_eq]
    omega
  · rw [hu.unread_eq, h.contents.unread_eq]
  · rcases hu.sockfd with hsock | hsock
    · exact h.lt_length (hsock ▸ hopen)
    · omega

/-- What was read continues the stream in the buffer. -/
lemma Receives.append {c₁ c₂ : PTCPConnection} {bs : List UInt8} {d : Nat} {len : UInt32}
    (hmax : C.tcpRecvBufMaxSize.toNat < 2 ^ 31) (h : Receives C c₁ ready rest n)
    (happ : Appended C c₁ c₂ bs d) (hlen : len.toNat = bs.length)
    (hbs : bs <+: (wires C rest).drop n) :
    Bounds C { c₂ with writeidx := c₂.writeidx + len } ∧
    Contents C { c₂ with writeidx := c₂.writeidx + len } ready rest (n + bs.length)
      (decide (8 ≤ n)) := by
  have hc := h.contents
  have hnext := hc.next_eq
  obtain ⟨hbounds, -, hready, hunread⟩ := happ.grown hmax h.bounds hlen.le
  rw [hlen, List.take_length] at hunread
  obtain ⟨more, hmore⟩ := hbs
  refine ⟨hbounds, Contents.of_unread hbounds ?_ ?_ ?_⟩
  · rw [hready]
    omega
  · have := congrArg List.length hmore
    have := hc.n_le
    simp only [List.length_append, List.length_drop, length_wires] at *
    omega
  · have htake : (mixed C (decide (8 ≤ n)) rest).take (n + bs.length) =
        (mixed C (decide (8 ≤ n)) rest).take n ++ bs := by
      rw [List.take_add, drop_mixed, ← hmore, List.take_left]
    rw [hunread, hc.unread_eq, htake, List.append_assoc]

/-! ### The queue -/

lemma q_skipLoop (myAck : UInt32) (fuel : Nat) (c : PTCPConnection) :
    (c.skipLoop C myAck fuel).1.q = c.q := by
  induction fuel generalizing c with
  | zero => rfl
  | succ fuel ih =>
    rw [skipLoop]
    split_ifs
    · rfl
    · rw [ih]
    · rfl
    · rfl

lemma q_doRecv (c : PTCPConnection) (res : ReadResult) : (c.doRecv C res).1.q = c.q := by
  have hrew : c.rewindBuf.q = c.q := by
    unfold rewindBuf
    split_ifs <;> rfl
  rw [← hrew]
  unfold doRecv
  simp only
  by_cases hfull : c.rewindBuf.writable + c.rewindBuf.extraSize C = 0
  · rw [if_pos hfull]
  rw [if_neg hfull]
  cases res with
  | data bs =>
    unfold received
    simp only
    split_ifs <;> rfl
  | eof => exact q_close _ _
  | again =>
    simp only
    split_ifs
    · exact q_close _ _
    · rfl
  | error errno => exact q_close _ _

lemma q_frontParse (c : PTCPConnection) (len : UInt32) :
    (c.frontParse C len).1.q = c.q.map fun q => applyAcks C q (c.frontParseAcks C len) := by
  rw [frontParseAcks, show c.q = ({ c with writeidx := c.writeidx + len } : PTCPConnection).q from rfl,
    ← q_parseLoop]
  unfold frontParse
  simp only
  generalize parseLoop C c.writeidx ((c.writeidx + len).toNat / 8 + 1)
    { c with writeidx := c.writeidx + len } = parsed
  obtain ⟨c', r⟩ := parsed
  cases r <;> rfl

@[simp] lemma frontEnd_fst (c : PTCPConnection) : c.frontEnd.1 = c := rfl

lemma front_eq (hq : c.q.isSome) (res : ReadResult) :
    c.front C res = match (c.buffered C).2 with
      | some r => ((c.buffered C).1, r)
      | none => (c.buffered C).1.frontRecv C res := by
  have hsome : ¬ c.q.isNone = true := by
    rw [Option.isNone_iff_eq_none]
    exact Option.isSome_iff_ne_none.mp hq
  exact if_neg hsome

/-- `Front` changes the queue through acks only. -/
theorem q_front (hq : c.q.isSome) (res : ReadResult) :
    (c.front C res).1.q = c.q.map fun q => applyAcks C q (c.frontAcks C res) := by
  have hskip : (c.buffered C).1.q = c.q := q_skipLoop _ _ _
  have hnil : c.q = c.q.map fun q => applyAcks C q [] := by
    cases c.q <;> rfl
  rw [front_eq hq, frontAcks]
  cases hr : (c.buffered C).2 with
  | some r => simpa [hskip] using hnil
  | none =>
    have hrecv := q_doRecv (C := C) (c.buffered C).1 res
    simp only [if_true, frontRecv, frontRecvAcks]
    split_ifs with hlen
    · rw [frontEnd_fst, hrecv, hskip]
      exact hnil
    · rw [q_frontParse, hrecv, hskip]

/-! ### A call of `Front` -/

/-- What a call of `Front` does, on a stream that continues with `rest`: it reads `bs`, `done` are
the frames this completes, `n'` bytes of `rest'` remain, and it applies the acks `as`. -/
structure Fronted (C : Conf) (c c' : PTCPConnection) (r : FrontResult) (bs : List UInt8)
    (as : List UInt32) (ready rest : List Frame) (n : Nat) (done rest' : List Frame) (n' : Nat) :
    Prop where
  rest_eq : rest = done ++ rest'
  read_eq : n + bs.length = lens done + n'
  receives : Receives C c' (done.foldl enqueue ready) rest' n'
  acks_eq : as = if bs = [] then [] else headerAcks done rest' n'
  done_nil : bs = [] → done = []
  hbmsg : c'.hbmsg = c.hbmsg
  size_ge : c.recvbufSize.toNat ≤ c'.recvbufSize.toNat
  fits : ∀ f ∈ done, f.Fits C
  sockfd : c'.sockfd = c.sockfd ∨ c'.sockfd < 0
  result : r = .header c'.readidx.toNat ∧
      done.foldl enqueue ready ≠ [] ∨
    r = .null ∧ (done.foldl enqueue ready = [] ∨
      8 ≤ n' ∧ c'.sockfd < 0 ∧ ∃ f ∈ rest'.head?, ¬ f.Fits C)
  closes : bs ≠ [] → c'.sockfd < 0 → 8 ≤ n' ∧ ∃ f ∈ rest'.head?, ¬ f.Fits C

lemma result_frontEnd (c : PTCPConnection) (hc : Receives C c ready rest n) :
    c.frontEnd.2 = .header c.readidx.toNat ∧ ready ≠ [] ∨ c.frontEnd.2 = .null ∧ ready = [] := by
  have hnext := hc.contents.next_eq
  unfold frontEnd
  by_cases heq : c.readidx = c.nextmsgIdx
  · have hnil : ready = [] := lens_eq_zero.mp (by rw [heq] at hnext; omega)
    exact Or.inr ⟨if_neg (not_not.mpr heq), hnil⟩
  · refine Or.inl ⟨if_pos heq, ?_⟩
    rintro rfl
    exact heq (UInt32.toNat_inj.mp (by simpa using hnext.symm))

lemma Fronted.congr {c₀ : PTCPConnection} {r : FrontResult} {bs : List UInt8} {as : List UInt32}
    {done rest' : List Frame} {n' : Nat}
    (h : Fronted C c c' r bs as ready rest n done rest' n') (hhb : c₀.hbmsg = c.hbmsg)
    (hsize : c₀.recvbufSize.toNat ≤ c.recvbufSize.toNat)
    (hsock : c.sockfd = c₀.sockfd ∨ c'.sockfd < 0) :
    Fronted C c₀ c' r bs as ready rest n done rest' n' := by
  refine ⟨h.rest_eq, h.read_eq, h.receives, h.acks_eq, h.done_nil, h.hbmsg.trans hhb.symm, hsize.trans h.size_ge,
    h.fits, ?_, h.result, h.closes⟩
  rcases h.sockfd with h' | h'
  · exact hsock.imp h'.trans id
  · exact Or.inr h'

/-- The bytes read are parsed. -/
theorem frontParse_spec (hmax : C.tcpRecvBufMaxSize.toNat < 2 ^ 31) {bs : List UInt8} {len : UInt32}
    (hopen : 0 ≤ c.sockfd) (hpos : 0 < bs.length)
    (hb : Bounds C { c with writeidx := c.writeidx + len })
    (hc : Contents C { c with writeidx := c.writeidx + len } ready rest (n + bs.length)
      (decide (8 ≤ n)))
    (hidx : c.writeidx.toNat = c.nextmsgIdx.toNat + n) (hlt : ∀ f ∈ rest.head?, n < f.length) :
    ∃ done rest' n', Fronted C c (c.frontParse C len).1 (c.frontParse C len).2 bs
      (c.frontParseAcks C len) ready rest n done rest' n' := by
  have hne : bs ≠ [] := List.length_pos_iff.mp hpos
  have hw : (c.writeidx + len).toNat = c.nextmsgIdx.toNat + (n + bs.length) := hc.write_eq
  obtain ⟨done, rest', n', hrest, hlens, hacks, hp⟩ := parseLoop_spec (o := c.writeidx) hmax hb hopen hc
    (by simp only [decide_eq_true_eq]; omega)
    (by
      intro f hf
      have := hlt f hf
      simp only [hidx]
      omega)
    (by simp only; omega)
    (show (n + bs.length) / 8 < (c.writeidx + len).toNat / 8 + 1 by omega)
  unfold frontParse
  simp only
  generalize parseLoop C c.writeidx ((c.writeidx + len).toNat / 8 + 1)
    { c with writeidx := c.writeidx + len } = parsed at hp ⊢
  obtain ⟨c', r⟩ := parsed
  have has : c.frontParseAcks C len = if bs = [] then [] else headerAcks done rest' n' := by
    rw [if_neg hne]
    exact hacks
  have hnil : bs = [] → done = [] := fun h => absurd h hne
  rcases hp.result with ⟨rfl, hsock, hlt'⟩ | ⟨rfl, hclosed, hn8, f, hf, hfit⟩
  · have hrecv : Receives C c' (done.foldl enqueue ready) rest' n' :=
      ⟨hp.bounds, hp.contents, fun _ => hlt'⟩
    refine ⟨done, rest', n', hrest, hlens, hrecv, has, hnil, hp.hbmsg,
      le_of_eq (congrArg UInt32.toNat hp.size_eq.symm), hp.fits, Or.inl hsock, ?_, ?_⟩
    · exact (result_frontEnd c' hrecv).imp id fun h => ⟨h.1, Or.inl h.2⟩
    · intro _ hneg
      have hs : c'.sockfd = c.sockfd := hsock
      rw [frontEnd_fst, hs] at hneg
      omega
  · have hneg : c'.sockfd < 0 := by simpa [isClosed] using hclosed
    have hrecv : Receives C c' (done.foldl enqueue ready) rest' n' :=
      ⟨hp.bounds, hp.contents, fun ho => absurd hneg (not_lt.mpr ho)⟩
    exact ⟨done, rest', n', hrest, hlens, hrecv, has, hnil, hp.hbmsg,
      le_of_eq (congrArg UInt32.toNat hp.size_eq.symm), hp.fits, Or.inr hneg,
      Or.inr ⟨rfl, Or.inr ⟨hn8, hneg, f, hf, hfit⟩⟩, fun _ _ => ⟨hn8, f, hf, hfit⟩⟩

/-- `Front` from `DoRecv` on. -/
theorem frontRecv_spec (hmax : C.tcpRecvBufMaxSize.toNat < 2 ^ 31) {res : ReadResult}
    (h : Receives C c ready rest n) (hres : c.Admissible C res)
    (hbs : c.recvRead C res <+: (wires C rest).drop n) :
    ∃ done rest' n', Fronted C c (c.frontRecv C res).1 (c.frontRecv C res).2
      (c.recvRead C res) (c.frontRecvAcks C res) ready rest n done rest' n' := by
  have hdef : c.frontRecv C res = if (c.doRecv C res).2 = 0 then (c.doRecv C res).1.frontEnd
      else (c.doRecv C res).1.frontParse C (c.doRecv C res).2 := rfl
  rcases doRecv_cases h.bounds hmax hres with ⟨hlen, hunread, hread⟩ |
    ⟨bs, d, rfl, hread, hpos, hlen, hne, hsess, happ⟩
  · -- nothing was read
    have hrecv := h.of_unread hunread
    have hend := result_frontEnd _ hrecv
    rw [hdef, hread, if_pos hlen, frontRecvAcks, if_pos hlen]
    refine ⟨[], rest, n, rfl, by simp, hrecv, rfl, fun _ => rfl, hunread.hbmsg, ?_, by simp,
      hunread.sockfd, ?_, fun h => absurd rfl h⟩
    · rw [frontEnd_fst, hunread.size_eq]
    · exact hend.imp id fun ⟨h₁, h₂⟩ => ⟨h₁, Or.inl h₂⟩
  · rw [hread] at hbs ⊢
    have hopen : 0 ≤ c.sockfd := hres.2.2
    have hr := h.of_unread (rewindBuf_unread h.bounds)
    obtain ⟨hbounds, hcont⟩ := hr.append hmax happ hlen hbs
    have hidx : (c.doRecv C (.data bs)).1.writeidx.toNat =
        (c.doRecv C (.data bs)).1.nextmsgIdx.toNat + n := by
      have := hr.contents.write_eq
      have := happ.write_eq
      have := happ.next_eq
      omega
    obtain ⟨done, rest', n', hf⟩ := frontParse_spec hmax (by rw [hsess.sockfd]; exact hopen) hpos
      hbounds hcont hidx (h.lt_length hopen)
    have hsize : c.recvbufSize.toNat ≤ (c.doRecv C (.data bs)).1.recvbufSize.toNat := by
      rw [← (rewindBuf_unread h.bounds).size_eq]
      exact happ.size_ge
    rw [hdef, if_neg hne, frontRecvAcks, if_neg hne]
    exact ⟨done, rest', n', hf.congr hsess.hbmsg.symm hsize (Or.inl hsess.sockfd)⟩

/-- `Front` returns the first message that was not popped, or null when there is none. -/
theorem front_spec (hmax : C.tcpRecvBufMaxSize.toNat < 2 ^ 31) {res : ReadResult}
    (hq : c.q.isSome) (h : Receives C c ready rest n) (hres : c.FrontAdmissible C res)
    (hbs : c.frontRead C res <+: (wires C rest).drop n) :
    ∃ done rest' n', Fronted C c (c.front C res).1 (c.front C res).2 (c.frontRead C res)
      (c.frontAcks C res) (ready.dropWhile Frame.isHeartbeat) rest n done rest' n' := by
  have hnext := h.contents.next_eq
  have hfuel : lens ready / 8 < (c.nextmsgIdx - c.readidx).toNat / 8 + 1 := by
    rw [h.bounds.toNat_next_sub_read]
    omega
  obtain ⟨c₁, r, heq, hrec, hq₁, hsock, hhb, hnow, hsize, hr⟩ :=
    @skipLoop_spec C c ready rest n hmax (c.q.elim 0 PTCPQueue.myAck) _ h hfuel
  have hbuf : c.buffered C = (c₁, r) := heq
  have hfront := front_eq (C := C) hq res
  unfold frontRead frontAcks at *
  unfold FrontAdmissible at hres
  rw [hbuf] at hbs hres hfront ⊢
  rcases hr with rfl | ⟨rfl, hne⟩
  · rw [if_pos rfl] at hbs ⊢
    rw [if_pos rfl]
    obtain ⟨done, rest', n', hf⟩ := frontRecv_spec hmax hrec (hres rfl) hbs
    rw [hfront]
    exact ⟨done, rest', n', hf.congr hhb.symm (hsize ▸ le_rfl) (Or.inl hsock)⟩
  · rw [if_neg (by simp)] at hbs ⊢
    rw [if_neg (by simp), hfront]
    exact ⟨[], rest, n, rfl, by simp, hrec, rfl, fun _ => rfl, hhb, hsize ▸ le_rfl, by simp,
      Or.inl hsock, Or.inl ⟨rfl, hne⟩, fun h => absurd rfl h⟩

/-- `Pop` consumes the first message. -/
theorem pop_spec (hmax : C.tcpRecvBufMaxSize.toNat < 2 ^ 31) {f : Frame}
    (h : Receives C c (f :: ready) rest n) :
    Receives C (c.pop C) ready rest n ∧ (c.pop C).q = c.q.map PTCPQueue.incMyAck := by
  have hnext := h.contents.next_eq
  have := h.bounds.next_le
  have := h.bounds.write_le
  have := h.bounds.size_le
  rw [lens_cons] at hnext
  refine ⟨h.consume ?_ rfl rfl rfl rfl rfl, rfl⟩
  show (c.readidx + padded (c.headerAt C c.readidx).size).toNat = _
  rw [h.contents.headerAt_read, UInt32.toNat_add_of_lt (by rw [f.toNat_padded]; omega),
    f.toNat_padded]

end PTCPConnection

end Tcpshm
