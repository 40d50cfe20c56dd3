import Tcpshm.PtcpConn.AnyBytes

/-!
# `Front` is total

Between two calls of `Front` the buffer holds complete messages with their headers converted, and
the beginning of one. Whatever is received, this stays so as long as the calls come to no header of
size 0 and queue no heartbeat that the first loop would cut in two.
-/

namespace Tcpshm

namespace PTCPConnection

variable {C : Conf} {c c' : PTCPConnection} {o : UInt32} {fuel : Nat}

/-! ### A call of `Front` -/

/-- What holds between two calls. -/
structure Sound (C : Conf) (c : PTCPConnection) : Prop where
  bounds : Bounds C c
  frames : HostFrames C c.readyBytes
  blocked : Blocked C c.pendingBytes

lemma SameReceiver.sound (hs : SameReceiver c c') (h : Sound C c) : Sound C c' := by
  refine ⟨hs.bounds h.bounds, ?_, ?_⟩
  · rw [hs.readyBytes_eq]
    exact h.frames
  · rw [hs.pendingBytes_eq]
    exact h.blocked

lemma Unread.sound (hu : Unread C c c') (h : Sound C c) : Sound C c' := by
  refine ⟨hu.bounds, ?_, ?_⟩
  · rw [hu.readyBytes_eq h.bounds]
    exact h.frames
  · rw [hu.pendingBytes_eq h.bounds]
    exact h.blocked

/-- `DoRecv` when it reads, with and without the update of `writeidx_`. -/
lemma Appended.parts {bs : List UInt8} {d : Nat} {len : UInt32} (happ : Appended C c c' bs d)
    (hmax : C.tcpRecvBufMaxSize.toNat < 2 ^ 31) (hb : Bounds C c) (hlen : len.toNat ≤ bs.length) :
    let grown : PTCPConnection := { c' with writeidx := c'.writeidx + len }
    Bounds C grown ∧ grown.readyBytes = c.readyBytes ∧
      grown.pendingBytes = c.pendingBytes ++ bs.take len.toNat := by
  intro grown
  obtain ⟨hb', -, hready, hunread⟩ := happ.grown hmax hb hlen
  have hread := hb.read_le
  have hnext := hb.next_le
  have hle : c.nextmsgIdx.toNat - c.readidx.toNat ≤ c.unreadBytes.length := by
    simp only [unreadBytes, Mem.length_slice]
    omega
  refine ⟨hb', ?_, ?_⟩
  · rw [hb'.readyBytes_eq, hready, hunread, List.take_append_of_le_length hle, hb.readyBytes_eq]
  · rw [hb'.pendingBytes_eq, hready, hunread, List.drop_append_of_le_length hle,
      hb.pendingBytes_eq]

/-- Consuming the first queued message keeps the rest. -/
lemma Sound.consume (h : Sound C c) (hne : c.readidx ≠ c.nextmsgIdx)
    (hread : c'.readidx = c.readidx + padded (c.headerAt C c.readidx).size)
    (hnext : c'.nextmsgIdx = c.nextmsgIdx) (hwrite : c'.writeidx = c.writeidx)
    (hbuf : c'.recvbuf = c.recvbuf) (hsize : c'.recvbufSize = c.recvbufSize) :
    Sound C c' ∧ c.readidx.toNat < c'.readidx.toNat ∧
      ((c.headerAt C c.readidx).msgType = 0 → padded (c.headerAt C c.readidx).size = 8) := by
  obtain ⟨hb, hf, hblk⟩ := h
  have h₁ := hb.read_le
  have h₂ := hb.next_le
  have h₃ := hb.write_le
  have hra := hb.read_aligned
  have hna := hb.next_aligned
  generalize hready : c.readyBytes = bytes at hf
  have hlength : bytes.length = c.nextmsgIdx.toNat - c.readidx.toNat := by
    rw [← hready, length_readyBytes]
  cases hf with
  | nil =>
    have hne' := mt UInt32.toNat_inj.mp hne
    simp only [List.length_nil] at hlength
    omega
  | cons hc hsz hhb hrest =>
    have h8 := hc.header
    have hwhole := hc.whole
    have hge := firstLength_ge hsz
    have hmod := firstLength_mod (C := C) true bytes
    have hheader : c.headerAt C c.readidx = firstHeader C true bytes := by
      rw [headerAt, ← Mem.take_slice _ _ _ _ (by omega : 8 ≤ c.nextmsgIdx.toNat - c.readidx.toNat),
        ← readyBytes, hready]
      rfl
    have hlen : (padded (c.headerAt C c.readidx).size).toNat = firstLength C true bytes := by
      rw [hheader]
      rfl
    have hidx : c'.readidx.toNat = c.readidx.toNat + firstLength C true bytes := by
      have := c.recvbufSize.toNat_lt
      rw [hread, UInt32.toNat_add_of_lt (by omega), hlen]
    refine ⟨⟨?_, ?_, ?_⟩, by omega, ?_⟩
    · constructor
      · rw [hidx, hnext]
        omega
      · rw [hnext, hwrite]
        exact h₂
      · rw [hwrite, hsize]
        exact h₃
      · rw [hsize]
        exact hb.size_le
      · omega
      · rw [hnext]
        exact hna
    · have hdrop : c'.readyBytes = bytes.drop (firstLength C true bytes) := by
        rw [readyBytes, hbuf, hnext, hidx, Nat.sub_add_eq,
          ← Mem.drop_slice _ _ _ _ (by omega), ← readyBytes, hready]
      rw [hdrop]
      exact hrest
    · have hpend : c'.pendingBytes = c.pendingBytes := by
        rw [pendingBytes, hbuf, hnext, hwrite, pendingBytes]
      rw [hpend]
      exact hblk
    · intro htype
      rw [hheader] at htype
      rw [← UInt32.toNat_inj, hlen, hhb htype]
      rfl

/-- The first loop ends, in front of a message or of nothing. -/
theorem Sound.skipLoop {myAck : UInt32} (h : Sound C c)
    (hfuel : c.readyBytes.length / 8 < fuel) :
    ∃ c₁ r, c.skipLoop C myAck fuel = (c₁, r) ∧ Sound C c₁ ∧ c₁.pendingBytes = c.pendingBytes ∧
      c₁.q = c.q ∧ c₁.sockfd = c.sockfd ∧
      (r = none ∨ r = some (.header c₁.readidx.toNat) ∧ c₁.readidx ≠ c₁.nextmsgIdx) := by
  induction fuel generalizing c with
  | zero => omega
  | succ fuel ih =>
    rw [PTCPConnection.skipLoop]
    by_cases hne : c.nextmsgIdx = c.readidx
    · rw [if_pos hne]
      exact ⟨c, none, rfl, h, rfl, rfl, rfl, Or.inl rfl⟩
    · rw [if_neg hne]
      by_cases htype : (c.headerAt C c.readidx).msgType = 0
      · rw [if_pos htype]
        -- the heartbeat is as long as the loop takes it to be
        let skipped : PTCPConnection :=
          { c with readidx := c.readidx + padded (c.headerAt C c.readidx).size }
        have hcons := @Sound.consume C c skipped h (Ne.symm hne) rfl rfl rfl rfl rfl
        have hpad := hcons.2.2 htype
        simp only [skipped, hpad] at hcons
        obtain ⟨hs, hlt, -⟩ := hcons
        have hra := hs.bounds.read_aligned
        have hra' := h.bounds.read_aligned
        have hle := hs.bounds.read_le
        simp only at hlt hra hle
        rw [length_readyBytes] at hfuel
        obtain ⟨c₁, r, heq, hs₁, hpend, hq, hsock, hr⟩ := ih hs (by
          rw [length_readyBytes]
          simp only
          omega)
        exact ⟨c₁, r, heq, hs₁, hpend, hq, hsock, hr⟩
      · rw [if_neg htype]
        split_ifs
        · exact ⟨c, none, rfl, h, rfl, rfl, rfl, Or.inl rfl⟩
        · refine ⟨_, _, rfl, ⟨?_, h.frames, h.blocked⟩, rfl, rfl, rfl,
            Or.inr ⟨rfl, Ne.symm hne⟩⟩
          exact ⟨h.1.1, h.1.2, h.1.3, h.1.4, h.1.5, h.1.6⟩

lemma Bounds.waiting_eq_true_iff (h : Bounds C c) : c.waiting = true ↔ c.readyBytes ≠ [] := by
  have hle := h.read_le
  rw [PTCPConnection.waiting_eq_true_iff, Ne, ← UInt32.toNat_inj, Ne, ← List.length_eq_zero_iff,
    length_readyBytes]
  omega

lemma waiting_congr (h : Bounds C c) (h' : Bounds C c') (heq : c'.readyBytes = c.readyBytes) :
    c'.waiting = c.waiting := by
  rw [Bool.eq_iff_iff, h.waiting_eq_true_iff, h'.waiting_eq_true_iff, heq]

/-- The second loop starts on what was pending and what was read. -/
theorem Sound.enter {bs : List UInt8} {d : Nat} {len : UInt32} (h : Sound C c)
    (hmax : C.tcpRecvBufMaxSize.toNat < 2 ^ 31) (happ : Appended C c.rewindBuf c' bs d)
    (hlen : len.toNat = bs.length) :
    let grown : PTCPConnection := { c' with writeidx := c'.writeidx + len }
    Parsing C c'.writeidx grown ∧
      grown.converted c'.writeidx = decide (8 ≤ c.pendingBytes.length) ∧
      grown.pendingBytes = c.pendingBytes ++ bs ∧ grown.readyBytes = c.readyBytes ∧
      grown.waiting = c.waiting := by
  intro grown
  have hrew := rewindBuf_unread h.bounds
  have hs := hrew.sound h
  obtain ⟨hb', hready, hpend⟩ := happ.parts hmax hs.bounds hlen.le
  rw [hlen, List.take_length, hrew.pendingBytes_eq h.bounds] at hpend
  rw [hrew.readyBytes_eq h.bounds] at hready
  have hgrown : grown.writeidx.toNat = c'.writeidx.toNat + len.toNat :=
    (happ.grown hmax hs.bounds hlen.le).2.1
  have hlenPend := congrArg List.length (hrew.pendingBytes_eq h.bounds)
  simp only [length_pendingBytes] at hlenPend
  have h₂ := happ.next_eq
  have h₃ := happ.write_eq
  have hnext := hs.bounds.next_le
  have hle := h.bounds.next_le
  have hold : c'.writeidx.toNat = grown.nextmsgIdx.toNat + c.pendingBytes.length := by
    show c'.writeidx.toNat = c'.nextmsgIdx.toNat + _
    rw [length_pendingBytes]
    omega
  have hconv : grown.converted c'.writeidx = decide (8 ≤ c.pendingBytes.length) := by
    rw [converted, decide_eq_decide, hold]
    omega
  refine ⟨⟨hb', by rw [hgrown]; omega, fun htrue => ?_⟩, hconv, hpend, hready,
    waiting_congr h.bounds hb' hready⟩
  -- a header that was there is not of a complete message
  rw [hconv, decide_eq_true_eq] at htrue
  rw [hold, hpend, firstLength_append true htrue]
  have hwle := h.bounds.write_le
  have hsle := h.bounds.size_le
  have hlp : c.pendingBytes.length = c.writeidx.toNat - c.nextmsgIdx.toNat := length_pendingBytes
  rcases h.blocked htrue with hbig | hpart <;> omega

/-- The result of a call that returns. -/
structure Answered (C : Conf) (c : PTCPConnection) (r : FrontResult) : Prop where
  bounds : Bounds C c
  result : r = .null ∨ r = .header c.readidx.toNat ∧ c.readidx ≠ c.nextmsgIdx

lemma answered_frontEnd (h : Bounds C c) : Answered C c c.frontEnd.2 := by
  refine ⟨h, ?_⟩
  unfold frontEnd
  by_cases heq : c.readidx = c.nextmsgIdx
  · exact Or.inl (if_neg (not_not.mpr heq))
  · exact Or.inr ⟨if_pos heq, heq⟩

/-- The bytes read are parsed. -/
lemma Parsing.frontParse {len : UInt32} (hmax : C.tcpRecvBufMaxSize.toNat < 2 ^ 31)
    (hp : Parsing C c.writeidx { c with writeidx := c.writeidx + len }) :
    let grown : PTCPConnection := { c with writeidx := c.writeidx + len }
    let conv := grown.converted c.writeidx
    (ZeroSized C conv grown.pendingBytes → (c.frontParse C len).2 = .hangs) ∧
    (¬ ZeroSized C conv grown.pendingBytes →
      Answered C (c.frontParse C len).1 (c.frontParse C len).2 ∧
      (HostFrames C grown.readyBytes → ¬ LongHeartbeat C grown.waiting conv grown.pendingBytes →
        Sound C (c.frontParse C len).1)) := by
  intro grown conv
  have hfuel : grown.pendingBytes.length / 8 < (c.writeidx + len).toNat / 8 + 1 := by
    have hw : grown.writeidx = c.writeidx + len := rfl
    rw [length_pendingBytes, hw]
    omega
  unfold PTCPConnection.frontParse
  dsimp only
  constructor
  · intro hz
    rw [hp.loop_hangs hmax hz]
  · intro hz
    obtain ⟨hstop, hframes⟩ := hp.loop hmax hz hfuel
    generalize parseLoop C c.writeidx ((c.writeidx + len).toNat / 8 + 1)
      { c with writeidx := c.writeidx + len } = parsed at hstop hframes ⊢
    obtain ⟨c₁, r⟩ := parsed
    have hsound : HostFrames C grown.readyBytes →
        ¬ LongHeartbeat C grown.waiting conv grown.pendingBytes → Sound C c₁ := fun hf hl =>
      ⟨hstop.bounds, hframes hf hl, hstop.blocked⟩
    obtain rfl | rfl := hstop.result
    · exact ⟨answered_frontEnd hstop.bounds, hsound⟩
    · exact ⟨⟨hstop.bounds, Or.inl rfl⟩, hsound⟩

/-- `Front` from `DoRecv` on: it does not return if it comes to a header of size 0. -/
theorem Sound.frontRecv (h : Sound C c) (hmax : C.tcpRecvBufMaxSize.toNat < 2 ^ 31)
    {res : ReadResult} (hres : c.Admissible C res) :
    let bytes := c.pendingBytes ++ c.recvRead C res
    let conv := decide (8 ≤ c.pendingBytes.length)
    (c.recvRead C res ≠ [] ∧ ZeroSized C conv bytes → (c.frontRecv C res).2 = .hangs) ∧
    (¬ (c.recvRead C res ≠ [] ∧ ZeroSized C conv bytes) →
      Answered C (c.frontRecv C res).1 (c.frontRecv C res).2 ∧
      (¬ (c.recvRead C res ≠ [] ∧ LongHeartbeat C c.waiting conv bytes) →
        Sound C (c.frontRecv C res).1)) := by
  have hdef : c.frontRecv C res = if (c.doRecv C res).2 = 0 then (c.doRecv C res).1.frontEnd
      else (c.doRecv C res).1.frontParse C (c.doRecv C res).2 := rfl
  rcases doRecv_cases h.bounds hmax hres with ⟨hlen, hunread, hread⟩ |
    ⟨bs, d, hdata, hread, hpos, hlen, hne, -, happ⟩
  · have hs := hunread.sound h
    rw [hdef, if_pos hlen, hread, frontEnd_fst]
    exact ⟨fun hz => absurd rfl hz.1, fun _ => ⟨answered_frontEnd hs.bounds, fun _ => hs⟩⟩
  · have hnil : bs ≠ [] := List.length_pos_iff.mp hpos
    rw [hdef, if_neg hne, hread]
    generalize c.doRecv C res = recv at hlen happ ⊢
    obtain ⟨hp, hconv, hpend, hready, hwait⟩ := h.enter hmax happ hlen
    obtain ⟨hzero, hsome⟩ := hp.frontParse hmax
    rw [hconv, hpend] at hzero
    rw [hconv, hpend, hready, hwait] at hsome
    constructor
    · exact fun hz => hzero hz.2
    · intro hz
      obtain ⟨hans, hsound⟩ := hsome fun hz' => hz ⟨hnil, hz'⟩
      exact ⟨hans, fun hl => hsound h.frames fun hl' => hl ⟨hnil, hl'⟩⟩

/-- The kernel can answer `res` to a call of `Front`. -/
structure CanAnswer (C : Conf) (c : PTCPConnection) (res : ReadResult) : Prop where
  tcp : c.q.isSome = true → c.FrontAdmissible C res
  shm : c.q = none → c.Admissible C res

/-- What a call of `Front` that reads has to parse. -/
def arriving (C : Conf) (c : PTCPConnection) (res : ReadResult) : List UInt8 :=
  c.pendingBytes ++ c.frontRead C res

/-- The call reads bytes, and comes to a header of size 0. -/
def MeetsZero (C : Conf) (c : PTCPConnection) (res : ReadResult) : Prop :=
  c.q.isSome = true ∧ c.frontRead C res ≠ [] ∧
    ZeroSized C (decide (8 ≤ c.pendingBytes.length)) (c.arriving C res)

/-- The call reads bytes, and queues a heartbeat that does not take 8 bytes behind a message. -/
def MeetsLongHeartbeat (C : Conf) (c : PTCPConnection) (res : ReadResult) : Prop :=
  c.q.isSome = true ∧ c.frontRead C res ≠ [] ∧
    LongHeartbeat C (c.buffered C).1.waiting (decide (8 ≤ c.pendingBytes.length))
      (c.arriving C res)

/-- `readidx_ <= nextmsg_idx_ <= writeidx_`. -/
def Ordered (c : PTCPConnection) : Prop := c.readidx ≤ c.nextmsgIdx ∧ c.nextmsgIdx ≤ c.writeidx

/-- A call of `Front` starts its second loop in the state `c₀`, with the old `writeidx_` being
`o`. -/
structure EntersLoop (C : Conf) (c : PTCPConnection) (res : ReadResult) (o : UInt32)
    (c₀ : PTCPConnection) : Prop where
  tcp : c.q.isSome = true
  skipped : (c.buffered C).2 = none
  read : ((c.buffered C).1.doRecv C res).2 ≠ 0
  old_eq : o = ((c.buffered C).1.doRecv C res).1.writeidx
  state_eq : c₀ = { ((c.buffered C).1.doRecv C res).1 with
    writeidx := ((c.buffered C).1.doRecv C res).1.writeidx +
      ((c.buffered C).1.doRecv C res).2 }

/-- The states the second loop goes through. -/
def Turns (C : Conf) (o : UInt32) : PTCPConnection → PTCPConnection → Prop :=
  Relation.ReflTransGen fun c c' => c.parseTurn C o = some c'

/-- A call of `Front` returns; all the way its indices are in order, and every turn of the second
loop that does not leave it advances `nextmsg_idx_`; a header it returns is inside the received
bytes. -/
structure FrontTotal (C : Conf) (c : PTCPConnection) (res : ReadResult) : Prop where
  returns : (c.front C res).2 ≠ .hangs
  turns : ∀ o c₀ c₁, EntersLoop C c res o c₀ → Turns C o c₀ c₁ → c₁.Ordered ∧
    ∀ c₂, c₁.parseTurn C o = some c₂ → c₁.nextmsgIdx < c₂.nextmsgIdx
  ordered : (c.front C res).1.Ordered
  inside : ∀ idx, (c.front C res).2 = .header idx →
    idx + 8 ≤ (c.front C res).1.writeidx.toNat

lemma Bounds.ordered (h : Bounds C c) : c.Ordered :=
  ⟨UInt32.le_iff_toNat_le.mpr h.read_le, UInt32.le_iff_toNat_le.mpr h.next_le⟩

lemma Answered.inside {r : FrontResult} (h : Answered C c r) {idx : Nat} (hr : r = .header idx) :
    idx + 8 ≤ c.writeidx.toNat := by
  have hb := h.bounds
  have h₁ := hb.read_le
  have h₂ := hb.next_le
  have hra := hb.read_aligned
  have hna := hb.next_aligned
  rcases h.result with hnull | ⟨hheader, hne⟩
  · rw [hr] at hnull
    cases hnull
  · rw [hr] at hheader
    obtain rfl := FrontResult.header.inj hheader
    have hne' := mt UInt32.toNat_inj.mp hne
    omega

lemma Answered.returns {r : FrontResult} (h : Answered C c r) : r ≠ .hangs := by
  rcases h.result with rfl | ⟨rfl, -⟩ <;> simp

/-- Every state of the loop is a state of parsing. -/
lemma Parsing.turns (h : Parsing C o c) (hmax : C.tcpRecvBufMaxSize.toNat < 2 ^ 31)
    (hz : ¬ ZeroSized C (c.converted o) c.pendingBytes) (ht : Turns C o c c') :
    Parsing C o c' ∧ ¬ ZeroSized C (c'.converted o) c'.pendingBytes := by
  induction ht with
  | refl => exact ⟨h, hz⟩
  | tail _ hturn ih =>
    obtain ⟨hp, hz', -⟩ := ih.1.turn hmax ih.2 hturn
    exact ⟨hp, hz'⟩

/-- For shared memory, `DoRecv` reads and the bytes are dropped. -/
lemma Sound.doRecv (h : Sound C c) (hmax : C.tcpRecvBufMaxSize.toNat < 2 ^ 31) {res : ReadResult}
    (hres : c.Admissible C res) : Sound C (c.doRecv C res).1 := by
  rcases doRecv_cases h.bounds hmax hres with ⟨-, hunread, -⟩ | ⟨bs, d, -, -, -, -, -, -, happ⟩
  · exact hunread.sound h
  · have hrew := rewindBuf_unread h.bounds
    have hs := hrew.sound h
    have hzero : (0 : UInt32).toNat ≤ bs.length := Nat.zero_le _
    obtain ⟨hb, hready, hpend⟩ := happ.parts hmax hs.bounds hzero
    have hsame : ∀ c' : PTCPConnection, { c' with writeidx := c'.writeidx + 0 } = c' := fun c' => by
      rw [UInt32.add_zero]
    rw [hsame] at hb hready hpend
    rw [UInt32.toNat_zero, List.take_zero, List.append_nil] at hpend
    refine ⟨hb, ?_, ?_⟩
    · rw [hready]
      exact hs.frames
    · rw [hpend]
      exact hs.blocked

/-- The second loop starts in order, and without a header of size 0 it goes on so. -/
lemma Sound.frontTurns {c₁ c₀ : PTCPConnection} {res : ReadResult} (h : Sound C c₁)
    (hmax : C.tcpRecvBufMaxSize.toNat < 2 ^ 31) (hbuf : c.buffered C = (c₁, none))
    (hpend : c₁.pendingBytes = c.pendingBytes) (hres : c₁.Admissible C res)
    (hz : ¬ MeetsZero C c res) (he : EntersLoop C c res o c₀) (ht : Turns C o c₀ c') :
    c'.Ordered ∧ ∀ c₂, c'.parseTurn C o = some c₂ → c'.nextmsgIdx < c₂.nextmsgIdx := by
  obtain ⟨hq, -, hne, rfl, rfl⟩ := he
  have hfr : c.frontRead C res = c₁.recvRead C res := by
    rw [frontRead, hbuf, if_pos rfl]
  rw [hbuf] at hne ht
  simp only at hne ht
  rcases doRecv_cases h.bounds hmax hres with ⟨hlen, -, -⟩ |
    ⟨bs, d, -, hread, hpos, hlen, -, -, happ⟩
  · exact absurd hlen hne
  · obtain ⟨hp, hconv, hpend', -, -⟩ := h.enter hmax happ hlen
    have hz' : ¬ ZeroSized C (decide (8 ≤ c₁.pendingBytes.length)) (c₁.pendingBytes ++ bs) := by
      intro hzero
      refine hz ⟨hq, ?_, ?_⟩
      · rw [hfr, hread]
        exact List.length_pos_iff.mp hpos
      · rwa [arriving, hfr, hread, ← hpend]
    rw [← hconv, ← hpend'] at hz'
    rw [hbuf]
    obtain ⟨hp', hz''⟩ := hp.turns hmax hz' ht
    refine ⟨hp'.bounds.ordered, fun c₂ hturn => ?_⟩
    obtain ⟨-, -, hlt, -⟩ := hp'.turn hmax hz'' hturn
    rw [UInt32.lt_iff_toNat_lt]
    omega

/-- What a call of `Front` does, on whatever the socket gives. -/
theorem Sound.front (h : Sound C c) (hmax : C.tcpRecvBufMaxSize.toNat < 2 ^ 31)
    {res : ReadResult} (hres : CanAnswer C c res) :
    (MeetsZero C c res → (c.front C res).2 = .hangs) ∧
    (¬ MeetsZero C c res → FrontTotal C c res ∧
      (¬ MeetsLongHeartbeat C c res → Sound C (c.front C res).1 ∧
        ∀ idx, (c.front C res).2 = .header idx →
          (c.front C res).1.readidx ≠ (c.front C res).1.nextmsgIdx)) := by
  cases hq : c.q with
  | none =>
    have hs := h.doRecv hmax (hres.shm hq)
    have hfront : c.front C res = ((c.doRecv C res).1, .null) := by
      rw [PTCPConnection.front, if_pos (by rw [hq]; rfl)]
    rw [hfront]
    refine ⟨fun hz => ?_, fun _ => ⟨⟨?_, ?_, ?_, ?_⟩, fun _ => ⟨hs, fun idx hidx => by cases hidx⟩⟩⟩
    · rw [MeetsZero, hq] at hz
      exact absurd hz.1 (by simp)
    · simp [hfront]
    · intro o c₀ c₁ he _
      have := he.tcp
      rw [hq] at this
      exact absurd this (by simp)
    · rw [hfront]
      exact hs.bounds.ordered
    · intro idx hidx
      rw [hfront] at hidx
      cases hidx
  | some q =>
    have hsome : c.q.isSome = true := by rw [hq]; rfl
    have hadm := hres.tcp hsome
    have hdef := front_eq (C := C) hsome res
    have hfuel : c.readyBytes.length / 8 < (c.nextmsgIdx - c.readidx).toNat / 8 + 1 := by
      rw [h.bounds.toNat_next_sub_read, length_readyBytes]
      omega
    obtain ⟨c₁, r, hbuf, hs, hpend, hr⟩ : ∃ c₁ r, c.buffered C = (c₁, r) ∧ Sound C c₁ ∧
        c₁.pendingBytes = c.pendingBytes ∧
        (r = none ∨ r = some (.header c₁.readidx.toNat) ∧ c₁.readidx ≠ c₁.nextmsgIdx) := by
      obtain ⟨c₁, r, hbuf, hs, hpend, -, -, hr⟩ := h.skipLoop hfuel
      exact ⟨c₁, r, hbuf, hs, hpend, hr⟩
    unfold FrontAdmissible at hadm
    rw [hbuf] at hdef hadm
    rcases hr with rfl | ⟨rfl, hne⟩
    · -- the call goes on to `DoRecv`
      have hadm' : c₁.Admissible C res := hadm rfl
      have hread : c.frontRead C res = c₁.recvRead C res := by
        rw [frontRead, hbuf, if_pos rfl]
      obtain ⟨hhang, hret⟩ := hs.frontRecv hmax hadm'
      rw [hpend, ← hread] at hhang hret
      have hwait : (c.buffered C).1.waiting = c₁.waiting := by rw [hbuf]
      simp only at hdef
      rw [hdef]
      refine ⟨fun hz => hhang hz.2, fun hz => ?_⟩
      obtain ⟨hans, hsound⟩ := hret fun hz' => hz ⟨hsome, hz'⟩
      refine ⟨⟨?_, ?_, ?_, ?_⟩, fun hl => ⟨hsound fun hl' => hl ⟨hsome, ?_⟩, ?_⟩⟩
      · rw [hdef]
        exact hans.returns
      · exact fun o c₀ c' he ht => hs.frontTurns hmax hbuf hpend hadm' hz he ht
      · rw [hdef]
        exact hans.bounds.ordered
      · rw [hdef]
        exact fun idx hidx => hans.inside hidx
      · rw [hwait]
        exact hl'
      · intro idx hidx
        rcases hans.result with hnull | ⟨-, hne⟩
        · rw [hidx] at hnull
          cases hnull
        · exact hne
    · -- a queued message is returned
      have hread : c.frontRead C res = [] := by
        rw [frontRead, hbuf, if_neg (by simp)]
      have hans : Answered C c₁ (.header c₁.readidx.toNat) := ⟨hs.bounds, Or.inr ⟨rfl, hne⟩⟩
      simp only at hdef
      rw [hdef]
      refine ⟨fun hz => absurd hread hz.2.1, fun _ => ⟨⟨?_, ?_, ?_, ?_⟩, fun _ => ⟨hs, fun _ _ => hne⟩⟩⟩
      · rw [hdef]
        exact hans.returns
      · intro o c₀ c' he _
        have := he.skipped
        rw [hbuf] at this
        cases this
      · rw [hdef]
        exact hs.bounds.ordered
      · rw [hdef]
        exact fun idx hidx => hans.inside hidx

/-! ### Whole runs -/

/-- A connection in use, and whether its user holds a message that `Front` returned. -/
structure Session where
  c : PTCPConnection
  fronted : Bool

namespace Session

def init (C : Conf) : Session := ⟨.new C, false⟩

def front (C : Conf) (s : Session) (res : ReadResult) : Session where
  c := (s.c.front C res).1
  fronted := match (s.c.front C res).2 with
    | .header _ => true
    | _ => false

/-- One operation. `other` stands for every operation that leaves the receiving side alone. -/
inductive Step (C : Conf) : Session → Session → Prop where
  | «open» {s : Session} (hclosed : s.c.isClosed = true) (sockFd : Int) (ack : UInt32) (now : Int)
      (rs : List SendResult) : Step C s ⟨(s.c.open C sockFd ack now rs).1, false⟩
  | front {s : Session} (res : ReadResult) (h : s.c.CanAnswer C res)
      (hz : ¬ s.c.MeetsZero C res) (hl : ¬ s.c.MeetsLongHeartbeat C res) :
      Step C s (s.front C res)
  | pop {s : Session} (h : s.fronted = true) : Step C s ⟨s.c.pop C, false⟩
  | other {s : Session} {c' : PTCPConnection} (h : SameReceiver s.c c') :
      Step C s ⟨c', s.fronted⟩

/-- The states reached by a new connection, on arbitrary bytes. -/
def Reaches (C : Conf) (s : Session) : Prop := Relation.ReflTransGen (Step C) (init C) s

/-- The invariant of a run. -/
structure Inv (C : Conf) (s : Session) : Prop where
  sound : Sound C s.c
  fronted : s.fronted = true → s.c.readidx ≠ s.c.nextmsgIdx

lemma sound_of_zero (hb : Bounds C c) (hread : c.readidx = c.nextmsgIdx)
    (hwrite : c.writeidx = c.nextmsgIdx) : Sound C c := by
  refine ⟨hb, ?_, fun h8 => ?_⟩
  · rw [readyBytes, hread, Nat.sub_self]
    exact .nil
  · rw [length_pendingBytes, hwrite] at h8
    omega

theorem Step.inv {s s' : Session} (hmax : C.tcpRecvBufMaxSize.toNat < 2 ^ 31)
    (hstep : Step C s s') (h : Inv C s) : Inv C s' := by
  obtain ⟨hs, hf⟩ := h
  cases hstep with
  | «open» hclosed sockFd ack now rs =>
    have hr := receives_open s.c hs.bounds.size_le sockFd ack now rs []
    have hnext := hr.contents.next_eq
    have hwrite := hr.contents.write_eq
    rw [lens_nil, Nat.add_zero, UInt32.toNat_inj] at hnext
    rw [Nat.add_zero, UInt32.toNat_inj] at hwrite
    exact ⟨sound_of_zero hr.bounds hnext.symm hwrite, fun h => by cases h⟩
  | front res hres hz hl =>
    obtain ⟨hs', hne⟩ := ((hs.front hmax hres).2 hz).2 hl
    refine ⟨hs', fun hfr => ?_⟩
    simp only [Session.front] at hfr
    split at hfr
    · exact hne _ ‹_›
    · cases hfr
  | pop hfr =>
    have hcons := @Sound.consume C s.c (s.c.pop C) hs (hf hfr) rfl rfl rfl rfl rfl
    exact ⟨hcons.1, fun h => by cases h⟩
  | other hsame =>
    refine ⟨hsame.sound hs, fun hfr => ?_⟩
    rw [hsame.readidx, hsame.nextmsgIdx]
    exact hf hfr

theorem Reaches.inv {s : Session} (hmax : C.tcpRecvBufMaxSize.toNat < 2 ^ 31)
    (h : Reaches C s) : Inv C s := by
  induction h with
  | refl =>
    have hb : Bounds C (PTCPConnection.new C) :=
      ⟨le_rfl, le_rfl, le_rfl, Nat.zero_le _, rfl, rfl⟩
    exact ⟨sound_of_zero hb rfl rfl, fun h => by cases h⟩
  | tail _ hstep ih => exact hstep.inv hmax ih

/-- In a run whose calls of `Front` come to no header of size 0 and queue no heartbeat that does
not take 8 bytes, whatever else is received, the indices stay in order, and a call of `Front` is
total exactly when it comes to no header of size 0. -/
theorem Reaches.front_total_iff {s : Session} (hmax : C.tcpRecvBufMaxSize.toNat < 2 ^ 31)
    (h : Reaches C s) :
    s.c.Ordered ∧ ∀ res, s.c.CanAnswer C res → (FrontTotal C s.c res ↔ ¬ s.c.MeetsZero C res) := by
  have hinv := h.inv hmax
  refine ⟨hinv.sound.bounds.ordered, fun res hres => ?_⟩
  have hfront := hinv.sound.front hmax hres
  constructor
  · intro ht hz
    exact ht.returns (hfront.1 hz)
  · intro hz
    exact (hfront.2 hz).1

/-- A receive buffer of 64 bytes. -/
def wideConf : Conf where
  endian := ⟨true, true⟩
  tcpQueueSize := .fourBlocks
  tcpRecvBufInitSize := 64
  tcpRecvBufMaxSize := 64
  heartBeatInverval := 10
  connectionTimeout := 100
  init_le_max := le_rfl
  init_aligned := rfl
  max_aligned := rfl

def wideOpen : Session :=
  ⟨(((PTCPConnection.new wideConf).openFile (.init fun _ => default)).open wideConf 3 0 0 []).1,
    false⟩

lemma reaches_wideOpen : Reaches wideConf wideOpen := by
  have hsame : SameReceiver (PTCPConnection.new wideConf)
      ((PTCPConnection.new wideConf).openFile (.init fun _ => default)) :=
    ⟨rfl, rfl, rfl, rfl, rfl, rfl, Or.inl rfl⟩
  exact .tail (.single (.other hsame)) (.open (by decide) 3 0 0 [])

lemma canAnswer_wideOpen {bs : List UInt8} (hpos : 0 < bs.length) (hle : bs.length ≤ 64) :
    wideOpen.c.CanAnswer wideConf (.data bs) := by
  have hoff : (wideOpen.c.buffered wideConf).1.offered wideConf = 64 := by decide
  have hsock : 0 ≤ (wideOpen.c.buffered wideConf).1.sockfd := by decide
  refine ⟨fun _ _ => ⟨hpos, ?_, hsock⟩, fun hq => ?_⟩
  · rw [hoff]
    exact hle
  · exact absurd (congrArg Option.isSome hq) (by decide)

/-- A message of seven bytes, shorter than its own header, does no harm. -/
theorem Reaches.front_total_iff_seven :
    FrontTotal wideConf wideOpen.c (.data [7, 0, 1, 0, 0, 0, 0, 0]) := by
  have hres : wideOpen.c.CanAnswer wideConf (.data [7, 0, 1, 0, 0, 0, 0, 0]) :=
    canAnswer_wideOpen (by decide) (by decide)
  refine ((reaches_wideOpen.front_total_iff (by decide)).2 _ hres).mpr ?_
  rintro ⟨-, -, hz⟩
  cases hz with
  | here _ hsize => exact absurd hsize (by decide)
  | later _ hz =>
    cases hz with
    | here h8 _ => exact absurd h8 (by decide)
    | later hc _ => exact absurd hc.header (by decide)

/-- A message of type 1, and behind it a heartbeat of 16 bytes whose second half looks like the
header of a message of 100 bytes. -/
def longStream : List UInt8 :=
  [8, 0, 1, 0, 0, 0, 0, 0, 16, 0, 0, 0, 0, 0, 0, 0, 100, 0, 1, 0, 0, 0, 0, 0]

/-- The user pops the message, gets the second half of the heartbeat as the next one, and pops
it. -/
def longRun : Session :=
  let s := wideOpen.front wideConf (.data longStream)
  let s := (⟨s.c.pop wideConf, false⟩ : Session).front wideConf .again
  ⟨s.c.pop wideConf, false⟩

/-- On eight bytes of 0 `Front` never returns; and a heartbeat of 16 bytes behind a message lets
`readidx_` run past `nextmsg_idx_`. -/
theorem front_not_total :
    let zeros : ReadResult := .data (List.replicate 8 0)
    Reaches wideConf wideOpen ∧ wideOpen.c.CanAnswer wideConf zeros ∧
      (wideOpen.c.front wideConf zeros).2 = .hangs ∧ ¬ FrontTotal wideConf wideOpen.c zeros ∧
      wideOpen.c.CanAnswer wideConf (.data longStream) ∧
      (wideOpen.front wideConf (.data longStream)).fronted = true ∧
      longRun.c.nextmsgIdx = 24 ∧ longRun.c.readidx = 120 ∧ ¬ longRun.c.Ordered := by
  have hhang : (wideOpen.c.front wideConf (.data (List.replicate 8 0))).2 = .hangs := by
    decide +kernel
  have hnext : longRun.c.nextmsgIdx = 24 := by decide +kernel
  have hread : longRun.c.readidx = 120 := by decide +kernel
  refine ⟨reaches_wideOpen, canAnswer_wideOpen (by decide) (by decide), hhang,
    fun ht => ht.returns hhang, canAnswer_wideOpen (by decide) (by decide), by decide +kernel,
    hnext, hread, ?_⟩
  rintro ⟨hle, -⟩
  rw [hnext, hread] at hle
  exact absurd hle (by decide)

end Session

end PTCPConnection

end Tcpshm
