import Tcpshm.PtcpConn.Stream

/-!
# Between `Alloc` and `Push`

`Push` finds the message it submits at `write_idx_`. An ack read in between that covers all stored
messages sets the indices back to 0, and `Push` then submits what lies there.
-/

namespace Tcpshm

/-! ### Acks and the window -/

namespace Window

def acks (W : Window) (as : List UInt32) : Window := as.foldl ack W

/-- Acks a peer can send: none is beyond the stored messages, and what they cover was sent. -/
def LegitAcks : Window → List UInt32 → Prop
  | _, [] => True
  | W, a :: as => W.NotBeyond a ∧ W.FullySent a ∧ LegitAcks (W.ack a) as

instance decidableLegitAcks : ∀ (W : Window) (as : List UInt32), Decidable (W.LegitAcks as)
  | _, [] => inferInstanceAs (Decidable True)
  | W, a :: as =>
    have := decidableLegitAcks (W.ack a) as
    inferInstanceAs (Decidable (_ ∧ _ ∧ _))

end Window

namespace PTCPConnection

variable {C : Conf} {c c' : PTCPConnection}

/-! ### Calls in between -/

/-- A call of the polling thread between `Alloc` and `Push`. -/
inductive Call where
  | front (res : ReadResult)
  | sendHB (now : Int) (rs : List SendResult) (res : SendResult)

namespace Call

def run (C : Conf) (c : PTCPConnection) : Call → PTCPConnection
  | front res => (c.front C res).1
  | sendHB now rs res => (c.sendHB C now rs res).1

/-- The acks the call applies. -/
def acks (C : Conf) (c : PTCPConnection) : Call → List UInt32
  | front res => c.frontAcks C res
  | sendHB _ _ _ => []

/-- The window after the call: acks drop messages, sending moves `send_idx_`. -/
def window (C : Conf) (c : PTCPConnection) (W : Window) (e : Call) : Window :=
  match e, (e.run C c).q with
  | sendHB _ _ _, some q => { W with sent := (q.sendIdx - q.readIdx).toNat }
  | _, _ => W.acks (e.acks C c)

end Call

/-- The connection and the window after some calls. -/
def runCalls (C : Conf) (c : PTCPConnection) (W : Window) : List Call → PTCPConnection × Window
  | [] => (c, W)
  | e :: es => runCalls C (e.run C c) (e.window C c W) es

/-- The peer sends legitimate acks throughout. -/
def LegitCalls (C : Conf) (c : PTCPConnection) (W : Window) : List Call → Prop
  | [] => True
  | e :: es => W.LegitAcks (e.acks C c) ∧ LegitCalls C (e.run C c) (e.window C c W) es

instance decidableLegitCalls (C : Conf) : ∀ (c : PTCPConnection) (W : Window) (es : List Call),
    Decidable (LegitCalls C c W es)
  | _, _, [] => inferInstanceAs (Decidable True)
  | c, W, e :: es =>
    have := decidableLegitCalls C (e.run C c) (e.window C c W) es
    inferInstanceAs (Decidable (_ ∧ _))

/-- From the queue `q₀` with window `W₀` on, only acks and sending have happened. The write index is
where it was, unless acks have emptied the queue and set it back. -/
structure Since (C : Conf) (q₀ : PTCPQueue) (W₀ : Window) (q : PTCPQueue) (W : Window) :
    Prop where
  represents : q.Represents C.tcpQueueSize C.endian W
  blk_eq : q.blk = q₀.blk
  ackSeqNum_eq : q.ackSeqNum = q₀.ackSeqNum
  suffix : W.msgs <:+ W₀.msgs
  write_eq : ¬ (W₀.msgs ≠ [] ∧ W.msgs = []) → q.writeIdx = q₀.writeIdx
  reset : W₀.msgs ≠ [] ∧ W.msgs = [] → q.writeIdx = 0 ∧ q.readIdx = 0

variable {q₀ q : PTCPQueue} {W₀ W : Window}

lemma since_refl (h : q.Represents C.tcpQueueSize C.endian W) : Since C q W q W :=
  ⟨h, rfl, rfl, List.suffix_rfl, fun _ => rfl, fun ⟨h₁, h₂⟩ => absurd h₂ h₁⟩

lemma Since.ack (h : Since C q₀ W₀ q W) {a : UInt32} (ha : W.NotBeyond a) (hs : W.FullySent a) :
    Since C q₀ W₀ (q.ack C.endian a) (W.ack a) := by
  have hr := h.represents
  have hk := hr.covered_le ha
  rw [← hr.first_eq] at hk
  have hframe : (q.ack C.endian a).blk = q.blk ∧ (q.ack C.endian a).ackSeqNum = q.ackSeqNum :=
    PTCPQueue.ack_frame q a
  have hmsgs : (W.ack a).msgs = W.msgs.drop (covered q.readSeqNum a) := by
    rw [hr.first_eq]
    rfl
  refine ⟨hr.ack ha hs, hframe.1.trans h.blk_eq, hframe.2.trans h.ackSeqNum_eq, ?_, ?_, ?_⟩
  · rw [hmsgs]
    exact (List.drop_suffix _ _).trans h.suffix
  · intro hno
    rw [hmsgs] at hno
    obtain ⟨h₀, heq⟩ | ⟨hpos, hall, heq⟩ | ⟨hpos, hlt, heq⟩ := hr.toHolds.ack_cases rfl hk
    · rw [heq]
      rw [h₀, List.drop_zero] at hno
      exact h.write_eq hno
    · -- the queue was emptied, so that nothing can have been stored at first
      exfalso
      rw [hall, List.drop_length] at hno
      have hnil : W₀.msgs = [] := by
        by_contra hne
        exact hno ⟨hne, rfl⟩
      have := h.suffix
      rw [hnil, List.suffix_nil] at this
      rw [this, List.length_nil] at hall
      omega
    · rw [heq]
      refine h.write_eq fun ⟨_, hnil⟩ => ?_
      rw [hnil, List.length_nil] at hlt
      omega
  · rintro ⟨hne, hnil⟩
    rw [hmsgs] at hnil
    obtain ⟨h₀, heq⟩ | ⟨hpos, hall, heq⟩ | ⟨hpos, hlt, heq⟩ := hr.toHolds.ack_cases rfl hk
    · rw [heq]
      rw [h₀, List.drop_zero] at hnil
      exact h.reset ⟨hne, hnil⟩
    · rw [heq]
      exact ⟨rfl, rfl⟩
    · exfalso
      rw [List.drop_eq_nil_iff] at hnil
      omega

lemma Since.acks (h : Since C q₀ W₀ q W) {as : List UInt32} (ha : W.LegitAcks as) :
    Since C q₀ W₀ (applyAcks C q as) (W.acks as) := by
  induction as generalizing q W with
  | nil => exact h
  | cons a as ih => exact ih (h.ack ha.1 ha.2.1) ha.2.2

lemma Since.sendout (h : Since C q₀ W₀ q W) {n : Nat} (hn : n ≤ q.getSendable.2.toNat) :
    Since C q₀ W₀ (q.sendout (UInt32.ofNat n))
      { W with sent := ((q.sendout (UInt32.ofNat n)).sendIdx - q.readIdx).toNat } := by
  have hr := h.represents
  have hle := hr.sent_le
  have hlt := q.getSendable.2.toNat_lt
  have hofNat : (UInt32.ofNat n).toNat = n := UInt32.toNat_ofNat_lt (by omega)
  rw [hr.toNat_sendable] at hn
  have hsent := hr.sendout (n := UInt32.ofNat n) (by omega)
  have hw : ((q.sendout (UInt32.ofNat n)).sendIdx - q.readIdx).toNat =
      (W.sendout (UInt32.ofNat n).toNat).sent := by
    have := hsent.send_eq
    rw [UInt32.toNat_sub_of_le']
    · exact Nat.sub_eq_of_eq_add' this
    · exact this ▸ Nat.le_add_right _ _
  rw [hw]
  exact ⟨hsent, h.blk_eq, h.ackSeqNum_eq, h.suffix, h.write_eq, h.reset⟩

lemma Since.of_sentFrom (h : Since C q₀ W₀ q W) (hq : c.q = some q) (hs : SentFrom c c') :
    ∃ q', c'.q = some q' ∧ Since C q₀ W₀ q' { W with sent := (q'.sendIdx - q'.readIdx).toNat } := by
  rcases hs with hs | ⟨q', n, hq', hn, hs⟩
  · have hr := h.represents
    have hsent : (q.sendIdx - q.readIdx).toNat = W.sent := by
      have := hr.send_eq
      rw [UInt32.toNat_sub_of_le' (by omega)]
      omega
    exact ⟨q, hs.trans hq, by rw [hsent]; exact h⟩
  · rw [hq] at hq'
    obtain rfl := Option.some.inj hq'
    exact ⟨_, hs, h.sendout hn⟩

lemma Since.call (h : Since C q₀ W₀ q W) (hq : c.q = some q) {e : Call}
    (he : W.LegitAcks (e.acks C c)) :
    ∃ q', (e.run C c).q = some q' ∧ Since C q₀ W₀ q' (e.window C c W) := by
  cases e with
  | front res =>
    refine ⟨applyAcks C q (c.frontAcks C res), ?_, h.acks he⟩
    show (c.front C res).1.q = _
    rw [q_front (by rw [hq]; rfl), hq]
    rfl
  | sendHB now rs res =>
    obtain ⟨q', hq', hs⟩ := h.of_sentFrom hq (sendHB_frame (C := C) c now rs res).2.1
    refine ⟨q', hq', ?_⟩
    have hwin : (Call.sendHB now rs res).window C c W =
        { W with sent := (q'.sendIdx - q'.readIdx).toNat } := by
      unfold Call.window
      rw [show ((Call.sendHB now rs res).run C c).q = some q' from hq']
    rw [hwin]
    exact hs

lemma Since.calls {es : List Call} (h : Since C q₀ W₀ q W) (hq : c.q = some q)
    (he : LegitCalls C c W es) :
    ∃ q', (runCalls C c W es).1.q = some q' ∧ Since C q₀ W₀ q' (runCalls C c W es).2 := by
  induction es generalizing c q W with
  | nil => exact ⟨q, hq, h⟩
  | cons e es ih =>
    obtain ⟨q', hq', h'⟩ := h.call hq he.1
    exact ih h' hq' he.2

/-! ### `Push` -/

/-- The queue stores `ms` and then `m`, which is the message at `p`. -/
def Submits (C : Conf) (q : PTCPQueue) (p : Nat) (ms : List Msg) (m : Msg) : Prop :=
  q.Holds C.tcpQueueSize C.endian (ms ++ [m]) ∧ q.writeIdx.toNat = p + m.blkCnt

lemma push_queue (c : PTCPConnection) (rs : List SendResult) (hq : c.q = some q) :
    ∃ q', (c.push C rs).1.q = some q' ∧ q'.blk = (q.push C.endian).blk ∧
      q'.writeIdx = (q.push C.endian).writeIdx ∧ q'.readIdx = q.readIdx := by
  have hmore : (c.pushMore C).q = some (q.push C.endian) := by
    rw [pushMore, onQueue, hq]
    rfl
  obtain ⟨-, hs, -⟩ := sendPending_frame (C := C) (c.pushMore C) rs
  rcases hs with hs | ⟨q', n, hq', -, hs⟩
  · exact ⟨_, hs.trans hmore, rfl, rfl, rfl⟩
  · rw [hmore] at hq'
    obtain rfl := Option.some.inj hq'
    exact ⟨_, hs, rfl, rfl, rfl⟩

/-- After calls of `Front` and `SendHB`, `Push` submits the message `Alloc` returned, behind the
stored messages that are not acked, exactly when it is not so that messages were stored and the acks
read in between have covered all of them. -/
theorem push_submits_iff {size t : UInt16} {body : List MsgHeader} {p : Nat} {es : List Call}
    (hq : c.q = some q) (hr : q.Represents C.tcpQueueSize C.endian W)
    (hp : (c.alloc C size).2 = some p) (hbody : body.length + 1 = (blkSz (size + 8)).toNat)
    (hes : LegitCalls C ((c.alloc C size).1.onQueue fun q => q.fill p t body) W es)
    (rs : List SendResult) :
    let after := runCalls C ((c.alloc C size).1.onQueue fun q => q.fill p t body) W es
    (∃ q', (after.1.push C rs).1.q = some q' ∧
      Submits C q' p after.2.msgs (q.filled size t body hbody)) ↔
    ¬ (W.msgs ≠ [] ∧ after.2.msgs = []) := by
  intro after
  have halloc : c.alloc C size = ({ c with q := some (q.alloc C.tcpQueueSize size).1 },
      (q.alloc C.tcpQueueSize size).2) := by
    rw [PTCPConnection.alloc, hq]
  rw [halloc] at hp
  obtain ⟨rfl, hroom, hsize, hh, -, hack, -⟩ := hr.toHolds.alloc_some hp
  have hra := hr.alloc size
  set qa := (q.alloc C.tcpQueueSize size).1 with hqa
  set qf := qa.fill qa.writeIdx.toNat t body with hqf
  have hrf : qf.Represents C.tcpQueueSize C.endian W :=
    ⟨hra.toHolds.fill t body, hra.first_eq, hra.send_eq, hra.sent_le⟩
  have hcf : ((c.alloc C size).1.onQueue fun q => q.fill qa.writeIdx.toNat t body).q = some qf := by
    rw [halloc]
    rfl
  obtain ⟨q₂, hq₂, hsince⟩ := (since_refl hrf).calls hcf hes
  obtain ⟨q', hq', hblk, hwrite, hread⟩ := push_queue (C := C) after.1 rs hq₂
  obtain ⟨hhead, htail⟩ := PTCPQueue.fill_at_write qa t hbody hsize
  have hfilled : q.filled size t body hbody = qa.filled size t body hbody := by
    simp only [PTCPQueue.filled, hack]
  have hr₂ := hsince.represents
  constructor
  · rintro ⟨q'', hq'', hsub, hidx⟩ ⟨hne, hnil⟩
    rw [hq'] at hq''
    obtain rfl := Option.some.inj hq''
    -- the message would have to start at index 0
    obtain ⟨-, hread0⟩ := hsince.reset ⟨hne, hnil⟩
    have hlen := hsub.write_eq
    have h0 : (0 : UInt32).toNat = 0 := rfl
    rw [hread, hread0, h0, hnil, List.nil_append, blkCnts_cons, blkCnts_nil] at hlen
    have hwf := hra.write_eq
    have hpos : blkCnts W.msgs ≠ 0 := fun h0 => hne (blkCnts_eq_zero.mp h0)
    omega
  · intro hno
    have hw := hsince.write_eq hno
    rw [hfilled]
    set m := qa.filled size t body hbody with hm
    have hroom' : q₂.writeIdx.toNat + m.blkCnt ≤ C.tcpQueueSize.blkCnt.toNat := by
      rw [hw, m.blkCnt_eq]
      exact hroom
    have hpush : (q₂.push C.endian).Holds C.tcpQueueSize C.endian (after.2.msgs ++ [m]) := by
      refine hr₂.toHolds.push m ?_ ?_ hroom'
      · rw [hhead, hsince.blk_eq, hw, hsince.ackSeqNum_eq]
      · rw [hsince.blk_eq, hw]
        exact htail
    have hend := hpush.write_eq
    have hbegin : q₂.writeIdx.toNat = q₂.readIdx.toNat + blkCnts after.2.msgs := hr₂.write_eq
    have hread₂ : (q₂.push C.endian).readIdx = q₂.readIdx := rfl
    rw [hread₂, blkCnts_append, blkCnts_cons, blkCnts_nil] at hend
    refine ⟨q', hq', ⟨?_, ?_, ?_⟩, ?_⟩
    · rw [hwrite]
      exact hpush.write_le
    · rw [hwrite, hread]
      exact hpush.write_eq
    · rw [hblk, hread]
      exact hpush.blk_eq
    · have hqf : qf.writeIdx = qa.writeIdx := rfl
      rw [hqf] at hw
      rw [hwrite, ← hw]
      omega

/-- A little-endian host with a queue of four blocks. -/
def nativeConf : Conf := .tiny ⟨true, true⟩

/-- An opened connection that has pushed and sent one message of type 1. -/
def sentOne : PTCPConnection :=
  let c := (PTCPConnection.open nativeConf
    ((PTCPConnection.new nativeConf).openFile (.init fun _ => default)) 3 0 0 []).1
  ((((c.alloc nativeConf 0).1.onQueue fun q => q.fill 0 1 []).push nativeConf) [.sent 8]).1

def sentOneWindow : Window := ⟨0, [⟨⟨8, 1, 0⟩, [], rfl⟩], 1⟩

lemma represents_sentOne : ∃ q, sentOne.q = some q ∧
    q.Represents nativeConf.tcpQueueSize nativeConf.endian sentOneWindow :=
  ⟨_, rfl, ⟨⟨by decide, by decide, by decide⟩, by decide, by decide, by decide⟩⟩

/-- A heartbeat of the peer that acks the message. -/
def ackHeartbeat : ReadResult := .data (MsgHeader.toBytes true ⟨8, 0, 1⟩)

/-- Where no ack arrives in between, the message of type 2 is submitted. -/
theorem push_submits_iff_no_ack : ∃ q m, sentOne.q = some q ∧ ∃ q',
    ((runCalls nativeConf ((sentOne.alloc nativeConf 0).1.onQueue fun q => q.fill 1 2 [])
      sentOneWindow [.front .again]).1.push nativeConf []).1.q = some q' ∧
    Submits nativeConf q' 1 sentOneWindow.msgs m := by
  obtain ⟨q, hq, hr⟩ := represents_sentOne
  have hes : LegitCalls nativeConf ((sentOne.alloc nativeConf 0).1.onQueue fun q => q.fill 1 2 [])
    sentOneWindow [.front .again] := by decide
  obtain ⟨q', h⟩ := (push_submits_iff hq hr (by decide) rfl hes []).mpr (by decide)
  exact ⟨q, q.filled 0 2 [] rfl, hq, q', h⟩

/-- If the ack arrives between `Alloc` and `Push`, the message of type 2 is lost and the one of
type 1 is submitted again. -/
theorem push_resubmits : ∃ q, sentOne.q = some q ∧
    q.Represents nativeConf.tcpQueueSize nativeConf.endian sentOneWindow ∧
    (sentOne.alloc nativeConf 0).2 = some 1 ∧
    let c := (sentOne.alloc nativeConf 0).1.onQueue fun q => q.fill 1 2 []
    LegitCalls nativeConf c sentOneWindow [.front ackHeartbeat] ∧
    ∃ q', ((runCalls nativeConf c sentOneWindow [.front ackHeartbeat]).1.push nativeConf []).1.q =
        some q' ∧ (q'.readIdx, q'.writeIdx, q'.blk 0) = (0, 1, ⟨8, 1, 0⟩) ∧
      ∀ m : Msg, m.header.msgType = 2 → ¬ q'.Holds nativeConf.tcpQueueSize nativeConf.endian [m] := by
  obtain ⟨q, hq, hr⟩ := represents_sentOne
  refine ⟨q, hq, hr, by decide, by decide, _, rfl, by decide, ?_⟩
  intro m hm hh
  have hfirst := congrArg List.head? hh.blk_eq
  have hone : (⟨8, 1, 0⟩ : MsgHeader) = m.header.convertByteOrder nativeConf.endian :=
    Option.some.inj hfirst
  have htype : (1 : UInt16) = m.header.msgType := congrArg MsgHeader.msgType hone
  rw [hm] at htype
  exact absurd htype (by decide)

end PTCPConnection

end Tcpshm
