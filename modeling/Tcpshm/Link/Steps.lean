import Tcpshm.Link.Sending

/-!
# What a step of one side does

A step keeps the counts of its side, takes the incoming stream further from its front, and the
outgoing one from its end.
-/

namespace Tcpshm

open PTCPConnection

/-! ### The queue of a side -/

/-- The queue stores the messages from number `f` on, and has counted `k` pops. -/
structure Stores (C : Conf) (q : PTCPQueue) (ms : List Msg) (f k : Nat) : Prop where
  holds : q.Holds C.tcpQueueSize C.endian (ms.drop f)
  le : f ≤ ms.length
  readSeqNum : q.readSeqNum = UInt32.ofNat f
  ackSeqNum : q.ackSeqNum = UInt32.ofNat k

namespace Stores

variable {C : Conf} {q : PTCPQueue} {ms : List Msg} {f k : Nat}

lemma stored_lt (h : Stores C q ms f k) : ms.length < f + 2 ^ 29 := by
  have := h.holds.length_lt
  rw [List.length_drop] at this
  omega

lemma sendout (h : Stores C q ms f k) (i : UInt32) : Stores C (q.sendout i) ms f k :=
  ⟨⟨h.holds.write_le, h.holds.write_eq, h.holds.blk_eq⟩, h.le, h.readSeqNum, h.ackSeqNum⟩

lemma incMyAck (h : Stores C q ms f k) : Stores C q.incMyAck ms f (k + 1) := by
  refine ⟨⟨h.holds.write_le, h.holds.write_eq, h.holds.blk_eq⟩, h.le, h.readSeqNum, ?_⟩
  rw [UInt32.ofNat_succ, ← h.ackSeqNum]
  rfl

lemma alloc (h : Stores C q ms f k) (size : UInt16) :
    Stores C (q.alloc C.tcpQueueSize size).1 ms f k := by
  refine ⟨h.holds.alloc size, h.le, ?_, (PTCPQueue.ackSeqNum_alloc q size).trans h.ackSeqNum⟩
  rw [← h.readSeqNum]
  simp only [PTCPQueue.alloc]
  split_ifs <;> rfl

lemma fill (h : Stores C q ms f k) (msgType : UInt16) (body : List MsgHeader) :
    Stores C (q.fill q.writeIdx.toNat msgType body) ms f k :=
  ⟨h.holds.fill msgType body, h.le, h.readSeqNum, h.ackSeqNum⟩

lemma push (h : Stores C q ms f k) {size msgType : UInt16} {body : List MsgHeader} {p : Nat}
    (hp : (q.alloc C.tcpQueueSize size).2 = some p)
    (hbody : body.length + 1 = (blkSz (size + 8)).toNat) :
    Stores C (((q.alloc C.tcpQueueSize size).1.fill p msgType body).push C.endian)
      (ms ++ [q.filled size msgType body hbody]) f k := by
  have ha := h.alloc size
  refine ⟨?_, by rw [List.length_append]; exact Nat.le_add_right_of_le h.le, ha.readSeqNum,
    ha.ackSeqNum⟩
  rw [List.drop_append_of_le_length h.le]
  exact h.holds.alloc_fill_push hp msgType hbody

lemma acks (h : Stores C q ms f k) {as : List UInt32} (hle : ackAll f as ≤ ms.length) :
    Stores C (applyAcks C q as) ms (ackAll f as) k := by
  obtain ⟨h₁, h₂, h₃⟩ := holds_applyAcks_counted h.holds h.readSeqNum hle
  exact ⟨h₁, hle, h₂, h₃.trans h.ackSeqNum⟩

/-- `LoginAck` goes on from the ack, with nothing sent. -/
lemma loginAck (h : Stores C q ms f k) {b : Nat} (hf : f ≤ b) (hb : b ≤ ms.length) :
    Stores C (q.loginAck C.endian (UInt32.ofNat b)) ms b k ∧
    (q.loginAck C.endian (UInt32.ofNat b)).Represents C.tcpQueueSize C.endian
      ⟨UInt32.ofNat b, ms.drop b, 0⟩ := by
  have hlt := h.stored_lt
  have hcov : covered q.readSeqNum (UInt32.ofNat b) = b - f := by
    have := ackTo_ofNat hf (by omega)
    rw [ackTo] at this
    rw [h.readSeqNum]
    omega
  have hr := h.holds.loginAck (a := UInt32.ofNat b) (by rw [hcov, List.length_drop]; omega)
  have hwin : Window.loginAck ⟨q.readSeqNum, ms.drop f, 0⟩ (UInt32.ofNat b) =
      ⟨UInt32.ofNat b, ms.drop b, 0⟩ := by
    simp only [Window.loginAck, Window.ack, Window.drop, hcov, List.drop_drop]
    rw [h.readSeqNum, ← UInt32.ofNat_add, show f + (b - f) = b by omega]
  rw [hwin] at hr
  refine ⟨⟨hr.toHolds, hb, hr.first_eq, ?_⟩, hr⟩
  rw [← h.ackSeqNum]
  exact (PTCPQueue.ack_frame q _).2

/-- The check accepts the queue when no stored ack is too new. -/
lemma sanityCheck (h : Stores C q ms f k) :
    q.sanityCheckAndGetSeq C.tcpQueueSize C.endian = if q.AcksOld (ms.drop f) then
      .ok (UInt32.ofNat f) (UInt32.ofNat ms.length) else .corrupt := by
  rw [h.holds.sanityCheck, h.readSeqNum, ← UInt32.ofNat_add, List.length_drop,
    show f + (ms.length - f) = ms.length by have := h.le; omega]

end Stores

/-- The queue, and the pushes in relation to the pops. -/
structure Counts (C : Conf) (P : Peer) (f : Nat) : Prop where
  stores : Stores C P.queue P.msgs f P.popped.length
  born : List.Forall₂ (PTCPQueue.BornAt P.popped.length) P.msgs P.births
  hbmsg : IsHbmsg C P.conn.hbmsg
  opened : 0 ≤ P.conn.sockfd → P.conn.q.isSome

/-- The receiver of the messages `pushed` on a host with configuration `CX`. -/
structure Receiving (CX C : Conf) (pushed : List AppMsg) (P : Peer) (ready rest : List Frame)
    (n : Nat) : Prop where
  receives : Receives C P.conn ready rest n
  fronted : ∀ idx ∈ P.fronted, idx = P.conn.readidx.toNat ∧ ready ≠ [] ∧ AppFirst ready
  popped_eq : P.popped = (pushed.take P.popped.length).map fun m => Listening.view (m.frame CX)

/-! ### Queue and connection -/

section

variable {C : Conf} {c c' : PTCPConnection} {q : PTCPQueue}

lemma alloc_eq (hq : c.q = some q) (size : UInt16) :
    (c.alloc C size).1 = { c with q := some (q.alloc C.tcpQueueSize size).1 } := by
  rw [PTCPConnection.alloc, hq]

lemma allocFill_eq (hq : c.q = some q) (size msgType : UInt16) (body : List MsgHeader) (p : Nat) :
    c.allocFill C size msgType body p = { c with
      q := some ((q.alloc C.tcpQueueSize size).1.fill p msgType body) } := by
  rw [PTCPConnection.allocFill, alloc_eq hq]
  rfl

lemma pushMore_allocFill (hq : c.q = some q) (size msgType : UInt16) (body : List MsgHeader)
    (p : Nat) : (c.allocFill C size msgType body p).pushMore C = { c with
      q := some (((q.alloc C.tcpQueueSize size).1.fill p msgType body).push C.endian) } := by
  rw [PTCPConnection.allocFill, alloc_eq hq]
  rfl

lemma push_eq (c : PTCPConnection) (rs : List SendResult) :
    c.push C rs = (((c.pushMore C).sendPending C rs).1, ((c.pushMore C).sendPending C rs).2.1) :=
  rfl

lemma Stores.of_sentFrom {ms : List Msg} {f k : Nat} (hq : c.q = some q) (hs : Stores C q ms f k)
    (h : SentFrom c c') : ∃ q', c'.q = some q' ∧ Stores C q' ms f k := by
  rcases h with heq | ⟨q₁, i, hq₁, -, heq⟩
  · exact ⟨q, heq.trans hq, hs⟩
  · rw [hq] at hq₁
    obtain rfl := Option.some.inj hq₁
    exact ⟨_, heq, hs.sendout _⟩

lemma queue_withConn {P : Peer} (hq : c.q = some q) : (P.withConn c).queue = q := by
  show c.q.getD P.file = q
  rw [hq]
  rfl

end

namespace Peer

variable {C CX : Conf} {P P' : Peer} {inc : List UInt8} {ex : Exchanged} {f k n : Nat}
  {pushed : List AppMsg} {ready rest : List Frame}

lemma queue_eq {q : PTCPQueue} (hq : P.conn.q = some q) : P.queue = q := by
  rw [queue, hq]
  rfl

lemma counts_withConn {c : PTCPConnection} {q : PTCPQueue} (h : Counts C P f)
    (hq : P.conn.q = some q) (hsent : SentFrom P.conn c) (hhb : IsHbmsg C c.hbmsg) :
    Counts C (P.withConn c) f := by
  have hs := h.stores
  rw [queue_eq hq] at hs
  obtain ⟨q', hq', hs'⟩ := hs.of_sentFrom hq hsent
  refine ⟨?_, h.born, hhb, fun _ => ?_⟩
  · rw [queue_withConn hq']
    exact hs'
  · show c.q.isSome
    rw [hq']
    rfl

/-- What was pushed is stored, with the current ack. -/
lemma counts_afterPush {q : PTCPQueue} {c : PTCPConnection} {size msgType : UInt16}
    {body : List MsgHeader} {p : Nat} (h : Counts C P f) (hq : P.conn.q = some q)
    (hp : (q.alloc C.tcpQueueSize size).2 = some p) (hsize : size.toNat + 8 ≤ 65535)
    (hmsgType : msgType ≠ 0) (hbody : body.length + 1 = (blkSz (size + 8)).toNat)
    (hsent : SentFrom ((P.conn.allocFill C size msgType body p).pushMore C) c)
    (hhb : IsHbmsg C c.hbmsg) :
    Counts C (P.afterPush c (q.appMsg hsize hmsgType hbody)) f := by
  have hs := h.stores
  rw [queue_eq hq] at hs
  rw [pushMore_allocFill hq] at hsent
  obtain ⟨q', hq', hs'⟩ := (hs.push hp hbody).of_sentFrom rfl hsent
  have hmsgs : (P.afterPush c (q.appMsg hsize hmsgType hbody)).msgs =
      P.msgs ++ [q.filled size msgType body hbody] := List.map_append
  refine ⟨?_, ?_, hhb, fun _ => ?_⟩
  · rw [hmsgs, show (P.afterPush c _).queue = q' from queue_withConn (P := P) hq']
    exact hs'
  · rw [hmsgs]
    exact List.rel_append h.born (.cons ⟨hs.ackSeqNum, le_rfl⟩ .nil)
  · show c.q.isSome
    rw [hq']
    rfl

/-- Steps other than `Front` and `Pop` leave the receive side alone. -/
theorem Step.cases_receive (h : Step C inc P ex P') :
    (SameReceiver P.conn P'.conn ∧ P'.fronted = P.fronted ∧ P'.popped = P.popped ∧ ex.read = [] ∧
      ex.acks = [] ∧ (∀ {f}, Counts C P f → Counts C P' f)) ∨
    (∃ res, P.conn.q.isSome ∧ P.conn.FrontAdmissible C res ∧ P.conn.frontRead C res <+: inc ∧
      ex = ⟨P.conn.frontRead C res, [], P.conn.frontAcks C res⟩ ∧ P' = P.front C res) ∨
    ∃ idx, P.conn.q.isSome ∧ P.fronted = some idx ∧ ex = ⟨[], [], []⟩ ∧ P' = P.pop C idx := by
  cases h with
  | alloc size hsize hq =>
    obtain ⟨q, hq⟩ := Option.isSome_iff_exists.mp hq
    refine Or.inl ⟨?_, rfl, rfl, rfl, rfl, fun hc => ?_⟩
    · rw [alloc_eq hq]
      exact ⟨rfl, rfl, rfl, rfl, rfl, rfl, Or.inl rfl⟩
    · have hs := hc.stores
      rw [queue_eq hq] at hs
      rw [alloc_eq hq]
      exact ⟨hs.alloc size, hc.born, hc.hbmsg, fun _ => rfl⟩
  | @fill q size p msgType body hq hp =>
    refine Or.inl ⟨?_, rfl, rfl, rfl, rfl, fun hc => ?_⟩
    · rw [allocFill_eq hq]
      exact ⟨rfl, rfl, rfl, rfl, rfl, rfl, Or.inl rfl⟩
    · have hs := hc.stores
      rw [queue_eq hq] at hs
      obtain ⟨rfl, -⟩ := hs.holds.alloc_some hp
      rw [allocFill_eq hq]
      exact ⟨(hs.alloc size).fill msgType body, hc.born, hc.hbmsg, fun _ => rfl⟩
  | @push q size msgType body p c hsize hmsgType hq hp hbody hcdef rs =>
    subst hcdef
    obtain ⟨hsame, hsent, hhb⟩ := sendPending_frame (C := C)
      ((P.conn.allocFill C size msgType body p).pushMore C) rs
    rw [push_eq]
    refine Or.inl ⟨?_, rfl, rfl, rfl, rfl, fun hc => ?_⟩
    · refine SameReceiver.trans ?_ hsame
      rw [pushMore_allocFill hq]
      exact ⟨rfl, rfl, rfl, rfl, rfl, rfl, Or.inl rfl⟩
    · refine counts_afterPush hc hq hp hsize hmsgType hbody hsent ?_
      rw [hhb, pushMore_allocFill hq]
      exact hc.hbmsg
  | @pushMore q size msgType body p c hsize hmsgType hq hp hbody hcdef =>
    subst hcdef
    refine Or.inl ⟨?_, rfl, rfl, rfl, rfl, fun hc => ?_⟩
    · show SameReceiver P.conn ((P.conn.allocFill C size msgType body p).pushMore C)
      rw [pushMore_allocFill hq]
      exact ⟨rfl, rfl, rfl, rfl, rfl, rfl, Or.inl rfl⟩
    · refine counts_afterPush hc hq hp hsize hmsgType hbody (Or.inl rfl) ?_
      rw [pushMore_allocFill hq]
      exact hc.hbmsg
  | sendPending hq rs =>
    obtain ⟨q, hq⟩ := Option.isSome_iff_exists.mp hq
    obtain ⟨hsame, hsent, hhb⟩ := sendPending_frame (C := C) P.conn rs
    exact Or.inl ⟨hsame, rfl, rfl, rfl, rfl,
      fun hc => counts_withConn hc hq hsent (hhb ▸ hc.hbmsg)⟩
  | sendHB hq now rs res =>
    obtain ⟨q, hq⟩ := Option.isSome_iff_exists.mp hq
    obtain ⟨hsame, hsent, hhb⟩ := sendHB_frame (C := C) P.conn now rs res
    exact Or.inl ⟨hsame, rfl, rfl, rfl, rfl,
      fun hc => counts_withConn hc hq hsent (hhb hc.hbmsg)⟩
  | front hq res hres hread => exact Or.inr (Or.inl ⟨res, hq, hres, hread, rfl, rfl⟩)
  | pop hq h => exact Or.inr (Or.inr ⟨_, hq, h, rfl, rfl⟩)
  | close reason errno =>
    refine Or.inl ⟨sameReceiver_close _ _, rfl, rfl, rfl, rfl, fun hc => ?_⟩
    refine ⟨?_, hc.born, ?_, fun hopen => ?_⟩
    · show Stores C ((P.conn.close reason errno).q.getD P.file) _ _ _
      rw [q_close]
      exact hc.stores
    · show IsHbmsg C (P.conn.close reason errno).hbmsg
      rw [hbmsg_close]
      exact hc.hbmsg
    · exact absurd (sockfd_close_neg _ _) (not_lt.mpr hopen)

/-- The receiving side of a step. -/
structure Received (CX C : Conf) (pushed : List AppMsg) (P P' : Peer) (ex : Exchanged) (f : Nat)
    (ready rest : List Frame) (n : Nat) (j : Nat) (ready' rest' : List Frame) (n' : Nat) :
    Prop where
  counts : Counts C P' (ackAll f ex.acks)
  receiving : Receiving CX C pushed P' ready' rest' n'
  consumed : Consumed ready rest n ex.read j ready' rest' n'
  acks_eq : ackAll (ackAll f ex.acks) (frameAcks rest') = ackAll f (frameAcks rest)
  length_popped : P'.popped.length = P.popped.length + j
  le_ready : j ≤ (apps ready).length
  sockfd : P'.conn.sockfd = P.conn.sockfd ∨ P'.conn.sockfd < 0

lemma receives_front (hmax : C.tcpRecvBufMaxSize.toNat < 2 ^ 31) (hc : Counts C P f)
    (hr : Receiving CX C pushed P ready rest n) (hinc : inc <+: (wires C rest).drop n)
    (hacks : ackAll f (frameAcks rest) ≤ P.pushed.length) {res : ReadResult} (hq : P.conn.q.isSome)
    (hres : P.conn.FrontAdmissible C res) (hread : P.conn.frontRead C res <+: inc) :
    ∃ ready' rest' n', Received CX C pushed P (P.front C res)
      ⟨P.conn.frontRead C res, [], P.conn.frontAcks C res⟩ f ready rest n 0 ready' rest' n' := by
  obtain ⟨done, rest', n', hf⟩ := front_spec hmax hq hr.receives hres (hread.trans hinc)
  have hq' := q_front (C := C) hq res
  obtain ⟨q, hqs⟩ := Option.isSome_iff_exists.mp hq
  have hs := hc.stores
  rw [queue_eq hqs] at hs
  have hto : ackAll (ackAll f (P.conn.frontAcks C res)) (frameAcks rest') =
      ackAll f (frameAcks rest) := by
    rw [hf.acks_eq]
    split_ifs with hnil
    · rw [hf.rest_eq, hf.done_nil hnil]
      rfl
    · rw [hf.rest_eq, ackAll_headerAcks]
  have hle : ackAll f (P.conn.frontAcks C res) ≤ P.msgs.length := by
    have := le_ackAll (ackAll f (P.conn.frontAcks C res)) (frameAcks rest')
    rw [length_msgs]
    omega
  rw [hqs] at hq'
  refine ⟨_, rest', n', ⟨?_, hc.born, ?_, fun _ => ?_⟩, ⟨hf.receives, ?_, hr.popped_eq⟩, ⟨?_, ?_⟩,
    hto, rfl, Nat.zero_le _, hf.sockfd⟩
  · rw [queue_eq hq']
    exact hs.acks hle
  · show IsHbmsg C (P.conn.front C res).1.hbmsg
    rw [hf.hbmsg]
    exact hc.hbmsg
  · show (P.conn.front C res).1.q.isSome
    rw [hq']
    rfl
  · intro idx hidx
    simp only [Peer.front] at hidx ⊢
    rcases hf.result with ⟨hres', hne⟩ | ⟨hres', -⟩
    · rw [hres'] at hidx
      exact ⟨(Option.some.inj hidx).symm, hne, appFirst_foldl_enqueue (appFirst_dropWhile _) _⟩
    · rw [hres'] at hidx
      cases hidx
  · exact ⟨done, hf.rest_eq, hf.read_eq⟩
  · rw [List.drop_zero, apps_append, apps_append, apps_foldl_enqueue, apps_dropWhile, hf.rest_eq,
      apps_append, List.append_assoc]

lemma receives_pop (hmax : C.tcpRecvBufMaxSize.toNat < 2 ^ 31) (hc : Counts C P f)
    (hr : Receiving CX C pushed P ready rest n)
    (happs : apps (ready ++ rest) <+: (pushed.drop P.popped.length).map (AppMsg.frame CX))
    {idx : Nat} (hq : P.conn.q.isSome) (hidx : P.fronted = some idx) :
    ∃ ready', Received CX C pushed P (P.pop C idx) ⟨[], [], []⟩ f ready rest n 1 ready' rest n := by
  obtain ⟨rfl, hne, happ⟩ := hr.fronted idx hidx
  obtain ⟨fr, ready', rfl⟩ := List.exists_cons_of_ne_nil hne
  have happ : fr.isHeartbeat = false := happ fr rfl
  obtain ⟨hrec, hq'⟩ := pop_spec hmax hr.receives
  have hmsg : P.conn.msgAt C P.conn.readidx.toNat = Listening.view fr :=
    hr.receives.contents.msgAt_read
  obtain ⟨q, hqs⟩ := Option.isSome_iff_exists.mp hq
  rw [hqs] at hq'
  have hs := hc.stores
  rw [queue_eq hqs] at hs
  have hlen : (P.pop C P.conn.readidx.toNat).popped.length = P.popped.length + 1 := by
    simp [Peer.pop]
  have hcons : apps (fr :: ready' ++ rest) = fr :: apps (ready' ++ rest) := by
    simp [apps, happ]
  rw [hcons] at happs
  refine ⟨ready', ⟨?_, ?_, hc.hbmsg, fun _ => ?_⟩, ⟨hrec, ?_, ?_⟩, ⟨⟨[], rfl, by simp⟩, ?_⟩, rfl,
    hlen, by simp [apps, happ], Or.inl rfl⟩
  · rw [queue_eq hq', hlen]
    exact hs.incMyAck
  · rw [hlen]
    exact hc.born.imp fun _ _ hb => ⟨hb.1, Nat.le_succ_of_le hb.2⟩
  · show (P.conn.pop C).q.isSome
    rw [hq']
    rfl
  · intro idx' hidx'
    cases hidx'
  · rw [hlen]
    show P.popped ++ [P.conn.msgAt C P.conn.readidx.toNat] = _
    have hlt : P.popped.length < pushed.length := by
      have := happs.length_le
      simp only [List.length_cons, List.length_map, List.length_drop] at this
      omega
    have hfr : (pushed[P.popped.length]).frame CX = fr := by
      obtain ⟨t, ht⟩ := happs
      rw [List.drop_eq_getElem_cons hlt, List.map_cons, List.cons_append] at ht
      exact (List.cons.inj ht).1.symm
    rw [List.take_succ_eq_append_getElem hlt, List.map_append, ← hr.popped_eq, hmsg]
    simp [hfr]
  · rw [hcons]
    rfl

/-- What a step does to the stream it receives. -/
theorem Step.receives (hmax : C.tcpRecvBufMaxSize.toNat < 2 ^ 31) (h : Step C inc P ex P')
    (hc : Counts C P f) (hr : Receiving CX C pushed P ready rest n)
    (hinc : inc <+: (wires C rest).drop n)
    (happs : apps (ready ++ rest) <+: (pushed.drop P.popped.length).map (AppMsg.frame CX))
    (hacks : ackAll f (frameAcks rest) ≤ P.pushed.length) :
    ex.read <+: inc ∧ ∃ j ready' rest' n',
      Received CX C pushed P P' ex f ready rest n j ready' rest' n' := by
  obtain ⟨hsame, hfr, hpop, hread, hacks', hcounts⟩ | ⟨res, hq, hres, hbs, rfl, rfl⟩ |
    ⟨idx, hq, hidx, rfl, rfl⟩ := h.cases_receive
  · refine ⟨hread ▸ List.nil_prefix, 0, ready, rest, n, ?_, ⟨?_, ?_, ?_⟩, ⟨⟨[], rfl, ?_⟩, rfl⟩, ?_,
      by rw [hpop]; rfl, Nat.zero_le _, hsame.sockfd⟩
    · rw [hacks']
      exact hcounts hc
    · exact receives_of_sameReceiver hr.receives hsame
    · rw [hfr, hsame.readidx]
      exact hr.fronted
    · rw [hpop]
      exact hr.popped_eq
    · simp [hread]
    · rw [hacks']
      rfl
  · obtain ⟨ready', rest', n', hrec⟩ := receives_front hmax hc hr hinc hacks hq hres hbs
    exact ⟨hbs, 0, ready', rest', n', hrec⟩
  · obtain ⟨ready', hrec⟩ := receives_pop hmax hc hr happs hq hidx
    exact ⟨List.nil_prefix, 1, ready', rest, n, hrec⟩

/-! ### Sending -/

/-- Nobody unpushes or unpops. -/
lemma Step.grows (h : Step C inc P ex P') :
    P.pushed <+: P'.pushed ∧ P.popped.length ≤ P'.popped.length := by
  cases h with
  | push => exact ⟨List.prefix_append _ _, le_rfl⟩
  | pushMore => exact ⟨List.prefix_append _ _, le_rfl⟩
  | pop => exact ⟨List.prefix_rfl, by simp [Peer.pop]⟩
  | _ => exact ⟨List.prefix_rfl, le_rfl⟩

/-- A closed connection sends nothing. -/
lemma Step.sent_eq_nil (h : Step C inc P ex P') (hclosed : P.conn.sockfd < 0) : ex.sent = [] := by
  cases h with
  | @push q size msgType body p c hsize hmsgType hq hp hbody hcdef rs =>
    subst hcdef
    rw [push_eq, sendPending_closed]
    rw [pushMore_allocFill hq]
    exact hclosed
  | sendPending hq rs => rw [sendPending_closed hclosed]
  | sendHB hq now rs res => exact (sendHB_closed hclosed now rs res).1
  | _ => rfl

/-- What a step does to the stream it sends. -/
theorem Step.sends {r g : Nat} {chan : List UInt8} (h : Step C inc P ex P') (hc : Counts C P f)
    (hwin : P.popped.length < g + 2 ^ 31) (hr : r ≤ P.pushed.length)
    (hs : Stream C P.pushed P.popped.length r g chan ready rest n) {sent : Nat}
    (ho : Outgoing C P.queue P.pushed f r chan ready rest n sent)
    (hacks : ackAll f ex.acks ≤ r) :
    ∃ more, Stream C P'.pushed P'.popped.length r g (chan ++ ex.sent) ready (rest ++ more) n ∧
      (0 ≤ P'.conn.sockfd → ∃ sent', Outgoing C P'.queue P'.pushed (ackAll f ex.acks) r
        (chan ++ ex.sent) ready (rest ++ more) n sent') := by
  have hfr : f ≤ r := (le_ackAll f ex.acks).trans hacks
  have hack := hc.stores.ackSeqNum
  -- a step that sends nothing
  have hquiet : ∀ {P'' : Peer} {as : List UInt32} {sent' : Nat}, P''.pushed = P.pushed →
      P.popped.length ≤ P''.popped.length →
      Outgoing C P''.queue P.pushed (ackAll f as) r chan ready rest n sent' →
      ∃ more, Stream C P''.pushed P''.popped.length r g (chan ++ []) ready (rest ++ more) n ∧
        (0 ≤ P''.conn.sockfd → ∃ sent', Outgoing C P''.queue P''.pushed (ackAll f as) r
          (chan ++ []) ready (rest ++ more) n sent') := by
    intro P'' as sent' hpushed hpopped hout
    refine ⟨[], ?_, fun _ => ⟨sent', ?_⟩⟩
    · rw [List.append_nil, List.append_nil, hpushed]
      exact hs.mono List.prefix_rfl hpopped List.prefix_rfl
    · rw [List.append_nil, List.append_nil, hpushed]
      exact hout
  cases h with
  | alloc size hsize hq =>
    obtain ⟨q, hq⟩ := Option.isSome_iff_exists.mp hq
    rw [queue_eq hq] at ho
    rw [alloc_eq hq]
    exact hquiet rfl le_rfl (ho.alloc size)
  | @fill q size p msgType body hq hp =>
    rw [queue_eq hq] at ho
    obtain ⟨rfl, -⟩ := ho.represents.toHolds.alloc_some hp
    rw [allocFill_eq hq]
    exact hquiet rfl le_rfl ((ho.alloc size).fill msgType body)
  | @push q size msgType body p c hsize hmsgType hq hp hbody hcdef rs =>
    subst hcdef
    rw [queue_eq hq] at ho hack
    have hout := ho.push (hfr.trans hr) hr hs.n_le hp hsize hmsgType hbody
    obtain ⟨hbegins, hgo⟩ := hout.sendPending (c := (P.conn.allocFill C size msgType body p).pushMore C)
      (by rw [pushMore_allocFill hq]) rs
    refine ⟨[(q.appMsg hsize hmsgType hbody).frame C], ?_, fun hopen => ?_⟩
    · refine hs.append hwin hbegins (hout.apps_eq ▸ List.prefix_rfl) fun fr hfr => ?_
      obtain rfl := List.mem_singleton.mp hfr
      exact hack
    · obtain ⟨q', sent', hq', -, hout', -⟩ := hgo hopen
      refine ⟨sent', ?_⟩
      rw [push_eq, show (P.afterPush _ _).queue = q' from queue_withConn (P := P) hq']
      exact hout'
  | @pushMore q size msgType body p c hsize hmsgType hq hp hbody hcdef =>
    subst hcdef
    rw [queue_eq hq] at ho hack
    have hout := ho.push (hfr.trans hr) hr hs.n_le hp hsize hmsgType hbody
    refine ⟨[(q.appMsg hsize hmsgType hbody).frame C], ?_, fun _ => ⟨sent, ?_⟩⟩
    · rw [List.append_nil]
      refine hs.append hwin hout.chan_begins (hout.apps_eq ▸ List.prefix_rfl) fun fr hfr => ?_
      obtain rfl := List.mem_singleton.mp hfr
      exact hack
    · rw [List.append_nil, show (P.afterPush _ _).queue = _ from
        queue_withConn (P := P) (by rw [pushMore_allocFill hq])]
      exact hout
  | sendPending hq rs =>
    obtain ⟨q, hq⟩ := Option.isSome_iff_exists.mp hq
    rw [queue_eq hq] at ho
    obtain ⟨hbegins, hgo⟩ := ho.sendPending hq rs
    refine ⟨[], ?_, fun hopen => ?_⟩
    · rw [List.append_nil]
      exact ⟨hs.n_le, hbegins, hs.apps_begins, hs.acks_le, hs.acks_counted⟩
    · obtain ⟨q', sent', hq', -, hout', -⟩ := hgo hopen
      refine ⟨sent', ?_⟩
      rw [queue_withConn hq', List.append_nil]
      exact hout'
  | sendHB hq now rs res =>
    obtain ⟨q, hq⟩ := Option.isSome_iff_exists.mp hq
    rw [queue_eq hq] at ho hack
    obtain ⟨more, hcur, happs, hbegins, hgo⟩ := ho.sendHB hq hc.hbmsg hs.n_le now rs res
    refine ⟨more, ?_, fun hopen => ?_⟩
    · refine hs.append hwin hbegins ?_ fun fr hfr => (hcur fr hfr).trans hack
      rw [← List.append_assoc, apps_append, happs, List.append_nil]
      exact hs.apps_begins
    · obtain ⟨q', sent', hq', hout'⟩ := hgo hopen
      refine ⟨sent', ?_⟩
      rw [queue_withConn hq']
      exact hout'
  | front hq res hres hread =>
    obtain ⟨q, hqs⟩ := Option.isSome_iff_exists.mp hq
    rw [queue_eq hqs] at ho
    obtain ⟨sent', hout⟩ := ho.acks hacks hr
    have hq' := q_front (C := C) hq res
    rw [hqs] at hq'
    refine @hquiet _ _ sent' rfl le_rfl ?_
    rw [queue_eq hq']
    exact hout
  | @pop idx hq hidx =>
    obtain ⟨q, hqs⟩ := Option.isSome_iff_exists.mp hq
    rw [queue_eq hqs] at ho
    refine @hquiet _ _ sent rfl (by simp [Peer.pop]) ?_
    have hq' : (P.pop C idx).conn.q = some q.incMyAck := by
      show P.conn.q.map PTCPQueue.incMyAck = _
      rw [hqs]
      rfl
    rw [queue_eq hq']
    exact ho.incMyAck
  | close reason errno =>
    refine ⟨[], ?_, fun hopen => absurd (sockfd_close_neg _ _) (not_lt.mpr hopen)⟩
    rw [List.append_nil, List.append_nil]
    exact hs

end Peer

end Tcpshm
