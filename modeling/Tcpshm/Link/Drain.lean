import Tcpshm.Link.Delivery
import Tcpshm.PtcpConn.DoRecv

/-!
# Nothing gets stuck

While a connection is open on both sides, the messages that were pushed can be sent, received and
popped to the last one, whatever state buffers and queues are in.
-/

namespace Tcpshm

open PTCPConnection

/-! ### Receiving to the end -/

/-- All of the stream is on the way to `P`, which has room for its frames. -/
structure Draining (CX C : Conf) (pushed : List AppMsg) (P : Peer) (chan : List UInt8) (f : Nat)
    (ready rest : List Frame) (n : Nat) : Prop where
  counts : Counts C P f
  receiving : Receiving CX C pushed P ready rest n
  chan_eq : chan = (wires C rest).drop n
  rest_nil : chan = [] → rest = []
  apps_eq : apps (ready ++ rest) = (pushed.drop P.popped.length).map (AppMsg.frame CX)
  acks_le : ackAll f (frameAcks rest) ≤ P.pushed.length
  fits : ∀ fr ∈ rest, fr.Fits C
  opened : P.conn.q.isSome
  reads : chan ≠ [] → 0 ≤ P.conn.sockfd
  size_pos : 0 < P.conn.recvbufSize.toNat

/-- A step that sends nothing, with what is still on the way before and after it. -/
def Peer.Quiet (C : Conf) (a b : List UInt8 × Peer) : Prop :=
  ∃ ex, ex.sent = [] ∧ Peer.Step C a.1 a.2 ex b.2 ∧ b.1 = a.1.drop ex.read.length ∧
    b.2.pushed = a.2.pushed

namespace Draining

variable {CX C : Conf} {pushed : List AppMsg} {P P' : Peer} {chan : List UInt8} {f n : Nat}
  {ready rest : List Frame} {ex : Exchanged}

/-- A step takes the stream further from its front. -/
lemma step (h : Draining CX C pushed P chan f ready rest n)
    (hmax : C.tcpRecvBufMaxSize.toNat < 2 ^ 31) (hstep : Peer.Step C chan P ex P')
    (hopened : P'.conn.q.isSome)
    (hreads : chan.drop ex.read.length ≠ [] → 0 ≤ P'.conn.sockfd)
    (hnil : chan ≠ [] → ex.read ≠ [] → 0 ≤ P'.conn.sockfd)
    (hsize : P.conn.recvbufSize.toNat ≤ P'.conn.recvbufSize.toNat) :
    ∃ j ready' rest' n', Draining CX C pushed P' (chan.drop ex.read.length) (ackAll f ex.acks) ready'
      rest' n' ∧ (apps (ready' ++ rest')).length + j = (apps (ready ++ rest)).length ∧
      P'.popped.length = P.popped.length + j := by
  obtain ⟨hread, j, ready', rest', n', hrec⟩ := hstep.receives hmax h.counts h.receiving
    (h.chan_eq ▸ List.prefix_rfl) (h.apps_eq ▸ List.prefix_rfl) h.acks_le
  obtain ⟨done, hrest, hlen⟩ := hrec.consumed.rest_eq
  have hchan : chan.drop ex.read.length = (wires C rest').drop n' := by
    rw [h.chan_eq]
    exact hrec.consumed.drop_wires
  have happs := hrec.consumed.apps_eq
  have hcount := congrArg List.length happs
  have hready := hrec.le_ready
  have hle : (apps ready).length ≤ (apps (ready ++ rest)).length := by
    rw [apps_append, List.length_append]
    exact Nat.le_add_right _ _
  rw [List.length_drop] at hcount
  refine ⟨j, ready', rest', n', ⟨hrec.counts, hrec.receiving, hchan, fun hend => ?_, ?_, ?_, ?_,
    hopened, hreads, h.size_pos.trans_le hsize⟩, by omega, hrec.length_popped⟩
  · by_cases hchan₀ : chan = []
    · rw [h.rest_nil hchan₀] at hrest
      exact (List.append_eq_nil_iff.mp hrest.symm).2
    · have hne : ex.read ≠ [] := by
        intro hnil
        rw [hnil] at hend
        exact hchan₀ hend
      have hlt := hrec.receiving.receives.lt_length (hnil hchan₀ hne)
      rw [hchan, List.drop_eq_nil_iff, length_wires] at hend
      cases rest' with
      | nil => rfl
      | cons fr rest' =>
        have := hlt fr rfl
        rw [lens_cons] at hend
        omega
  · rw [happs, h.apps_eq, hrec.length_popped, ← List.map_drop, List.drop_drop]
  · rw [hrec.acks_eq]
    exact h.acks_le.trans hstep.grows.1.length_le
  · intro fr hfr
    exact h.fits fr (hrest ▸ List.mem_append_right _ hfr)

/-- What is read does not close the connection. -/
lemma stays_open (h : Draining CX C pushed P chan f ready rest n)
    (hmax : C.tcpRecvBufMaxSize.toNat < 2 ^ 31) {res : ReadResult}
    (hres : P.conn.FrontAdmissible C res) (hread : P.conn.frontRead C res <+: chan)
    (hne : P.conn.frontRead C res ≠ []) : 0 ≤ (P.front C res).conn.sockfd := by
  obtain ⟨done, rest', n', hf⟩ := front_spec hmax h.opened h.receiving.receives hres
    (h.chan_eq ▸ hread)
  by_contra hclosed
  obtain ⟨-, fr, hfr, hfits⟩ := hf.closes hne (not_le.mp hclosed)
  refine hfits (h.fits fr ?_)
  rw [hf.rest_eq]
  exact List.mem_append_right _ (List.mem_of_mem_head? hfr)

/-- The first loop of `Front`. -/
lemma buffered (h : Draining CX C pushed P chan f ready rest n)
    (hmax : C.tcpRecvBufMaxSize.toNat < 2 ^ 31) :
    Receives C (P.conn.buffered C).1 (ready.dropWhile Frame.isHeartbeat) rest n ∧
      (P.conn.buffered C).1.sockfd = P.conn.sockfd ∧
      (P.conn.buffered C).1.recvbufSize = P.conn.recvbufSize ∧
      ((P.conn.buffered C).2 ≠ none → ready.dropWhile Frame.isHeartbeat ≠ []) := by
  have hnext := h.receiving.receives.contents.next_eq
  have hfuel : lens ready / 8 < (P.conn.nextmsgIdx - P.conn.readidx).toNat / 8 + 1 := by
    rw [h.receiving.receives.bounds.toNat_next_sub_read]
    omega
  obtain ⟨c₁, r, heq, hrec, -, hsock, -, -, hsize, hr⟩ :=
    @skipLoop_spec C P.conn ready rest n hmax (P.conn.q.elim 0 PTCPQueue.myAck) _
      h.receiving.receives hfuel
  have hbuf : P.conn.buffered C = (c₁, r) := heq
  rw [hbuf]
  exact ⟨hrec, hsock, hsize, fun hne => (hr.resolve_left hne).2⟩

/-- A connection that is open and reads nothing has a message in its buffer. -/
lemma ready_of_declines (h : Draining CX C pushed P chan f ready rest n)
    (hmax : C.tcpRecvBufMaxSize.toNat < 2 ^ 31) (hmin : 8 ≤ C.tcpRecvBufMaxSize.toNat)
    (hchan : chan ≠ []) (hoff : (P.conn.buffered C).1.offered C = 0) :
    ready.dropWhile Frame.isHeartbeat ≠ [] := by
  obtain ⟨hrec, hsock, hsize, -⟩ := h.buffered hmax
  obtain ⟨hread, hwrite⟩ := hrec.bounds.declines hmax (hsize ▸ h.size_pos) hoff
  intro hnil
  rw [hnil] at hrec
  have hnext := hrec.contents.next_eq
  have hn := hrec.contents.write_eq
  have hle := hrec.contents.n_le
  rw [lens_nil] at hnext
  cases rest with
  | nil =>
    rw [lens_nil] at hle
    omega
  | cons fr rest =>
    have hlt := hrec.lt_length (hsock ▸ h.reads hchan) fr rfl
    have hfits := h.fits fr (List.mem_cons_self ..)
    unfold Frame.Fits at hfits
    rw [fr.toNat_padded] at hfits
    omega

/-- Without room for a byte, `Front` does not look at the socket. -/
lemma sockfd_front_full (hq : P.conn.q.isSome)
    (hoff : (P.conn.buffered C).2 = none → (P.conn.buffered C).1.offered C = 0) (res : ReadResult) :
    (P.front C res).conn.sockfd = (P.conn.buffered C).1.sockfd := by
  show (P.conn.front C res).1.sockfd = _
  rw [front_eq hq]
  cases hr : (P.conn.buffered C).2 with
  | some r => rfl
  | none =>
    have hfull : (P.conn.buffered C).1.rewindBuf.writable +
        (P.conn.buffered C).1.rewindBuf.extraSize C = 0 := UInt32.toNat_inj.mp (hoff hr)
    have hrecv : (P.conn.buffered C).1.doRecv C res = ((P.conn.buffered C).1.rewindBuf, 0) :=
      if_pos hfull
    simp only [frontRecv, hrecv, if_true, frontEnd_fst]
    unfold rewindBuf
    split_ifs <;> rfl

/-- While messages are to come, `Front` reads something or gives a message. -/
lemma front (h : Draining CX C pushed P chan f ready rest n)
    (hmax : C.tcpRecvBufMaxSize.toNat < 2 ^ 31) (hmin : 8 ≤ C.tcpRecvBufMaxSize.toNat)
    (hne : apps (ready ++ rest) ≠ []) :
    ∃ res, P.conn.FrontAdmissible C res ∧ P.conn.frontRead C res <+: chan ∧
      ((P.front C res).fronted.isSome ∨ P.conn.frontRead C res ≠ []) ∧
      (chan ≠ [] → 0 ≤ (P.front C res).conn.sockfd) := by
  obtain ⟨hrec, hsock, hsize, hsome⟩ := h.buffered hmax
  by_cases hreads : (P.conn.buffered C).2 = none ∧ chan ≠ [] ∧ (P.conn.buffered C).1.offered C ≠ 0
  · obtain ⟨hnone, hchan, hoff⟩ := hreads
    have hlen : 0 < chan.length := List.length_pos_of_ne_nil hchan
    have hread : P.conn.frontRead C (.data (chan.take ((P.conn.buffered C).1.offered C))) =
        chan.take ((P.conn.buffered C).1.offered C) := by
      unfold frontRead recvRead
      rw [if_pos hnone]
      exact if_neg hoff
    have hres : P.conn.FrontAdmissible C
        (.data (chan.take ((P.conn.buffered C).1.offered C))) := by
      intro _
      refine ⟨?_, List.length_take_le _ _, hsock ▸ h.reads hchan⟩
      rw [List.length_take]
      omega
    have hpre : P.conn.frontRead C (.data (chan.take ((P.conn.buffered C).1.offered C))) <+: chan := by
      rw [hread]
      exact List.take_prefix _ _
    have hnonempty : P.conn.frontRead C (.data (chan.take ((P.conn.buffered C).1.offered C))) ≠ [] := by
      rw [hread]
      intro hnil
      rw [List.take_eq_nil_iff] at hnil
      exact hnil.elim hoff hchan
    exact ⟨_, hres, hpre, Or.inr hnonempty, fun _ => h.stays_open hmax hres hpre hnonempty⟩
  · have hread : P.conn.frontRead C .again = [] := by
      unfold frontRead recvRead
      exact ite_self _
    have hres : P.conn.FrontAdmissible C .again := fun _ => trivial
    have hpre : P.conn.frontRead C .again <+: chan := hread ▸ List.nil_prefix
    -- nothing is read as a message is returned or because there is no room
    have hready : ready.dropWhile Frame.isHeartbeat ≠ [] := by
      intro hnil
      have hrest : rest ≠ [] := by
        rintro rfl
        have happs := apps_dropWhile ready
        rw [hnil] at happs
        rw [List.append_nil, ← happs] at hne
        exact hne rfl
      have hchan : chan ≠ [] := fun hnil => hrest (h.rest_nil hnil)
      by_cases hnone : (P.conn.buffered C).2 = none
      · refine h.ready_of_declines hmax hmin hchan ?_ hnil
        by_contra hoff
        exact hreads ⟨hnone, hchan, hoff⟩
      · exact hsome hnone hnil
    refine ⟨.again, hres, hpre, Or.inl ?_, fun hchan => ?_⟩
    · obtain ⟨done, rest', n', hf⟩ := front_spec hmax h.opened h.receiving.receives hres
        (h.chan_eq ▸ hpre)
      have hdone := hf.done_nil hread
      have hrest := hf.rest_eq
      have hresult := hf.result
      rw [hdone] at hresult hrest
      obtain ⟨hr, -⟩ | ⟨-, hnil | ⟨-, -, fr, hfr, hfits⟩⟩ := hresult
      · simp [Peer.front, hr]
      · exact absurd hnil hready
      · exact absurd (h.fits fr (hrest ▸ List.mem_of_mem_head? hfr)) hfits
    · rw [sockfd_front_full h.opened (fun hnone => ?_), hsock]
      · exact h.reads hchan
      · by_contra hoff
        exact hreads ⟨hnone, hchan, hoff⟩

/-- `Front` as a step. -/
lemma step_front (h : Draining CX C pushed P chan f ready rest n)
    (hmax : C.tcpRecvBufMaxSize.toNat < 2 ^ 31) (hmin : 8 ≤ C.tcpRecvBufMaxSize.toNat)
    (hne : apps (ready ++ rest) ≠ []) :
    ∃ chan' P' f' ready' rest' n', Peer.Quiet C (chan, P) (chan', P') ∧
      Draining CX C pushed P' chan' f' ready' rest' n' ∧
      (apps (ready' ++ rest')).length = (apps (ready ++ rest)).length ∧
      (P'.fronted.isSome ∧ chan'.length ≤ chan.length ∨ chan'.length < chan.length) := by
  obtain ⟨res, hres, hread, hgives, hopen⟩ := h.front hmax hmin hne
  have hstep := Peer.Step.front h.opened res hres hread
  obtain ⟨done, rest₁, n₁, hf⟩ := front_spec hmax h.opened h.receiving.receives hres
    (h.chan_eq ▸ hread)
  have hq : (P.front C res).conn.q.isSome := by
    show (P.conn.front C res).1.q.isSome
    rw [q_front h.opened, Option.isSome_map]
    exact h.opened
  have hdrop : chan.drop (P.conn.frontRead C res).length ≠ [] → chan ≠ [] := by
    rintro hne rfl
    exact hne (List.drop_nil ..)
  obtain ⟨j, ready', rest', n', h', hcount, hpopped⟩ := h.step hmax hstep hq
    (fun hchan => hopen (hdrop hchan)) (fun hchan _ => hopen hchan) hf.size_ge
  have hj : j = 0 := by
    have : (P.front C res).popped = P.popped := rfl
    rw [this] at hpopped
    omega
  refine ⟨_, _, _, ready', rest', n', ⟨_, rfl, hstep, rfl, rfl⟩, h', by omega, ?_⟩
  obtain hsome | hne := hgives
  · refine Or.inl ⟨hsome, ?_⟩
    rw [List.length_drop]
    exact Nat.sub_le _ _
  · have := List.length_pos_of_ne_nil hne
    have := hread.length_le
    refine Or.inr ?_
    show (chan.drop (P.conn.frontRead C res).length).length < _
    rw [List.length_drop]
    omega

/-- `Pop` as a step. -/
lemma step_pop (h : Draining CX C pushed P chan f ready rest n)
    (hmax : C.tcpRecvBufMaxSize.toNat < 2 ^ 31) {idx : Nat} (hidx : P.fronted = some idx) :
    ∃ P' f' ready' rest' n', Peer.Quiet C (chan, P) (chan, P') ∧
      Draining CX C pushed P' chan f' ready' rest' n' ∧
      (apps (ready' ++ rest')).length < (apps (ready ++ rest)).length := by
  have hstep : Peer.Step C chan P ⟨[], [], []⟩ (P.pop C idx) := .pop h.opened hidx
  have hq : (P.pop C idx).conn.q.isSome := by
    show (P.conn.q.map PTCPQueue.incMyAck).isSome
    rw [Option.isSome_map]
    exact h.opened
  obtain ⟨j, ready', rest', n', h', hcount, hpopped⟩ := h.step hmax hstep hq h.reads
    (fun hchan _ => h.reads hchan) le_rfl
  have hj : P.popped.length + 1 = P.popped.length + j := by
    rw [← hpopped]
    show _ = (P.popped ++ [_]).length
    rw [List.length_append, List.length_singleton]
  exact ⟨_, _, ready', rest', n', ⟨_, rfl, hstep, rfl, rfl⟩, h', by omega⟩

/-- The whole stream can be received and popped. -/
theorem pops_all (h : Draining CX C pushed P chan f ready rest n)
    (hmax : C.tcpRecvBufMaxSize.toNat < 2 ^ 31) (hmin : 8 ≤ C.tcpRecvBufMaxSize.toNat) :
    ∃ chan' P', Relation.ReflTransGen (Peer.Quiet C) (chan, P) (chan', P') ∧
      P'.pushed = P.pushed ∧ P'.popped = pushed.map fun m => Listening.view (m.frame CX) := by
  -- every `Front` reads something or is followed by a `Pop`
  generalize hm : 2 * chan.length + 2 * (apps (ready ++ rest)).length +
    (if P.fronted.isSome then 0 else 1) = m
  induction m using Nat.strong_induction_on generalizing P chan f ready rest n with
  | _ m ih =>
    by_cases hne : apps (ready ++ rest) = []
    · refine ⟨chan, P, .refl, rfl, ?_⟩
      have happs := h.apps_eq
      rw [hne] at happs
      have hlen := congrArg List.length happs
      rw [List.length_map, List.length_drop, List.length_nil] at hlen
      rw [h.receiving.popped_eq, List.take_of_length_le (by omega)]
    · have hnext : ∀ {chan' P' f' ready' rest' n'}, Peer.Quiet C (chan, P) (chan', P') →
          Draining CX C pushed P' chan' f' ready' rest' n' →
          2 * chan'.length + 2 * (apps (ready' ++ rest')).length +
            (if P'.fronted.isSome then 0 else 1) < m →
          ∃ chan' P', Relation.ReflTransGen (Peer.Quiet C) (chan, P) (chan', P') ∧
            P'.pushed = P.pushed ∧ P'.popped = pushed.map fun m => Listening.view (m.frame CX) := by
        intro chan' P' f' ready' rest' n' hquiet h' hlt
        obtain ⟨chan₂, P₂, hrun, hpushed, hpopped⟩ := ih _ hlt h' rfl
        have hsame := hquiet.choose_spec.2.2.2
        exact ⟨chan₂, P₂, .head hquiet hrun, hpushed.trans hsame, hpopped⟩
      cases hfront : P.fronted with
      | some idx =>
        obtain ⟨P', f', ready', rest', n', hquiet, h', hlt⟩ := h.step_pop hmax hfront
        refine hnext hquiet h' ?_
        rw [hfront, Option.isSome_some, if_pos rfl] at hm
        split_ifs <;> omega
      | none =>
        obtain ⟨chan', P', f', ready', rest', n', hquiet, h', hcount, hgives⟩ :=
          h.step_front hmax hmin hne
        refine hnext hquiet h' ?_
        rw [hfront, Option.isSome_none, if_neg Bool.false_ne_true] at hm
        obtain ⟨hsome, hle⟩ | hlt := hgives
        · rw [if_pos hsome]
          omega
        · split_ifs <;> omega

end Draining

/-! ### Buffers -/

/-- An open connection has a receive buffer. -/
def Peer.Buffered (P : Peer) : Prop := 0 ≤ P.conn.sockfd → 0 < P.conn.recvbufSize.toNat

namespace Peer.Buffered

variable {CX C : Conf} {P P' : Peer} {c : PTCPConnection} {pushed : List AppMsg} {f n : Nat}
  {ready rest : List Frame} {ex : Exchanged} {inc : List UInt8}

lemma of_sameReceiver (h : P.Buffered) (hsame : SameReceiver P.conn P'.conn) : P'.Buffered := by
  intro hopen
  rcases hsame.sockfd with hs | hs
  · rw [hsame.recvbufSize]
    exact h (hs ▸ hopen)
  · omega

lemma reopen (hinit : 8 ≤ C.tcpRecvBufInitSize.toNat) (P : Peer) (c : PTCPConnection) (fd : Int)
    (a : UInt32) (now : Int) (rs : List SendResult) : (P.reopen C c fd a now rs).Buffered :=
  fun _ => (Session.open_buffer hinit c fd a now rs).1

lemma crash (C : Conf) (P : Peer) : (P.crash C).Buffered :=
  fun hopen => absurd hopen (show ¬ 0 ≤ (-1 : Int) by decide)

lemma step (h : P.Buffered) (hmax : C.tcpRecvBufMaxSize.toNat < 2 ^ 31)
    (hstep : Peer.Step C inc P ex P') (hr : Receiving CX C pushed P ready rest n)
    (hinc : inc <+: (wires C rest).drop n) : P'.Buffered := by
  obtain ⟨hsame, -⟩ | ⟨res, hq, hres, hbs, rfl, rfl⟩ | ⟨idx, hq, hidx, rfl, rfl⟩ :=
    hstep.cases_receive
  · exact h.of_sameReceiver hsame
  · obtain ⟨done, rest', n', hf⟩ := front_spec hmax hq hr.receives hres (hbs.trans hinc)
    intro hopen
    have hsize := hf.size_ge
    have hpos : 0 < P.conn.recvbufSize.toNat := by
      refine h ?_
      rcases hf.sockfd with hs | hs
      · exact hs ▸ hopen
      · exact absurd hopen (not_le.mpr hs)
    exact hpos.trans_le hsize
  · exact h

end Peer.Buffered

namespace System

variable {F : LoginFormat} {H : Hosts F} {s s' : System F} {p : Progress}

/-- What becomes of the server when it handles a login. -/
lemma handle_server (hinv : Inv H s p) {fd now : Int} {sendOk : Bool} {rs : List SendResult}
    (h : s.handle H fd now sendOk rs = some s') : s'.client = s.client ∧
      (s'.server = s.server ∨ s'.server = s.server.withConn s.serving ∨
        ∃ a, s'.server = s.server.reopen H.server s.serving fd a now rs) := by
  unfold handle at h
  split_ifs at h with hlive
  · obtain ⟨m, -, rfl⟩ := Option.map_eq_some_iff.mp h
    exact ⟨answer_client _, Or.inl (answer_server _)⟩
  · obtain ⟨r, hr, rfl⟩ := Option.map_eq_some_iff.mp h
    obtain ⟨m, hm, -⟩ := Option.bind_eq_some_iff.mp (Option.bind_eq_some_iff.mp hr).choose_spec.1
    obtain ⟨l, rfl, hl, -⟩ := hinv.head hm
    unfold afterHandle
    obtain ⟨-, -, rfl⟩ | ⟨hconn, ⟨-, hevent⟩ | ⟨-, hevent, -⟩⟩ :=
      handled_cases hm hinv.server.stores (hinv.agrees hl) hr
    · exact ⟨answer_client _, Or.inr (Or.inr ⟨_, rfl⟩)⟩
    · rw [hevent]
      exact ⟨answer_client _, Or.inr (Or.inl (congrArg s.server.withConn hconn))⟩
    · rw [hevent]
      exact ⟨answer_client _, Or.inr (Or.inl (congrArg s.server.withConn hconn))⟩

lemma Step.buffered (hinit : 8 ≤ H.client.tcpRecvBufInitSize.toNat)
    (hinit' : 8 ≤ H.server.tcpRecvBufInitSize.toNat) (h : Step H s s') (hinv : Inv H s p)
    (hbuf : s.client.Buffered ∧ s.server.Buffered) : s'.client.Buffered ∧ s'.server.Buffered := by
  obtain ⟨hclient, hserver⟩ := hbuf
  cases h with
  | client hidle h =>
    have hin := hinv.down.sending.stream.chan_begins
    unfold inbound isIdle at hin
    rw [hidle, if_pos rfl, wires_congr H.sameOrder.symm] at hin
    exact ⟨hclient.step H.clientBuf_lt h hinv.down.receiving hin, hserver⟩
  | server h =>
    have hin := hinv.up.sending.stream.chan_begins
    rw [wires_congr H.sameOrder] at hin
    exact ⟨hclient, hserver.step H.serverBuf_lt h hinv.up.receiving hin⟩
  | connect h =>
    obtain ⟨c, hsame, rfl⟩ | ⟨-, rfl⟩ := connect_cases hinv.named hinv.client.stores h
    · exact ⟨hclient.of_sameReceiver hsame.receiver, hserver⟩
    · exact ⟨hclient.of_sameReceiver s.sameConn_opening.receiver, hserver⟩
  | ignore =>
    rw [answer_client, answer_server]
    exact ⟨hclient, hserver⟩
  | refuse errorMsg =>
    rw [answer_client, answer_server]
    exact ⟨hclient, hserver⟩
  | handle fd now sendOk rs h =>
    obtain ⟨hc, hs | hs | ⟨a, hs⟩⟩ := handle_server hinv h
    · rw [hc, hs]
      exact ⟨hclient, hserver⟩
    · rw [hc, hs]
      exact ⟨hclient, hserver.of_sameReceiver s.sameConn_serving.receiver⟩
    · rw [hc, hs]
      exact ⟨hclient, .reopen hinit' _ _ _ _ _ _⟩
  | respond newBlk fd now rs h =>
    obtain rfl | ⟨_, _, _, _, -, -, -, rfl⟩ := hinv.response_cases h
    · exact ⟨hclient, hserver⟩
    · have hname : s.lastServerName = (s.tcpShmClient H).serverName := rfl
      unfold afterResponse
      rw [if_pos rfl, if_pos hname]
      exact ⟨.reopen hinit s.client s.client.conn _ _ _ _, hserver⟩
  | giveUp => exact ⟨hclient, hserver⟩
  | crashClient => exact ⟨.crash _ _, hserver⟩
  | crashRenamed newBlk fd now rs h hok hname =>
    exact ⟨fun hopen => absurd hopen (show ¬ 0 ≤ (-1 : Int) by decide), hserver⟩
  | crashServer => exact ⟨hclient, .crash _ _⟩
  | disconnectClient => exact ⟨hclient.of_sameReceiver (SameConn.tryCloseFd _).receiver, hserver⟩
  | disconnectServer h => exact ⟨hclient, hserver.of_sameReceiver (SameConn.tryCloseFd _).receiver⟩
  | cut k l => exact ⟨hclient, hserver⟩

lemma Reaches.buffered (hinit : 8 ≤ H.client.tcpRecvBufInitSize.toNat)
    (hinit' : 8 ≤ H.server.tcpRecvBufInitSize.toNat) (h : Reaches H H.serverName s) :
    s.client.Buffered ∧ s.server.Buffered := by
  obtain ⟨clientBlk, serverBlk, hrun⟩ := h
  induction hrun with
  | refl =>
    have hclosed : ¬ 0 ≤ (-1 : Int) := by decide
    exact ⟨fun hopen => absurd hopen hclosed, fun hopen => absurd hopen hclosed⟩
  | tail hrun hstep ih =>
    obtain ⟨p, hinv⟩ := Reaches.inv ⟨clientBlk, serverBlk, hrun⟩
    exact hstep.buffered hinit hinit' hinv ih

end System

/-! ### Sending to the end -/

/-- The kernel has taken everything that is stored. -/
def Peer.AllSent (P : Peer) : Prop := ∃ q, P.conn.q = some q ∧ q.getSendable.2 = 0

/-- `SendPending` sends everything, when the kernel takes it. -/
lemma allSent_sendPending {C : Conf} {P : Peer} {q : PTCPQueue} (hq : P.conn.q = some q)
    (hopen : 0 ≤ P.conn.sockfd) :
    ∃ rs, (P.withConn (P.conn.sendPending C rs).1).AllSent ∧
      (P.conn.sendPending C rs).1.sockfd = P.conn.sockfd := by
  have hclosed : ¬ P.conn.isClosed = true := by simpa [isClosed] using hopen
  refine ⟨[.sent (q.getSendable.2.toNat * 8)], ?_⟩
  unfold Peer.AllSent Peer.withConn PTCPConnection.sendPending
  by_cases hnone : q.getSendable.2 = 0
  · simp only [hq, if_neg hclosed, if_pos hnone]
    exact ⟨⟨q, rfl, hnone⟩, trivial⟩
  · have hpos : 0 < q.getSendable.2.toNat := Nat.pos_of_ne_zero fun h =>
      hnone (UInt32.toNat_inj.mp h)
    simp only [hq, if_neg hclosed, if_neg hnone, sendLoop, le_refl, if_true, Nat.sub_self,
      Nat.zero_div, Nat.sub_zero, hpos]
    refine ⟨⟨_, rfl, ?_⟩, trivial⟩
    show q.writeIdx - (q.sendIdx + UInt32.ofNat (q.writeIdx - q.sendIdx).toNat) = 0
    rw [UInt32.ofNat_toNat]
    grind

lemma Outgoing.chan_eq {C : Conf} {q : PTCPQueue} {pushed : List AppMsg} {f r n sent : Nat}
    {chan : List UInt8} {ready rest : List Frame}
    (h : Outgoing C q pushed f r chan ready rest n sent) (hall : q.getSendable.2 = 0) :
    chan = (wires C rest).drop n := by
  have hlen := h.represents.toNat_sendable
  rw [hall] at hlen
  have hbytes := h.bytes_eq
  rw [List.drop_of_length_le, memBytes_nil, List.append_nil] at hbytes
  · exact hbytes
  · rw [length_storedAll]
    have : (0 : UInt32).toNat = 0 := rfl
    simp only at hlen
    omega

/-- Once everything is sent, all of the stream is on the way. -/
lemma Toward.draining {CX CY : Conf} {X Y : Peer} {fX fY n : Nat} {chan : List UInt8}
    {ready rest : List Frame} (h : Toward CX CY X Y fX fY true chan ready rest n)
    (horder : CX.endian.toLittle = CY.endian.toLittle) (hmin : 8 ≤ CY.tcpRecvBufMaxSize.toNat)
    (hX : 0 ≤ X.conn.sockfd) (hsent : X.AllSent) (hY : 0 ≤ Y.conn.sockfd) (hc : Counts CY Y fY)
    (hbuf : Y.Buffered) (hpopped : X.popped.length ≤ Y.pushed.length)
    (hfits : ∀ m ∈ X.pushed, (m.frame CX).Fits CY) :
    Draining CX CY X.pushed Y chan fY ready rest n := by
  obtain ⟨q, hq, hall⟩ := hsent
  obtain ⟨sent, hout⟩ := h.sending.outgoing rfl hX
  rw [Peer.queue_eq hq] at hout
  have hchan := hout.chan_eq hall
  rw [wires_congr horder] at hchan
  refine ⟨hc, h.receiving, hchan, fun hnil => ?_, hout.apps_eq,
    h.sending.stream.acks_le.trans hpopped, fun fr hfr => ?_, hc.opened hY, fun _ => hY, hbuf hY⟩
  · rw [hnil] at hchan
    have hlen := List.drop_eq_nil_iff.mp hchan.symm
    rw [length_wires] at hlen
    cases rest with
    | nil => rfl
    | cons fr rest =>
      have := h.receiving.receives.lt_length hY fr rfl
      rw [lens_cons] at hlen
      omega
  · by_cases hhb : fr.isHeartbeat = true
    · have := fr.length_heartbeat hhb
      unfold Frame.Fits
      rw [fr.toNat_padded]
      omega
    · have hmem : fr ∈ apps (ready ++ rest) :=
        List.mem_filter.mpr ⟨List.mem_append_right _ hfr, by simpa using hhb⟩
      rw [hout.apps_eq] at hmem
      obtain ⟨m, hm, rfl⟩ := List.mem_map.mp hmem
      exact hfits m (List.mem_of_mem_drop hm)

namespace System

variable {F : LoginFormat} {H : Hosts F} {s s' : System F} {p : Progress}

lemma isIdle_of_connecting (h : s.connecting = .idle) : s.isIdle = true := by
  unfold isIdle
  rw [h]

/-- The client hands everything it stores to the socket. -/
lemma send_client (hinv : Inv H s p) (hidle : s.connecting = .idle)
    (hopen : 0 ≤ s.client.conn.sockfd) :
    ∃ s', Step H s s' ∧ (∃ p', Inv H s' p') ∧ s'.connecting = .idle ∧ s'.joined = s.joined ∧
      s'.client.AllSent ∧ s'.client.conn.sockfd = s.client.conn.sockfd ∧
      s'.client.pushed = s.client.pushed ∧ s'.server = s.server := by
  have hq := hinv.client.opened hopen
  obtain ⟨q, hqs⟩ := Option.isSome_iff_exists.mp hq
  obtain ⟨rs, hall, hsock⟩ := allSent_sendPending (C := H.client) hqs hopen
  have hstep : Peer.Step H.client s.toClient s.client _ _ := .sendPending hq rs
  exact ⟨_, .client hidle hstep, hinv.step_client hidle hstep, hidle, rfl, hall, hsock, rfl, rfl⟩

/-- The server hands everything it stores to the socket. -/
lemma send_server (hinv : Inv H s p) (hopen : 0 ≤ s.server.conn.sockfd) :
    ∃ s', Step H s s' ∧ (∃ p', Inv H s' p') ∧ s'.connecting = s.connecting ∧
      s'.joined = s.joined ∧ s'.server.AllSent ∧ s'.server.conn.sockfd = s.server.conn.sockfd ∧
      s'.server.pushed = s.server.pushed ∧ s'.client = s.client := by
  have hq := hinv.server.opened hopen
  obtain ⟨q, hqs⟩ := Option.isSome_iff_exists.mp hq
  obtain ⟨rs, hall, hsock⟩ := allSent_sendPending (C := H.server) hqs hopen
  have hstep : Peer.Step H.server s.toServer s.server _ _ := .sendPending hq rs
  exact ⟨_, .server hstep, hinv.step_server hstep, rfl, rfl, hall, hsock, rfl, rfl⟩

lemma run_server {chan : List UInt8} {P : Peer}
    (h : Relation.ReflTransGen (Peer.Quiet H.server) (s.toServer, s.server) (chan, P)) :
    Relation.ReflTransGen (Step H) s { s with server := P, toServer := chan } := by
  refine h.lift (fun a => { s with server := a.2, toServer := a.1 }) ?_
  rintro ⟨chan₁, P₁⟩ ⟨chan₂, P₂⟩ ⟨⟨bs, sent, as⟩, hsent, hstep, hchan, -⟩
  obtain rfl : sent = [] := hsent
  obtain rfl : chan₂ = chan₁.drop bs.length := hchan
  exact step_server (s := { s with server := P₁, toServer := chan₁ }) hstep

lemma run_client (hidle : s.connecting = .idle) {chan : List UInt8} {P : Peer}
    (h : Relation.ReflTransGen (Peer.Quiet H.client) (s.toClient, s.client) (chan, P)) :
    Relation.ReflTransGen (Step H) s { s with client := P, toClient := chan } := by
  refine h.lift (fun a => { s with client := a.2, toClient := a.1 }) ?_
  rintro ⟨chan₁, P₁⟩ ⟨chan₂, P₂⟩ ⟨⟨bs, sent, as⟩, hsent, hstep, hchan, -⟩
  obtain rfl : sent = [] := hsent
  obtain rfl : chan₂ = chan₁.drop bs.length := hchan
  exact step_client (s := { s with client := P₁, toClient := chan₁ }) hidle hstep

/-- Everything that was pushed in `s` has been popped in `s'`. -/
structure Drained (H : Hosts F) (s s' : System F) : Prop where
  clientPushed : s'.client.pushed = s.client.pushed
  serverPushed : s'.server.pushed = s.server.pushed
  serverPopped : s'.server.popped = s.client.pushed.map fun m => Listening.view (m.frame H.client)
  clientPopped : s'.client.popped = s.server.pushed.map fun m => Listening.view (m.frame H.server)

/-- A kernel that takes nothing does not close the connection. -/
lemma sockfd_open_nil (C : Conf) (c : PTCPConnection) (fd : Int) (a : UInt32) (now : Int) :
    (c.open C fd a now []).1.sockfd = fd := by
  have hloop : ∀ k, sendLoop [] (k * 8) = (0, none) := by
    intro k
    have : ¬ k * 8 % 8 ≠ 0 := by omega
    rw [sendLoop, if_neg this]
  have hsend : ((c.openAck C fd a now).sendPending C []).1.sockfd = fd := by
    unfold PTCPConnection.sendPending
    cases (c.openAck C fd a now).q with
    | none => rfl
    | some q =>
      simp only [hloop]
      split_ifs <;> rfl
  exact (sockfd_openBuf _).trans hsend

/-- The server takes the login the client waits for. -/
lemma goes_live (hinv : Inv H s p) (hlate : s.late = []) {header : MsgHeader} {msg : LoginMsg F}
    (hs : s.connecting = .asking header msg) (hlive : s.live = false)
    (hyoung : s.server.Young H.server) :
    ∃ s', Step H s s' ∧ (∃ p', Inv H s' p') ∧ s'.joined = true ∧ s'.client = s.client ∧
      0 ≤ s'.server.conn.sockfd ∧ s'.server.pushed = s.server.pushed ∧
      ∃ rspHeader rsp, s'.connecting = .answered header msg (some (rspHeader, rsp)) ∧
        rsp.status = 0 := by
  have hm : s.pending.head? = some (header, msg) := by
    rw [pending, hlate, hs]
    rfl
  obtain ⟨l, hlogin, hl, -⟩ := hinv.head hm
  rw [hlogin] at hm
  obtain ⟨r, hr⟩ := handled_isSome hm hinv.server.stores 0 0 true []
  obtain ⟨-, -, rfl⟩ | ⟨-, ⟨hsend, -⟩ | ⟨hold, -⟩⟩ :=
    handled_cases hm hinv.server.stores (hinv.agrees hl) hr
  · have hhandle : s.handle H 0 0 true [] = some (s.afterHandle (accepted H s l p.serverAcked 0 0 [])) := by
      unfold System.handle
      rw [hlive, hr]
      rfl
    have hkeep := hinv.handle hhandle
    have hstep := Step.handle 0 0 true [] hhandle
    rw [afterHandle_asking hlate hs] at hkeep hstep
    refine ⟨_, hstep, hkeep, rfl, rfl, ?_, rfl, _, _, rfl, rfl⟩
    show 0 ≤ (s.serving.open H.server 0 _ 0 []).1.sockfd
    rw [sockfd_open_nil]
  · cases hsend
  · exact absurd (hinv.server.acksOld hyoung) hold

/-- The client gets the response. -/
lemma opens_client (hinv : Inv H s p) {header rspHeader : MsgHeader} {msg : LoginMsg F}
    {rsp : LoginRspMsg F} (hs : s.connecting = .answered header msg (some (rspHeader, rsp)))
    (hstatus : rsp.status = 0) :
    ∃ s', Step H s s' ∧ s'.connecting = .idle ∧ s'.joined = s.joined ∧
      0 ≤ s'.client.conn.sockfd ∧ s'.client.pushed = s.client.pushed ∧ s'.server = s.server := by
  have hwaits := hinv.waits
  rw [hs] at hwaits
  obtain ⟨hlogin, -, -, hresponse⟩ := hwaits
  obtain ⟨errorMsg, hrefused⟩ | hg := hresponse _ rfl
  · have : rsp.status = 2 := congrArg (fun r => r.2.status) hrefused
    rw [this] at hstatus
    exact absurd hstatus (by decide)
  · obtain ⟨a, e, hrsp⟩ := hg.rsp_eq
    have hs' := hs
    dsimp only at hg hrsp
    rw [hg.header_eq, hrsp] at hs'
    obtain ⟨r, hr⟩ : ∃ r, s.response H (fun _ => ⟨0, 0, 0⟩) 0 0 [] = some r := by
      unfold System.response
      rw [hs]
      exact ⟨_, rfl⟩
    have hout := response_granted hs' hlogin hinv.named hr
    have hname : s.lastServerName = (s.tcpShmClient H).serverName := rfl
    have hstep := Step.respond (fun _ => ⟨0, 0, 0⟩) 0 0 [] hr
    rw [hout] at hstep
    unfold afterResponse at hstep
    rw [if_pos rfl, if_pos hname] at hstep
    refine ⟨_, hstep, rfl, rfl, ?_, rfl, rfl⟩
    show 0 ≤ (s.client.conn.open H.client 0 _ 0 []).1.sockfd
    rw [sockfd_open_nil]

/-- The client logs on, when neither side has a connection and no login is on the way. -/
lemma logs_on (hinv : Inv H s p) (hidle : s.connecting = .idle)
    (hclosed : s.client.conn.isClosed = true) (hlive : s.live = false) (hpending : s.pending = [])
    (hyoung : s.client.Young H.client) (hyoung' : s.server.Young H.server) :
    ∃ s', Relation.ReflTransGen (Step H) s s' ∧ s'.connecting = .idle ∧ s'.joined = true ∧
      0 ≤ s'.client.conn.sockfd ∧ 0 ≤ s'.server.conn.sockfd ∧
      s'.client.pushed = s.client.pushed ∧ s'.server.pushed = s.server.pushed := by
  have hlate : s.late = [] := (List.append_eq_nil_iff.mp hpending).1
  have hconnect : s.connect H = some { s with
      client := s.client.withConn s.opening
      connecting := .asking (login H (s.numbers p.clientAcked)).1
        (login H (s.numbers p.clientAcked)).2
      joined := false
      toClient := [] } := by
    obtain ⟨hopen, -⟩ | ⟨-, heq⟩ | ⟨hold, -⟩ := request_cases hinv.named hinv.client.stores
    · rw [hclosed] at hopen
      cases hopen
    · unfold System.connect
      rw [hidle, heq]
    · exact absurd (hinv.client.acksOld hyoung) hold
  obtain ⟨p₁, hinv₁⟩ := hinv.connect hconnect
  obtain ⟨s₂, hstep₂, ⟨p₂, hinv₂⟩, hjoined₂, hclient₂, hopen₂, hpushed₂, rspHeader, rsp, hs₂,
    hstatus⟩ := goes_live hinv₁ hlate rfl hlive hyoung'
  obtain ⟨s₃, hstep₃, hidle₃, hjoined₃, hopen₃, hpushed₃, hserver₃⟩ :=
    opens_client hinv₂ hs₂ hstatus
  refine ⟨s₃, ((Relation.ReflTransGen.single (.connect hconnect)).tail hstep₂).tail hstep₃, hidle₃,
    hjoined₃.trans hjoined₂, hopen₃, ?_, ?_, ?_⟩
  · rwa [hserver₃]
  · rw [hpushed₃, hclient₂]
    rfl
  · rw [hserver₃, hpushed₂]

end System

end Tcpshm
