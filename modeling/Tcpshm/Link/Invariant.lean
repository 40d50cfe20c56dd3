import Tcpshm.Link.Login

/-!
# What holds in every run of a client and a server

The invariant of a system whose client knows the name of the server. It is about both directions,
and about the logins on the way: their numbers still fit the server when it gets to see them.
-/

namespace Tcpshm

open PTCPConnection

/-- What a receiver is still to pop: the frames in its buffer, those of which not all is there, and
the number of bytes that are there of these. -/
structure Flight where
  ready : List Frame
  rest : List Frame
  n : Nat

/-- How far a run is: the messages of either side that are acknowledged, what is in flight in either
direction, and the numbers of the logins the client has given up on. -/
structure Progress where
  clientAcked : Nat
  serverAcked : Nat
  up : Flight
  down : Flight
  late : List LoginNumbers

namespace System

variable {F : LoginFormat} {H : Hosts F} {s s' : System F} {p : Progress} {l : LoginNumbers}

/-! ### The invariant -/

/-- The client is outside of `Connect`. -/
def isIdle (s : System F) : Bool :=
  match s.connecting with
  | .idle => true
  | _ => false

/-- Both sides use the same connection. -/
def linked (s : System F) : Bool := s.joined && s.isIdle

/-- What the client can read. In `Connect` it reads nothing but the response. -/
def inbound (s : System F) : List UInt8 := if s.isIdle then s.toClient else []

/-- The numbers of a login are still good when the server sees it, whatever it pops before. -/
structure Fits (l : LoginNumbers) (s : System F) (p : Progress) : Prop where
  acks_le : ackAll p.serverAcked (frameAcks p.up.rest) ≤ l.popped
  popped_le : l.popped ≤ s.client.popped.length
  acked_le : l.acked ≤ s.server.popped.length
  le_pushed : s.server.popped.length + (apps (p.up.ready ++ p.up.rest)).length ≤ l.pushed
  pushed_lt : l.pushed < l.acked + 2 ^ 29

/-- The client waits in `Connect` with its file open, and `SanityCheckAndGetSeq` has accepted it. -/
structure Asked (s : System F) (p : Progress) : Prop where
  opened : s.client.conn.q.isSome
  acksOld : s.client.queue.AcksOld (s.client.msgs.drop p.clientAcked)

/-- The response says that the server has opened the connection: nothing reaches it before the
client has got the response, and what it sends goes on from the pops of the client. -/
structure Granted (H : Hosts F) (s : System F) (p : Progress) (header : MsgHeader)
    (rsp : LoginRspMsg F) : Prop where
  header_eq : header = rspHeader F H.server (UInt32.ofNat s.server.popped.length)
  rsp_eq : ∃ a b, rsp = answerRsp H.server H.serverName a b 0
  toServer : s.toServer = []
  rest : p.up.rest = []
  ready : apps p.up.ready = []
  sending : ∃ rest, Sending H.server s.server p.serverAcked s.client.popped.length
    s.server.popped.length s.joined s.toClient [] rest 0

/-- What is known about the login the client waits for. -/
def Waits (H : Hosts F) (s : System F) (p : Progress) : Connecting F → Prop
  | .idle => True
  | .asking header msg => (header, msg) = login H (s.numbers p.clientAcked) ∧ Asked s p
  | .answered header msg response => (header, msg) = login H (s.numbers p.clientAcked) ∧
      Asked s p ∧ s.late = [] ∧
      ∀ r ∈ response, (∃ errorMsg, r = refusal H errorMsg) ∨ Granted H s p r.1 r.2

lemma Waits.imp {p' : Progress} {c : Connecting F} (h : Waits H s p c)
    (hnumbers : s'.numbers p'.clientAcked = s.numbers p.clientAcked)
    (hasked : Asked s p → Asked s' p') (hlate : s'.late = s.late)
    (hgranted : ∀ {header rsp}, Granted H s p header rsp → Granted H s' p' header rsp) :
    Waits H s' p' c := by
  cases c with
  | idle => trivial
  | asking header msg => exact ⟨h.1.trans (by rw [hnumbers]), hasked h.2⟩
  | answered header msg response =>
    obtain ⟨hlogin, hwaits, hnil, hresponse⟩ := h
    exact ⟨hlogin.trans (by rw [hnumbers]), hasked hwaits, hlate.trans hnil,
      fun r hr => (hresponse r hr).imp_right hgranted⟩

structure Inv (H : Hosts F) (s : System F) (p : Progress) : Prop where
  named : s.lastServerName = H.serverName
  client : Counts H.client s.client p.clientAcked
  server : Counts H.server s.server p.serverAcked
  up : Toward H.client H.server s.client s.server p.clientAcked p.serverAcked s.linked s.toServer
    p.up.ready p.up.rest p.up.n
  down : Toward H.server H.client s.server s.client p.serverAcked p.clientAcked s.linked s.inbound
    p.down.ready p.down.rest p.down.n
  joined : s.joined = true → s.pending = []
  late : s.late = p.late.map (login H)
  fits : ∀ l ∈ p.late, Fits l s p
  sorted : p.late.Pairwise fun l l' => l.popped ≤ l'.popped
  waits : Waits H s p s.connecting

/-! ### What it says about the counts -/

namespace Inv

lemma serverPopped_le (h : Inv H s p) : s.server.popped.length ≤ s.client.pushed.length :=
  h.up.receiving.length_popped_le

lemma clientPopped_le (h : Inv H s p) : s.client.popped.length ≤ s.server.pushed.length :=
  h.down.receiving.length_popped_le

lemma clientAcked_le (h : Inv H s p) : p.clientAcked ≤ s.server.popped.length :=
  h.down.sending.ack_le

lemma serverAcked_le (h : Inv H s p) : p.serverAcked ≤ s.client.popped.length :=
  h.up.sending.ack_le

lemma clientPushed_lt (h : Inv H s p) : s.client.pushed.length < p.clientAcked + 2 ^ 29 := by
  have := h.client.stores.stored_lt
  rwa [Peer.length_msgs] at this

lemma serverPushed_lt (h : Inv H s p) : s.server.pushed.length < p.serverAcked + 2 ^ 29 := by
  have := h.server.stores.stored_lt
  rwa [Peer.length_msgs] at this

/-- The login the client would send now fits. -/
lemma fits_numbers (h : Inv H s p) : Fits (s.numbers p.clientAcked) s p where
  acks_le := h.up.sending.stream.acks_le
  popped_le := le_rfl
  acked_le := h.clientAcked_le
  le_pushed := by
    have hle := h.up.sending.stream.apps_begins.length_le
    have := h.serverPopped_le
    rw [List.length_map, List.length_drop] at hle
    show _ ≤ s.client.pushed.length
    omega
  pushed_lt := h.clientPushed_lt

lemma agrees (h : Inv H s p) (hl : Fits l s p) : Agrees l s.server p.serverAcked where
  le_popped := (le_ackAll _ _).trans hl.acks_le
  popped_le := hl.popped_le.trans h.clientPopped_le
  acked_le := hl.acked_le
  le_pushed := (Nat.le_add_right _ _).trans hl.le_pushed
  pushed_lt := hl.pushed_lt

/-- The first login the server will see: a late one, or the one the client waits for. -/
lemma head (h : Inv H s p) {m : MsgHeader × LoginMsg F} (hm : s.pending.head? = some m) :
    ∃ l, m = login H l ∧ Fits l s p ∧ ((∃ late, p.late = l :: late) ∨
      (p.late = [] ∧ l = s.numbers p.clientAcked ∧
        ∃ header msg, s.connecting = .asking header msg)) := by
  have hlate := h.late
  cases hp : p.late with
  | cons l late =>
    refine ⟨l, ?_, h.fits l (by rw [hp]; exact List.mem_cons_self ..), Or.inl ⟨late, rfl⟩⟩
    rw [hp, List.map_cons] at hlate
    rw [pending, hlate] at hm
    exact (Option.some.inj hm).symm
  | nil =>
    rw [hp, List.map_nil] at hlate
    have hc := h.waits
    rw [pending, hlate, List.nil_append] at hm
    cases hs : s.connecting with
    | asking header msg =>
      rw [hs] at hm hc
      refine ⟨_, (Option.some.inj hm).symm.trans hc.1, h.fits_numbers, Or.inr ⟨rfl, rfl, _, _, rfl⟩⟩
    | idle =>
      rw [hs] at hm
      cases hm
    | answered header msg response =>
      rw [hs] at hm
      cases hm

lemma joined_eq_false (h : Inv H s p) (hne : s.pending ≠ []) : s.joined = false :=
  Bool.eq_false_iff.mpr fun hj => hne (h.joined hj)

lemma joined_of_late (h : Inv H s p) (hl : l ∈ p.late) : s.joined = false := by
  refine h.joined_eq_false fun hnil => ?_
  have hlate := (List.append_eq_nil_iff.mp hnil).1
  rw [h.late, List.map_eq_nil_iff] at hlate
  rw [hlate] at hl
  cases hl

/-! ### Connections that change nothing -/

lemma client_conn (h : Inv H s p) {c : PTCPConnection} (hc : SameConn s.client c) :
    Inv H { s with client := s.client.withConn c } p where
  named := h.named
  client := hc.counts h.client
  server := h.server
  up := hc.toward_sender h.up
  down := hc.toward_receiver h.down
  joined := h.joined
  late := h.late
  fits := fun l hl => ⟨(h.fits l hl).acks_le, (h.fits l hl).popped_le, (h.fits l hl).acked_le,
    (h.fits l hl).le_pushed, (h.fits l hl).pushed_lt⟩
  sorted := h.sorted
  waits := by
    refine h.waits.imp rfl (fun hw => ⟨hc.opened hw.opened, ?_⟩) rfl fun hg =>
      ⟨hg.header_eq, hg.rsp_eq, hg.toServer, hg.rest, hg.ready, hg.sending⟩
    rw [show (s.client.withConn c).queue = s.client.queue from hc.queue]
    exact hw.acksOld

/-- Bytes on the way are lost, and so may be the connection of the server. -/
lemma lose (h : Inv H s p) {c : PTCPConnection} (hc : SameConn s.server c) (live : Bool)
    {toServer toClient : List UInt8} (hserver : toServer <+: s.toServer)
    (hclient : toClient <+: s.toClient) :
    Inv H { s with
      server := s.server.withConn c
      live := live
      joined := false
      toServer := toServer
      toClient := toClient } p where
  named := h.named
  client := h.client
  server := hc.counts h.server
  up := hc.toward_receiver (h.up.lose hserver)
  down := by
    refine hc.toward_sender (h.down.lose ?_)
    unfold inbound isIdle
    cases s.connecting with
    | idle => exact hclient
    | asking => exact List.prefix_rfl
    | answered => exact List.prefix_rfl
  joined := fun hj => absurd hj Bool.false_ne_true
  late := h.late
  fits := fun l hl => ⟨(h.fits l hl).acks_le, (h.fits l hl).popped_le, (h.fits l hl).acked_le,
    (h.fits l hl).le_pushed, (h.fits l hl).pushed_lt⟩
  sorted := h.sorted
  waits := by
    refine h.waits.imp rfl (fun hw => ⟨hw.opened, hw.acksOld⟩) rfl fun hg => ?_
    obtain ⟨rest, hsend⟩ := hg.sending
    refine ⟨hg.header_eq, hg.rsp_eq, List.prefix_nil.mp (hg.toServer ▸ hserver), hg.rest, hg.ready,
      rest, ?_⟩
    exact hsend.lose (Z := s.server.withConn c) List.prefix_rfl le_rfl hclient _

/-! ### Steps of the processes -/

/-- The client sends and receives on its connection. -/
lemma step_client (h : Inv H s p) (hidle : s.connecting = .idle) {ex : Exchanged} {P' : Peer}
    (hstep : Peer.Step H.client s.toClient s.client ex P') :
    ∃ p', Inv H { s with
      client := P'
      toClient := s.toClient.drop ex.read.length
      toServer := if s.joined then s.toServer ++ ex.sent else s.toServer } p' := by
  have hlinked : s.linked = s.joined := by
    unfold linked isIdle
    rw [hidle, Bool.and_true]
  have hinbound : s.inbound = s.toClient := by
    unfold inbound isIdle
    rw [hidle, if_pos rfl]
  have hdown := h.down
  have hup := h.up
  rw [hlinked] at hdown hup
  rw [hinbound] at hdown
  obtain ⟨ready', rest', n', more, f', rfl, hcounts, hin, hmore, hout, hadv⟩ :=
    hstep.link H.sameOrder.symm H.clientBuf_lt h.server h.client hdown hup
  refine ⟨{ p with
    clientAcked := ackAll p.clientAcked ex.acks
    up := ⟨p.up.ready, p.up.rest ++ more, p.up.n⟩
    down := ⟨ready', rest', n'⟩ }, ?_⟩
  refine ⟨h.named, hcounts, h.server, ?_, ?_, h.joined, h.late, fun l hl => ?_, h.sorted, ?_⟩
  · unfold linked isIdle
    dsimp only
    rw [hidle, Bool.and_true]
    exact hout
  · unfold linked inbound isIdle
    dsimp only
    rw [hidle, Bool.and_true, if_pos rfl]
    exact hin
  · obtain ⟨hacks, hpopped, hacked, hpushed, hlt⟩ := h.fits l hl
    obtain rfl := hmore (h.joined_of_late hl)
    refine ⟨?_, hpopped.trans hadv.popped, hacked, ?_, hlt⟩
    · rw [List.append_nil]
      exact hacks
    · rw [List.append_nil]
      exact hpushed
  · show Waits H _ _ s.connecting
    rw [hidle]
    trivial

/-- The server sends and receives on its connection. -/
lemma step_server (h : Inv H s p) {ex : Exchanged} {P' : Peer}
    (hstep : Peer.Step H.server s.toServer s.server ex P') :
    ∃ p', Inv H { s with
      server := P'
      toServer := s.toServer.drop ex.read.length
      toClient := if s.joined then s.toClient ++ ex.sent else s.toClient } p' := by
  obtain ⟨ready', rest', n', more, f', rfl, hcounts, hin, hmore, hout, hadv⟩ :=
    hstep.link H.sameOrder H.serverBuf_lt h.client h.server h.up h.down
  refine ⟨{ p with
    serverAcked := ackAll p.serverAcked ex.acks
    up := ⟨ready', rest', n'⟩
    down := ⟨p.down.ready, p.down.rest ++ more, p.down.n⟩ }, ?_⟩
  refine ⟨h.named, h.client, hcounts, hin, ?_, h.joined, h.late, fun l hl => ?_, h.sorted, ?_⟩
  · refine cast (congrArg₂ (fun j chan => Toward _ _ _ _ _ _ j chan _ _ _) ?_ ?_) hout
    · rfl
    · unfold linked inbound isIdle
      cases s.connecting <;> cases s.joined <;> rfl
  · obtain ⟨hacks, hpopped, hacked, hpushed, hlt⟩ := h.fits l hl
    refine ⟨hadv.acks_eq.trans_le hacks, hpopped, hacked.trans hadv.popped, ?_, hlt⟩
    exact hadv.count_eq.trans_le hpushed
  · refine h.waits.imp rfl (fun hw => ⟨hw.opened, hw.acksOld⟩) rfl fun hg => ?_
    obtain ⟨happs, hpopped⟩ := hadv.apps_ready hg.ready hg.rest
    have hrest : rest' = [] := List.suffix_nil.mp (hg.rest ▸ hadv.suffix)
    have hacked : ackAll p.serverAcked ex.acks = p.serverAcked := by
      have := hadv.acks_eq
      rw [hg.rest, hrest] at this
      exact this
    obtain ⟨rest, hsend⟩ := hg.sending
    obtain ⟨more', -, hsend'⟩ := hstep.sending h.server hadv.stays (by omega) h.clientPopped_le
      (hacked.trans_le h.serverAcked_le) hsend
    refine ⟨?_, hg.rsp_eq, ?_, hrest, happs, rest ++ more', ?_⟩
    · rw [hg.header_eq, ← hpopped]
    · show s.toServer.drop _ = []
      rw [hg.toServer, List.drop_nil]
    · rw [← hpopped] at hsend'
      exact hsend'

end Inv

end System

end Tcpshm
