import Tcpshm.Link.Invariant

/-!
# Logins keep the invariant

The steps of `Connect` and `HandleLogin`, and the restarts, keep what holds of a client and a
server.
-/

namespace Tcpshm

open PTCPConnection

namespace System

variable {F : LoginFormat} {H : Hosts F} {s s' : System F} {p : Progress} {l : LoginNumbers}

/-! ### The response at the client -/

lemma response_refused {header : MsgHeader} {msg : LoginMsg F} {errorMsg : String}
    (hs : s.connecting = .answered header msg (some (refusal H errorMsg))) {newBlk : Mem MsgHeader}
    {fd now : Int} {rs : List SendResult} {r : TcpShmClient F × ConnectResult × List UInt8}
    (h : s.response H newBlk fd now rs = some r) : r = (s.tcpShmClient H, .loginReject, []) := by
  unfold response at h
  rw [hs] at h
  obtain rfl := Option.some.inj h
  have hvalid : ¬ ((8 : UInt16) + F.loginRspMsgSize ≠ 8 + F.loginRspMsgSize ∨ (2 : UInt16) ≠ 2 ∨
      H.serverName.isEmpty = true) := by
    simp [H.named]
  unfold TcpShmClient.loginResponse rspHeader
  rw [MsgHeader.convertByteOrder_carry H.sameOrder.symm]
  exact if_neg hvalid

lemma response_granted {header : MsgHeader} {msg : LoginMsg F} {b : UInt32} {a e : UInt32}
    (hs : s.connecting = .answered header msg (some (rspHeader F H.server b,
      answerRsp H.server H.serverName a e 0)))
    (hlogin : (header, msg) = login H l) (hname : s.lastServerName = H.serverName)
    {newBlk : Mem MsgHeader} {fd now : Int} {rs : List SendResult}
    {r : TcpShmClient F × ConnectResult × List UInt8}
    (h : s.response H newBlk fd now rs = some r) :
    r = ({ s.tcpShmClient H with conn := (s.client.conn.open H.client fd b now rs).1 }, .success,
      (s.client.conn.open H.client fd b now rs).2) := by
  unfold response at h
  rw [hs] at h
  obtain rfl := Option.some.inj h
  obtain ⟨rfl, rfl⟩ := Prod.mk.inj hlogin
  have hsame : ¬ ((s.tcpShmClient H).serverName ≠ H.serverName) := not_not.mpr hname
  rw [loginResponse_carry H.sameOrder _ _ _ _ _ H.named, if_neg (not_not.mpr rfl), if_neg hsame]
  rfl

/-! ### The answer of the server -/

lemma answer_late {response : Option (MsgHeader × LoginRspMsg F)} {m : MsgHeader × LoginMsg F}
    {late : List (MsgHeader × LoginMsg F)} (h : s.late = m :: late) :
    s.answer response = { s with late := late } := by
  unfold System.answer
  rw [h]

lemma answer_asking {response : Option (MsgHeader × LoginRspMsg F)} {header : MsgHeader}
    {msg : LoginMsg F} (h : s.late = []) (hs : s.connecting = .asking header msg) :
    s.answer response = { s with connecting := .answered header msg response } := by
  unfold System.answer
  rw [h, hs]

lemma answer_client (response : Option (MsgHeader × LoginRspMsg F)) :
    (s.answer response).client = s.client := by
  obtain ⟨client, server, name, connecting, late, live, joined, toServer, toClient⟩ := s
  cases late <;> cases connecting <;> rfl

lemma answer_server (response : Option (MsgHeader × LoginRspMsg F)) :
    (s.answer response).server = s.server := by
  obtain ⟨client, server, name, connecting, late, live, joined, toServer, toClient⟩ := s
  cases late <;> cases connecting <;> rfl

lemma answer_withServer (response : Option (MsgHeader × LoginRspMsg F)) (P : Peer) :
    { s with server := P }.answer response = { s.answer response with server := P } := by
  obtain ⟨client, server, name, connecting, late, live, joined, toServer, toClient⟩ := s
  cases late <;> cases connecting <;> rfl

section

variable {f : Nat} {fd now : Int} {rs : List SendResult}

lemma afterHandle_late {m : MsgHeader × LoginMsg F} {late : List (MsgHeader × LoginMsg F)}
    (h : s.late = m :: late) :
    s.afterHandle (accepted H s l f fd now rs) = { s with
      server := s.server.reopen H.server s.serving fd (UInt32.ofNat l.popped) now rs
      late := late
      live := true
      joined := false
      toServer := [] } := by
  have hevent : (accepted H s l f fd now rs).event = .clientLogon := rfl
  unfold afterHandle
  rw [hevent]
  dsimp only
  rw [answer_late h, h]
  rfl

lemma afterHandle_asking {header : MsgHeader} {msg : LoginMsg F} (h : s.late = [])
    (hs : s.connecting = .asking header msg) :
    s.afterHandle (accepted H s l f fd now rs) = { s with
      server := s.server.reopen H.server s.serving fd (UInt32.ofNat l.popped) now rs
      connecting := .answered header msg
        (some ((accepted H s l f fd now rs).header, (accepted H s l f fd now rs).rsp))
      live := true
      joined := true
      toServer := []
      toClient := (accepted H s l f fd now rs).sent } := by
  have hevent : (accepted H s l f fd now rs).event = .clientLogon := rfl
  unfold afterHandle
  rw [hevent]
  dsimp only
  rw [answer_asking h hs, h]
  rfl

end

/-! ### Where the client is in `Connect` -/

lemma inbound_eq_nil (h : s.toClient = []) : s.inbound = [] := by
  unfold inbound
  rw [h, ite_self]

namespace Inv

/-- The client goes on in `Connect`, while it reads what it read before. -/
lemma becomes (h : Inv H s p) {c : Connecting F} {joined : Bool} {toClient : List UInt8}
    (hlinked : { s with connecting := c, joined := joined }.linked = s.linked)
    (hinbound : { s with connecting := c, toClient := toClient }.inbound = s.inbound)
    (hjoined : joined = true → { s with connecting := c }.pending = [])
    (hwaits : Waits H { s with connecting := c, joined := joined, toClient := toClient } p c) :
    Inv H { s with connecting := c, joined := joined, toClient := toClient } p where
  named := h.named
  client := h.client
  server := h.server
  up := cast (congrArg (fun j => Toward _ _ _ _ _ _ j _ _ _ _) hlinked.symm) h.up
  down := cast (congrArg₂ (fun j chan => Toward _ _ _ _ _ _ j chan _ _ _) hlinked.symm
    hinbound.symm) h.down
  joined := hjoined
  late := h.late
  fits := fun l hl => ⟨(h.fits l hl).acks_le, (h.fits l hl).popped_le, (h.fits l hl).acked_le,
    (h.fits l hl).le_pushed, (h.fits l hl).pushed_lt⟩
  sorted := h.sorted
  waits := hwaits

lemma connect (h : Inv H s p) (hc : s.connect H = some s') : ∃ p', Inv H s' p' := by
  obtain ⟨c, hsame, rfl⟩ | ⟨hold, rfl⟩ := connect_cases h.named h.client.stores hc
  · exact ⟨p, h.client_conn hsame⟩
  · have hsame := s.sameConn_opening
    have hlost := (h.client_conn hsame).lose (.refl _) s.live List.prefix_rfl List.nil_prefix
    refine ⟨p, hlost.becomes rfl ?_ (fun hj => absurd hj Bool.false_ne_true) ⟨rfl, rfl, ?_⟩⟩
    · exact (inbound_eq_nil rfl).trans (inbound_eq_nil rfl).symm
    · rw [show (s.client.withConn s.opening).queue = s.client.queue from hsame.queue]
      exact hold

/-! ### Giving up and restarting -/

/-- The login the client waits for, if there is one. -/
def asked (s : System F) (p : Progress) : List LoginNumbers :=
  match s.connecting with
  | .asking _ _ => [s.numbers p.clientAcked]
  | _ => []

lemma pending_eq (h : Inv H s p) : s.pending = (p.late ++ asked s p).map (login H) := by
  have hwaits := h.waits
  rw [List.map_append, pending, ← h.late]
  unfold asked
  cases hs : s.connecting with
  | idle => rfl
  | asking header msg =>
    rw [hs] at hwaits
    exact congrArg (fun m => s.late ++ [m]) hwaits.1
  | answered header msg response => rfl

lemma fits_asked (h : Inv H s p) (hl : l ∈ asked s p) :
    Fits l s p ∧ l.popped = s.client.popped.length := by
  unfold asked at hl
  cases hs : s.connecting with
  | asking header msg =>
    rw [hs] at hl
    obtain rfl := List.mem_singleton.mp hl
    exact ⟨h.fits_numbers, rfl⟩
  | idle =>
    rw [hs] at hl
    cases hl
  | answered header msg response =>
    rw [hs] at hl
    cases hl

lemma giveUp (h : Inv H s p) : Inv H s.giveUp { p with late := p.late ++ asked s p } where
  named := h.named
  client := h.client
  server := h.server
  up := h.up.lose List.prefix_rfl
  down := h.down.lose List.nil_prefix
  joined := fun hj => absurd hj Bool.false_ne_true
  late := h.pending_eq
  fits := fun l hl => by
    have hfits : Fits l s p := by
      rcases List.mem_append.mp hl with hl | hl
      · exact h.fits l hl
      · exact (h.fits_asked hl).1
    exact ⟨hfits.acks_le, hfits.popped_le, hfits.acked_le, hfits.le_pushed, hfits.pushed_lt⟩
  sorted := by
    refine List.pairwise_append.mpr ⟨h.sorted, ?_, fun l hl l' hl' => ?_⟩
    · unfold asked
      cases s.connecting with
      | asking => exact List.pairwise_singleton _ _
      | idle => exact .nil
      | answered => exact .nil
    · rw [(h.fits_asked hl').2]
      exact (h.fits l hl).popped_le
  waits := trivial

lemma crashClient (h : Inv H s p) : ∃ p', Inv H (s.crashClient H) p' := by
  have hup := h.giveUp
  refine ⟨{ p with late := p.late ++ asked s p, down := ⟨[], [], 0⟩ }, ?_⟩
  exact {
    named := h.named
    client := h.client.crash
    server := h.server
    up := h.up.crash_sender List.prefix_rfl
    down := h.down.crash_receiver
    joined := hup.joined
    late := hup.late
    fits := fun l hl => ⟨(hup.fits l hl).acks_le, (hup.fits l hl).popped_le,
      (hup.fits l hl).acked_le, (hup.fits l hl).le_pushed, (hup.fits l hl).pushed_lt⟩
    sorted := hup.sorted
    waits := trivial }

lemma crashServer (h : Inv H s p) : ∃ p', Inv H (s.crashServer H) p' := by
  have hidle : (s.crashServer H).isIdle = s.isIdle := by
    unfold isIdle System.crashServer
    cases s.connecting <;> rfl
  have hinbound : (s.crashServer H).inbound = s.inbound := by
    unfold inbound
    rw [hidle]
    rfl
  refine ⟨{ p with up := ⟨[], [], 0⟩, late := [] }, ?_⟩
  exact {
    named := h.named
    client := h.client
    server := h.server.crash
    up := h.up.crash_receiver
    down := hinbound ▸ h.down.crash_sender List.prefix_rfl
    joined := fun hj => absurd hj Bool.false_ne_true
    late := rfl
    fits := nofun
    sorted := .nil
    waits := by
      have hwaits := h.waits
      unfold System.crashServer
      cases hs : s.connecting with
      | idle => trivial
      | asking header msg =>
        rw [hs] at hwaits
        exact ⟨hwaits.1, ⟨hwaits.2.opened, hwaits.2.acksOld⟩, rfl, nofun⟩
      | answered header msg response =>
        rw [hs] at hwaits
        refine hwaits.imp rfl (fun hw => ⟨hw.opened, hw.acksOld⟩) hwaits.2.2.1.symm fun hg => ?_
        obtain ⟨rest, hsend⟩ := hg.sending
        exact ⟨hg.header_eq, hg.rsp_eq, rfl, rfl, rfl, rest,
          hsend.lose (Z := s.server.crash H.server) List.prefix_rfl le_rfl List.prefix_rfl _⟩ }

/-! ### The server deals with a login -/

/-- The next login comes up. -/
lemma pop_late (h : Inv H s p) {late : List LoginNumbers} (hp : p.late = l :: late) :
    Inv H { s with late := late.map (login H) } { p with late := late } := by
  have hsorted := h.sorted
  have hlate := h.late
  rw [hp] at hsorted hlate
  refine ⟨h.named, h.client, h.server, h.up, h.down, fun hj => ?_, rfl, fun l' hl' => ?_,
    (List.pairwise_cons.mp hsorted).2, ?_⟩
  · exact absurd hj (h.joined_of_late (hp ▸ List.mem_cons_self ..) ▸ Bool.false_ne_true)
  · have hfits := h.fits l' (hp ▸ List.mem_cons_of_mem _ hl')
    exact ⟨hfits.acks_le, hfits.popped_le, hfits.acked_le, hfits.le_pushed, hfits.pushed_lt⟩
  · have hwaits := h.waits
    show Waits H _ _ s.connecting
    cases hs : s.connecting with
    | idle => trivial
    | asking header msg =>
      rw [hs] at hwaits
      exact ⟨hwaits.1, hwaits.2.opened, hwaits.2.acksOld⟩
    | answered header msg response =>
      rw [hs, Waits, hlate] at hwaits
      exact absurd hwaits.2.2.1 (List.cons_ne_nil _ _)

/-- The client gets its answer. -/
lemma answered (h : Inv H s p) (hlate : p.late = []) {header : MsgHeader} {msg : LoginMsg F}
    (hs : s.connecting = .asking header msg) {response : Option (MsgHeader × LoginRspMsg F)}
    {joined : Bool} {toClient : List UInt8}
    (hresponse : ∀ r ∈ response, (∃ errorMsg, r = refusal H errorMsg) ∨
      Granted H { s with joined := joined, toClient := toClient } p r.1 r.2) :
    Inv H { s with
      connecting := .answered header msg response
      joined := joined
      toClient := toClient } p := by
  have hnil := h.late
  rw [hlate, List.map_nil] at hnil
  have hwaits := h.waits
  rw [hs] at hwaits
  have hanswered : Waits H { s with
      connecting := .answered header msg response
      joined := joined
      toClient := toClient } p (.answered header msg response) :=
    ⟨hwaits.1, ⟨hwaits.2.opened, hwaits.2.acksOld⟩, hnil, fun r hr => (hresponse r hr).imp_right
      fun hg => ⟨hg.header_eq, hg.rsp_eq, hg.toServer, hg.rest, hg.ready, hg.sending⟩⟩
  refine h.becomes ?_ ?_ (fun _ => ?_) hanswered
  · unfold linked isIdle
    rw [hs, Bool.and_false, Bool.and_false]
  · unfold inbound isIdle
    rw [hs]
    rfl
  · rw [pending, hnil]
    rfl

/-- The first login is refused, or it is lost. -/
lemma answer (h : Inv H s p) {response : Option (MsgHeader × LoginRspMsg F)}
    (hresponse : ∀ r ∈ response, ∃ errorMsg, r = refusal H errorMsg) : ∃ p', Inv H (s.answer response) p' := by
  have hlate := h.late
  cases hp : p.late with
  | cons l late =>
    rw [hp, List.map_cons] at hlate
    rw [answer_late hlate]
    exact ⟨_, h.pop_late hp⟩
  | nil =>
    rw [hp, List.map_nil] at hlate
    cases hs : s.connecting with
    | asking header msg =>
      rw [answer_asking hlate hs]
      exact ⟨p, h.answered hp hs fun r hr => Or.inl (hresponse r hr)⟩
    | idle | answered =>
      refine ⟨p, ?_⟩
      unfold System.answer
      rw [hlate, hs]
      exact h

/-- The server opens its connection anew, for a client that may have given up. -/
lemma reopen (h : Inv H s p) (hl : Fits l s p) (hnext : ∀ l' ∈ p.late, l.popped ≤ l'.popped)
    (hwaits : ∀ header msg response, s.connecting ≠ .answered header msg response)
    (fd now : Int) (rs : List SendResult) :
    Inv H { s with
        server := s.server.reopen H.server s.serving fd (UInt32.ofNat l.popped) now rs
        live := true
        joined := false
        toServer := [] }
      { p with serverAcked := l.popped, up := ⟨[], [], 0⟩ } where
  named := h.named
  client := h.client
  server := h.server.reopen fd now rs (SameConn.refl _).q_openFile rfl (h.agrees hl).le_popped
    (h.agrees hl).popped_le
  up := h.up.of_empty (s.server.reopen H.server s.serving fd _ now rs) rfl rfl
    (receives_open s.serving h.up.receiving.receives.bounds.size_le _ _ _ _ _) hl.popped_le
  down := by
    refine ⟨h.down.receiving, ?_⟩
    exact h.down.sending.lose (Z := s.server.reopen _ _ _ _ _ _) List.prefix_rfl le_rfl
      List.prefix_rfl _
  joined := fun hj => absurd hj Bool.false_ne_true
  late := h.late
  fits := fun l' hl' => by
    have hfits := h.fits l' hl'
    refine ⟨hnext l' hl', hfits.popped_le, hfits.acked_le, ?_, hfits.pushed_lt⟩
    exact (Nat.add_le_add_left (Nat.zero_le _) _).trans hfits.le_pushed
  sorted := h.sorted
  waits := by
    have hw := h.waits
    show Waits H _ _ s.connecting
    cases hs : s.connecting with
    | idle => trivial
    | asking header msg =>
      rw [hs] at hw
      exact ⟨hw.1, hw.2.opened, hw.2.acksOld⟩
    | answered header msg response => exact absurd hs (hwaits _ _ _)

/-- The server accepts the first login. -/
lemma accepts (h : Inv H s p) (hl : Fits l s p)
    (hhead : (∃ late, p.late = l :: late) ∨ (p.late = [] ∧ l = s.numbers p.clientAcked ∧
      ∃ header msg, s.connecting = .asking header msg))
    (hold : s.server.queue.AcksOld (s.server.msgs.drop p.serverAcked)) (fd now : Int)
    (rs : List SendResult) :
    ∃ p', Inv H (s.afterHandle (accepted H s l p.serverAcked fd now rs)) p' := by
  have hlate := h.late
  obtain ⟨late, hp⟩ | ⟨hp, rfl, header, msg, hs⟩ := hhead
  · have hpop := h.pop_late hp
    have hsorted := h.sorted
    rw [hp] at hsorted
    rw [hp, List.map_cons] at hlate
    have hopen := hpop.reopen (l := l)
      ⟨hl.acks_le, hl.popped_le, hl.acked_le, hl.le_pushed, hl.pushed_lt⟩
      (List.pairwise_cons.mp hsorted).1 (fun header msg response hs => ?_) fd now rs
    · rw [afterHandle_late hlate]
      exact ⟨_, hopen⟩
    · have hwaits := h.waits
      rw [show s.connecting = _ from hs, Waits, hlate] at hwaits
      exact absurd hwaits.2.2.1 (List.cons_ne_nil _ _)
  · rw [hp, List.map_nil] at hlate
    have hopen := h.reopen hl (fun l' hl' => by rw [hp] at hl'; cases hl')
      (fun _ _ _ hs' => by rw [hs] at hs'; cases hs') fd now rs
    have hq : s.serving.q = some s.server.queue := (SameConn.refl _).q_openFile
    have happs : apps [] = [] := rfl
    have hsend := h.server.sending_reopen fd now rs hq (h.agrees hl).le_popped
      (h.agrees hl).popped_le hold (le_refl s.server.popped.length) (by omega) happs
    rw [afterHandle_asking hlate hs]
    refine ⟨_, hopen.answered hp hs fun r hr => ?_⟩
    obtain rfl := Option.some.inj hr
    exact Or.inr ⟨rfl, ⟨_, _, rfl⟩, rfl, rfl, rfl, _, hsend⟩

lemma handle (h : Inv H s p) {fd now : Int} {sendOk : Bool} {rs : List SendResult}
    (hh : s.handle H fd now sendOk rs = some s') : ∃ p', Inv H s' p' := by
  unfold System.handle at hh
  split_ifs at hh with hlive
  · obtain ⟨m, -, rfl⟩ := Option.map_eq_some_iff.mp hh
    refine h.answer fun r hr => ?_
    exact ⟨_, (Option.some.inj hr).symm⟩
  · obtain ⟨r, hr, rfl⟩ := Option.map_eq_some_iff.mp hh
    obtain ⟨m, hm, -⟩ := Option.bind_eq_some_iff.mp (Option.bind_eq_some_iff.mp hr).choose_spec.1
    obtain ⟨l, rfl, hl, hhead⟩ := h.head hm
    obtain ⟨hold, -, rfl⟩ | ⟨hconn, hevent⟩ :=
      handled_cases hm h.server.stores (h.agrees hl) hr
    · exact h.accepts hl hhead hold fd now rs
    · have hkeep : ∀ {response : Option (MsgHeader × LoginRspMsg F)},
          (∀ r ∈ response, ∃ errorMsg, r = refusal H errorMsg) →
          ∃ p', Inv H { s.answer response with server := s.server.withConn r.conn } p' := by
        intro response hresponse
        have hjoined : s.joined = false := h.joined_eq_false fun hnil => by
          rw [hnil] at hm
          cases hm
        have hlost := h.lose (hconn ▸ s.sameConn_serving) s.live List.prefix_rfl List.prefix_rfl
        rw [← hjoined] at hlost
        rw [← answer_withServer]
        exact hlost.answer hresponse
      unfold afterHandle
      obtain ⟨-, hfailed⟩ | ⟨-, hcorrupt, hrefused⟩ := hevent
      · rw [hfailed]
        exact hkeep nofun
      · rw [hcorrupt]
        refine hkeep fun r hr => ?_
        exact ⟨_, (Option.some.inj hr).symm.trans hrefused⟩

/-! ### The client gets the response -/

/-- The client opens its connection with the pops of the server. -/
lemma opens (h : Inv H s p) {header rspHeader : MsgHeader} {msg : LoginMsg F} {rsp : LoginRspMsg F}
    (hs : s.connecting = .answered header msg (some (rspHeader, rsp)))
    (hg : Granted H s p rspHeader rsp) (hasked : Asked s p) (fd now : Int) (rs : List SendResult) :
    ∃ p', Inv H { s with
      client := s.client.reopen H.client s.client.conn fd (UInt32.ofNat s.server.popped.length) now rs
      connecting := .idle
      toServer := if s.joined then
          s.toServer ++ (s.client.conn.open H.client fd (UInt32.ofNat s.server.popped.length) now rs).2
        else s.toServer } p' := by
  obtain ⟨q, hq⟩ := Option.isSome_iff_exists.mp hasked.opened
  have hqueue : s.client.conn.q = some s.client.queue := by
    rw [Peer.queue_eq hq]
    exact hq
  have hwaits := h.waits
  rw [hs] at hwaits
  have hacked := h.clientAcked_le
  have hpopped := h.serverPopped_le
  have hserver := h.serverAcked_le
  have hclient := h.clientPopped_le
  have hlt := h.serverPushed_lt
  obtain ⟨rest, hsend⟩ := hg.sending
  have hlate : p.late = [] := by
    have := h.late
    rw [hwaits.2.2.1] at this
    exact List.map_eq_nil_iff.mp this.symm
  have hopens := h.client.sending_reopen fd now rs hqueue hacked hpopped hasked.acksOld hserver
    (by omega) hg.ready
  refine ⟨{ p with
    clientAcked := s.server.popped.length
    up := ⟨p.up.ready, p.up.rest ++ (s.client.pushed.drop s.server.popped.length).map
      (AppMsg.frame H.client), p.up.n⟩
    down := ⟨[], rest, 0⟩ }, ?_⟩
  exact {
    named := h.named
    client := h.client.reopen fd now rs hqueue rfl hacked hpopped
    server := h.server
    up := by
      refine ⟨h.up.receiving.extend List.prefix_rfl _, ?_⟩
      have hn : p.up.n = 0 := by
        have := h.up.sending.stream.n_le
        rw [hg.rest] at this
        exact Nat.le_zero.mp this
      unfold linked isIdle
      dsimp only
      rw [hg.toServer, hg.rest, hn, List.nil_append, List.nil_append, Bool.and_true]
      cases s.joined with
      | true => exact hopens
      | false => exact hopens.lose List.prefix_rfl le_rfl List.nil_prefix _
    down := by
      have hsize := h.down.receiving.receives.bounds.size_le
      refine ⟨⟨receives_open _ hsize _ _ _ _ _, nofun, h.down.receiving.popped_eq⟩, ?_⟩
      unfold linked inbound isIdle
      dsimp only
      rw [Bool.and_true, if_pos rfl]
      exact hsend
    joined := fun _ => by
      rw [pending, hwaits.2.2.1]
      rfl
    late := h.late
    fits := fun l hl => by
      rw [hlate] at hl
      cases hl
    sorted := h.sorted
    waits := trivial }

/-- The response is a refusal, or the client opens its connection under the same name. -/
lemma response_cases (h : Inv H s p) {newBlk : Mem MsgHeader} {fd now : Int} {rs : List SendResult}
    {r : TcpShmClient F × ConnectResult × List UInt8}
    (hr : s.response H newBlk fd now rs = some r) :
    r = (s.tcpShmClient H, .loginReject, []) ∨
      ∃ header msg rspHeader rsp, s.connecting = .answered header msg (some (rspHeader, rsp)) ∧
        Granted H s p rspHeader rsp ∧ Asked s p ∧
        r = ({ s.tcpShmClient H with
          conn := (s.client.conn.open H.client fd (UInt32.ofNat s.server.popped.length) now rs).1 },
          .success,
          (s.client.conn.open H.client fd (UInt32.ofNat s.server.popped.length) now rs).2) := by
  have hwaits := h.waits
  cases hs : s.connecting with
  | idle =>
    rw [response, hs] at hr
    cases hr
  | asking header msg =>
    rw [response, hs] at hr
    cases hr
  | answered header msg response =>
    rw [hs] at hwaits
    obtain ⟨hlogin, hasked, hlate, hresponse⟩ := hwaits
    cases response with
    | none =>
      rw [System.response, hs] at hr
      cases hr
    | some rsp =>
      obtain ⟨rspHeader, rsp⟩ := rsp
      obtain ⟨errorMsg, hrefused⟩ | hg := hresponse _ rfl
      · rw [hrefused] at hs
        exact Or.inl (response_refused hs hr)
      · obtain ⟨a, e, hrsp⟩ := hg.rsp_eq
        have hs' := hs
        dsimp only at hg hrsp
        rw [hg.header_eq, hrsp] at hs'
        exact Or.inr ⟨header, msg, rspHeader, rsp, rfl, hg, hasked,
          response_granted hs' hlogin h.named hr⟩

lemma respond (h : Inv H s p) {newBlk : Mem MsgHeader} {fd now : Int} {rs : List SendResult}
    {r : TcpShmClient F × ConnectResult × List UInt8}
    (hr : s.response H newBlk fd now rs = some r) : ∃ p', Inv H (s.afterResponse newBlk r) p' := by
  obtain hrefused | ⟨header, msg, rspHeader, rsp, hs, hg, hasked, hout⟩ := h.response_cases hr
  · have hlost := h.lose (.refl _) s.live List.prefix_rfl List.nil_prefix
    have hfailed : r.2.1 ≠ .success := by
      rw [hrefused]
      nofun
    unfold afterResponse
    rw [if_neg hfailed, hrefused]
    exact ⟨p, hlost.becomes rfl ((inbound_eq_nil rfl).trans (inbound_eq_nil rfl).symm)
      (fun hj => absurd hj Bool.false_ne_true) trivial⟩
  · obtain ⟨p', hopens⟩ := h.opens hs hg hasked fd now rs
    have hname : s.lastServerName = r.1.serverName := by
      rw [hout]
      rfl
    have hsuccess : r.2.1 = .success := by rw [hout]
    refine ⟨p', ?_⟩
    unfold afterResponse
    rw [if_pos hsuccess, if_pos hname, ← hname, hout]
    exact hopens

end Inv

end System

end Tcpshm
