import Tcpshm.Link.Session

/-!
# Delivery between a client and a server

Whatever happens to the connections and the processes, what one side pops is what the other has
pushed, once and in order, and what it has not popped yet is still stored. No login is answered
with a mismatch of the sequence numbers.
-/

namespace Tcpshm

open PTCPConnection

/-- `Y` has popped the first messages that `X` has pushed, as `X` pushed them, and the queue of `X`
stores all messages from some acknowledged one on, which `Y` has popped. -/
structure Delivers (CX : Conf) (X Y : Peer) : Prop where
  popped : Y.popped <+: X.pushed.map fun m => Listening.view (m.frame CX)
  stored : ∃ f ≤ Y.popped.length, X.queue.Holds CX.tcpQueueSize CX.endian (X.msgs.drop f) ∧
    X.queue.readSeqNum = UInt32.ofNat f
  counted : Y.queue.ackSeqNum = UInt32.ofNat Y.popped.length

/-- Since any of the stored messages was pushed, fewer than `2 ^ 31` messages have been popped. -/
def Peer.Young (C : Conf) (P : Peer) : Prop :=
  ∀ f, Stores C P.queue P.msgs f P.popped.length →
    ∀ b ∈ P.births.drop f, P.popped.length < b + 2 ^ 31

lemma Counts.acksOld {C : Conf} {P : Peer} {f : Nat} (h : Counts C P f) (hyoung : P.Young C) :
    P.queue.AcksOld (P.msgs.drop f) := by
  have hborn := List.forall₂_drop f h.born
  intro m hm
  obtain ⟨i, hi, rfl⟩ := List.mem_iff_getElem.mp hm
  have hi' : i < (P.births.drop f).length := hborn.length_eq ▸ hi
  obtain ⟨hack, hle⟩ := hborn.get hi hi'
  have hlt := hyoung f h.stores _ (List.getElem_mem hi')
  simp only [List.get_eq_getElem] at hack hle
  rw [h.stores.ackSeqNum, hack, UInt32.asInt_ofNat_sub_ofNat hlt (by omega)]
  omega

namespace System

variable {F : LoginFormat} {H : Hosts F} {s s' : System F} {p : Progress}

/-! ### The invariant of a run -/

lemma counts_init (C : Conf) (blk : Mem MsgHeader) :
    Counts C ⟨.init blk, .new C, none, [], [], []⟩ 0 :=
  ⟨⟨(PTCPQueue.represents_init blk).toHolds, le_rfl, rfl, rfl⟩, .nil, ⟨0, rfl⟩,
    fun hopen => absurd hopen (show ¬ 0 ≤ (-1 : Int) by decide)⟩

lemma toward_init (CX CY : Conf) (blk blk' : Mem MsgHeader) :
    Toward CX CY ⟨.init blk, .new CX, none, [], [], []⟩ ⟨.init blk', .new CY, none, [], [], []⟩ 0 0
      false [] [] [] 0 :=
  ⟨⟨receives_of_zero rfl rfl rfl (Nat.zero_le _) [], nofun, rfl⟩,
    ⟨⟨le_rfl, List.nil_prefix, List.nil_prefix, le_rfl, nofun⟩, nofun⟩⟩

lemma inv_init (clientBlk serverBlk : Mem MsgHeader) :
    Inv H (init H H.serverName clientBlk serverBlk) ⟨0, 0, ⟨[], [], 0⟩, ⟨[], [], 0⟩, []⟩ :=
  ⟨rfl, counts_init _ _, counts_init _ _, toward_init _ _ _ _, toward_init _ _ _ _, nofun, rfl, nofun,
    .nil, trivial⟩

theorem Step.inv (h : Step H s s') (hinv : Inv H s p) : ∃ p', Inv H s' p' := by
  cases h with
  | client hidle h => exact hinv.step_client hidle h
  | server h => exact hinv.step_server h
  | connect h => exact hinv.connect h
  | ignore => exact hinv.answer nofun
  | refuse errorMsg => exact hinv.answer fun r hr => ⟨errorMsg, (Option.some_inj.mp hr).symm⟩
  | handle fd now sendOk rs h => exact hinv.handle h
  | respond newBlk fd now rs h => exact hinv.respond h
  | giveUp => exact ⟨_, hinv.giveUp⟩
  | crashClient => exact hinv.crashClient
  | crashRenamed newBlk fd now rs h hok hname =>
    obtain heq | ⟨header, msg, rspHeader, rsp, -, -, -, heq⟩ := hinv.response_cases h
    · rw [heq] at hok
      cases hok
    · rw [heq] at hname
      exact absurd rfl hname
  | crashServer => exact hinv.crashServer
  | disconnectClient => exact ⟨p, hinv.client_conn (.tryCloseFd _)⟩
  | disconnectServer h =>
    exact ⟨p, hinv.lose (.tryCloseFd _) false List.nil_prefix List.prefix_rfl⟩
  | cut k l =>
    exact ⟨p, hinv.lose (.refl _) s.live (List.take_prefix _ _) (List.take_prefix _ _)⟩

theorem Reaches.inv (h : Reaches H H.serverName s) : ∃ p, Inv H s p := by
  obtain ⟨clientBlk, serverBlk, hrun⟩ := h
  induction hrun with
  | refl => exact ⟨_, inv_init clientBlk serverBlk⟩
  | tail _ hstep ih =>
    obtain ⟨p, hinv⟩ := ih
    exact hstep.inv hinv

/-! ### Delivery -/

lemma Toward.delivered {CX CY : Conf} {X Y : Peer} {fX fY n : Nat} {joined : Bool}
    {chan : List UInt8} {ready rest : List Frame} (hX : Counts CX X fX) (hY : Counts CY Y fY)
    (h : Toward CX CY X Y fX fY joined chan ready rest n) (hle : fX ≤ Y.popped.length) :
    Delivers CX X Y where
  popped := by
    rw [h.receiving.popped_eq]
    exact (List.take_prefix _ _).map _
  stored := ⟨fX, hle, hX.stores.holds, hX.stores.readSeqNum⟩
  counted := hY.stores.ackSeqNum

/-- In every run of a client and a server that keep their names, whatever becomes of connections,
logins and processes, each side pops what the other pushes, once and in order, and each queue still
stores every message that the other side has not popped. -/
theorem Reaches.exactly_once (h : Reaches H H.serverName s) :
    Delivers H.client s.client s.server ∧ Delivers H.server s.server s.client := by
  obtain ⟨p, hinv⟩ := h.inv
  exact ⟨Toward.delivered hinv.client hinv.server hinv.up hinv.clientAcked_le,
    Toward.delivered hinv.server hinv.client hinv.down hinv.serverAcked_le⟩

lemma Reaches.tail {s₀ : Name F} (h : Reaches H s₀ s) (hstep : Step H s s') : Reaches H s₀ s' := by
  obtain ⟨clientBlk, serverBlk, hrun⟩ := h
  exact ⟨clientBlk, serverBlk, hrun.tail hstep⟩

lemma Reaches.trans {s₀ : Name F} (h : Reaches H s₀ s) (hrun : Relation.ReflTransGen (Step H) s s') :
    Reaches H s₀ s' := by
  obtain ⟨clientBlk, serverBlk, hrun₀⟩ := h
  exact ⟨clientBlk, serverBlk, hrun₀.trans hrun⟩

/-- The message that is popped next. -/
lemma Delivers.next {CX : Conf} {X Y : Peer} {m : MsgHeader × List UInt8}
    (h : Y.popped ++ [m] <+: X.pushed.map fun m => Listening.view (m.frame CX)) :
    ∃ a, X.pushed[Y.popped.length]? = some a ∧ m = Listening.view (a.frame CX) := by
  obtain ⟨t, ht⟩ := h
  have hget := congrArg (fun l => l[Y.popped.length]?) ht
  simp only [List.append_assoc, List.getElem?_append_right, le_refl, Nat.sub_self,
    List.getElem?_map] at hget
  obtain ⟨a, ha, hm⟩ := Option.map_eq_some_iff.mp hget.symm
  exact ⟨a, ha, hm.symm⟩

lemma Reaches.fronted_server (h : Reaches H H.serverName s) (hq : s.server.conn.q.isSome) {idx : Nat}
    (hidx : s.server.fronted = some idx) :
    ∃ m, s.client.pushed[s.server.popped.length]? = some m ∧
      s.server.conn.msgAt H.server idx = Listening.view (m.frame H.client) :=
  Delivers.next (h.tail (.server (.pop hq hidx))).exactly_once.1.popped

lemma Reaches.fronted_client (h : Reaches H H.serverName s) (hidle : s.connecting = .idle)
    (hq : s.client.conn.q.isSome) {idx : Nat} (hidx : s.client.fronted = some idx) :
    ∃ m, s.server.pushed[s.client.popped.length]? = some m ∧
      s.client.conn.msgAt H.client idx = Listening.view (m.frame H.server) :=
  Delivers.next (h.tail (.client hidle (.pop hq hidx))).exactly_once.2.popped

/-! ### Logins -/

/-- What a login can come to: the client sends its login unless its connection is still open, the
server goes live or the response cannot be sent, and the client has success or is rejected, as
another connection is live. No sequence numbers are in the way of it. -/
structure LogsOn (H : Hosts F) (s : System F) : Prop where
  connect : s.isIdle = true → s.client.conn.isClosed = true → s.client.Young H.client →
    ∃ s' header msg, s.connect H = some s' ∧ s'.connecting = .asking header msg
  handle : s.pending ≠ [] → ∀ fd now sendOk rs, ∃ r, s.handled H fd now sendOk rs = some r ∧
    (∀ n, r.event ≠ .seqNumberMismatch n) ∧
    (s.server.Young H.server → r.event = if sendOk then .clientLogon else .sendFailed)
  respond : ∀ newBlk fd now rs r, s.response H newBlk fd now rs = some r →
    r.2.1 = .success ∨ r.2.1 = .loginReject

lemma connecting_of_isIdle (h : s.isIdle = true) : s.connecting = .idle := by
  unfold isIdle at h
  cases hs : s.connecting with
  | idle => rfl
  | asking | answered =>
    rw [hs] at h
    cases h

theorem Reaches.never_mismatches (h : Reaches H H.serverName s) : LogsOn H s := by
  obtain ⟨p, hinv⟩ := h.inv
  refine ⟨fun hidle hclosed hyoung => ?_, fun hne fd now sendOk rs => ?_,
    fun newBlk fd now rs r hr => ?_⟩
  · have hconnecting := connecting_of_isIdle hidle
    obtain ⟨hopen, -⟩ | ⟨-, heq⟩ | ⟨hold, -⟩ := request_cases hinv.named hinv.client.stores
    · rw [hclosed] at hopen
      cases hopen
    · unfold System.connect
      rw [hconnecting, heq]
      exact ⟨_, _, _, rfl, rfl⟩
    · exact absurd (hinv.client.acksOld hyoung) hold
  · obtain ⟨m, ms, hpending⟩ := List.exists_cons_of_ne_nil hne
    have hm : s.pending.head? = some m := by
      rw [hpending]
      rfl
    obtain ⟨l, rfl, hl, -⟩ := hinv.head hm
    obtain ⟨r, hr⟩ := handled_isSome hm hinv.server.stores fd now sendOk rs
    refine ⟨r, hr, ?_⟩
    obtain ⟨-, rfl, rfl⟩ | ⟨-, ⟨rfl, hevent⟩ | ⟨hold, hevent, -⟩⟩ :=
      handled_cases hm hinv.server.stores (hinv.agrees hl) hr
    · exact ⟨nofun, fun _ => rfl⟩
    · rw [hevent]
      exact ⟨nofun, fun _ => rfl⟩
    · rw [hevent]
      exact ⟨nofun, fun hyoung => absurd (hinv.server.acksOld hyoung) hold⟩
  · obtain rfl | ⟨_, _, _, _, -, -, -, rfl⟩ := hinv.response_cases hr
    · exact Or.inr rfl
    · exact Or.inl rfl

/-! ### A message that is sent twice -/

/-- A step of the server that sends nothing. -/
lemma step_server {bs : List UInt8} {as : List UInt32} {P' : Peer}
    (h : Peer.Step H.server s.toServer s.server ⟨bs, [], as⟩ P') :
    Step H s { s with server := P', toServer := s.toServer.drop bs.length } := by
  have hstep := Step.server h
  dsimp only at hstep
  rw [List.append_nil, ite_self] at hstep
  exact hstep

/-- A step of the client that sends nothing. -/
lemma step_client (hidle : s.connecting = .idle) {bs : List UInt8} {as : List UInt32} {P' : Peer}
    (h : Peer.Step H.client s.toClient s.client ⟨bs, [], as⟩ P') :
    Step H s { s with client := P', toClient := s.toClient.drop bs.length } := by
  have hstep := Step.client hidle h
  dsimp only at hstep
  rw [List.append_nil, ite_self] at hstep
  exact hstep

def smallHosts : Hosts shortNames where
  client := hostConf true
  server := hostConf true
  clientName := clientC
  serverName := serverS
  sameOrder := rfl
  named := rfl
  clientBuf_lt := by decide
  serverBuf_lt := by decide

/-- The client logs on, and the kernel takes a block of what it then sends. -/
def logOn (H : Hosts F) (s : System F) : Option (System F) :=
  ((s.connect H).bind fun s => s.handle H 5 0 true []).bind fun s =>
    (s.response H (fun _ => ⟨0, 0, 0⟩) 6 0 [.sent 8]).map (s.afterResponse fun _ => ⟨0, 0, 0⟩)

/-- The client pushes a message without a body, and the kernel takes it. -/
def clientPushes (s : System shortNames) : System shortNames :=
  let c := (s.client.conn.allocFill smallHosts.client 0 1 [] 0).push smallHosts.client [.sent 8]
  { s with
    client := s.client.afterPush c.1
      (@PTCPQueue.appMsg s.client.queue 0 1 [] (by decide) (by decide) (by decide))
    toServer := if s.joined then s.toServer ++ c.2 else s.toServer }

/-- `Front` of the server, when everything that is on the way has arrived. -/
def serverFronts (H : Hosts F) (s : System F) : System F :=
  { s with
    server := s.server.front H.server (.data s.toServer)
    toServer := s.toServer.drop (s.server.conn.frontRead H.server (.data s.toServer)).length }

def serverPops (s : System shortNames) : System shortNames :=
  { s with server := s.server.pop smallHosts.server 0 }

/-- The client has pushed a message. -/
def pushing : System shortNames :=
  let s := init smallHosts serverS (fun _ => ⟨0, 0, 0⟩) fun _ => ⟨0, 0, 0⟩
  ((s.logOn smallHosts).getD s).clientPushes

/-- The server restarts before it reads the message, and the client finds its connection closed. -/
def lost : System shortNames :=
  let s := pushing.crashServer smallHosts
  { s with client := s.client.withConn (s.client.conn.close "Remote close" 0) }

/-- The client logs on once more, and the server gets the message. -/
def resent : System shortNames := (((lost.logOn smallHosts).getD lost).serverFronts smallHosts).serverPops

lemma steps_logOn (h : (s.logOn H).isSome) :
    Relation.ReflTransGen (Step H) s ((s.logOn H).getD s) := by
  obtain ⟨s', hs'⟩ := Option.isSome_iff_exists.mp h
  rw [hs', Option.getD_some]
  obtain ⟨s₂, hs₂, h⟩ := Option.bind_eq_some_iff.mp hs'
  obtain ⟨s₁, hs₁, hs₂⟩ := Option.bind_eq_some_iff.mp hs₂
  obtain ⟨r, hr, rfl⟩ := Option.map_eq_some_iff.mp h
  exact ((Relation.ReflTransGen.single (.connect hs₁)).tail (.handle 5 0 true [] hs₂)).tail
    (.respond _ 6 0 [.sent 8] hr)

lemma step_clientPushes {s : System shortNames} (hidle : s.isIdle = true)
    (hq : s.client.conn.q.isSome)
    (hp : (s.client.queue.alloc smallHosts.client.tcpQueueSize 0).2 = some 0) :
    Step smallHosts s s.clientPushes := by
  obtain ⟨q, hq⟩ := Option.isSome_iff_exists.mp hq
  have hqueue : s.client.conn.q = some s.client.queue := by
    rw [Peer.queue_eq hq]
    exact hq
  exact .client (connecting_of_isIdle hidle)
    (.push (by decide) (by decide) hqueue hp (by decide) rfl [.sent 8])

lemma step_closes (s : System shortNames) (hidle : s.isIdle = true) (hjoined : s.joined = false) :
    Step smallHosts s
      { s with client := s.client.withConn (s.client.conn.close "Remote close" 0) } := by
  have hstep := Step.client (H := smallHosts) (connecting_of_isIdle hidle)
    (.close (P := s.client) "Remote close" 0)
  rw [hjoined, if_neg Bool.false_ne_true] at hstep
  exact hjoined ▸ hstep

lemma reaches_pushing : Reaches smallHosts serverS pushing :=
  ⟨_, _, (steps_logOn (by decide +kernel)).tail
    (step_clientPushes (by decide +kernel) (by decide +kernel) (by decide +kernel))⟩

lemma reaches_lost : Reaches smallHosts serverS lost := by
  obtain ⟨clientBlk, serverBlk, hrun⟩ := reaches_pushing
  exact ⟨clientBlk, serverBlk, (hrun.tail .crashServer).tail
    (step_closes _ (by decide +kernel) (by decide +kernel))⟩

lemma reaches_resent : Reaches smallHosts serverS resent := by
  obtain ⟨clientBlk, serverBlk, hrun⟩ := reaches_lost
  have hagain := hrun.trans (steps_logOn (by decide +kernel))
  exact ⟨clientBlk, serverBlk, (hagain.tail
    (step_server (.front (by decide +kernel) _ (by decide +kernel) (by decide +kernel)))).tail
    (step_server (.pop (by decide +kernel) (by decide +kernel)))⟩

/-- The message is popped, once. -/
theorem Reaches.exactly_once_resent : resent.server.popped.length = 1 ∧
    Delivers smallHosts.client resent.client resent.server :=
  ⟨by decide +kernel, (Reaches.exactly_once reaches_resent).1⟩

lemma young_of_popped {C : Conf} {P : Peer} (h : P.popped.length < 2 ^ 31) : P.Young C :=
  fun _ _ _ _ => h.trans_le (Nat.le_add_left _ _)

/-- The client can send its login for the second time. -/
theorem Reaches.never_mismatches_lost : ∃ s' header msg,
    lost.connect smallHosts = some s' ∧ s'.connecting = .asking header msg :=
  (Reaches.never_mismatches reaches_lost).connect (by decide +kernel) (by decide +kernel)
    (young_of_popped (by decide +kernel))

end System

end Tcpshm
