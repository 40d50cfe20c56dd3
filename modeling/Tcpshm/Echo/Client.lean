import Tcpshm.Echo.Server

/-!
# The echo client (`test/echo_client.cpp`)

The client numbers its messages, counts what comes back, and exits when a number is not the one it
expects. With the echo server on the other side that does not happen.
-/

namespace Tcpshm

open PTCPConnection

/-- The two numbers that the client maps to files: `*send_num` and `*recv_num`. -/
structure EchoClient where
  sendNum : Int32
  recvNum : Int32

namespace EchoClient

def maxNum : Int32 := 10000000

/-- What `PollNum` comes to: every message has come back, there is nothing to do, or a message is
tried to be sent. -/
inductive Poll where
  | done
  | wait
  | trySend
deriving DecidableEq

def pollNum (slow : Bool) (cl : EchoClient) : Poll :=
  if cl.sendNum < maxNum then
    if slow ∧ cl.sendNum ≠ cl.recvNum then .wait else .trySend
  else if cl.sendNum = cl.recvNum then .done
  else .wait

/-! ### Sending -/

/-- `sizeof(MarketDepthMsg)`, with the number in the first four bytes. -/
def depthSize : UInt16 := 168

/-- The blocks of a `MarketDepthMsg`: its number, and then the prices and sizes. -/
def depthBlocks (C : Conf) (v : Int32) (levels : List UInt8) : List MsgHeader :=
  blocksOf C 21 (bytes32 C.endian.isLittle v.toUInt32 ++ levels)

lemma length_depthBlocks (C : Conf) (v : Int32) (levels : List UInt8) :
    (depthBlocks C v levels).length + 1 = (blkSz (depthSize + 8)).toNat := by
  rw [depthBlocks, length_blocksOf]
  rfl

/-- What `Push` submits. -/
def depthMsg (C : Conf) (q : PTCPQueue) (v : Int32) (levels : List UInt8) : AppMsg :=
  @PTCPQueue.appMsg q depthSize 5 _ (by decide) (by decide) (length_depthBlocks C v levels)

/-- `TrySendMarketDepthMsg` when `Alloc` returns `p`: the state after the call and the bytes handed
to the socket. -/
def trySend (C : Conf) (cl : EchoClient) (c : PTCPConnection) (p : Nat) (levels : List UInt8)
    (rs : List SendResult) : PTCPConnection × List UInt8 :=
  (c.allocFill C depthSize 5 (depthBlocks C cl.sendNum levels) p).push C rs

/-! ### Receiving -/

/-- The `int` at the front of `bs`. -/
def intAt (C : Conf) (bs : List UInt8) : UInt32 :=
  word32 C.endian.isLittle (bs.getD 0 0) (bs.getD 1 0) (bs.getD 2 0) (bs.getD 3 0)

/-- What a handler comes to: it returns, it finds a wrong number and exits, or an assertion fails. -/
inductive Handled where
  | ok (cl : EchoClient)
  | bad
  | assertFails

/-- `handleMsg` for the `n` numbers of a message. -/
def handleMsg (C : Conf) : Nat → List UInt8 → EchoClient → Handled
  | 0, _, cl => .ok cl
  | n + 1, bs, cl =>
    if (C.endian.convert32 (intAt C bs)).toInt32 ≠ cl.recvNum then .bad
    else handleMsg C n (bs.drop 4) { cl with recvNum := cl.recvNum + 1 }

def handleMarketDepthMsg (C : Conf) (bs : List UInt8) (cl : EchoClient) : Handled :=
  if (intAt C bs).toInt32 ≠ cl.recvNum then .bad
  else .ok { cl with recvNum := cl.recvNum + 1 }

/-- `OnServerMsg` up to `Pop`. -/
def onServerMsg (C : Conf) (cl : EchoClient) (m : MsgHeader × List UInt8) : Handled :=
  match m.1.msgType.toNat with
  | 1 => handleMsg C 1 m.2 cl
  | 2 => handleMsg C 2 m.2 cl
  | 3 => handleMsg C 3 m.2 cl
  | 4 => handleMsg C 4 m.2 cl
  | 5 => handleMarketDepthMsg C m.2 cl
  | _ => .assertFails

/-- What the message with number `i` says. -/
def Depth (C : Conf) (i : Nat) (a : Content) : Prop :=
  ∃ levels, a = ⟨depthSize + 8, 5, bytes32 C.endian.isLittle (UInt32.ofNat i) ++ levels⟩

lemma depth_depthMsg (C : Conf) (q : PTCPQueue) (i : Nat) {levels : List UInt8}
    (hlevels : levels.length = 164) :
    Depth C i ((depthMsg C q (Int32.ofNat i) levels).content C) := by
  have hlen : (bytes32 C.endian.isLittle (Int32.ofNat i).toUInt32 ++ levels).length = 8 * 21 := by
    simp [hlevels]
  refine ⟨levels, ?_⟩
  simp only [AppMsg.content, content, Listening.view, AppMsg.frame, depthMsg, PTCPQueue.appMsg,
    PTCPQueue.filled, depthBlocks, memBytes_blocksOf C hlen]
  rw [List.take_of_length_le (hlen.le.trans (by decide))]
  rfl

/-- The client expects the number after those it has counted. -/
lemma onServerMsg_depth {C : Conf} {cl : EchoClient} {m : MsgHeader × List UInt8} {i : Nat}
    (hm : Depth C i (content m)) (hcl : cl.recvNum = Int32.ofNat i) :
    cl.onServerMsg C m = .ok { cl with recvNum := Int32.ofNat (i + 1) } := by
  obtain ⟨levels, hm⟩ := hm
  obtain ⟨hsize, htype, hbytes⟩ := Content.mk.inj hm
  rw [hsize] at hbytes
  have hget : ∀ k < 4, m.2.getD k 0 = (bytes32 C.endian.isLittle (UInt32.ofNat i)).getD k 0 := by
    intro k hk
    have h := congrArg (fun l => l.getD k 0) hbytes
    have hk' : k < (depthSize + 8).toNat - 8 := hk.trans (by decide)
    simp only [List.getD_eq_getElem?_getD] at h ⊢
    rw [List.getElem?_take_of_lt hk', List.getElem?_append_left (by simpa using hk)] at h
    exact h
  have hint : intAt C m.2 = UInt32.ofNat i := by
    rw [intAt, hget 0 (by decide), hget 1 (by decide), hget 2 (by decide), hget 3 (by decide),
      word32_bytes32]
  have hnat : m.1.msgType.toNat = 5 := by rw [htype]; rfl
  have hnum : (UInt32.ofNat i).toInt32 = cl.recvNum := hcl.symm
  simp only [onServerMsg, hnat, handleMarketDepthMsg, hint, hnum, ne_eq, not_true_eq_false, if_false]
  rw [hcl]
  simp [Int32.ofNat_add]

end EchoClient

namespace System

variable {F : LoginFormat} (H : Hosts F) (slow : Bool)

/-! ### Runs -/

/-- The states reached by the echo client and the echo server. Connections, logins and restarts
between the calls are left open; what the client has counted is kept in files. -/
inductive EchoRuns : System F → EchoClient → Prop where
  | init (clientBlk serverBlk : Mem MsgHeader) :
      EchoRuns (init H H.serverName clientBlk serverBlk) ⟨0, 0⟩
  | other {s s' : System F} {cl : EchoClient} (h : EchoRuns s cl) (hstep : EchoStep H s s')
      (hpushed : s'.client.pushed = s.client.pushed)
      (hpopped : s'.client.popped = s.client.popped) : EchoRuns s' cl
  | sends {s : System F} {cl : EchoClient} {q : PTCPQueue} {p : Nat} {levels : List UInt8}
      (h : EchoRuns s cl) (hpoll : cl.pollNum slow = .trySend) (hidle : s.connecting = .idle)
      (hq : s.client.conn.q = some q)
      (hp : (q.alloc H.client.tcpQueueSize EchoClient.depthSize).2 = some p)
      (hlevels : levels.length = 164) (rs : List SendResult) :
      EchoRuns { s with
        client := s.client.afterPush (cl.trySend H.client s.client.conn p levels rs).1
          (EchoClient.depthMsg H.client q cl.sendNum levels)
        toServer := if s.joined then
            s.toServer ++ (cl.trySend H.client s.client.conn p levels rs).2
          else s.toServer }
        { cl with sendNum := cl.sendNum + 1 }
  | handles {s : System F} {cl cl' : EchoClient} {idx : Nat} (h : EchoRuns s cl)
      (hidle : s.connecting = .idle) (hq : s.client.conn.q.isSome)
      (hidx : s.client.fronted = some idx)
      (hok : cl.onServerMsg H.client (s.client.conn.msgAt H.client idx) = .ok cl') :
      EchoRuns { s with client := s.client.pop H.client idx } cl'

variable {H slow} {s s' : System F} {cl : EchoClient}

lemma EchoRuns.echoReaches (h : EchoRuns H slow s cl) : EchoReaches H 0 s := by
  induction h with
  | init clientBlk serverBlk => exact .init clientBlk serverBlk
  | other h hstep hpushed hpopped ih => exact ih.step hstep
  | @sends s cl q p levels h hpoll hidle hq hp hlevels rs ih =>
    exact ih.step (.other (.client hidle (.push (by decide) (by decide) hq hp
      (EchoClient.length_depthBlocks H.client cl.sendNum levels) rfl rs)) rfl rfl)
  | handles h hidle hq hidx hok ih =>
    exact ih.step (.other (step_client hidle (.pop hq hidx)) rfl rfl)

/-- The numbers count the messages, and the messages are numbered. -/
structure Numbered (H : Hosts F) (s : System F) (cl : EchoClient) : Prop where
  sendNum_eq : cl.sendNum = Int32.ofNat s.client.pushed.length
  recvNum_eq : cl.recvNum = Int32.ofNat s.client.popped.length
  le_maxNum : s.client.pushed.length ≤ 10000000
  depth : ∀ i a, (s.asked H)[i]? = some a → EchoClient.Depth H.client i a

lemma toInt_ofNat {n : Nat} (h : n ≤ 10000000) : (Int32.ofNat n).toInt = n :=
  Int32.toInt_ofNat_of_lt (h.trans_lt (by decide))

lemma ofNat_lt_maxNum {n : Nat} (h : n ≤ 10000000) :
    Int32.ofNat n < EchoClient.maxNum ↔ n < 10000000 := by
  rw [Int32.lt_iff_toInt_lt, toInt_ofNat h]
  exact Nat.cast_lt

lemma ofNat_inj {m n : Nat} (hm : m ≤ 10000000) (hn : n ≤ 10000000) :
    Int32.ofNat m = Int32.ofNat n ↔ m = n := by
  rw [← Int32.toInt_inj, toInt_ofNat hm, toInt_ofNat hn]
  exact Nat.cast_inj

/-- What comes back next has the number that the client expects. -/
lemma Numbered.next (h : Numbered H s cl) (hreach : EchoReaches H 0 s)
    (hidle : s.connecting = .idle) (hq : s.client.conn.q.isSome) {idx : Nat}
    (hidx : s.client.fronted = some idx) :
    EchoClient.Depth H.client s.client.popped.length
      (content (s.client.conn.msgAt H.client idx)) := by
  have hpop : EchoReaches H 0 { s with client := s.client.pop H.client idx } :=
    hreach.step (.other (step_client hidle (.pop hq hidx)) rfl rfl)
  obtain ⟨t, ht⟩ := hpop.echoed.ordered rfl
  apply h.depth
  show (s.asked H)[s.client.popped.length]? = _
  have hasked : s.asked H = (s.client.popped ++ [s.client.conn.msgAt H.client idx]).map content ++ t :=
    ht.symm
  rw [hasked]
  simp

lemma EchoRuns.numbered (h : EchoRuns H slow s cl) : Numbered H s cl := by
  induction h with
  | init clientBlk serverBlk => exact ⟨rfl, rfl, Nat.zero_le _, nofun⟩
  | other h hstep hpushed hpopped ih =>
    obtain ⟨hsend, hrecv, hle, hdepth⟩ := ih
    refine ⟨?_, ?_, ?_, ?_⟩
    · rwa [hpushed]
    · rwa [hpopped]
    · rwa [hpushed]
    · unfold asked
      rwa [hpushed]
  | @sends s cl q p levels h hpoll hidle hq hp hlevels rs ih =>
    obtain ⟨hsend, hrecv, hle, hdepth⟩ := ih
    have hlt : s.client.pushed.length < 10000000 := by
      rw [← ofNat_lt_maxNum hle, ← hsend]
      by_contra hge
      unfold EchoClient.pollNum at hpoll
      rw [if_neg hge] at hpoll
      split_ifs at hpoll
    refine ⟨?_, hrecv, ?_, fun i a hi => ?_⟩
    · simp only [Peer.afterPush, List.length_append, List.length_singleton, hsend]
      simp [Int32.ofNat_add]
    · simp only [Peer.afterPush, List.length_append, List.length_singleton]
      omega
    · simp only [asked, Peer.afterPush, List.map_append, List.map_cons, List.map_nil] at hi
      rw [List.getElem?_append, List.length_map] at hi
      split_ifs at hi with hlast
      · exact hdepth i a hi
      · obtain ⟨hzero, rfl⟩ := List.getElem?_eq_some_iff.mp hi
        rw [List.length_singleton] at hzero
        obtain rfl : i = s.client.pushed.length := by omega
        simp only [List.getElem_singleton, hsend]
        exact EchoClient.depth_depthMsg H.client q _ hlevels
  | handles h hidle hq hidx hok ih =>
    have hnext := ih.next h.echoReaches hidle hq hidx
    rw [EchoClient.onServerMsg_depth hnext ih.recvNum_eq] at hok
    obtain rfl := EchoClient.Handled.ok.inj hok
    refine ⟨ih.sendNum_eq, ?_, ih.le_maxNum, ih.depth⟩
    simp [Peer.pop]

/-- The client expects every number that comes, and when it is done all of its messages have come
back. -/
structure NeverBad (H : Hosts F) (slow : Bool) (s : System F) (cl : EchoClient) : Prop where
  expected : s.connecting = .idle → s.client.conn.q.isSome → ∀ idx ∈ s.client.fronted,
    ∃ cl', cl.onServerMsg H.client (s.client.conn.msgAt H.client idx) = .ok cl'
  done : cl.pollNum slow = .done → s.client.popped.length = 10000000 ∧
    s.client.popped.map content = s.asked H

theorem EchoRuns.never_bad (h : EchoRuns H slow s cl) : NeverBad H slow s cl := by
  have hnum := h.numbered
  refine ⟨fun hidle hq idx hidx => ?_, fun hdone => ?_⟩
  · exact ⟨_, EchoClient.onServerMsg_depth (hnum.next h.echoReaches hidle hq hidx)
      hnum.recvNum_eq⟩
  · have hback := h.echoReaches.echoed.ordered rfl
    have hle := hback.length_le
    simp only [asked, List.length_map] at hle
    have hsend : ¬ cl.sendNum < EchoClient.maxNum := by
      intro hlt
      rw [EchoClient.pollNum, if_pos hlt] at hdone
      split_ifs at hdone
    rw [EchoClient.pollNum, if_neg hsend] at hdone
    have heq : cl.sendNum = cl.recvNum := by
      by_contra hne
      rw [if_neg hne] at hdone
      cases hdone
    have hall : s.client.pushed.length = 10000000 := by
      rw [hnum.sendNum_eq, ofNat_lt_maxNum hnum.le_maxNum] at hsend
      exact le_antisymm hnum.le_maxNum (not_lt.mp hsend)
    have hpopped : s.client.popped.length = s.client.pushed.length := by
      rw [hnum.sendNum_eq, hnum.recvNum_eq] at heq
      exact ((ofNat_inj hnum.le_maxNum (hle.trans hnum.le_maxNum)).mp heq).symm
    refine ⟨hpopped.trans hall, hback.eq_of_length ?_⟩
    simp [asked, hpopped]

/-! ### The first message -/

/-- The configurations in `echo_client.cpp` and `echo_server.cpp`. -/
def echoConf (bytes : UInt32) (h : bytes.toNat % 8 = 0) : Conf where
  endian := ⟨true, true⟩
  tcpQueueSize := ⟨bytes, h⟩
  tcpRecvBufInitSize := 1000
  tcpRecvBufMaxSize := 2000
  heartBeatInverval := 3000000000
  connectionTimeout := 10000000000
  init_le_max := by decide
  init_aligned := rfl
  max_aligned := rfl

lemma isEmpty_serverS : serverS.isEmpty = false := rfl

def echoHosts : Hosts shortNames where
  client := echoConf 2000 rfl
  server := echoConf 4000 rfl
  clientName := clientC
  serverName := serverS
  sameOrder := rfl
  named := isEmpty_serverS
  clientBuf_lt := by decide
  serverBuf_lt := by decide

def started : System shortNames :=
  init echoHosts echoHosts.serverName (fun _ => ⟨0, 0, 0⟩) fun _ => ⟨0, 0, 0⟩

/-- The client has logged on. -/
def online : System shortNames := (started.logOn echoHosts).getD started

lemma echoRuns_online : EchoRuns echoHosts false online ⟨0, 0⟩ := by
  have hinit : EchoRuns echoHosts false started ⟨0, 0⟩ := .init _ _
  obtain ⟨s₃, hs₃⟩ := Option.isSome_iff_exists.mp
    (show (started.logOn echoHosts).isSome by decide +kernel)
  have hs : online = s₃ := by
    unfold online
    rw [hs₃, Option.getD_some]
  obtain ⟨s₂, hs₂, h⟩ := Option.bind_eq_some_iff.mp hs₃
  obtain ⟨s₁, hs₁, hs₂⟩ := Option.bind_eq_some_iff.mp hs₂
  obtain ⟨r, hr, hafter⟩ := Option.map_eq_some_iff.mp h
  obtain ⟨hserver, hpushed, hpopped⟩ := connect_keeps hs₁
  have h₁ := hinit.other (.other (.connect hs₁) (hserver ▸ rfl) (hserver ▸ rfl)) hpushed hpopped
  obtain ⟨hclient, hpushed', hpopped'⟩ := handle_keeps hs₂
  have h₂ := h₁.other (.other (.handle 5 0 true [] hs₂) hpushed' hpopped') (hclient ▸ rfl)
    (hclient ▸ rfl)
  have hnil : s₂.client.pushed = [] ∧ s₂.client.popped = [] := by
    rw [hclient]
    exact ⟨hpushed, hpopped⟩
  have hnil' : online.client.pushed = [] ∧ online.client.popped = [] :=
    ⟨List.eq_nil_of_length_eq_zero (by decide +kernel),
      List.eq_nil_of_length_eq_zero (by decide +kernel)⟩
  rw [hs, ← hafter] at hnil' ⊢
  refine h₂.other (.other (.respond _ 6 0 [.sent 8] hr) ?_ ?_) ?_ ?_
  · rw [respond_keeps]
  · rw [respond_keeps]
  · rw [hnil'.1, hnil.1]
  · rw [hnil'.2, hnil.2]

/-- The client has sent its first message. -/
def numberSent : System shortNames :=
  let c := EchoClient.trySend echoHosts.client ⟨0, 0⟩ online.client.conn 0 (List.replicate 164 1)
    [.sent 176]
  { online with
    client := online.client.afterPush c.1
      (EchoClient.depthMsg echoHosts.client online.client.queue 0 (List.replicate 164 1))
    toServer := if online.joined then online.toServer ++ c.2 else online.toServer }

/-- The server has answered it. -/
def numberEchoed : System shortNames :=
  (numberSent.serverFronts echoHosts).echoes echoHosts 0
    (numberSent.serverFronts echoHosts).server.queue 0 (by decide +kernel) (by decide +kernel)
    [.sent 176]

lemma conn_q_eq {P : Peer} (h : P.conn.q.isSome) : P.conn.q = some P.queue := by
  obtain ⟨q, hq⟩ := Option.isSome_iff_exists.mp h
  rw [hq, Peer.queue_eq hq]

lemma echoRuns_numberEchoed :
    EchoRuns echoHosts false (numberEchoed.clientFronts echoHosts) ⟨1, 0⟩ := by
  have hsent : EchoRuns echoHosts false numberSent ⟨1, 0⟩ :=
    echoRuns_online.sends rfl (connecting_of_isIdle (by decide +kernel)) (conn_q_eq (by decide +kernel))
      (by decide +kernel) rfl [.sent 176]
  have hfront : Step echoHosts numberSent (numberSent.serverFronts echoHosts) :=
    step_server (.front (by decide +kernel) (.data numberSent.toServer) (by decide +kernel)
      (by decide +kernel))
  have hfronted := hsent.other (.other hfront rfl rfl) rfl rfl
  have hechoed : EchoRuns echoHosts false numberEchoed ⟨1, 0⟩ :=
    hfronted.other (.echoes (conn_q_eq (by decide +kernel)) (by decide +kernel) (by decide +kernel)
      (by decide +kernel) (by decide +kernel) [.sent 176]) rfl rfl
  exact hechoed.other (.other (step_clientFronts (by decide +kernel) (by decide +kernel)
    (by decide +kernel) (by decide +kernel)) rfl rfl) rfl rfl

/-- The client gets number 0 back, which is the one it expects. -/
theorem EchoRuns.never_bad_first : ∃ cl', EchoClient.onServerMsg echoHosts.client ⟨1, 0⟩
    ((numberEchoed.clientFronts echoHosts).client.conn.msgAt echoHosts.client 0) = .ok cl' :=
  (EchoRuns.never_bad echoRuns_numberEchoed).expected (connecting_of_isIdle (by decide +kernel))
    (by decide +kernel) 0 (by decide +kernel)

end System

end Tcpshm
