import Tcpshm.Link.Delivery

/-!
# The echo server (`test/echo_server.cpp`)

The server pops every message and pushes its like. With the delivery of both directions, what the
client gets back is what it has sent.
-/

namespace Tcpshm

open PTCPConnection

/-! ### Copying a message -/

/-- What a message says. Neither the ack nor the padding is part of it. -/
structure Content where
  size : UInt16
  msgType : UInt16
  bytes : List UInt8
deriving DecidableEq

def content (m : MsgHeader × List UInt8) : Content :=
  ⟨m.1.size, m.1.msgType, m.2.take (m.1.size.toNat - 8)⟩

/-- What the other side sees of a pushed message. -/
def AppMsg.content (C : Conf) (m : AppMsg) : Content := Tcpshm.content (Listening.view (m.frame C))

/-- The `n` blocks that hold the bytes `bs`. -/
def blocksOf (C : Conf) : Nat → List UInt8 → List MsgHeader
  | 0, _ => []
  | n + 1, bs => .ofBytes C.endian.isLittle (bs.take 8) :: blocksOf C n (bs.drop 8)

@[simp] lemma length_blocksOf (C : Conf) (n : Nat) (bs : List UInt8) :
    (blocksOf C n bs).length = n := by
  induction n generalizing bs with
  | zero => rfl
  | succ n ih => simp [blocksOf, ih]

lemma memBytes_blocksOf (C : Conf) {n : Nat} {bs : List UInt8} (h : bs.length = 8 * n) :
    memBytes C (blocksOf C n bs) = bs := by
  induction n generalizing bs with
  | zero =>
    rw [List.length_eq_zero_iff.mp h]
    rfl
  | succ n ih =>
    have hdrop : (bs.drop 8).length = 8 * n := by simp [h]; omega
    have htake : (bs.take 8).length = 8 := by simp [h]
    calc memBytes C (blocksOf C (n + 1) bs)
        = MsgHeader.toBytes C.endian.isLittle (.ofBytes C.endian.isLittle (bs.take 8)) ++
            memBytes C (blocksOf C n (bs.drop 8)) := rfl
      _ = bs.take 8 ++ bs.drop 8 := by rw [ih hdrop, MsgHeader.toBytes_ofBytes _ htake]
      _ = bs := List.take_append_drop 8 bs

namespace EchoServer

variable (C : Conf) (c : PTCPConnection) (idx : Nat)

/-- `size` in `OnClientMsg`, as the argument of `Alloc`. -/
def size : UInt16 := (c.msgAt C idx).1.size - 8

/-- What `memcpy` makes of the blocks behind the header at `p`. The last of them can end with bytes
that are not written. -/
def copied (q : PTCPQueue) (p : Nat) : List MsgHeader :=
  let bytes := (c.msgAt C idx).2.take (size C c idx).toNat
  let n := (blkSz (c.msgAt C idx).1.size).toNat - 1
  blocksOf C n (bytes ++ (memBytes C (q.blk.slice (p + 1) n)).drop bytes.length)

/-- `OnClientMsg` up to `Pop`, when `Alloc` returns `p`. -/
def prepare (q : PTCPQueue) (p : Nat) : PTCPConnection :=
  c.allocFill C (size C c idx) (c.msgAt C idx).1.msgType
    (copied C c idx (q.alloc C.tcpQueueSize (size C c idx)).1 p) p

/-- `OnClientMsg` for the message at `idx`: the state after the call and the bytes handed to the
socket. -/
def onClientMsg (rs : List SendResult) : PTCPConnection × List UInt8 :=
  match c.q with
  | none => (c, [])
  | some q =>
    match (q.alloc C.tcpQueueSize (size C c idx)).2 with
    | none => ((c.alloc C (size C c idx)).1, [])
    | some p => ((prepare C c idx q p).pop C).push C rs

variable {C c idx}

lemma size_add_eight : size C c idx + 8 = (c.msgAt C idx).1.size := by
  simp [size]

lemma toNat_size (h : 8 ≤ (c.msgAt C idx).1.size.toNat) :
    (size C c idx).toNat + 8 = (c.msgAt C idx).1.size.toNat := by
  have hle : (8 : UInt16) ≤ (c.msgAt C idx).1.size := UInt16.le_iff_toNat_le.mpr h
  rw [size, UInt16.toNat_sub_of_le _ _ hle]
  exact Nat.sub_add_cancel h

lemma size_le (h : 8 ≤ (c.msgAt C idx).1.size.toNat) : (size C c idx).toNat + 8 ≤ 65535 := by
  rw [toNat_size h]
  exact Nat.le_of_lt_succ (UInt16.toNat_lt _)

lemma length_copied (h : 8 ≤ (c.msgAt C idx).1.size.toNat) (q : PTCPQueue) (p : Nat) :
    (copied C c idx q p).length + 1 = (blkSz (size C c idx + 8)).toNat := by
  have hblk : 1 ≤ (blkSz (c.msgAt C idx).1.size).toNat := by
    rw [toNat_blkSz]
    omega
  rw [size_add_eight, copied, length_blocksOf]
  omega

/-- The copy has the bytes of the message. -/
lemma take_copied (h : 8 ≤ (c.msgAt C idx).1.size.toNat) (q : PTCPQueue) (p : Nat) :
    (memBytes C (copied C c idx q p)).take (size C c idx).toNat =
      (c.msgAt C idx).2.take (size C c idx).toNat := by
  have hsize := toNat_size h
  have hlen : ((c.msgAt C idx).2.take (size C c idx).toNat).length = (size C c idx).toNat := by
    have hbytes : (c.msgAt C idx).2.length = (padded (c.msgAt C idx).1.size).toNat - 8 :=
      Mem.length_slice _ _ _
    rw [toNat_padded] at hbytes
    rw [List.length_take, hbytes]
    omega
  have hblk : (blkSz (c.msgAt C idx).1.size).toNat = ((c.msgAt C idx).1.size.toNat + 7) / 8 :=
    toNat_blkSz _
  rw [copied, memBytes_blocksOf]
  · rw [List.take_append_of_le_length hlen.ge, List.take_of_length_le hlen.le]
  · rw [List.length_append, List.length_drop, length_memBytes, Mem.length_slice, hlen]
    omega

/-! ### The handler in steps -/

lemma alloc_incMyAck (q : PTCPQueue) (Q : QueueSize) (size : UInt16) :
    q.incMyAck.alloc Q size = ((q.alloc Q size).1.incMyAck, (q.alloc Q size).2) := by
  by_cases hwrite : blkSz (size + 8) > Q.blkCnt - q.writeIdx
  · by_cases hread : blkSz (size + 8) > Q.blkCnt - q.writeIdx + q.readIdx
    · simp only [PTCPQueue.alloc, PTCPQueue.incMyAck, hwrite, hread, if_true]
    · simp only [PTCPQueue.alloc, PTCPQueue.incMyAck, hwrite, hread, if_true, if_false]
      rfl
  · simp only [PTCPQueue.alloc, PTCPQueue.incMyAck, hwrite, if_false]
    rfl

/-- It does not matter that the message is popped after `Alloc` and the copy. -/
lemma pop_prepare {q : PTCPQueue} (hq : c.q = some q) (p : Nat) :
    (prepare C c idx q p).pop C = (c.pop C).allocFill C (size C c idx) (c.msgAt C idx).1.msgType
      (copied C c idx (q.incMyAck.alloc C.tcpQueueSize (size C c idx)).1 p) p := by
  have hq' : (c.pop C).q = some q.incMyAck := by simp [PTCPConnection.pop, onQueue, hq]
  rw [prepare, allocFill_eq hq, allocFill_eq hq', alloc_incMyAck]
  simp only [PTCPConnection.pop, onQueue]
  rfl

lemma onClientMsg_eq {q : PTCPQueue} {p : Nat} (hq : c.q = some q)
    (hp : (q.alloc C.tcpQueueSize (size C c idx)).2 = some p) (rs : List SendResult) :
    onClientMsg C c idx rs = ((c.pop C).allocFill C (size C c idx) (c.msgAt C idx).1.msgType
      (copied C c idx (q.incMyAck.alloc C.tcpQueueSize (size C c idx)).1 p) p).push C rs := by
  rw [← pop_prepare hq]
  simp only [onClientMsg, hq, hp]

end EchoServer

/-- The answer to the message at `idx`. -/
def Peer.reply (C : Conf) (P : Peer) (idx : Nat) (q : PTCPQueue) (p : Nat)
    (hsize : 8 ≤ (P.conn.msgAt C idx).1.size.toNat) (htype : (P.conn.msgAt C idx).1.msgType ≠ 0) :
    AppMsg :=
  @PTCPQueue.appMsg q.incMyAck (EchoServer.size C P.conn idx) _ _ (EchoServer.size_le hsize) htype
    (EchoServer.length_copied hsize
      (q.incMyAck.alloc C.tcpQueueSize (EchoServer.size C P.conn idx)).1 p)

lemma Peer.content_reply (C : Conf) (P : Peer) (idx : Nat) (q : PTCPQueue) (p : Nat)
    (hsize : 8 ≤ (P.conn.msgAt C idx).1.size.toNat) (htype : (P.conn.msgAt C idx).1.msgType ≠ 0) :
    (P.reply C idx q p hsize htype).content C = content (P.conn.msgAt C idx) := by
  have htake := EchoServer.take_copied hsize
    (q.incMyAck.alloc C.tcpQueueSize (EchoServer.size C P.conn idx)).1 p
  have hnat := EchoServer.toNat_size hsize
  have heq : (P.conn.msgAt C idx).1.size.toNat - 8 = (EchoServer.size C P.conn idx).toNat := by
    omega
  rw [← heq] at htake
  have hadd : EchoServer.size C P.conn idx + 8 = _ := EchoServer.size_add_eight
  simp only [AppMsg.content, content, Listening.view, AppMsg.frame, Peer.reply, PTCPQueue.appMsg,
    PTCPQueue.filled, hadd, htake]

lemma Delivers.content {CX : Conf} {X Y : Peer} (h : Delivers CX X Y) :
    Y.popped.map Tcpshm.content <+: X.pushed.map (AppMsg.content CX) := by
  have hmap := h.popped.map Tcpshm.content
  rwa [List.map_map] at hmap

namespace System

variable {F : LoginFormat} (H : Hosts F)

/-! ### Runs -/

/-- The server handles the message at `idx`, and `Alloc` returns `p`. -/
def echoes (s : System F) (idx : Nat) (q : PTCPQueue) (p : Nat)
    (hsize : 8 ≤ (s.server.conn.msgAt H.server idx).1.size.toNat)
    (htype : (s.server.conn.msgAt H.server idx).1.msgType ≠ 0) (rs : List SendResult) : System F :=
  let c := EchoServer.onClientMsg H.server s.server.conn idx rs
  { s with
    server := (s.server.pop H.server idx).afterPush c.1
      (s.server.reply H.server idx q p hsize htype)
    toClient := if s.joined then s.toClient ++ c.2 else s.toClient }

/-- The server has popped the message when it dies, and has not pushed the answer. -/
def dies (s : System F) (idx : Nat) (q : PTCPQueue) (p : Nat) : System F :=
  { s with
    server := (s.server.withConn (EchoServer.prepare H.server s.server.conn idx q p)).pop H.server
      idx }.crashServer H

/-- A step while the server is the echo server. All that can happen otherwise is left open, as long
as the server does not push or pop; when `Alloc` finds no room, the handler does neither. -/
inductive EchoStep : System F → System F → Prop where
  | other {s s' : System F} (hstep : Step H s s')
      (hpushed : s'.server.pushed = s.server.pushed)
      (hpopped : s'.server.popped = s.server.popped) : EchoStep s s'
  | echoes {idx p : Nat} {s : System F} {q : PTCPQueue} (hq : s.server.conn.q = some q)
      (hidx : s.server.fronted = some idx)
      (hp : (q.alloc H.server.tcpQueueSize (EchoServer.size H.server s.server.conn idx)).2 = some p)
      (hsize : 8 ≤ (s.server.conn.msgAt H.server idx).1.size.toNat)
      (htype : (s.server.conn.msgAt H.server idx).1.msgType ≠ 0) (rs : List SendResult) :
      EchoStep s (s.echoes H idx q p hsize htype rs)

/-- The states reached, and how often the server has died inside of its handler. -/
inductive EchoReaches : Nat → System F → Prop where
  | init (clientBlk serverBlk : Mem MsgHeader) :
      EchoReaches 0 (init H H.serverName clientBlk serverBlk)
  | step {k : Nat} {s s' : System F} (h : EchoReaches k s) (hstep : EchoStep H s s') :
      EchoReaches k s'
  | dies {k idx p : Nat} {s : System F} {q : PTCPQueue} (h : EchoReaches k s)
      (hq : s.server.conn.q = some q) (hidx : s.server.fronted = some idx)
      (hp : (q.alloc H.server.tcpQueueSize (EchoServer.size H.server s.server.conn idx)).2 = some p) :
      EchoReaches (k + 1) (s.dies H idx q p)

variable {H} {s s' : System F} {q : PTCPQueue} {k idx p : Nat}

/-- The handler pops and then pushes. -/
lemma steps_echoes (hq : s.server.conn.q = some q) (hidx : s.server.fronted = some idx)
    (hp : (q.alloc H.server.tcpQueueSize (EchoServer.size H.server s.server.conn idx)).2 = some p)
    (hsize : 8 ≤ (s.server.conn.msgAt H.server idx).1.size.toNat)
    (htype : (s.server.conn.msgAt H.server idx).1.msgType ≠ 0) (rs : List SendResult) :
    Relation.ReflTransGen (Step H) s (s.echoes H idx q p hsize htype rs) := by
  have hopen : s.server.conn.q.isSome := by simp [hq]
  have hq' : (s.server.pop H.server idx).conn.q = some q.incMyAck := by
    simp [Peer.pop, PTCPConnection.pop, onQueue, hq]
  have hp' : (q.incMyAck.alloc H.server.tcpQueueSize
      (EchoServer.size H.server s.server.conn idx)).2 = some p := by
    rw [EchoServer.alloc_incMyAck]
    exact hp
  have hpop : Step H s { s with server := s.server.pop H.server idx } :=
    step_server (.pop hopen hidx)
  refine (Relation.ReflTransGen.single hpop).tail ?_
  unfold echoes
  rw [EchoServer.onClientMsg_eq hq hp]
  exact Step.server (s := { s with server := s.server.pop H.server idx })
    (.push (EchoServer.size_le hsize) htype hq' hp' (EchoServer.length_copied hsize _ p) rfl rs)

lemma steps_dies (hq : s.server.conn.q = some q) (hidx : s.server.fronted = some idx)
    (hp : (q.alloc H.server.tcpQueueSize (EchoServer.size H.server s.server.conn idx)).2 = some p) :
    Relation.ReflTransGen (Step H) s (s.dies H idx q p) := by
  have hfill : Step H s { s with
      server := s.server.withConn (EchoServer.prepare H.server s.server.conn idx q p) } :=
    step_server (.fill _ _ hq hp)
  have hopen : (EchoServer.prepare H.server s.server.conn idx q p).q.isSome := by
    rw [EchoServer.prepare, allocFill_eq hq]
    rfl
  refine ((Relation.ReflTransGen.single hfill).tail ?_).tail .crashServer
  exact step_server (s := { s with server := s.server.withConn _ }) (.pop hopen hidx)

lemma EchoStep.steps (h : EchoStep H s s') : Relation.ReflTransGen (Step H) s s' := by
  cases h with
  | other hstep hpushed hpopped => exact .single hstep
  | echoes hq hidx hp hsize htype rs => exact steps_echoes hq hidx hp hsize htype rs

lemma EchoReaches.reaches (h : EchoReaches H k s) : Reaches H H.serverName s := by
  induction h with
  | init clientBlk serverBlk => exact ⟨clientBlk, serverBlk, .refl⟩
  | step h hstep ih => exact ih.trans hstep.steps
  | dies h hq hidx hp ih => exact ih.trans (steps_dies hq hidx hp)

/-! ### What the client gets back -/

/-- What the server answers with. -/
def replies (H : Hosts F) (s : System F) : List Content :=
  s.server.pushed.map (AppMsg.content H.server)

/-- What the client asks for. -/
def asked (H : Hosts F) (s : System F) : List Content :=
  s.client.pushed.map (AppMsg.content H.client)

/-- The answers are those to the messages popped, but for one each time the server died between
`Pop` and `Push`. -/
lemma EchoReaches.replies_sublist (h : EchoReaches H k s) :
    (s.replies H).Sublist (s.server.popped.map content) ∧
      s.server.pushed.length + k = s.server.popped.length := by
  induction h with
  | init clientBlk serverBlk => exact ⟨.slnil, rfl⟩
  | step h hstep ih =>
    obtain ⟨hsub, hlen⟩ := ih
    cases hstep with
    | other hstep hpushed hpopped =>
      unfold replies
      rw [hpushed, hpopped]
      exact ⟨hsub, hlen⟩
    | echoes hq hidx hp hsize htype rs =>
      constructor
      · simp only [replies, System.echoes, Peer.afterPush, Peer.pop, List.map_append, List.map_cons,
          List.map_nil, Peer.content_reply]
        exact hsub.append (List.Sublist.refl _)
      · simp only [System.echoes, Peer.afterPush, Peer.pop, List.length_append,
          List.length_singleton]
        omega
  | dies h hq hidx hp ih =>
    obtain ⟨hsub, hlen⟩ := ih
    constructor
    · simp only [replies, System.dies, crashServer, Peer.crash, Peer.pop, Peer.withConn,
        List.map_append]
      exact hsub.trans (List.sublist_append_left _ _)
    · simp only [System.dies, crashServer, Peer.crash, Peer.pop, Peer.withConn, List.length_append,
        List.length_singleton]
      omega

/-- What the client has got back is part of what it has sent, in that order, and what it has sent
from the beginning on if the server never died inside of its handler. The handler can answer
whatever message it is given. -/
structure Echoed (H : Hosts F) (k : Nat) (s : System F) : Prop where
  handled : ∀ idx ∈ s.server.fronted, s.server.conn.q.isSome →
    8 ≤ (s.server.conn.msgAt H.server idx).1.size.toNat ∧
      (s.server.conn.msgAt H.server idx).1.msgType ≠ 0
  replies : (s.replies H).Sublist (s.asked H)
  missing : s.server.pushed.length + k = s.server.popped.length
  received : (s.client.popped.map content).Sublist (s.asked H)
  ordered : k = 0 → s.client.popped.map content <+: s.asked H

/-- Whatever happens to connections, logins and processes, the client gets its own messages back. -/
theorem EchoReaches.echoed (h : EchoReaches H k s) : Echoed H k s := by
  obtain ⟨hup, hdown⟩ := h.reaches.exactly_once
  obtain ⟨hsub, hlen⟩ := h.replies_sublist
  have hasked : s.server.popped.map content <+: s.asked H := hup.content
  have hgot : s.client.popped.map content <+: s.replies H := hdown.content
  have hreplies := hsub.trans hasked.sublist
  refine ⟨fun idx hidx hq => ?_, hreplies, hlen, hgot.sublist.trans hreplies, fun hk => ?_⟩
  · obtain ⟨m, -, hm⟩ := h.reaches.fronted_server hq hidx
    rw [hm]
    exact ⟨m.size_ge, m.msgType_ne⟩
  have heq : s.replies H = s.server.popped.map content := by
    apply hsub.eq_of_length
    simp only [System.replies, List.length_map]
    omega
  rw [heq] at hgot
  exact hgot.trans hasked

/-! ### A message that comes back -/

lemma connect_keeps (h : s.connect H = some s') : s'.server = s.server ∧
    s'.client.pushed = s.client.pushed ∧ s'.client.popped = s.client.popped := by
  unfold System.connect at h
  split at h <;> cases h <;> exact ⟨rfl, rfl, rfl⟩

lemma handle_keeps {fd now : Int} {sendOk : Bool} {rs : List SendResult}
    (h : s.handle H fd now sendOk rs = some s') : s'.client = s.client ∧
    s'.server.pushed = s.server.pushed ∧ s'.server.popped = s.server.popped := by
  unfold System.handle at h
  split_ifs at h
  · obtain ⟨-, -, rfl⟩ := Option.map_eq_some_iff.mp h
    rw [answer_client, answer_server]
    exact ⟨rfl, rfl, rfl⟩
  · obtain ⟨r, -, rfl⟩ := Option.map_eq_some_iff.mp h
    unfold afterHandle
    split <;> exact ⟨answer_client _, rfl, rfl⟩

lemma respond_keeps {newBlk : Mem MsgHeader} {r : TcpShmClient F × ConnectResult × List UInt8} :
    (s.afterResponse newBlk r).server = s.server := by
  unfold afterResponse
  split_ifs <;> rfl

lemma Step.server_grows (h : Step H s s') :
    s.server.pushed <+: s'.server.pushed ∧ s.server.popped <+: s'.server.popped := by
  cases h with
  | server h =>
    refine ⟨h.grows.1, ?_⟩
    cases h with
    | pop => exact List.prefix_append _ _
    | _ => exact List.prefix_rfl
  | connect h => rw [(connect_keeps h).1]; exact ⟨List.prefix_rfl, List.prefix_rfl⟩
  | ignore => rw [answer_server]; exact ⟨List.prefix_rfl, List.prefix_rfl⟩
  | refuse errorMsg => rw [answer_server]; exact ⟨List.prefix_rfl, List.prefix_rfl⟩
  | handle fd now sendOk rs h =>
    obtain ⟨-, hpushed, hpopped⟩ := handle_keeps h
    exact ⟨hpushed ▸ List.prefix_rfl, hpopped ▸ List.prefix_rfl⟩
  | respond newBlk fd now rs h => rw [respond_keeps]; exact ⟨List.prefix_rfl, List.prefix_rfl⟩
  | _ => exact ⟨List.prefix_rfl, List.prefix_rfl⟩

/-- A run in which the server does not push or pop. -/
lemma EchoReaches.steps (h : EchoReaches H k s) (hrun : Relation.ReflTransGen (Step H) s s')
    (hpushed : s'.server.pushed.length ≤ s.server.pushed.length)
    (hpopped : s'.server.popped.length ≤ s.server.popped.length) : EchoReaches H k s' := by
  have hgrows : ∀ {t}, Relation.ReflTransGen (Step H) s t →
      s.server.pushed <+: t.server.pushed ∧ s.server.popped <+: t.server.popped := by
    intro t ht
    induction ht with
    | refl => exact ⟨List.prefix_rfl, List.prefix_rfl⟩
    | tail _ hstep ih =>
      exact ⟨ih.1.trans hstep.server_grows.1, ih.2.trans hstep.server_grows.2⟩
  induction hrun with
  | refl => exact h
  | tail hrun hstep ih =>
    obtain ⟨hpush, hpop⟩ := hstep.server_grows
    obtain ⟨hpush', hpop'⟩ := hgrows hrun
    have hlen := hpush.length_le.trans hpushed
    have hlen' := hpop.length_le.trans hpopped
    have heq := hpush'.eq_of_length_le hlen
    have heq' := hpop'.eq_of_length_le hlen'
    refine (ih hlen hlen').step (.other hstep ?_ ?_)
    · exact (hpush.eq_of_length_le (heq ▸ hpushed)).symm
    · exact (hpop.eq_of_length_le (heq' ▸ hpopped)).symm

/-- The server has read the message of the client. -/
def fronting : System shortNames := pushing.serverFronts smallHosts

lemma echoReaches_fronting : EchoReaches smallHosts 0 fronting := by
  obtain ⟨clientBlk, serverBlk, hrun⟩ := reaches_pushing
  have hstep := step_server (s := pushing) (H := smallHosts)
    (.front (by decide +kernel) (.data pushing.toServer) (by decide +kernel) (by decide +kernel))
  have hpushed : fronting.server.pushed.length ≤ 0 := by decide +kernel
  have hpopped : fronting.server.popped.length ≤ 0 := by decide +kernel
  exact (EchoReaches.init clientBlk serverBlk).steps (hrun.tail hstep) hpushed hpopped

/-- The server has answered. -/
def answering : System shortNames :=
  fronting.echoes smallHosts 0 fronting.server.queue 0 (by decide +kernel) (by decide +kernel)
    [.sent 8]

lemma echoReaches_answering : EchoReaches smallHosts 0 answering := by
  refine echoReaches_fronting.step (.echoes ?_ (by decide +kernel) (by decide +kernel)
    (by decide +kernel) (by decide +kernel) [.sent 8])
  obtain ⟨q, hq⟩ := Option.isSome_iff_exists.mp
    (show fronting.server.conn.q.isSome by decide +kernel)
  rw [hq, Peer.queue_eq hq]

/-- `Front` of the client, when everything that is on the way has arrived. -/
def clientFronts (H : Hosts F) (s : System F) : System F :=
  { s with
    client := s.client.front H.client (.data s.toClient)
    toClient := s.toClient.drop (s.client.conn.frontRead H.client (.data s.toClient)).length }

def clientPops (H : Hosts F) (s : System F) : System F :=
  { s with client := s.client.pop H.client 0 }

lemma step_clientFronts (hidle : s.isIdle = true) (hq : s.client.conn.q.isSome)
    (hres : s.client.conn.FrontAdmissible H.client (.data s.toClient))
    (hread : s.client.conn.frontRead H.client (.data s.toClient) <+: s.toClient) :
    Step H s (s.clientFronts H) :=
  step_client (connecting_of_isIdle hidle) (.front hq (.data s.toClient) hres hread)

lemma step_clientPops (hidle : s.isIdle = true) (hq : s.client.conn.q.isSome)
    (hidx : s.client.fronted = some 0) : Step H s (s.clientPops H) :=
  step_client (connecting_of_isIdle hidle) (.pop hq hidx)

/-- The client has read the answer. -/
def answered : System shortNames := answering.clientFronts smallHosts

lemma echoReaches_answered : EchoReaches smallHosts 0 answered :=
  echoReaches_answering.step (.other (step_clientFronts (by decide +kernel) (by decide +kernel)
    (by decide +kernel) (by decide +kernel)) rfl rfl)

/-- The client has its message back. -/
theorem EchoReaches.echoed_answered : (answered.clientPops smallHosts).client.popped.length = 1 ∧
    Echoed smallHosts 0 (answered.clientPops smallHosts) :=
  ⟨by decide +kernel, EchoReaches.echoed (echoReaches_answered.step (.other (step_clientPops
    (by decide +kernel) (by decide +kernel) (by decide +kernel)) rfl rfl))⟩

end System

end Tcpshm
