import Tcpshm.PtcpConn.Receive
import Tcpshm.PtcpConn.Send
import Tcpshm.PtcpQueue.Refinement

/-!
# Receiving a stream

A connection is opened, and its user calls `Front` and `Pop` while the peer's stream of frames
arrives in pieces the kernel chooses. The user gets the messages of the stream one after the other.
-/

namespace Tcpshm

/-! ### Acks on the local queue -/

namespace PTCPQueue

variable {Q : QueueSize} {ed : Endian} {q : PTCPQueue} {ms : List Msg}

/-- The sequence number after the last stored message. -/
def endSeq (q : PTCPQueue) (ms : List Msg) : UInt32 := q.readSeqNum + UInt32.ofNat ms.length

/-- An ack that is not newer than the end keeps a suffix of the messages, and the end. -/
lemma Holds.ack_suffix (h : Holds Q ed q ms) {a : UInt32} (ha : 0 ≤ (q.endSeq ms - a).asInt) :
    ∃ ms', Holds Q ed (q.ack ed a) ms' ∧ ms' <:+ ms ∧ (q.ack ed a).endSeq ms' = q.endSeq ms := by
  have hlt := h.length_lt
  have hk : covered q.readSeqNum a ≤ ms.length := covered_le (by omega) ha
  refine ⟨ms.drop (covered q.readSeqNum a), h.ack hk, List.drop_suffix _ _, ?_⟩
  rw [endSeq, h.readSeqNum_ack hk, List.length_drop, endSeq]
  obtain ⟨j, hj⟩ := Nat.exists_eq_add_of_le hk
  rw [hj, Nat.add_sub_cancel_left, UInt32.ofNat_add]
  grind

end PTCPQueue

namespace PTCPConnection

variable {C : Conf} {c c' : PTCPConnection}

lemma holds_applyAcks {q : PTCPQueue} {ms : List Msg} {acks : List UInt32}
    (h : q.Holds C.tcpQueueSize C.endian ms) (ha : ∀ a ∈ acks, 0 ≤ (q.endSeq ms - a).asInt) :
    ∃ ms', (applyAcks C q acks).Holds C.tcpQueueSize C.endian ms' ∧ ms' <:+ ms ∧
      (applyAcks C q acks).endSeq ms' = q.endSeq ms := by
  induction acks generalizing q ms with
  | nil => exact ⟨ms, h, List.suffix_rfl, rfl⟩
  | cons a acks ih =>
    obtain ⟨ms₁, h₁, hsuf, hend⟩ := h.ack_suffix (ha a (List.mem_cons_self ..))
    obtain ⟨ms₂, h₂, hsuf', hend'⟩ := ih h₁ fun a' ha' => by
      rw [hend]
      exact ha a' (List.mem_cons_of_mem _ ha')
    exact ⟨ms₂, h₂, hsuf'.trans hsuf, hend'.trans hend⟩

/-! ### Messages and heartbeats -/

end PTCPConnection

/-- The messages of a stream, without the heartbeats. -/
def apps (fs : List Frame) : List Frame := fs.filter fun f => !f.isHeartbeat

@[simp] lemma apps_append (fs fs' : List Frame) : apps (fs ++ fs') = apps fs ++ apps fs' := by
  simp [apps]

lemma apps_dropWhile (fs : List Frame) : apps (fs.dropWhile Frame.isHeartbeat) = apps fs := by
  induction fs with
  | nil => rfl
  | cons f fs ih =>
    rw [List.dropWhile_cons]
    split_ifs with hf
    · rw [ih]
      simp [apps, hf]
    · rfl

/-- No heartbeat comes first. -/
def AppFirst (fs : List Frame) : Prop := ∀ f ∈ fs.head?, f.isHeartbeat = false

lemma appFirst_dropWhile (fs : List Frame) : AppFirst (fs.dropWhile Frame.isHeartbeat) := by
  intro f hf
  have := List.head?_dropWhile_not Frame.isHeartbeat fs
  rw [Option.mem_def.mp hf] at this
  simpa using this

namespace PTCPConnection

lemma apps_foldl_enqueue (ready done : List Frame) :
    apps (done.foldl enqueue ready) = apps ready ++ apps done := by
  induction done generalizing ready with
  | nil => simp [apps]
  | cons f done ih =>
    rw [List.foldl_cons, ih, enqueue]
    split_ifs with hf
    · obtain ⟨hhb, rfl⟩ := hf
      simp [apps, hhb]
    · simp [apps, List.filter_cons]
      split_ifs <;> simp

lemma appFirst_foldl_enqueue {ready : List Frame} (h : AppFirst ready) (done : List Frame) :
    AppFirst (done.foldl enqueue ready) := by
  induction done generalizing ready with
  | nil => exact h
  | cons f done ih =>
    apply ih
    unfold enqueue
    split_ifs with hf
    · intro g hg
      cases hg
    · cases ready with
      | nil =>
        intro g hg
        obtain rfl : f = g := by simpa using hg
        simpa using hf
      | cons r ready => exact h

/-! ### Opening and sending -/

variable {ready rest : List Frame} {n : Nat}

lemma receives_of_sameReceiver (h : Receives C c ready rest n) (hs : SameReceiver c c') :
    Receives C c' ready rest n := by
  obtain ⟨hb, hc, hlt⟩ := h
  obtain ⟨h₁, h₂, h₃, h₄, h₅, -, hsock⟩ := hs
  refine ⟨⟨?_, ?_, ?_, ?_, ?_, ?_⟩, ⟨?_, ?_, ?_, ?_, hc.n_le⟩, fun hopen => ?_⟩
  · rw [h₄, h₅]
    exact hb.read_le
  · rw [h₃, h₄]
    exact hb.next_le
  · rw [h₂, h₃]
    exact hb.write_le
  · rw [h₂]
    exact hb.size_le
  · rw [h₅]
    exact hb.read_aligned
  · rw [h₄]
    exact hb.next_aligned
  · rw [h₄, h₅]
    exact hc.next_eq
  · rw [h₃, h₄]
    exact hc.write_eq
  · rw [h₁, h₅]
    exact hc.ready_eq
  · rw [h₁, h₄]
    exact hc.rest_eq
  · rcases hsock with hsock | hsock
    · exact hlt (hsock ▸ hopen)
    · omega

/-- A connection whose indices are 0 has received nothing. -/
lemma receives_of_zero (hread : c.readidx = 0) (hnext : c.nextmsgIdx = 0) (hwrite : c.writeidx = 0)
    (hsize : c.recvbufSize.toNat ≤ C.tcpRecvBufMaxSize.toNat) (fs : List Frame) :
    Receives C c [] fs 0 := by
  have h0 : (0 : UInt32).toNat = 0 := rfl
  refine ⟨⟨?_, ?_, ?_, hsize, ?_, ?_⟩, ⟨?_, ?_, rfl, rfl, Nat.zero_le _⟩, fun _ f _ => ?_⟩
  · rw [hread, hnext]
  · rw [hnext, hwrite]
  · rw [hwrite]
    exact Nat.zero_le _
  · rw [hread, h0]
  · rw [hnext, h0]
  · rw [hread, hnext, lens_nil, Nat.add_zero]
  · rw [hnext, hwrite, Nat.add_zero]
  · exact f.length_ge.trans_lt' (by omega)

/-- A connection that was just opened has received nothing. -/
lemma receives_open (c : PTCPConnection) (hsize : c.recvbufSize.toNat ≤ C.tcpRecvBufMaxSize.toNat)
    (sockFd : Int) (ack : UInt32) (now : Int) (rs : List SendResult) (fs : List Frame) :
    Receives C (c.open C sockFd ack now rs).1 [] fs 0 := by
  obtain ⟨hs, -⟩ := sendPending_frame (C := C) (c.openAck C sockFd ack now) rs
  simp only [PTCPConnection.open, openBuf]
  split_ifs
  · refine receives_of_zero ?_ ?_ ?_ C.init_le_max fs
    exacts [hs.readidx, hs.nextmsgIdx, hs.writeidx]
  · refine receives_of_zero hs.readidx hs.nextmsgIdx hs.writeidx ?_ fs
    rw [hs.recvbufSize]
    exact hsize

/-! ### Runs -/

/-- A connection in use: how many bytes of the stream it has taken from the socket, the pointer its
user holds, and the messages the user has popped, as the user saw them. -/
structure Listening where
  c : PTCPConnection
  read : Nat
  fronted : Option Nat
  popped : List (MsgHeader × List UInt8)

namespace Listening

/-- A connection that was just opened. -/
def init (c : PTCPConnection) : Listening := ⟨c, 0, none, []⟩

def front (C : Conf) (s : Listening) (res : ReadResult) : Listening where
  c := (s.c.front C res).1
  read := s.read + (s.c.frontRead C res).length
  fronted := match (s.c.front C res).2 with
    | .header idx => some idx
    | _ => none
  popped := s.popped

def pop (C : Conf) (s : Listening) (idx : Nat) : Listening :=
  { s with c := s.c.pop C, fronted := none, popped := s.popped ++ [s.c.msgAt C idx] }

def sendHB (C : Conf) (s : Listening) (now : Int) (rs : List SendResult) (res : SendResult) :
    Listening :=
  { s with c := (s.c.sendHB C now rs res).1 }

/-- The kernel can answer `res`, and what is read is what comes next in the stream. -/
def CanRead (C : Conf) (fs : List Frame) (s : Listening) (res : ReadResult) : Prop :=
  s.c.FrontAdmissible C res ∧ s.c.frontRead C res <+: (wires C fs).drop s.read

instance (C : Conf) (fs : List Frame) (s : Listening) (res : ReadResult) :
    Decidable (s.CanRead C fs res) :=
  inferInstanceAs (Decidable (_ ∧ _))

inductive Step (C : Conf) (fs : List Frame) : Listening → Listening → Prop where
  | front {s : Listening} (res : ReadResult) (h : s.CanRead C fs res) : Step C fs s (s.front C res)
  | pop {s : Listening} {idx : Nat} (h : s.fronted = some idx) : Step C fs s (s.pop C idx)
  | sendHB {s : Listening} (now : Int) (rs : List SendResult) (res : SendResult) :
      Step C fs s (s.sendHB C now rs res)

/-- The states reached from an opened connection while the stream `fs` arrives. -/
def Reaches (C : Conf) (fs : List Frame) (c : PTCPConnection) (s : Listening) : Prop :=
  Relation.ReflTransGen (Step C fs) (init c) s

/-- What the user sees of a frame. -/
def view (f : Frame) : MsgHeader × List UInt8 := (f.header, f.body)

/-- A queue that stores a suffix of `ms`, with the same end. -/
def QueueOk (C : Conf) (ms : List Msg) (e : UInt32) (c : PTCPConnection) : Prop :=
  ∃ q ms', c.q = some q ∧ q.Holds C.tcpQueueSize C.endian ms' ∧ ms' <:+ ms ∧ q.endSeq ms' = e

/-- The messages of the frames taken from the stream are those that were popped and those that
are ready. -/
structure Inv (C : Conf) (fs : List Frame) (ms : List Msg) (e : UInt32) (s : Listening)
    (taken popped ready rest : List Frame) (n : Nat) : Prop where
  receives : Receives C s.c ready rest n
  stream_eq : fs = taken ++ rest
  read_eq : s.read = lens taken + n
  apps_eq : apps taken = popped ++ apps ready
  popped_eq : s.popped = popped.map view
  fronted : ∀ idx ∈ s.fronted, idx = s.c.readidx.toNat ∧ ready ≠ [] ∧ AppFirst ready
  lt_length : ∀ f ∈ rest.head?, n < f.length
  queue : QueueOk C ms e s.c

/-- Every frame fits the receive buffer, and no ack is newer than the end of the local queue. -/
structure Arrives (C : Conf) (fs : List Frame) (e : UInt32) : Prop where
  fits : ∀ f ∈ fs, f.Fits C
  acks : ∀ f ∈ fs, 0 ≤ (e - f.header.ackSeq).asInt

variable {fs : List Frame} {ms : List Msg} {e : UInt32} {s : Listening}
  {taken popped ready rest : List Frame} {n : Nat}

lemma mem_headerAcks {done rest : List Frame} {n : Nat} {a : UInt32}
    (ha : a ∈ headerAcks done rest n) : ∃ f ∈ done ++ rest, a = f.header.ackSeq := by
  rcases List.mem_append.mp ha with ha | ha
  · obtain ⟨f, hf, rfl⟩ := List.mem_map.mp ha
    exact ⟨f, List.mem_append_left _ hf, rfl⟩
  · split_ifs at ha
    · cases rest with
      | nil => simp at ha
      | cons f rest =>
        obtain rfl : a = f.header.ackSeq := by simpa using ha
        exact ⟨f, by simp, rfl⟩
    · simp at ha

theorem Inv.front (hmax : C.tcpRecvBufMaxSize.toNat < 2 ^ 31) (harr : Arrives C fs e)
    (h : Inv C fs ms e s taken popped ready rest n) {res : ReadResult} (hres : s.CanRead C fs res) :
    ∃ taken' ready' rest' n', Inv C fs ms e (s.front C res) taken' popped ready' rest' n' ∧
      ((s.c.front C res).2 = .header (s.c.front C res).1.readidx.toNat ∧ ready' ≠ [] ∧
          AppFirst ready' ∨
        (s.c.front C res).2 = .null ∧ ready' = []) ∧
      (s.c.frontRead C res ≠ [] → ¬ (s.c.front C res).1.sockfd < 0) := by
  obtain ⟨q, ms', hq, hholds, hsuf, hend⟩ := h.queue
  obtain ⟨hadm, hbs⟩ := hres
  have hdrop : (wires C fs).drop s.read = (wires C rest).drop n := by
    rw [h.stream_eq, h.read_eq, wires_append, List.drop_append, length_wires,
      List.drop_of_length_le (by simp), Nat.add_sub_cancel_left, List.nil_append]
  obtain ⟨done, rest', n', hf⟩ := front_spec hmax (by rw [hq]; rfl) h.receives hadm (hdrop ▸ hbs)
  have hmem : ∀ f ∈ done ++ rest', f ∈ fs := by
    intro f hf'
    rw [h.stream_eq, hf.rest_eq]
    exact List.mem_append_right _ hf'
  have hnounfit : ¬ ∃ f ∈ rest'.head?, ¬ f.Fits C := by
    rintro ⟨f, hf', hfit⟩
    exact hfit (harr.fits f (hmem f (List.mem_append_right _ (List.mem_of_mem_head? hf'))))
  have happ := appFirst_foldl_enqueue (appFirst_dropWhile ready) done
  have hresult : (s.c.front C res).2 = .header (s.c.front C res).1.readidx.toNat ∧
        done.foldl enqueue (ready.dropWhile Frame.isHeartbeat) ≠ [] ∨
      (s.c.front C res).2 = .null ∧ done.foldl enqueue (ready.dropWhile Frame.isHeartbeat) = [] := by
    rcases hf.result with hr | ⟨hr, hnil | ⟨-, -, hunfit⟩⟩
    · exact Or.inl hr
    · exact Or.inr ⟨hr, hnil⟩
    · exact absurd hunfit hnounfit
  have hlt : ∀ f ∈ rest'.head?, n' < f.length := by
    by_cases hread : s.c.frontRead C res = []
    · -- nothing was read, and what was there is no complete frame
      have hsum := hf.read_eq
      rw [hread, List.length_nil] at hsum
      cases done with
      | nil =>
        intro f hf'
        have := h.lt_length f (by rw [hf.rest_eq]; exact hf')
        simp only [lens_nil] at hsum
        omega
      | cons d done =>
        have := h.lt_length d (by rw [hf.rest_eq]; rfl)
        simp only [lens_cons] at hsum
        omega
    · apply hf.receives.lt_length
      by_contra hneg
      exact hnounfit (hf.closes hread (not_le.mp hneg)).2
  refine ⟨taken ++ done, done.foldl enqueue (ready.dropWhile Frame.isHeartbeat), rest', n',
    ⟨hf.receives, ?_, ?_, ?_, h.popped_eq, ?_, hlt, ?_⟩, ?_, ?_⟩
  · rw [h.stream_eq, hf.rest_eq, List.append_assoc]
  · show s.read + (s.c.frontRead C res).length = _
    have := hf.read_eq
    rw [lens_append, h.read_eq]
    omega
  · rw [apps_append, h.apps_eq, apps_foldl_enqueue, apps_dropWhile, List.append_assoc]
  · intro idx hidx
    simp only [Listening.front] at hidx ⊢
    rcases hresult with ⟨hr, hne⟩ | ⟨hr, -⟩
    · rw [hr] at hidx
      exact ⟨(Option.some.inj hidx).symm, hne, happ⟩
    · rw [hr] at hidx
      cases hidx
  · have hacks : ∀ a ∈ s.c.frontAcks C res, 0 ≤ (q.endSeq ms' - a).asInt := by
      intro a ha
      rw [hf.acks_eq] at ha
      split_ifs at ha
      · cases ha
      · obtain ⟨f, hf', rfl⟩ := mem_headerAcks ha
        rw [hend]
        exact harr.acks f (hmem f hf')
    obtain ⟨ms'', hh, hsuf', hend'⟩ := holds_applyAcks hholds hacks
    refine ⟨_, ms'', ?_, hh, hsuf'.trans hsuf, hend'.trans hend⟩
    show (s.c.front C res).1.q = _
    rw [q_front (by rw [hq]; rfl), hq]
    rfl
  · exact hresult.imp (fun hr => ⟨hr.1, hr.2, happ⟩) id
  · intro hne hneg
    exact hnounfit (hf.closes hne hneg).2

theorem Inv.pop (hmax : C.tcpRecvBufMaxSize.toNat < 2 ^ 31)
    (h : Inv C fs ms e s taken popped ready rest n) {idx : Nat} (hidx : s.fronted = some idx) :
    ∃ f ready', ready = f :: ready' ∧ s.c.msgAt C idx = view f ∧
      Inv C fs ms e (s.pop C idx) taken (popped ++ [f]) ready' rest n := by
  obtain ⟨rfl, hne, happ⟩ := h.fronted idx hidx
  obtain ⟨f, ready', rfl⟩ := List.exists_cons_of_ne_nil hne
  have hf : f.isHeartbeat = false := happ f rfl
  have hmsg : s.c.msgAt C s.c.readidx.toNat = view f := h.receives.contents.msgAt_read
  obtain ⟨hrec, hq'⟩ := pop_spec hmax h.receives
  obtain ⟨q, ms', hq, hh, hsuf, hend⟩ := h.queue
  refine ⟨f, ready', rfl, hmsg, hrec, h.stream_eq, h.read_eq, ?_, ?_, ?_, h.lt_length, ?_⟩
  · rw [h.apps_eq, List.append_assoc]
    simp [apps, hf]
  · show s.popped ++ [s.c.msgAt C _] = _
    rw [hmsg, h.popped_eq, List.map_append]
    rfl
  · intro idx' hidx'
    cases hidx'
  · refine ⟨q.incMyAck, ms', ?_, ⟨hh.write_le, hh.write_eq, hh.blk_eq⟩, hsuf, hend⟩
    show (s.c.pop C).q = _
    rw [hq', hq]
    rfl

theorem Inv.sendHB (h : Inv C fs ms e s taken popped ready rest n) (now : Int)
    (rs : List SendResult) (res : SendResult) :
    Inv C fs ms e (s.sendHB C now rs res) taken popped ready rest n := by
  obtain ⟨hsame, hsent, -⟩ := sendHB_frame (C := C) s.c now rs res
  refine ⟨receives_of_sameReceiver h.receives hsame, h.stream_eq, h.read_eq, h.apps_eq,
    h.popped_eq, ?_, h.lt_length, ?_⟩
  · intro idx hidx
    obtain ⟨h₁, h₂⟩ := h.fronted idx hidx
    exact ⟨h₁.trans (congrArg UInt32.toNat hsame.readidx.symm), h₂⟩
  · obtain ⟨q, ms', hq, hh, hsuf, hend⟩ := h.queue
    rcases hsent with hsent | ⟨q', k, hq', -, hsent⟩
    · exact ⟨q, ms', hsent.trans hq, hh, hsuf, hend⟩
    · rw [hq] at hq'
      obtain rfl := Option.some.inj hq'
      exact ⟨_, ms', hsent, ⟨hh.write_le, hh.write_eq, hh.blk_eq⟩, hsuf, hend⟩

theorem Reaches.inv {c₀ : PTCPConnection} (hmax : C.tcpRecvBufMaxSize.toNat < 2 ^ 31)
    (harr : Arrives C fs e) (hrec : Receives C c₀ [] fs 0) (hq : QueueOk C ms e c₀)
    (h : Reaches C fs c₀ s) :
    ∃ taken popped ready rest n, Inv C fs ms e s taken popped ready rest n := by
  induction h with
  | refl =>
    refine ⟨[], [], [], fs, 0, hrec, rfl, rfl, rfl, rfl, ?_, ?_, hq⟩
    · intro idx hidx
      cases hidx
    · intro f _
      exact f.length_ge.trans_lt' (by omega)
  | tail _ hstep ih =>
    obtain ⟨taken, popped, ready, rest, n, hinv⟩ := ih
    cases hstep with
    | front res hres =>
      obtain ⟨taken', ready', rest', n', hinv', -⟩ := hinv.front hmax harr hres
      exact ⟨taken', popped, ready', rest', n', hinv'⟩
    | pop hidx =>
      obtain ⟨f, ready', -, -, hinv'⟩ := hinv.pop hmax hidx
      exact ⟨taken, popped ++ [f], ready', rest, n, hinv'⟩
    | sendHB now rs res => exact ⟨taken, popped, ready, rest, n, hinv.sendHB now rs res⟩

/-- Complete frames of the stream are among those taken from it. -/
lemma Inv.prefix_taken (h : Inv C fs ms e s taken popped ready rest n) {done more : List Frame}
    (hfs : fs = done ++ more) (hlen : lens done ≤ s.read) : done <+: taken := by
  have hfs' := h.stream_eq
  have hread := h.read_eq
  have hpre : done <+: taken ++ rest := ⟨more, by rw [← hfs', hfs]⟩
  rcases List.prefix_or_prefix_of_prefix hpre (List.prefix_append taken rest) with hp | hp
  · exact hp
  · obtain ⟨extra, rfl⟩ := hp
    cases extra with
    | nil => simp
    | cons f extra =>
      exfalso
      obtain ⟨t, ht⟩ := hpre
      have hrest : rest = f :: extra ++ t := by
        rw [List.append_assoc] at ht
        exact (List.append_cancel_left ht).symm
      have := h.lt_length f (by rw [hrest]; rfl)
      simp only [lens_append, lens_cons] at hlen
      omega

lemma Inv.getElem?_apps (h : Inv C fs ms e s taken popped ready rest n) {f : Frame}
    {ready' : List Frame} (hready : ready = f :: ready') (hf : f.isHeartbeat = false) :
    (apps fs)[s.popped.length]? = some f := by
  have hlen : s.popped.length = popped.length := by rw [h.popped_eq, List.length_map]
  rw [h.stream_eq, apps_append, h.apps_eq, hready, hlen, List.append_assoc]
  simp [apps, hf]

/-- However a stream is cut into reads, the user pops its messages in order: `Front` always returns,
the message it returns is the next one of the stream, with its header in host order and its body
unchanged, it returns null only when every message received in full was popped, and no data closes
the connection. The acks keep the local queue well-formed. -/
theorem Reaches.receives_stream {c₀ : PTCPConnection} {sockFd : Int} {ack : UInt32} {now : Int}
    {rs : List SendResult} {q : PTCPQueue} (hmax : C.tcpRecvBufMaxSize.toNat < 2 ^ 31)
    (hsize : c₀.recvbufSize.toNat ≤ C.tcpRecvBufMaxSize.toNat)
    (hq : (c₀.open C sockFd ack now rs).1.q = some q)
    (hholds : q.Holds C.tcpQueueSize C.endian ms) (harr : Arrives C fs (q.endSeq ms))
    (h : Reaches C fs (c₀.open C sockFd ack now rs).1 s) :
    s.popped <+: (apps fs).map view ∧
    (∀ idx ∈ s.fronted, (apps fs)[s.popped.length]?.map view = some (s.c.msgAt C idx)) ∧
    (∀ res, s.CanRead C fs res →
      let r := s.c.front C res
      r.2 ≠ .hangs ∧
      (∀ idx, r.2 = .header idx →
        (apps fs)[s.popped.length]?.map view = some (r.1.msgAt C idx)) ∧
      (r.2 = .null → ∀ done more, fs = done ++ more →
        lens done ≤ s.read + (s.c.frontRead C res).length →
        (apps done).length ≤ s.popped.length) ∧
      (s.c.frontRead C res ≠ [] → 0 ≤ r.1.sockfd)) ∧
    ∃ q' ms', s.c.q = some q' ∧ q'.Holds C.tcpQueueSize C.endian ms' ∧ ms' <:+ ms := by
  obtain ⟨taken, popped, ready, rest, n, hinv⟩ := h.inv hmax harr
    (receives_open c₀ hsize sockFd ack now rs fs) ⟨q, ms, hq, hholds, List.suffix_rfl, rfl⟩
  refine ⟨?_, ?_, ?_, ?_⟩
  · rw [hinv.popped_eq, hinv.stream_eq, apps_append, hinv.apps_eq, List.append_assoc,
      List.map_append]
    exact List.prefix_append _ _
  · intro idx hidx
    obtain ⟨rfl, hne, happ⟩ := hinv.fronted idx hidx
    obtain ⟨f, ready', rfl⟩ := List.exists_cons_of_ne_nil hne
    rw [hinv.getElem?_apps rfl (happ f rfl)]
    exact congrArg some hinv.receives.contents.msgAt_read.symm
  · intro res hres
    obtain ⟨taken', ready', rest', n', hinv', hresult, hopen⟩ := hinv.front hmax harr hres
    refine ⟨?_, ?_, ?_, fun hne => not_lt.mp (hopen hne)⟩
    · rcases hresult with ⟨hr, -⟩ | ⟨hr, -⟩ <;> rw [hr] <;> exact FrontResult.noConfusion
    · intro idx hidx
      rcases hresult with ⟨hr, hne, happ⟩ | ⟨hr, -⟩
      · obtain rfl := FrontResult.header.inj (hr.symm.trans hidx)
        obtain ⟨f, ready'', rfl⟩ := List.exists_cons_of_ne_nil hne
        rw [show (apps fs)[s.popped.length]? = some f from hinv'.getElem?_apps rfl (happ f rfl)]
        exact congrArg some hinv'.receives.contents.msgAt_read.symm
      · rw [hr] at hidx
        cases hidx
    · intro hnull done more hfs hlen
      rcases hresult with ⟨hr, -⟩ | ⟨-, hnil⟩
      · rw [hr] at hnull
        cases hnull
      · have hpre := hinv'.prefix_taken hfs hlen
        have happs := hinv'.apps_eq
        have hpopped : s.popped = popped.map view := hinv.popped_eq
        rw [hnil] at happs
        rw [hpopped, List.length_map]
        have : apps taken' = popped := by simpa [apps] using happs
        rw [← this]
        exact (hpre.filter _).length_le
  · obtain ⟨q', ms', hq', hh, hsuf, -⟩ := hinv.queue
    exact ⟨q', ms', hq', hh, hsuf⟩

/-- A host that converts, with a buffer of 16 bytes, and a stream of a heartbeat and a message of
nine bytes; the reads end in the middle of a header and of a body. -/
def smallConf : Conf := .tiny ⟨true, false⟩

def smallStream : List Frame :=
  [⟨⟨8, 0, 0⟩, [], by decide, rfl, fun _ => rfl⟩,
    ⟨⟨9, 5, 0⟩, [1, 0, 0, 0, 0, 0, 0, 0], by decide, rfl, by decide⟩]

def smallOpen : PTCPConnection :=
  (PTCPConnection.open smallConf
    ((PTCPConnection.new smallConf).openFile (.init fun _ => default)) 3 0 0 []).1

def smallRun : Listening :=
  let bs := wires smallConf smallStream
  let s := (init smallOpen).front smallConf (.data (bs.take 11))
  let s := (s.front smallConf (.data ((bs.drop 11).take 7))).front smallConf (.data (bs.drop 18))
  s.pop smallConf 0

lemma reaches_smallRun : Reaches smallConf smallStream smallOpen smallRun := by
  refine .tail (.tail (.tail (.single (.front _ ?_)) (.front _ ?_)) (.front _ ?_)) (.pop ?_)
  all_goals decide +kernel

/-- The message is popped as it was sent. -/
theorem Reaches.receives_stream_small :
    smallRun.popped = [(⟨9, 5, 0⟩, [1, 0, 0, 0, 0, 0, 0, 0])] ∧
      smallRun.popped <+: (apps smallStream).map view := by
  have hq : smallOpen.q = some (.init fun _ => default) := rfl
  have hholds : (PTCPQueue.init fun _ => default).Holds smallConf.tcpQueueSize smallConf.endian [] :=
    ⟨Nat.zero_le _, rfl, rfl⟩
  have harr : Arrives smallConf smallStream 0 := by
    constructor <;> decide
  exact ⟨by decide +kernel, (Reaches.receives_stream (by decide) (by decide) hq hholds harr
    reaches_smallRun).1⟩

end Listening

end PTCPConnection

end Tcpshm
