import Tcpshm.Link.Peer

/-!
# From one side to the other

What a receiver is going to see is a stream of frames: those in its buffer, and those whose bytes
are on the way or still in the sender's queue. Sending makes the stream longer at its end, receiving
takes frames from its front, and neither changes what lies in between.
-/

namespace Tcpshm

open PTCPConnection

/-! ### The end of a stream -/

/-- The messages at the end, after the last heartbeat. -/
def appTail (fs : List Frame) : List Frame := fs.rtakeWhile fun f => !f.isHeartbeat

section

variable {fs fs' : List Frame} {f : Frame}

@[simp] lemma appTail_nil : appTail [] = [] := rfl

lemma appTail_concat_app (h : f.isHeartbeat = false) : appTail (fs ++ [f]) = appTail fs ++ [f] :=
  List.rtakeWhile_concat_pos _ _ _ (by simp [h])

lemma lens_le_of_sublist (h : fs.Sublist fs') : lens fs ≤ lens fs' :=
  (h.map _).sum_le_sum fun _ _ => Nat.zero_le _

lemma apps_appTail (fs : List Frame) : apps (appTail fs) = appTail fs :=
  List.filter_eq_self.mpr fun f hf => by
    have := List.mem_rtakeWhile_imp hf
    exact this

lemma lens_appTail_le (fs : List Frame) : lens (appTail fs) ≤ lens (apps fs) := by
  rw [← apps_appTail]
  exact lens_le_of_sublist ((List.rtakeWhile_suffix _ _).sublist.filter _)

/-- The end of a stream does not depend on what was taken from its front. -/
lemma le_lens_appTail {x : Nat} (h : x ≤ lens (appTail (fs ++ fs'))) (h' : x ≤ lens fs') :
    x ≤ lens (appTail fs') := by
  have hsplit : appTail (fs ++ fs') = if (appTail fs').length = fs'.length then
      appTail fs ++ fs' else appTail fs' := by
    simp only [appTail, List.rtakeWhile, List.reverse_append, List.takeWhile_append,
      List.length_reverse]
    split_ifs <;> simp
  split_ifs at hsplit with hall
  · have : appTail fs' = fs' := (List.rtakeWhile_suffix _ _).eq_of_length hall
    rwa [this]
  · rwa [hsplit] at h

end

/-! ### Streams -/

/-- A receiver that has popped `r` messages, and whose queue has `g` acknowledged ones, holds the
frames `ready` and `n` bytes of the stream `rest`; `chan` is on the way. The sender has pushed the
messages `pushed` and popped `k`. -/
structure Stream (C : Conf) (pushed : List AppMsg) (k r g : Nat) (chan : List UInt8)
    (ready rest : List Frame) (n : Nat) : Prop where
  n_le : n ≤ lens rest
  chan_begins : chan <+: (wires C rest).drop n
  apps_begins : apps (ready ++ rest) <+: (pushed.drop r).map (AppMsg.frame C)
  acks_le : ackAll g (frameAcks rest) ≤ k
  acks_counted : ∀ a ∈ frameAcks rest, ∃ j ≤ k, a = UInt32.ofNat j

/-- The sender's queue, with `f` acknowledged messages and `sent` blocks sent, is going to send the
rest of the stream. -/
structure Outgoing (C : Conf) (q : PTCPQueue) (pushed : List AppMsg) (f r : Nat)
    (chan : List UInt8) (ready rest : List Frame) (n sent : Nat) : Prop where
  represents : q.Represents C.tcpQueueSize C.endian
    ⟨UInt32.ofNat f, (pushed.map AppMsg.toMsg).drop f, sent⟩
  bytes_eq : chan ++ memBytes C ((storedAll C.endian ((pushed.map AppMsg.toMsg).drop f)).drop sent) =
    (wires C rest).drop n
  apps_eq : apps (ready ++ rest) = (pushed.drop r).map (AppMsg.frame C)
  unsent_le : 8 * (blkCnts ((pushed.map AppMsg.toMsg).drop f) - sent) ≤ lens (appTail rest)

variable {C : Conf} {pushed pushed' : List AppMsg} {k k' r g f : Nat} {chan chan' : List UInt8}
  {ready rest ready' rest' : List Frame} {n n' sent : Nat} {q : PTCPQueue}

/-- What is on the way can get lost from its end on, and the sender can go on without sending. -/
lemma Stream.mono (h : Stream C pushed k r g chan ready rest n) (hpushed : pushed <+: pushed')
    (hk : k ≤ k') (hchan : chan' <+: chan) : Stream C pushed' k' r g chan' ready rest n where
  n_le := h.n_le
  chan_begins := hchan.trans h.chan_begins
  apps_begins := h.apps_begins.trans ((hpushed.drop r).map _)
  acks_le := h.acks_le.trans hk
  acks_counted := fun a ha =>
    let ⟨j, hj, heq⟩ := h.acks_counted a ha
    ⟨j, hj.trans hk, heq⟩

lemma ackAll_current {as : List UInt32} (hle : g ≤ k) (hk : k < g + 2 ^ 31)
    (has : ∀ a ∈ as, a = UInt32.ofNat k) : ackAll g as ≤ k := by
  induction as generalizing g with
  | nil => exact hle
  | cons a as ih =>
    obtain rfl := has a (List.mem_cons_self ..)
    rw [ackAll_cons, ackTo_ofNat hle hk]
    exact ih le_rfl (by omega) fun a ha => has a (List.mem_cons_of_mem _ ha)

/-- The sender appends frames, with its current ack. -/
lemma Stream.append (h : Stream C pushed k r g chan ready rest n) {more : List Frame}
    (hk : k < g + 2 ^ 31) (hchan : chan' <+: (wires C (rest ++ more)).drop n)
    (happs : apps (ready ++ (rest ++ more)) <+: (pushed'.drop r).map (AppMsg.frame C))
    (hacks : ∀ f ∈ more, f.header.ackSeq = UInt32.ofNat k) :
    Stream C pushed' k r g chan' ready (rest ++ more) n where
  n_le := h.n_le.trans (by rw [lens_append]; exact Nat.le_add_right _ _)
  chan_begins := hchan
  apps_begins := happs
  acks_le := by
    have := le_ackAll g (frameAcks rest)
    rw [frameAcks_append, ackAll_append]
    refine ackAll_current h.acks_le (by omega) fun a ha => ?_
    obtain ⟨f, hf, rfl⟩ := List.mem_map.mp ha
    exact hacks f hf
  acks_counted := by
    intro a ha
    rw [frameAcks_append] at ha
    rcases List.mem_append.mp ha with ha | ha
    · exact h.acks_counted a ha
    · obtain ⟨f, hf, rfl⟩ := List.mem_map.mp ha
      exact ⟨k, le_rfl, hacks f hf⟩

lemma Outgoing.chan_begins (h : Outgoing C q pushed f r chan ready rest n sent) :
    chan <+: (wires C rest).drop n := ⟨_, h.bytes_eq⟩

/-! ### Receiving -/

/-- The receiver takes `bs` from the socket, completes frames with it, and pops `j` messages. -/
structure Consumed (ready rest : List Frame) (n : Nat) (bs : List UInt8) (j : Nat)
    (ready' rest' : List Frame) (n' : Nat) : Prop where
  rest_eq : ∃ done, rest = done ++ rest' ∧ n + bs.length = lens done + n'
  apps_eq : apps (ready' ++ rest') = (apps (ready ++ rest)).drop j

variable {bs : List UInt8} {j g' : Nat}

lemma Consumed.drop_wires (h : Consumed ready rest n bs j ready' rest' n') :
    ((wires C rest).drop n).drop bs.length = (wires C rest').drop n' := by
  obtain ⟨⟨done, rfl, hlen⟩, -⟩ := h
  rw [List.drop_drop, hlen, wires_append, List.drop_append, length_wires,
    List.drop_of_length_le (by simp), Nat.add_sub_cancel_left, List.nil_append]

lemma Stream.consume (h : Stream C pushed k r g chan ready rest n) (hbs : bs <+: chan)
    (hc : Consumed ready rest n bs j ready' rest' n')
    (hg : ackAll g' (frameAcks rest') = ackAll g (frameAcks rest)) :
    Stream C pushed k (r + j) g' (chan.drop bs.length) ready' rest' n' where
  n_le := by
    obtain ⟨done, rfl, hlen⟩ := hc.rest_eq
    have h₁ := hbs.length_le
    have h₂ := h.chan_begins.length_le
    have h₃ := h.n_le
    rw [List.length_drop, length_wires] at h₂
    rw [lens_append] at h₂ h₃
    omega
  chan_begins := hc.drop_wires (C := C) ▸ h.chan_begins.drop _
  apps_begins := by
    rw [hc.apps_eq, ← List.drop_drop, List.map_drop]
    exact h.apps_begins.drop j
  acks_le := hg ▸ h.acks_le
  acks_counted := by
    obtain ⟨done, rfl, -⟩ := hc.rest_eq
    intro a ha
    exact h.acks_counted a (by rw [frameAcks_append]; exact List.mem_append_right _ ha)

lemma Outgoing.consume (h : Outgoing C q pushed f r chan ready rest n sent) (hbs : bs <+: chan)
    (hc : Consumed ready rest n bs j ready' rest' n') :
    Outgoing C q pushed f (r + j) (chan.drop bs.length) ready' rest' n' sent where
  represents := h.represents
  bytes_eq := by
    rw [← hc.drop_wires (C := C), ← h.bytes_eq, List.drop_append_of_le_length hbs.length_le]
  apps_eq := by
    rw [hc.apps_eq, h.apps_eq, ← List.drop_drop, List.map_drop, List.map_drop, List.map_drop]
  unsent_le := by
    obtain ⟨done, hrest, hlen⟩ := hc.rest_eq
    have hbytes := congrArg List.length h.bytes_eq
    have hle := hbs.length_le
    have hun := h.unsent_le
    subst hrest
    refine le_lens_appTail hun ?_
    simp only [List.length_append, length_memBytes, List.length_drop, length_storedAll,
      length_wires, lens_append] at hbytes
    omega

/-! ### Sending -/

/-- What the receiver has popped was sent. -/
lemma Outgoing.sent_of_popped (h : Outgoing C q pushed f r chan ready rest n sent) (hf : f ≤ r) :
    blkCnts (((pushed.map AppMsg.toMsg).drop f).take (r - f)) ≤ sent := by
  have hsplit := blkCnts_take_add_drop ((pushed.map AppMsg.toMsg).drop f) (r - f)
  have hlater : lens (apps rest) ≤ 8 * blkCnts (((pushed.map AppMsg.toMsg).drop f).drop (r - f)) := by
    rw [List.drop_drop, show f + (r - f) = r by omega, ← List.map_drop, ← lens_frames (C := C),
      ← h.apps_eq, apps_append, lens_append]
    exact Nat.le_add_left _ _
  have := h.unsent_le
  have := lens_appTail_le rest
  have := h.represents.sent_le
  simp only at this
  omega

/-- Acks of popped messages do not change what remains to be sent. -/
lemma Outgoing.acks (h : Outgoing C q pushed f r chan ready rest n sent) {as : List UInt32}
    (hle : ackAll f as ≤ r) (hr : r ≤ pushed.length) :
    ∃ sent', Outgoing C (applyAcks C q as) pushed (ackAll f as) r chan ready rest n sent' := by
  have hf := le_ackAll f as
  have hsent := h.sent_of_popped (hf.trans hle)
  have htake : blkCnts (((pushed.map AppMsg.toMsg).drop f).take (ackAll f as - f)) ≤
      blkCnts (((pushed.map AppMsg.toMsg).drop f).take (r - f)) := by
    rw [show r - f = (ackAll f as - f) + (r - ackAll f as) by omega, List.take_add, blkCnts_append]
    exact Nat.le_add_right _ _
  obtain ⟨sent', hr', hblk, hdrop⟩ := represents_applyAcks h.represents
    (by rw [List.length_map]; omega) (htake.trans hsent)
  exact ⟨sent', hr', by rw [hdrop]; exact h.bytes_eq, h.apps_eq, by rw [hblk]; exact h.unsent_le⟩

/-- Popping changes only the ack number. -/
lemma Outgoing.incMyAck (h : Outgoing C q pushed f r chan ready rest n sent) :
    Outgoing C q.incMyAck pushed f r chan ready rest n sent where
  represents :=
    let hr := h.represents
    ⟨⟨hr.write_le, hr.write_eq, hr.blk_eq⟩, hr.first_eq, hr.send_eq, hr.sent_le⟩
  bytes_eq := h.bytes_eq
  apps_eq := h.apps_eq
  unsent_le := h.unsent_le

lemma Outgoing.alloc (h : Outgoing C q pushed f r chan ready rest n sent) (size : UInt16) :
    Outgoing C (q.alloc C.tcpQueueSize size).1 pushed f r chan ready rest n sent :=
  ⟨h.represents.alloc size, h.bytes_eq, h.apps_eq, h.unsent_le⟩

/-- What the user writes behind the stored messages is not sent. -/
lemma Outgoing.fill (h : Outgoing C q pushed f r chan ready rest n sent) (msgType : UInt16)
    (body : List MsgHeader) :
    Outgoing C (q.fill q.writeIdx.toNat msgType body) pushed f r chan ready rest n sent :=
  let hr := h.represents
  ⟨⟨hr.toHolds.fill msgType body, hr.first_eq, hr.send_eq, hr.sent_le⟩, h.bytes_eq, h.apps_eq,
    h.unsent_le⟩

/-- A pushed message is the next frame of the stream. -/
lemma Outgoing.push (h : Outgoing C q pushed f r chan ready rest n sent) (hf : f ≤ pushed.length)
    (hr : r ≤ pushed.length) (hn : n ≤ lens rest) {size msgType : UInt16} {body : List MsgHeader}
    {p : Nat} (hp : (q.alloc C.tcpQueueSize size).2 = some p) (hsize : size.toNat + 8 ≤ 65535)
    (hmsgType : msgType ≠ 0) (hbody : body.length + 1 = (blkSz (size + 8)).toNat) :
    let m := q.appMsg hsize hmsgType hbody
    Outgoing C (((q.alloc C.tcpQueueSize size).1.fill p msgType body).push C.endian)
      (pushed ++ [m]) f r chan ready (rest ++ [m.frame C]) n sent := by
  intro m
  have hdrop : ((pushed ++ [m]).map AppMsg.toMsg).drop f =
      (pushed.map AppMsg.toMsg).drop f ++ [m.toMsg] := by
    rw [List.map_append, List.drop_append_of_le_length (by rwa [List.length_map])]
    rfl
  have hle := h.represents.sent_le
  simp only at hle
  have hrep := h.represents.alloc_fill_push hp msgType hbody
  have hbytes := h.bytes_eq
  refine ⟨?_, ?_, ?_, ?_⟩
  · rw [hdrop]
    exact hrep
  · rw [hdrop, storedAll_append, List.drop_append_of_le_length (by rwa [length_storedAll]),
      memBytes_append, ← List.append_assoc, hbytes, wires_append,
      List.drop_append_of_le_length (by rwa [length_wires])]
    congr 1
    show memBytes C (m.stored C.endian ++ []) = _
    rw [List.append_nil, m.memBytes_stored]
    simp
  · rw [← List.append_assoc, apps_append, h.apps_eq, List.drop_append_of_le_length hr,
      List.map_append]
    congr 1
    exact apps_frames [m]
  · have := h.unsent_le
    rw [hdrop, blkCnts_append, appTail_concat_app m.isHeartbeat_frame, lens_append, lens_cons,
      m.length_frame]
    simp only [blkCnts_cons, blkCnts_nil, lens_nil]
    omega

/-- Blocks that are handed over are on the way. -/
lemma Outgoing.sendout (h : Outgoing C q pushed f r chan ready rest n sent) {i : Nat}
    (hi : i ≤ q.getSendable.2.toNat) :
    Outgoing C (q.sendout (UInt32.ofNat i)) pushed f r
      (chan ++ memBytes C (q.blk.slice q.sendIdx.toNat i)) ready rest n (sent + i) := by
  have hun := h.unsent_le
  have hsend := h.represents.getSendable
  have hlen := h.represents.toNat_sendable
  have hle := h.represents.sent_le
  have hlt := q.getSendable.2.toNat_lt
  simp only at hlen hle hsend
  have hi' : (UInt32.ofNat i).toNat = i := UInt32.toNat_ofNat_lt (by omega)
  have hslice : q.blk.slice q.sendIdx.toNat i =
      ((storedAll C.endian ((pushed.map AppMsg.toMsg).drop f)).drop sent).take i := by
    rw [← hsend, Mem.take_slice _ _ _ _ hi]
    rfl
  refine ⟨?_, ?_, h.apps_eq, by omega⟩
  · have := h.represents.sendout (n := UInt32.ofNat i) (by simp only [hi']; omega)
    rw [hi'] at this
    exact this
  · rw [hslice, List.append_assoc, ← memBytes_append, ← List.drop_drop, List.take_append_drop]
    exact h.bytes_eq

end Tcpshm
