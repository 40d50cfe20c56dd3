import Tcpshm.Link.Steps

/-!
# One direction of a link

The sender keeps the stream going as long as its connection is the one the receiver reads from.
-/

namespace Tcpshm

open PTCPConnection

lemma wires_congr {CX CY : Conf} (h : CX.endian.toLittle = CY.endian.toLittle) :
    wires CX = wires CY := by
  funext fs
  unfold wires Frame.wire
  rw [h]

namespace PTCPConnection

/-- What comes later in the stream does not matter to the buffer. -/
lemma Receives.extend {C : Conf} {c : PTCPConnection} {ready rest : List Frame} {n : Nat}
    (h : Receives C c ready rest n) (more : List Frame) : Receives C c ready (rest ++ more) n := by
  obtain ⟨hb, hc, hlt⟩ := h
  have hn := hc.n_le
  cases rest with
  | nil =>
    obtain rfl : n = 0 := Nat.le_zero.mp hn
    refine ⟨hb, ⟨hc.next_eq, hc.write_eq, hc.ready_eq, rfl, Nat.zero_le _⟩, fun _ f _ => ?_⟩
    exact f.length_ge.trans_lt' (by omega)
  | cons f rest =>
    refine ⟨hb, ⟨hc.next_eq, hc.write_eq, hc.ready_eq, ?_, ?_⟩, hlt⟩
    · have hmixed : ∀ conv, mixed C conv (f :: rest ++ more) =
          mixed C conv (f :: rest) ++ wires C more := by
        intro conv
        simp [mixed]
      rw [hc.rest_eq, hmixed, List.take_append_of_le_length (by rwa [length_mixed])]
    · rw [lens_append]
      omega

end PTCPConnection

variable {C CX CY : Conf} {X X' Y Y' : Peer} {inc : List UInt8} {ex : Exchanged}
  {f g r k n : Nat} {pushed pushed' : List AppMsg} {chan chan' : List UInt8}
  {ready rest : List Frame} {joined joined' : Bool}

lemma Receiving.length_popped_le (h : Receiving CX CY pushed Y ready rest n) :
    Y.popped.length ≤ pushed.length := by
  have := congrArg List.length h.popped_eq
  rw [List.length_map, List.length_take] at this
  omega

lemma Receiving.extend (h : Receiving CX CY pushed Y ready rest n) (hpushed : pushed <+: pushed')
    (more : List Frame) : Receiving CX CY pushed' Y ready (rest ++ more) n := by
  refine ⟨h.receives.extend more, h.fronted, ?_⟩
  obtain ⟨l, rfl⟩ := hpushed
  rw [List.take_append_of_le_length h.length_popped_le]
  exact h.popped_eq

/-- `X` sends; when it is joined and open, its queue is going to send the rest of the stream. -/
structure Sending (C : Conf) (X : Peer) (f r g : Nat) (joined : Bool) (chan : List UInt8)
    (ready rest : List Frame) (n : Nat) : Prop where
  stream : Stream C X.pushed X.popped.length r g chan ready rest n
  outgoing : joined = true → 0 ≤ X.conn.sockfd →
    ∃ sent, Outgoing C X.queue X.pushed f r chan ready rest n sent

/-- Without a connection the sender can go on and bytes can get lost. -/
lemma Sending.lose {Z : Peer} (h : Sending C X f r g joined chan ready rest n)
    (hpushed : X.pushed <+: Z.pushed) (hpopped : X.popped.length ≤ Z.popped.length)
    (hchan : chan' <+: chan) (f' : Nat) : Sending C Z f' r g false chan' ready rest n :=
  ⟨h.stream.mono hpushed hpopped hchan, fun hj => absurd hj (by simp)⟩

lemma Sending.consume {j n' : Nat} {bs : List UInt8} {ready' rest' : List Frame} {g' : Nat}
    (h : Sending C X f r g joined chan ready rest n) (hbs : bs <+: chan)
    (hc : Consumed ready rest n bs j ready' rest' n')
    (hg : ackAll g' (frameAcks rest') = ackAll g (frameAcks rest)) :
    Sending C X f (r + j) g' joined (chan.drop bs.length) ready' rest' n' :=
  ⟨h.stream.consume hbs hc hg, fun hj hopen =>
    let ⟨sent, ho⟩ := h.outgoing hj hopen
    ⟨sent, ho.consume hbs hc⟩⟩

/-- Nobody has popped what was not sent, and acks speak of popped messages. -/
lemma Sending.ack_le (h : Sending C X f r g joined chan ready rest n) : g ≤ X.popped.length :=
  (le_ackAll g _).trans h.stream.acks_le

namespace Peer

/-- What a step does to the direction it sends in. -/
theorem Step.sending (h : Step C inc X ex X') (hc : Counts C X f)
    (hstays : 0 ≤ X'.conn.sockfd → 0 ≤ X.conn.sockfd)
    (hwin : X.popped.length < g + 2 ^ 31) (hr : r ≤ X.pushed.length) (hacks : ackAll f ex.acks ≤ r)
    (hs : Sending C X f r g joined chan ready rest n) :
    ∃ more, (joined = false → more = []) ∧
      Sending C X' (ackAll f ex.acks) r g joined (if joined then chan ++ ex.sent else chan) ready
        (rest ++ more) n := by
  obtain ⟨hpushed, hpopped⟩ := h.grows
  have hquiet : ∀ {joined' : Bool}, (joined' = true → ¬ 0 ≤ X'.conn.sockfd) →
      Sending C X' (ackAll f ex.acks) r g joined' chan ready (rest ++ []) n := by
    intro joined' hclosed
    rw [List.append_nil]
    exact ⟨hs.stream.mono hpushed hpopped List.prefix_rfl,
      fun hj hopen => absurd hopen (hclosed hj)⟩
  cases joined with
  | false =>
    exact ⟨[], fun _ => rfl, hquiet (by simp)⟩
  | true =>
    rw [if_pos rfl]
    by_cases hopen : 0 ≤ X.conn.sockfd
    · obtain ⟨sent, ho⟩ := hs.outgoing rfl hopen
      obtain ⟨more, hstream, hout⟩ := h.sends hc hwin hr hs.stream ho hacks
      exact ⟨more, by simp, hstream, fun _ => hout⟩
    · rw [h.sent_eq_nil (not_le.mp hopen), List.append_nil]
      exact ⟨[], by simp, hquiet fun _ hopen' => hopen (hstays hopen')⟩

end Peer

/-! ### Sender and receiver -/

/-- What `X` sends to `Y`. -/
structure Toward (CX CY : Conf) (X Y : Peer) (fX fY : Nat) (joined : Bool) (chan : List UInt8)
    (ready rest : List Frame) (n : Nat) : Prop where
  receiving : Receiving CX CY X.pushed Y ready rest n
  sending : Sending CX X fX Y.popped.length fY joined chan ready rest n

namespace Toward

variable {fX fY : Nat}

lemma lose (h : Toward CX CY X Y fX fY joined chan ready rest n) (hchan : chan' <+: chan) :
    Toward CX CY X Y fX fY false chan' ready rest n :=
  ⟨h.receiving, h.sending.lose List.prefix_rfl le_rfl hchan fX⟩

/-- A sender that restarts loses its connection and keeps its messages. -/
lemma crash_sender (h : Toward CX CY X Y fX fY joined chan ready rest n) (hchan : chan' <+: chan) :
    Toward CX CY (X.crash CX) Y fX fY false chan' ready rest n := by
  refine ⟨h.receiving, h.sending.lose ?_ ?_ hchan fX⟩
  · exact List.prefix_rfl
  · exact le_rfl

/-- With an empty buffer and nothing on the way, anything can come next. -/
lemma of_empty (h : Toward CX CY X Y fX fY joined chan ready rest n) (Y' : Peer)
    (hY : Y'.popped = Y.popped) (hfront : Y'.fronted = none) (hrec : Receives CY Y'.conn [] [] 0)
    {fX' fY' : Nat} (hacked : fY' ≤ X.popped.length) :
    Toward CX CY X Y' fX' fY' false [] [] [] 0 := by
  refine ⟨⟨hrec, ?_, ?_⟩, ⟨⟨le_rfl, List.nil_prefix, List.nil_prefix, hacked, ?_⟩, ?_⟩⟩
  · intro idx hidx
    rw [hfront] at hidx
    cases hidx
  · rw [hY]
    exact h.receiving.popped_eq
  · intro a ha
    cases ha
  · exact fun hj => absurd hj (by simp)

/-- A receiver that restarts loses what it has not popped. -/
lemma crash_receiver (h : Toward CX CY X Y fX fY joined chan ready rest n) :
    Toward CX CY X (Y.crash CY) fX fY false [] [] [] 0 :=
  h.of_empty (Y.crash CY) rfl rfl (receives_of_zero rfl rfl rfl (Nat.zero_le _) [])
    h.sending.ack_le

end Toward

/-- How far a step takes the stream the process receives. -/
structure Advanced (Y Y' : Peer) (fY fY' : Nat) (ready rest ready' rest' : List Frame) : Prop where
  suffix : rest' <:+ rest
  acks_eq : ackAll fY' (frameAcks rest') = ackAll fY (frameAcks rest)
  count_eq : Y'.popped.length + (apps (ready' ++ rest')).length =
    Y.popped.length + (apps (ready ++ rest)).length
  apps_ready : apps ready = [] → rest = [] → apps ready' = [] ∧ Y'.popped.length = Y.popped.length
  pushed : Y.pushed <+: Y'.pushed
  popped : Y.popped.length ≤ Y'.popped.length
  stays : 0 ≤ Y'.conn.sockfd → 0 ≤ Y.conn.sockfd

/-- What a step of `Y` does to both directions. -/
theorem Peer.Step.link {fX fY m : Nat} {ready₂ rest₂ : List Frame} {chan₂ : List UInt8}
    (horder : CX.endian.toLittle = CY.endian.toLittle)
    (hmax : CY.tcpRecvBufMaxSize.toNat < 2 ^ 31) (h : Step CY chan Y ex Y')
    (hX : Counts CX X fX) (hY : Counts CY Y fY)
    (hin : Toward CX CY X Y fX fY joined chan ready rest n)
    (hout : Toward CY CX Y X fY fX joined' chan₂ ready₂ rest₂ m) :
    ∃ ready' rest' n' more fY', fY' = ackAll fY ex.acks ∧ Counts CY Y' fY' ∧
      Toward CX CY X Y' fX fY' joined (chan.drop ex.read.length) ready' rest' n' ∧
      (joined' = false → more = []) ∧
      Toward CY CX Y' X fY' fX joined' (if joined' then chan₂ ++ ex.sent else chan₂) ready₂
        (rest₂ ++ more) m ∧
      Advanced Y Y' fY fY' ready rest ready' rest' := by
  have hstream := hin.sending.stream
  have hacks : ackAll fY (frameAcks rest) ≤ X.popped.length := hstream.acks_le
  have hXpopped := hout.receiving.length_popped_le
  have hYpopped := hin.receiving.length_popped_le
  have hXlt := hX.stores.stored_lt
  rw [Peer.length_msgs] at hXlt
  obtain ⟨hread, j, ready', rest', n', hrec⟩ := h.receives hmax hY hin.receiving
    (by rw [← wires_congr horder]; exact hstream.chan_begins) hstream.apps_begins
    (hacks.trans hXpopped)
  have hfY' : ackAll fY ex.acks ≤ X.popped.length := by
    have := le_ackAll (ackAll fY ex.acks) (frameAcks rest')
    rw [hrec.acks_eq] at this
    omega
  obtain ⟨more, hmore, hsend⟩ := h.sending hY (fun hopen => by
    rcases hrec.sockfd with hs | hs <;> omega) (by omega) hXpopped hfY' hout.sending
  obtain ⟨hpushed, hpopped⟩ := h.grows
  obtain ⟨done, hdone, hlen⟩ := hrec.consumed.rest_eq
  have hcount := congrArg List.length hrec.consumed.apps_eq
  rw [List.length_drop] at hcount
  have hready := hrec.le_ready
  refine ⟨ready', rest', n', more, _, rfl, hrec.counts, ⟨hrec.receiving, ?_⟩, hmore,
    ⟨hout.receiving.extend hpushed more, hsend⟩, ⟨⟨done, hdone.symm⟩, hrec.acks_eq, ?_, ?_, hpushed,
      hpopped, fun hopen => by rcases hrec.sockfd with hs | hs <;> omega⟩⟩
  · rw [hrec.length_popped]
    exact hin.sending.consume hread hrec.consumed hrec.acks_eq
  · have hle : (apps ready).length ≤ (apps (ready ++ rest)).length := by
      rw [apps_append, List.length_append]
      exact Nat.le_add_right _ _
    rw [hrec.length_popped]
    omega
  · rintro hnil rfl
    rw [hnil] at hready
    have hj : j = 0 := by simpa using hready
    have := hrec.consumed.apps_eq
    rw [apps_append, apps_append, hnil, hj] at this
    refine ⟨(List.append_eq_nil_iff.mp this).1, ?_⟩
    rw [hrec.length_popped, hj, Nat.add_zero]

end Tcpshm
