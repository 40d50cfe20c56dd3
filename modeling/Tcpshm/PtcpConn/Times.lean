import Tcpshm.PtcpConn.Receive
import Tcpshm.PtcpConn.Send

/-!
# The times of a connection

When a connection notes that it has sent and that it has received something, and when it is closed
because nothing was received for too long.
-/

namespace Tcpshm

/-- The kernel takes something, or fails. -/
def SendResult.answers : SendResult → Bool
  | .sent n => n ≠ 0
  | .again => false
  | .error _ => true

namespace PTCPConnection

variable {C : Conf} {c c' c'' : PTCPConnection}

/-- The connection was closed in `DoRecv` after a timeout. -/
def TimedOut (c : PTCPConnection) : Prop := c.sockfd < 0 ∧ c.closeReason = "Timeout"

instance (c : PTCPConnection) : Decidable c.TimedOut := inferInstanceAs (Decidable (_ ∧ _))

/-- What holds after everything that is done to a connection between two openings. -/
structure Stays (c c' : PTCPConnection) : Prop where
  closed : c.sockfd < 0 → c'.sockfd < 0
  timedOut : c'.TimedOut → c.TimedOut

lemma Stays.refl (c : PTCPConnection) : Stays c c := ⟨id, id⟩

lemma Stays.trans (h : Stays c c') (h' : Stays c' c'') : Stays c c'' :=
  ⟨fun hc => h'.closed (h.closed hc), fun hc => h.timedOut (h'.timedOut hc)⟩

lemma Stays.of_eq (hsockfd : c'.sockfd = c.sockfd) (hreason : c'.closeReason = c.closeReason) :
    Stays c c' := by
  refine ⟨fun h => ?_, fun h => ?_⟩
  · rwa [hsockfd]
  · unfold TimedOut at h
    rwa [hsockfd, hreason] at h

lemma Stays.close (c : PTCPConnection) {reason : String} (hreason : reason ≠ "Timeout")
    (errno : Int) : Stays c (c.close reason errno) := by
  refine ⟨fun _ => sockfd_close_neg reason errno, fun h => ?_⟩
  unfold PTCPConnection.close at h
  split_ifs at h with hopen
  · exact h
  · exact absurd h.2 hreason

/-! ### Receiving -/

/-- Nothing was sent or received. -/
structure SameTimes (c c' : PTCPConnection) : Prop extends Stays c c' where
  now : c'.now = c.now
  sendTime : c'.sendTime = c.sendTime
  recvTime : c'.recvTime = c.recvTime

namespace SameTimes

lemma refl (c : PTCPConnection) : SameTimes c c := ⟨.refl c, rfl, rfl, rfl⟩

lemma trans (h : SameTimes c c') (h' : SameTimes c' c'') : SameTimes c c'' :=
  ⟨h.toStays.trans h'.toStays, h'.now.trans h.now, h'.sendTime.trans h.sendTime,
    h'.recvTime.trans h.recvTime⟩

lemma of_eq (hsockfd : c'.sockfd = c.sockfd) (hreason : c'.closeReason = c.closeReason)
    (hnow : c'.now = c.now) (hsend : c'.sendTime = c.sendTime) (hrecv : c'.recvTime = c.recvTime) :
    SameTimes c c' :=
  ⟨.of_eq hsockfd hreason, hnow, hsend, hrecv⟩

lemma close (c : PTCPConnection) {reason : String} (hreason : reason ≠ "Timeout") (errno : Int) :
    SameTimes c (c.close reason errno) := by
  refine ⟨.close c hreason errno, ?_, ?_, ?_⟩ <;>
  · unfold PTCPConnection.close
    split_ifs <;> rfl

lemma onQueue (c : PTCPConnection) (f : PTCPQueue → PTCPQueue) : SameTimes c (c.onQueue f) :=
  .of_eq rfl rfl rfl rfl rfl

lemma alloc (c : PTCPConnection) (size : UInt16) : SameTimes c (c.alloc C size).1 := by
  unfold PTCPConnection.alloc
  split
  · exact refl c
  · exact .of_eq rfl rfl rfl rfl rfl

lemma pop (c : PTCPConnection) : SameTimes c (c.pop C) := .of_eq rfl rfl rfl rfl rfl

lemma skipLoop (myAck : UInt32) (fuel : Nat) (c : PTCPConnection) :
    SameTimes c (c.skipLoop C myAck fuel).1 := by
  induction fuel generalizing c with
  | zero => exact refl c
  | succ fuel ih =>
    unfold PTCPConnection.skipLoop
    split_ifs
    · exact refl c
    · have hskip : SameTimes c { c with readidx := c.readidx + 8 } := .of_eq rfl rfl rfl rfl rfl
      exact hskip.trans (ih _)
    · exact refl c
    · exact .of_eq rfl rfl rfl rfl rfl

lemma convertNew (c : PTCPConnection) (oldWriteidx : UInt32) :
    SameTimes c (c.convertNew C oldWriteidx) := by
  unfold PTCPConnection.convertNew
  split_ifs
  · exact .of_eq rfl rfl rfl rfl rfl
  · exact refl c

lemma gotMsg (c : PTCPConnection) (header : MsgHeader) : SameTimes c (c.gotMsg header) :=
  .of_eq rfl rfl rfl rfl rfl

lemma parseLoop (oldWriteidx : UInt32) (fuel : Nat) (c : PTCPConnection) :
    SameTimes c (c.parseLoop C oldWriteidx fuel).1 := by
  induction fuel generalizing c with
  | zero => exact refl c
  | succ fuel ih =>
    have hconvert := convertNew (C := C) c oldWriteidx
    unfold PTCPConnection.parseLoop
    simp only
    split_ifs
    · exact hconvert.trans ((onQueue _ _).trans (close _ (by decide) _))
    · exact hconvert.trans (onQueue _ _)
    · exact hconvert.trans ((onQueue _ _).trans ((gotMsg _ _).trans (ih _)))
    · exact refl c

lemma frontParse (c : PTCPConnection) (len : UInt32) : SameTimes c (c.frontParse C len).1 := by
  have hwrite : SameTimes c { c with writeidx := c.writeidx + len } := .of_eq rfl rfl rfl rfl rfl
  have hparsed := hwrite.trans
    (parseLoop (C := C) c.writeidx ((c.writeidx + len).toNat / 8 + 1) _)
  unfold PTCPConnection.frontParse
  simp only
  split
  · exact hparsed
  · exact hparsed

lemma rewindBuf (c : PTCPConnection) : SameTimes c c.rewindBuf := by
  unfold PTCPConnection.rewindBuf
  split_ifs
  · exact .of_eq rfl rfl rfl rfl rfl
  · exact refl c

end SameTimes

/-- What was read is noted, and a timeout needs a socket on which there is nothing. -/
structure Receipt (C : Conf) (res : ReadResult) (bytes : List UInt8) (c c' : PTCPConnection) :
    Prop where
  now : c'.now = c.now
  sendTime : c'.sendTime = c.sendTime
  recvTime : c'.recvTime = c.now ∨ (c'.recvTime = c.recvTime ∧ bytes = [])
  closed : c.sockfd < 0 → c'.sockfd < 0
  timedOut : c'.TimedOut → c.TimedOut ∨
    (0 ≤ c.sockfd ∧ res = .again ∧ C.connectionTimeout < c.now - c.recvTime)

namespace Receipt

variable {res : ReadResult} {bytes : List UInt8}

lemma of_sameTimes (h : SameTimes c c') : Receipt C res [] c c' :=
  ⟨h.now, h.sendTime, Or.inr ⟨h.recvTime, rfl⟩, h.closed, fun ht => Or.inl (h.timedOut ht)⟩

lemma trans (h : Receipt C res bytes c c') (h' : SameTimes c' c'') : Receipt C res bytes c c'' := by
  refine ⟨h'.now.trans h.now, h'.sendTime.trans h.sendTime, ?_, fun hc => h'.closed (h.closed hc),
    fun ht => h.timedOut (h'.timedOut ht)⟩
  rw [h'.recvTime]
  exact h.recvTime

lemma after (h : SameTimes c c') (h' : Receipt C res bytes c' c'') : Receipt C res bytes c c'' := by
  obtain ⟨hnow, hsend, hrecv, hclosed, htimed⟩ := h'
  rw [h.now] at hnow hrecv htimed
  rw [h.recvTime] at hrecv htimed
  refine ⟨hnow, hsend.trans h.sendTime, hrecv, fun hc => hclosed (h.closed hc), fun ht => ?_⟩
  refine (htimed ht).imp h.timedOut fun ⟨hopen, hlate⟩ => ⟨?_, hlate⟩
  exact not_lt.mp fun hc => absurd (h.closed hc) (not_lt.mpr hopen)

lemma received (c : PTCPConnection) (bs : List UInt8) :
    Receipt C (.data bs) bs c (c.received C bs) := by
  have hsame : (c.received C bs).now = c.now ∧ (c.received C bs).sendTime = c.sendTime ∧
      (c.received C bs).recvTime = c.now ∧ (c.received C bs).sockfd = c.sockfd ∧
      (c.received C bs).closeReason = c.closeReason := by
    unfold PTCPConnection.received
    simp only
    split_ifs <;> exact ⟨rfl, rfl, rfl, rfl, rfl⟩
  obtain ⟨hnow, hsend, hrecv, hsockfd, hreason⟩ := hsame
  have hstays : Stays c (c.received C bs) := .of_eq hsockfd hreason
  exact ⟨hnow, hsend, Or.inl hrecv, hstays.closed, fun h => Or.inl (hstays.timedOut h)⟩

/-- `DoRecv` once it asks the kernel. -/
lemma doRecv (c : PTCPConnection) (res : ReadResult) :
    Receipt C res (c.recvRead C res) c (c.doRecv C res).1 := by
  have hrew := SameTimes.rewindBuf c
  unfold PTCPConnection.doRecv
  simp only
  by_cases hfull : c.rewindBuf.writable + c.rewindBuf.extraSize C = 0
  · rw [if_pos hfull]
    have hoffered : c.offered C = 0 := by rw [offered, hfull]; rfl
    have hread : c.recvRead C res = [] := by cases res <;> simp [recvRead, hoffered]
    rw [hread]
    exact of_sameTimes hrew
  rw [if_neg hfull]
  have hoffered : c.offered C ≠ 0 := fun h => hfull (UInt32.toNat_inj.mp h)
  cases res with
  | data bs =>
    have hread : c.recvRead C (.data bs) = bs := if_neg hoffered
    rw [hread]
    exact after hrew (received c.rewindBuf bs)
  | eof => exact of_sameTimes (hrew.trans (.close _ (by decide) _))
  | error errno => exact of_sameTimes (hrew.trans (.close _ (by decide) _))
  | again =>
    simp only
    split_ifs with htimeout
    · refine after hrew ?_
      unfold PTCPConnection.close
      split_ifs with hclosed
      · exact of_sameTimes (.refl _)
      · exact ⟨rfl, rfl, Or.inr ⟨rfl, rfl⟩, fun h => absurd h hclosed,
          fun _ => Or.inr ⟨not_lt.mp hclosed, rfl, htimeout⟩⟩
    · exact of_sameTimes hrew

/-- What is done with what was read takes no time. -/
lemma frontRecv (c : PTCPConnection) (res : ReadResult) :
    Receipt C res (c.recvRead C res) c (c.frontRecv C res).1 := by
  have hrecv := doRecv (C := C) c res
  unfold PTCPConnection.frontRecv
  simp only
  split_ifs
  · exact hrecv
  · exact hrecv.trans (.frontParse _ _)

end Receipt

/-- The bytes that `Front` takes from the socket, also where there is no queue. -/
def tcpRead (C : Conf) (c : PTCPConnection) (res : ReadResult) : List UInt8 :=
  if c.q.isNone then c.recvRead C res else c.frontRead C res

/-- What the kernel can answer to a call of `Front`, also where there is no queue. -/
def TcpAdmissible (C : Conf) (c : PTCPConnection) (res : ReadResult) : Prop :=
  if c.q.isNone then c.Admissible C res else c.FrontAdmissible C res

instance (C : Conf) (c : PTCPConnection) (res : ReadResult) : Decidable (c.TcpAdmissible C res) := by
  unfold TcpAdmissible
  infer_instance

theorem Receipt.front (c : PTCPConnection) (res : ReadResult) :
    Receipt C res (c.tcpRead C res) c (c.front C res).1 := by
  have hskip : SameTimes c (c.buffered C).1 := .skipLoop _ _ c
  unfold PTCPConnection.front tcpRead frontRead
  by_cases hq : c.q.isNone
  · rw [if_pos hq, if_pos hq]
    exact doRecv c res
  rw [if_neg hq, if_neg hq]
  simp only
  generalize c.buffered C = skipped at hskip ⊢
  obtain ⟨c₁, r⟩ := skipped
  cases r with
  | some r => exact of_sameTimes hskip
  | none => exact after hskip (frontRecv c₁ res)

/-! ### Sending -/

/-- What was sent is noted, at the time of the last poll. -/
structure Sent (bytes : List UInt8) (c c' : PTCPConnection) : Prop extends Stays c c' where
  now : c'.now = c.now
  recvTime : c'.recvTime = c.recvTime
  sendTime : c'.sendTime = c.sendTime ∨ (c'.sendTime = c.now ∧ bytes ≠ [])
  silent : c.sockfd < 0 → bytes = []

namespace Sent

variable {bytes : List UInt8}

lemma of_sameTimes (h : SameTimes c c') : Sent [] c c' :=
  ⟨h.toStays, h.now, h.recvTime, Or.inl h.sendTime, fun _ => rfl⟩

lemma after (h : SameTimes c c') (h' : Sent bytes c' c'') : Sent bytes c c'' := by
  obtain ⟨hstays, hnow, hrecv, hsend, hsilent⟩ := h'
  rw [h.now] at hnow hsend
  rw [h.sendTime] at hsend
  exact ⟨h.toStays.trans hstays, hnow, hrecv.trans h.recvTime, hsend,
    fun hc => hsilent (h.closed hc)⟩

lemma trans {bytes' : List UInt8} (h : Sent bytes c c') (h' : Sent bytes' c' c'') :
    Sent (bytes ++ bytes') c c'' := by
  refine ⟨h.toStays.trans h'.toStays, h'.now.trans h.now, h'.recvTime.trans h.recvTime, ?_, ?_⟩
  · rcases h'.sendTime with hsame | ⟨hnow, hbytes⟩
    · rw [hsame]
      exact h.sendTime.imp_right fun ⟨hnow, hbytes⟩ => ⟨hnow, by simp [hbytes]⟩
    · exact Or.inr ⟨hnow.trans h.now, by simp [hbytes]⟩
  · intro hc
    rw [h.silent hc, h'.silent (h.closed hc), List.append_nil]

lemma close (bytes : List UInt8) (hopen : ¬c.sockfd < 0) (errno : Int) :
    Sent bytes c (c.close "Send error" errno) := by
  obtain ⟨hstays, hnow, hsend, hrecv⟩ :=
    SameTimes.close c (show "Send error" ≠ "Timeout" by decide) errno
  exact ⟨hstays, hnow, hrecv, Or.inl hsend, fun h => absurd h hopen⟩

lemma sendPending (c : PTCPConnection) (rs : List SendResult) :
    Sent (c.sendPending C rs).2.1 c (c.sendPending C rs).1 := by
  unfold PTCPConnection.sendPending
  cases hq : c.q with
  | none => exact of_sameTimes (.refl c)
  | some q =>
    simp only
    by_cases hclosed : c.isClosed = true
    · rw [if_pos hclosed]
      exact of_sameTimes (.refl c)
    have hopen : ¬c.sockfd < 0 := mt isClosed_iff.mpr hclosed
    rw [if_neg hclosed]
    by_cases hemp : q.getSendable.2 = 0
    · rw [if_pos hemp]
      exact of_sameTimes (.refl c)
    rw [if_neg hemp]
    obtain ⟨n, err⟩ := sendLoop rs (q.getSendable.2.toNat * 8)
    cases err with
    | some errno => exact close _ hopen errno
    | none =>
      simp only
      have hpos : 0 < q.getSendable.2.toNat := Nat.pos_of_ne_zero fun h =>
        hemp (UInt32.toNat_inj.mp h)
      split_ifs with hsent
      · refine ⟨.of_eq rfl rfl, rfl, rfl, Or.inr ⟨rfl, ?_⟩, fun h => absurd h hopen⟩
        apply List.ne_nil_of_length_pos
        rw [List.length_take, length_memBytes, Mem.length_slice]
        omega
      · exact ⟨.refl c, rfl, rfl, Or.inl rfl, fun h => absurd h hopen⟩

lemma sendHbmsg (c : PTCPConnection) (res : SendResult) :
    Sent (c.sendHbmsg C res).2 c (c.sendHbmsg C res).1 := by
  unfold PTCPConnection.sendHbmsg
  by_cases hclosed : c.isClosed = true
  · rw [if_pos hclosed]
    exact of_sameTimes (.refl c)
  have hopen : ¬c.sockfd < 0 := mt isClosed_iff.mpr hclosed
  rw [if_neg hclosed]
  cases res with
  | again => exact of_sameTimes (.refl c)
  | error errno => exact close _ hopen errno
  | sent n =>
    simp only
    split_ifs
    · exact close _ hopen 0
    · refine ⟨.of_eq rfl rfl, rfl, rfl, Or.inr ⟨rfl, ?_⟩, fun h => absurd h hopen⟩
      apply List.ne_nil_of_length_pos
      rw [MsgHeader.length_toBytes]
      decide

/-- `SendHB` notes the time of the poll first. -/
theorem sendHB (c : PTCPConnection) (now : Int) (rs : List SendResult) (res : SendResult) :
    Sent (c.sendHB C now rs res).2 { c with now := now } (c.sendHB C now rs res).1 := by
  have hpend := sendPending (C := C) { c with now := now } rs
  unfold PTCPConnection.sendHB
  simp only
  split_ifs
  · exact of_sameTimes (.refl _)
  split
  · exact sendHbmsg _ res
  · rename_i q hq
    generalize PTCPConnection.sendPending C { c with now := now } rs = out at hpend ⊢
    obtain ⟨c₁, bytes, b⟩ := out
    cases b with
    | true => exact hpend
    | false =>
      have hack : SameTimes c₁
          { c₁ with hbmsg := { c₁.hbmsg with ackSeq := C.endian.convert32 q.myAck } } :=
        .of_eq rfl rfl rfl rfl rfl
      exact hpend.trans (after hack (sendHbmsg _ res))

lemma push (c : PTCPConnection) (rs : List SendResult) : Sent (c.push C rs).2 c (c.push C rs).1 :=
  after (.onQueue c _) (sendPending _ rs)

end Sent

/-- `Open` notes its time as that of sending, of receiving and of polling. -/
lemma open_times (c : PTCPConnection) {sockFd : Int} (hfd : 0 ≤ sockFd) (remoteAckSeq : UInt32)
    (now : Int) (rs : List SendResult) :
    (c.open C sockFd remoteAckSeq now rs).1.now = now ∧
      (c.open C sockFd remoteAckSeq now rs).1.sendTime = now ∧
      (c.open C sockFd remoteAckSeq now rs).1.recvTime = now ∧
      ¬(c.open C sockFd remoteAckSeq now rs).1.TimedOut := by
  have hsent := Sent.sendPending (C := C) (c.openAck C sockFd remoteAckSeq now) rs
  have hbuf : ∀ c : PTCPConnection, SameTimes c (c.openBuf C) := by
    intro c
    unfold openBuf
    split_ifs
    · exact .of_eq rfl rfl rfl rfl rfl
    · exact .refl c
  have hsame := hbuf ((c.openAck C sockFd remoteAckSeq now).sendPending C rs).1
  refine ⟨hsame.now.trans hsent.now, hsame.sendTime.trans ?_, hsame.recvTime.trans hsent.recvTime,
    fun h => ?_⟩
  · rcases hsent.sendTime with hsend | ⟨hsend, -⟩ <;> exact hsend
  · exact absurd (hsent.timedOut (hsame.timedOut h)).1 (not_lt.mpr hfd)

/-! ### Sending in time -/

/-- If the first `send` is answered, something is taken. -/
lemma sendLoop_pos {rs : List SendResult} (hrs : ∃ r ∈ rs.head?, r.answers) {size : Nat}
    (hsize : 0 < size) (hnone : (sendLoop rs size).2 = none) : 0 < (sendLoop rs size).1 := by
  obtain ⟨r, hr, hans⟩ := hrs
  cases rs with
  | nil => cases hr
  | cons r' rs =>
    obtain rfl : r' = r := Option.some_inj.mp hr
    cases r' with
    | again => cases hans
    | error errno => cases hnone
    | sent n =>
      have hn : n ≠ 0 := of_decide_eq_true hans
      unfold sendLoop
      split_ifs <;> simp only <;> omega

/-- `SendPending` that returns true has sent something, if the first `send` is answered. -/
lemma sendPending_sendTime {rs : List SendResult} (hrs : ∃ r ∈ rs.head?, r.answers)
    (htrue : (c.sendPending C rs).2.2 = true) : (c.sendPending C rs).1.sendTime = c.now := by
  unfold sendPending at htrue ⊢
  cases hq : c.q with
  | none => simp [hq] at htrue
  | some q =>
    simp only [hq] at htrue ⊢
    split_ifs at htrue with hclosed hemp
    have hpos : 0 < q.getSendable.2.toNat := Nat.pos_of_ne_zero fun h =>
      hemp (UInt32.toNat_inj.mp h)
    have hsize : 0 < q.getSendable.2.toNat * 8 := Nat.mul_pos hpos (by decide)
    have htaken := sendLoop_pos hrs hsize
    rw [if_neg hclosed, if_neg hemp]
    generalize sendLoop rs (q.getSendable.2.toNat * 8) = out at htrue htaken ⊢
    obtain ⟨n, err⟩ := out
    cases err with
    | some errno => cases htrue
    | none =>
      have hn := htaken rfl
      simp only at hn ⊢
      rw [if_pos (by omega)]

lemma sendHbmsg_sendTime {res : SendResult} (hres : res.answers)
    (hopen : 0 ≤ (c.sendHbmsg C res).1.sockfd) : (c.sendHbmsg C res).1.sendTime = c.now := by
  unfold sendHbmsg at hopen ⊢
  have hclosed : ∀ errno, ¬0 ≤ (c.close "Send error" errno).sockfd := fun errno =>
    not_le.mpr (sockfd_close_neg _ errno)
  split_ifs at hopen ⊢ with hcl
  · exact absurd (isClosed_iff.mp hcl) (not_lt.mpr hopen)
  cases res with
  | again => cases hres
  | error errno => exact absurd hopen (hclosed errno)
  | sent n =>
    simp only at hopen ⊢
    split_ifs at hopen ⊢
    · exact absurd hopen (hclosed 0)
    · rfl

/-- After `SendHB` the connection has sent within the interval of heartbeats, if the kernel answers
the first `send` and the connection is not closed. -/
theorem sendHB_due {now : Int} {rs : List SendResult} {res : SendResult}
    (hrs : ∃ r ∈ rs.head?, r.answers) (hres : res.answers)
    (hopen : 0 ≤ (c.sendHB C now rs res).1.sockfd) :
    now < (c.sendHB C now rs res).1.sendTime + C.heartBeatInverval ∨
      (c.sendHB C now rs res).1.sendTime = now := by
  have hpend := sendPending_sendTime (C := C) (c := { c with now := now }) hrs
  have hnow := (Sent.sendPending (C := C) { c with now := now } rs).now
  unfold sendHB at hopen ⊢
  simp only at hopen ⊢
  split_ifs at hopen ⊢ with hrecent
  · simp only
    omega
  refine Or.inr ?_
  split at hopen
  · exact sendHbmsg_sendTime hres hopen
  · generalize sendPending C { c with now := now } rs = out at hpend hnow hopen ⊢
    obtain ⟨c₁, bytes, b⟩ := out
    cases b with
    | true => exact hpend rfl
    | false => exact (sendHbmsg_sendTime hres hopen).trans hnow

end PTCPConnection

end Tcpshm
