import Tcpshm.PtcpConn.Send
import Tcpshm.TcpShmConn.Basic

/-!
# What the user's calls keep

Sending and receiving may close a connection. They neither open one nor close its descriptor, and
they leave its names and what is mapped alone.
-/

namespace Tcpshm

namespace PTCPConnection

/-- The descriptor stays and the queue stays mapped; the connection may have been closed. -/
structure KeepsFd (c c' : PTCPConnection) : Prop where
  fdToClose : c'.fdToClose = c.fdToClose
  sockfd : c'.sockfd = c.sockfd ∨ c'.sockfd = -1
  mapped : c'.q.isSome = c.q.isSome

variable {C : Conf} {c c' c'' : PTCPConnection}

namespace KeepsFd

lemma refl (c : PTCPConnection) : KeepsFd c c := ⟨rfl, Or.inl rfl, rfl⟩

lemma trans (h : KeepsFd c c') (h' : KeepsFd c' c'') : KeepsFd c c'' := by
  refine ⟨h'.fdToClose.trans h.fdToClose, ?_, h'.mapped.trans h.mapped⟩
  rcases h'.sockfd with hs | hs
  · rw [hs]
    exact h.sockfd
  · exact Or.inr hs

lemma close (c : PTCPConnection) (reason : String) (errno : Int) :
    KeepsFd c (c.close reason errno) := by
  unfold PTCPConnection.close
  split_ifs
  · exact refl c
  · exact ⟨rfl, Or.inr rfl, rfl⟩

lemma onQueue (c : PTCPConnection) (f : PTCPQueue → PTCPQueue) : KeepsFd c (c.onQueue f) :=
  ⟨rfl, Or.inl rfl, Option.isSome_map⟩

/-! ### Sending -/

lemma alloc (c : PTCPConnection) (size : UInt16) : KeepsFd c (c.alloc C size).1 := by
  unfold PTCPConnection.alloc
  split
  · exact refl c
  · rename_i q hq
    exact ⟨rfl, Or.inl rfl, by rw [hq]; rfl⟩

lemma sendPending (c : PTCPConnection) (rs : List SendResult) :
    KeepsFd c (c.sendPending C rs).1 := by
  obtain ⟨heq, -⟩ | ⟨q, n, hq, -, -, -, t, heq⟩ | ⟨q, k, errno, -, -, heq⟩ :=
    sendPending_cases (C := C) c rs
  · rw [heq]
    exact refl c
  · rw [heq]
    exact ⟨rfl, Or.inl rfl, by rw [hq]; rfl⟩
  · rw [heq]
    exact close c _ _

lemma push (c : PTCPConnection) (rs : List SendResult) : KeepsFd c (c.push C rs).1 :=
  (onQueue c _).trans (sendPending _ rs)

lemma sendHbmsg (c : PTCPConnection) (res : SendResult) : KeepsFd c (c.sendHbmsg C res).1 := by
  unfold PTCPConnection.sendHbmsg
  split_ifs
  · exact refl c
  cases res with
  | again => exact refl c
  | error errno => exact close c _ _
  | sent n =>
    simp only
    split_ifs
    · exact close c _ _
    · exact ⟨rfl, Or.inl rfl, rfl⟩

lemma sendHB (c : PTCPConnection) (now : Int) (rs : List SendResult) (res : SendResult) :
    KeepsFd c (c.sendHB C now rs res).1 := by
  have hnow : KeepsFd c { c with now := now } := ⟨rfl, Or.inl rfl, rfl⟩
  have hpend := sendPending (C := C) { c with now := now } rs
  unfold PTCPConnection.sendHB
  simp only
  split_ifs
  · exact hnow
  split
  · exact hnow.trans (sendHbmsg _ res)
  · generalize PTCPConnection.sendPending C { c with now := now } rs = out at hpend ⊢
    obtain ⟨c₁, bytes, b⟩ := out
    cases b with
    | true => exact hnow.trans hpend
    | false =>
      refine hnow.trans (hpend.trans (trans ?_ (sendHbmsg _ res)))
      exact ⟨rfl, Or.inl rfl, rfl⟩

/-! ### Receiving -/

lemma received (c : PTCPConnection) (bs : List UInt8) : KeepsFd c (c.received C bs) := by
  unfold PTCPConnection.received
  simp only
  split_ifs <;> exact ⟨rfl, Or.inl rfl, rfl⟩

lemma rewindBuf (c : PTCPConnection) : KeepsFd c c.rewindBuf := by
  unfold PTCPConnection.rewindBuf
  split_ifs
  · exact ⟨rfl, Or.inl rfl, rfl⟩
  · exact refl c

lemma doRecv (c : PTCPConnection) (res : ReadResult) : KeepsFd c (c.doRecv C res).1 := by
  have hrew := rewindBuf c
  unfold PTCPConnection.doRecv
  simp only
  by_cases hfull : c.rewindBuf.writable + c.rewindBuf.extraSize C = 0
  · rw [if_pos hfull]
    exact hrew
  rw [if_neg hfull]
  cases res with
  | data bs => exact hrew.trans (received _ bs)
  | eof => exact hrew.trans (close _ _ _)
  | again =>
    simp only
    split_ifs
    · exact hrew.trans (close _ _ _)
    · exact hrew
  | error errno => exact hrew.trans (close _ _ _)

lemma skipLoop (myAck : UInt32) (fuel : Nat) (c : PTCPConnection) :
    KeepsFd c (c.skipLoop C myAck fuel).1 := by
  induction fuel generalizing c with
  | zero => exact refl c
  | succ fuel ih =>
    unfold PTCPConnection.skipLoop
    split_ifs
    · exact refl c
    · have hskip : KeepsFd c { c with readidx := c.readidx + 8 } := ⟨rfl, Or.inl rfl, rfl⟩
      exact hskip.trans (ih _)
    · exact refl c
    · exact ⟨rfl, Or.inl rfl, rfl⟩

lemma convertNew (c : PTCPConnection) (oldWriteidx : UInt32) :
    KeepsFd c (c.convertNew C oldWriteidx) := by
  unfold PTCPConnection.convertNew
  split_ifs
  · exact ⟨rfl, Or.inl rfl, rfl⟩
  · exact refl c

lemma gotMsg (c : PTCPConnection) (header : MsgHeader) : KeepsFd c (c.gotMsg header) :=
  ⟨rfl, Or.inl rfl, rfl⟩

lemma parseLoop (oldWriteidx : UInt32) (fuel : Nat) (c : PTCPConnection) :
    KeepsFd c (c.parseLoop C oldWriteidx fuel).1 := by
  induction fuel generalizing c with
  | zero => exact refl c
  | succ fuel ih =>
    unfold PTCPConnection.parseLoop
    simp only
    split_ifs
    · exact (convertNew c oldWriteidx).trans ((onQueue _ _).trans (close _ _ _))
    · exact (convertNew c oldWriteidx).trans (onQueue _ _)
    · exact (convertNew c oldWriteidx).trans ((onQueue _ _).trans ((gotMsg _ _).trans (ih _)))
    · exact refl c

lemma frontParse (c : PTCPConnection) (n : UInt32) : KeepsFd c (c.frontParse C n).1 := by
  have hwrite : KeepsFd c { c with writeidx := c.writeidx + n } := ⟨rfl, Or.inl rfl, rfl⟩
  have hloop := hwrite.trans (parseLoop (C := C) c.writeidx ((c.writeidx + n).toNat / 8 + 1) _)
  unfold PTCPConnection.frontParse
  simp only
  generalize PTCPConnection.parseLoop C c.writeidx _ _ = parsed at hloop ⊢
  obtain ⟨c₁, r⟩ := parsed
  cases r with
  | some r => exact hloop
  | none => exact hloop

lemma frontRecv (c : PTCPConnection) (res : ReadResult) : KeepsFd c (c.frontRecv C res).1 := by
  have hrecv := doRecv (C := C) c res
  unfold PTCPConnection.frontRecv
  simp only
  split_ifs
  · exact hrecv
  · exact hrecv.trans (frontParse _ _)

lemma front (c : PTCPConnection) (res : ReadResult) : KeepsFd c (c.front C res).1 := by
  have hskip := skipLoop (C := C) (c.q.elim 0 PTCPQueue.myAck)
    ((c.nextmsgIdx - c.readidx).toNat / 8 + 1) c
  unfold PTCPConnection.front buffered
  simp only
  split_ifs
  · exact doRecv c res
  generalize PTCPConnection.skipLoop C _ _ c = skipped at hskip ⊢
  obtain ⟨c₁, r⟩ := skipped
  cases r with
  | some r => exact hskip
  | none => exact hskip.trans (frontRecv _ res)

lemma pop (c : PTCPConnection) : KeepsFd c (c.pop C) := by
  have hread : KeepsFd c { c with readidx := c.readidx + padded (c.headerAt C c.readidx).size } :=
    ⟨rfl, Or.inl rfl, rfl⟩
  exact hread.trans (onQueue _ _)

end KeepsFd

end PTCPConnection

namespace TcpShmConnection

variable {F : LoginFormat} (C : Conf) (R : RingSize)

/-- A call of the user, or of a thread that serves the connection. -/
inductive Call where
  | alloc (size : UInt16)
  | push (rs : List SendResult)
  | pushMore
  | front (res : ReadResult)
  | pop
  | tcpFront (now : Int) (rs : List SendResult) (hb : SendResult) (res : ReadResult)
  | shmFront
  | close

/-- The connection after the call. -/
def Call.run (c : TcpShmConnection F) : Call → TcpShmConnection F
  | alloc size => (c.alloc C R size).1
  | push rs => (c.push C R rs).1
  | pushMore => c.pushMore C R
  | front res => (c.front C R res).1
  | pop => c.pop C R
  | tcpFront now rs hb res => (c.tcpFront C now rs hb res).1
  | shmFront => (c.shmFront R).1
  | close => c.close

/-- What no call changes. -/
structure Keeps (c c' : TcpShmConnection F) : Prop where
  localName : c'.localName = c.localName
  remoteName : c'.remoteName = c.remoteName
  ptcpConn : PTCPConnection.KeepsFd c.ptcpConn c'.ptcpConn
  shmSendq : c'.shmSendq.isSome = c.shmSendq.isSome
  shmRecvq : c'.shmRecvq.isSome = c.shmRecvq.isSome

variable {C R} {c c' c'' : TcpShmConnection F}

lemma Keeps.refl (c : TcpShmConnection F) : Keeps c c := ⟨rfl, rfl, .refl _, rfl, rfl⟩

lemma Keeps.of_ptcpConn {p : PTCPConnection} (h : PTCPConnection.KeepsFd c.ptcpConn p) :
    Keeps c { c with ptcpConn := p } := ⟨rfl, rfl, h, rfl, rfl⟩

lemma Keeps.tcpFront (c : TcpShmConnection F) (now : Int) (rs : List SendResult) (hb : SendResult)
    (res : ReadResult) : Keeps c (c.tcpFront C now rs hb res).1 :=
  .of_ptcpConn (.trans (.sendHB _ now rs hb) (.front _ res))

lemma Keeps.of_shmSendq {q q' : SPSCVarQueue} (hq : c.shmSendq = some q) :
    Keeps c { c with shmSendq := some q' } := ⟨rfl, rfl, .refl _, by rw [hq]; rfl, rfl⟩

lemma Keeps.of_shmRecvq {q q' : SPSCVarQueue} (hq : c.shmRecvq = some q) :
    Keeps c { c with shmRecvq := some q' } := ⟨rfl, rfl, .refl _, rfl, by rw [hq]; rfl⟩

theorem Call.keeps (e : Call) (c : TcpShmConnection F) : Keeps c (e.run C R c) := by
  cases e with
  | alloc size =>
    show Keeps c (c.alloc C R size).1
    unfold TcpShmConnection.alloc
    split
    · exact .of_shmSendq ‹_›
    · exact .of_ptcpConn (.alloc _ size)
  | push rs =>
    show Keeps c (c.push C R rs).1
    unfold TcpShmConnection.push
    split
    · exact .of_shmSendq ‹_›
    · exact .of_ptcpConn (.push _ rs)
  | pushMore =>
    show Keeps c (c.pushMore C R)
    unfold TcpShmConnection.pushMore
    split
    · exact .of_shmSendq ‹_›
    · exact .of_ptcpConn (.onQueue _ _)
  | front res =>
    show Keeps c (c.front C R res).1
    unfold TcpShmConnection.front
    split
    · exact .of_shmRecvq ‹_›
    · exact .of_ptcpConn (.front _ res)
  | pop =>
    show Keeps c (c.pop C R)
    unfold TcpShmConnection.pop
    split
    · exact .of_shmRecvq ‹_›
    · exact .of_ptcpConn (.pop _)
  | tcpFront now rs hb res => exact .tcpFront c now rs hb res
  | shmFront =>
    show Keeps c (c.shmFront R).1
    unfold TcpShmConnection.shmFront
    split
    · exact .of_shmRecvq ‹_›
    · exact .refl c
  | close => exact .of_ptcpConn (.close _ _ _)

end TcpShmConnection

end Tcpshm
