import Tcpshm.Cluster.Slot

/-!
# The server beside the other clients

What holds of the server in every run, and that what it does for others the client does not see.
-/

namespace Tcpshm

/-- The descriptor stays in every step of a process. -/
lemma Peer.Step.keepsFd {C : Conf} {inc : List UInt8} {P P' : Peer} {ex : Exchanged}
    (h : Peer.Step C inc P ex P') : PTCPConnection.KeepsFd P.conn P'.conn := by
  cases h with
  | alloc size => exact .alloc _ size
  | fill => exact (PTCPConnection.KeepsFd.alloc _ _).trans (.onQueue _ _)
  | push _ _ _ _ _ hc rs =>
    subst hc
    exact ((PTCPConnection.KeepsFd.alloc _ _).trans (.onQueue _ _)).trans (.push _ rs)
  | pushMore _ _ _ _ _ hc =>
    subst hc
    exact ((PTCPConnection.KeepsFd.alloc _ _).trans (.onQueue _ _)).trans (.onQueue _ _)
  | sendPending _ rs => exact .sendPending _ rs
  | sendHB _ now rs res => exact .sendHB _ now rs res
  | front _ res => exact .front _ res
  | pop => exact .pop _
  | close reason errno => exact .close _ reason errno

namespace Cluster

open Server (Touches SameTables)
open TcpShmConnection (Mapped)

variable {F : LoginFormat} {H : Hosts F} {K : ServerConf} {R : RingSize} {gid : GroupId}
  {S S' : Server F} {d : Nat} {name : Name F}

/-- What holds of the server: connections without a name are as the constructor left them, and those
of the client's group are over TCP. -/
structure Inv (H : Hosts F) (K : ServerConf) (gid : GroupId) (S : Server F) : Prop where
  tables : Server.Inv K S
  serverName : S.serverName = H.serverName
  unused : ∀ c, (S.names c).isEmpty = true → (S.pool c).ptcpConn = .new H.server
  tcp : ∀ c ∈ K.slice gid, Mapped false (S.pool c)

namespace Inv

lemma new (H : Hosts F) (K : ServerConf) (gid : GroupId) :
    Inv H K gid (.new H.server K H.serverName) :=
  ⟨.new H.server K H.serverName, rfl, fun _ _ => rfl, fun _ _ => ⟨rfl, rfl⟩⟩

lemma sameTables (hinv : Inv H K gid S) (h : SameTables S S') : Inv H K gid S' := by
  refine ⟨hinv.tables.quiet h.quiet, h.serverName.trans hinv.serverName, ?_, ?_⟩
  · rw [h.quiet.names, h.pool]
    exact hinv.unused
  · rw [h.pool]
    exact hinv.tcp

/-- A step leaves one connection changed, which has a name. -/
lemma touches (hinv : Inv H K gid S) (htables : Server.Inv K S')
    (htcp : ∀ c ∈ K.slice gid, Mapped false (S'.pool c)) (h : Touches d S S')
    (hd : (S'.names d).isEmpty = false) : Inv H K gid S' := by
  refine ⟨htables, h.serverName.trans hinv.serverName, fun c hc => ?_, htcp⟩
  have hcd : c ≠ d := by
    rintro rfl
    exact absurd (hd.symm.trans hc) Bool.false_ne_true
  rw [h.pool c hcd]
  apply hinv.unused
  rw [Server.names, ← h.pool c hcd]
  exact hc

lemma step (hinv : Inv H K gid S) (hg : gid ∈ K.groupIds) (hshm : gid.useShm = false)
    (hstep : Server.Step H.server R K S S') (h : Touches d S S')
    (hd : (S'.names d).isEmpty = false) : Inv H K gid S' := by
  apply hinv.touches (hinv.tables.change (hstep.change hinv.tables)) ?_ h hd
  intro c hc
  rw [← hshm]
  exact Server.Mapped.step hinv.tables hg hc (hshm ▸ hinv.tcp c hc) hstep

end Inv

/-- The connection that a login of the client gets. -/
lemma Inv.connOf_of_finds {i c : Nat} (hinv : Inv H K gid S) (hg : gid ∈ K.groupIds)
    (hname : name.isEmpty = false) (hfind : S.Finds gid name i c) :
    S.connOf H.server gid name = (S.pool c).ptcpConn := by
  obtain hslot | ⟨hslot, hempty⟩ := Server.slot_of_finds hinv.tables hg hname hfind
  · exact Server.connOf_of_slot hslot
  · rw [Server.connOf_of_none hslot, hinv.unused c hempty]

/-! ### The other clients -/

lemma Other.step {C : Conf} (h : Other K R gid C name S S') : Server.Step C R K S S' := by
  cases h with
  | start fd => exact .start S fd
  | accept accepted now => exact .accept S accepted now
  | visit hi h _ => exact .visit hi h
  | turn now polls hg hi _ _ => exact .turn S now polls hg hi
  | call e _ _ => exact .call S _ e

/-- What is done for others touches at most one connection, which is another client's. -/
lemma Other.touches {C : Conf} (h : Other K R gid C name S S') (hinv : Server.Inv K S)
    (hg : gid ∈ K.groupIds) (hname : name.isEmpty = false) :
    SameTables S S' ∨ ∃ d, Touches d S S' ∧ (S'.names d).isEmpty = false ∧
      S.slot gid name ≠ some d ∧ S'.slot gid name ≠ some d := by
  have hchange := h.step.change hinv
  have hinv' := hinv.change hchange
  cases h with
  | start fd => exact Or.inl (.start S fd)
  | accept accepted now => exact Or.inl (.accept S accepted now)
  | @visit _ i now recv env hi hvisit hother =>
    obtain hsame | ⟨header, msg, header', login, out, hrecv, hlogin, hout, rfl⟩ :=
      Server.visit_sameTables_or hvisit
    · exact Or.inl hsame
    have hne := hother header msg header' login hrecv hlogin
    have hfree := SameTables.freeNewConn out.server i
    obtain ⟨-, hserver⟩ | ⟨j, d, hfind, htouches, hnames, hnamed⟩ := Server.handleLogin_touches hout
    · rw [hserver] at hfree ⊢
      exact Or.inl hfree
    refine Or.inr ⟨d, htouches.trans (.of_sameTables d hfree), ?_, fun hd => ?_, fun hd => ?_⟩
    · rw [hfree.quiet.names, hnames]
      exact hnamed
    · obtain ⟨-, hdn⟩ := Server.mem_of_slot hd
      rcases hfind.matched with hm | hm
      · exact absurd (hname.symm.trans (hdn ▸ hm)) Bool.false_ne_true
      · exact hne (hm.symm.trans hdn)
    · obtain ⟨-, hdn⟩ := Server.mem_of_slot hd
      rw [hfree.quiet.names, hnames] at hdn
      exact hne hdn
  | @turn gid' i c now polls hg' hi hc hother =>
    have htouches := Server.turn_touches (C := C) hinv hg' hi hc now polls
    have hnamed := (hinv.slots gid' hg').live_named hi hc
    have hnames := hchange.names hnamed
    refine Or.inr ⟨c, htouches, ?_, hother, Server.slot_ne hinv hinv' hg hname hnames hother⟩
    rw [hnames]
    exact hnamed
  | @call c e hnamed hother =>
    have htouches := Touches.setConn S c (e.run C R (S.pool c))
    have hnames := hchange.names hnamed
    refine Or.inr ⟨c, htouches, ?_, hother, Server.slot_ne hinv hinv' hg hname hnames hother⟩
    rw [hnames]
    exact hnamed

lemma Inv.other (hinv : Inv H K gid S) (hg : gid ∈ K.groupIds) (hshm : gid.useShm = false)
    (hname : name.isEmpty = false) (h : Other K R gid H.server name S S') : Inv H K gid S' := by
  obtain hsame | ⟨d, htouches, hd, -, -⟩ := h.touches hinv.tables hg hname
  · exact hinv.sameTables hsame
  · exact hinv.step hg hshm h.step htouches hd

/-- What is done for others the client does not see. -/
theorem Other.view_eq (hinv : Inv H K gid S) (hg : gid ∈ K.groupIds)
    (hname : H.clientName.isEmpty = false) (h : Other K R gid H.server H.clientName S S')
    (link : System F) : (Cluster.mk S' link).view H gid = (Cluster.mk S link).view H gid := by
  have hinv' := hinv.tables.change (h.step.change hinv.tables)
  unfold view
  obtain hsame | ⟨d, htouches, -, hd, hd'⟩ := h.touches hinv.tables hg hname
  · simp only [Server.connOf, Server.liveOf, Server.slot, hsame.pool, hsame.grps]
  · have hslot := htouches.slot_eq hinv.tables hinv' hg hname hd hd'
    simp only [htouches.connOf_eq hslot hd, htouches.liveOf_eq hslot hd]

end Cluster

end Tcpshm
