import Tcpshm.Link.Delivery
import Tcpshm.Cluster.View

/-!
# The server refines a server with one client

Over TCP each step of the server with all its connections is, as one of its clients sees it, a step
of a server that has no other client, or nothing.
-/

namespace Tcpshm

namespace System.ClientStep

variable {F : LoginFormat} {H : Hosts F} {s s' : System F}

lemma step (h : ClientStep H s s') : Step H s s' := by
  cases h with
  | client hidle h => exact .client hidle h
  | connect h => exact .connect h
  | respond newBlk fd now rs h => exact .respond newBlk fd now rs h
  | giveUp => exact .giveUp
  | crashClient => exact .crashClient
  | crashRenamed newBlk fd now rs h hok hname => exact .crashRenamed newBlk fd now rs h hok hname
  | disconnectClient => exact .disconnectClient
  | cut k l => exact .cut k l

/-- The server has no part in it. -/
lemma server_eq (h : ClientStep H s s') : s'.server = s.server ∧ s'.live = s.live := by
  cases h with
  | connect h =>
    unfold System.connect at h
    split at h <;> cases h <;> exact ⟨rfl, rfl⟩
  | respond newBlk fd now rs h =>
    unfold System.afterResponse
    split_ifs <;> exact ⟨rfl, rfl⟩
  | _ => exact ⟨rfl, rfl⟩

end System.ClientStep

namespace Cluster

open Server (Touches SameTables)

variable {F : LoginFormat} {H : Hosts F} {K : ServerConf} {R : RingSize} {gid : GroupId}
  {x x' : Cluster F} {S S' : Server F} {link : System F} {i c : Nat}

/-! ### The connection of the client -/

lemma view_client {s' : System F} (h : System.ClientStep H (x.view H gid) s') :
    (Cluster.mk x.server s').view H gid = s' := by
  obtain ⟨hserver, hlive⟩ := h.server_eq
  unfold view
  rw [hserver]
  obtain ⟨client, server, name, connecting, late, live, joined, toServer, toClient⟩ := s'
  simp only at hserver hlive
  rw [hserver, hlive]
  rfl

lemma view_new (H : Hosts F) (K : ServerConf) (gid : GroupId) (link : System F) :
    (Cluster.mk (.new H.server K H.serverName) link).view H gid =
      { link with server := link.server.withConn (.new H.server), live := false } := by
  apply view_eq
  · cases hslot : (Server.new H.server K H.serverName).slot gid H.clientName with
    | none => exact Server.connOf_of_none hslot
    | some c => exact Server.connOf_of_slot hslot
  · cases hslot : (Server.new H.server K H.serverName).slot gid H.clientName with
    | none => exact Server.liveOf_of_none hslot
    | some c =>
      rw [Server.liveOf_of_slot hslot]
      rfl

/-- The client's connection is changed, and keeps its name. -/
lemma slot_setConn {conn : TcpShmConnection F} (hslot : S.slot gid H.clientName = some c)
    (hname : conn.remoteName = (S.pool c).remoteName) :
    (S.setConn c conn).slot gid H.clientName = some c := by
  have hnames := Server.names_setConn (c := c) hname
  rw [← hslot]
  show ((S.grps gid).conns.find? fun d => decide ((S.setConn c conn).names d = H.clientName)) = _
  rw [hnames]
  rfl

/-- A process that serves the client's connection. -/
lemma step_serves {ex : Exchanged} {P' : Peer} (hc : x.server.slot gid H.clientName = some c)
    (h : Peer.Step H.server x.link.toServer (x.view H gid).server ex P') :
    System.Step H (x.view H gid)
      ((Cluster.mk (x.server.setConn c { x.server.pool c with ptcpConn := P'.conn })
        { x.link with
          server := P'
          toServer := x.link.toServer.drop ex.read.length
          toClient := if x.link.joined then x.link.toClient ++ ex.sent else x.link.toClient }).view
        H gid) := by
  have hslot : (x.server.setConn c { x.server.pool c with ptcpConn := P'.conn }).slot gid
      H.clientName = some c := slot_setConn hc rfl
  have hconn := Server.connOf_of_slot (C := H.server) hslot
  have hlive := (Server.liveOf_of_slot hslot).trans (Server.liveOf_of_slot hc).symm
  rw [Server.setConn_self] at hconn
  rw [view_eq hconn hlive]
  exact .server h

/-- The turn of the client's connection. -/
lemma step_turn (hinv : Inv H K gid x.server) (hg : gid ∈ K.groupIds) (hshm : gid.useShm = false)
    (hclient : H.clientName.isEmpty = false) (now : Int) (polls : Nat → Poll)
    (hi : i < (x.server.grps gid).liveCnt) (hc : (x.server.grps gid).conns[i]? = some c)
    (hslot : x.server.slot gid H.clientName = some c) :
    System.Step H (x.view H gid)
        ((Cluster.mk (x.server.turn H.server gid i now polls).1
          (if (x.server.turn H.server gid i now polls).2 then
            { x.link with joined := false, toServer := [] } else x.link)).view H gid) ∨
      (Cluster.mk (x.server.turn H.server gid i now polls).1
          (if (x.server.turn H.server gid i now polls).2 then
            { x.link with joined := false, toServer := [] } else x.link)).view H gid =
        x.view H gid := by
  have hpoll : x.server.pollConn H.server gid now polls c = x.server.pool c := by
    unfold Server.pollConn
    rw [hshm, if_neg Bool.false_ne_true]
  obtain ⟨-, hturn⟩ | ⟨hclosed, hturn⟩ := Server.turn_cases (C := H.server) hc now polls
  · rw [hpoll] at hturn
    have hsame : x.server.setConn c (x.server.pool c) = x.server := by
      unfold Server.setConn
      rw [Function.update_eq_self]
    rw [hturn, hsame]
    exact Or.inr rfl
  · rw [hpoll] at hturn hclosed
    have hchange := Server.Change.of_turn (C := H.server) hg hi hc now polls
    have htables := hinv.tables.change hchange
    have hslots := hinv.tables.slots gid hg
    have hnames := hchange.names (hslots.live_named hi hc)
    have hslot' : (x.server.turn H.server gid i now polls).1.slot gid H.clientName = some c := by
      obtain ⟨hmem, hname⟩ := Server.mem_of_slot hslot
      exact slot_afterLogin htables hg hclient (hnames.trans hname) (hslots.perm.mem_iff.mp hmem)
    have hconn := Server.connOf_of_slot (C := H.server) hslot'
    have hlive := Server.liveOf_of_slot hslot'
    have hgone : c ∉ ((x.server.grps gid).drop i).live := by
      have hnodup := (ConnectionGroup.drop_live hi hslots.live_le hc).nodup_iff.mpr
        (hslots.live_nodup (K.slice_nodup gid))
      exact (List.nodup_cons.mp hnodup).1
    rw [hturn] at hconn hlive ⊢
    have hpool : (((x.server.setConn c (x.server.pool c).tryCloseFd.1).disconnect gid i c).pool
        c).ptcpConn = (x.server.pool c).ptcpConn.tryCloseFd.1 := by
      show ((x.server.setConn c (x.server.pool c).tryCloseFd.1).pool c).ptcpConn = _
      rw [Server.setConn_self]
      rfl
    have hdropped : ((x.server.setConn c (x.server.pool c).tryCloseFd.1).disconnect gid i c).grps
        gid = (x.server.grps gid).drop i := Function.update_self ..
    rw [hpool] at hconn
    rw [hdropped, decide_eq_false hgone] at hlive
    rw [if_pos rfl, view_eq hconn hlive]
    refine Or.inl ?_
    have hview : (x.view H gid).server.conn = (x.server.pool c).ptcpConn :=
      Server.connOf_of_slot hslot
    have hstep := System.Step.disconnectServer (H := H) (s := x.view H gid) (hview ▸ hclosed)
    unfold System.disconnect at hstep
    rw [hview] at hstep
    exact hstep

/-! ### Steps and runs -/

lemma Inv.serves {P' : Peer} (hinv : Inv H K gid S) (hclient : H.clientName.isEmpty = false)
    (hc : S.slot gid H.clientName = some c)
    (hkeeps : PTCPConnection.KeepsFd (S.pool c).ptcpConn P'.conn) :
    Inv H K gid (S.setConn c { S.pool c with ptcpConn := P'.conn }) := by
  have hquiet : Server.Quiet S (S.setConn c { S.pool c with ptcpConn := P'.conn }) :=
    .setConn rfl hkeeps.fdToClose
  refine hinv.touches (hinv.tables.quiet hquiet) (fun d hd => ?_) (.setConn S c _) ?_
  · have htcp := hinv.tcp d hd
    by_cases hdc : d = c
    · subst hdc
      rw [Server.setConn_self]
      exact ⟨htcp.shmSendq, htcp.shmRecvq⟩
    · rw [Server.setConn_of_ne _ hdc]
      exact htcp
  · rw [hquiet.names, (Server.mem_of_slot hc).2]
    exact hclient

lemma Inv.turn (hinv : Inv H K gid S) (hg : gid ∈ K.groupIds) (hshm : gid.useShm = false)
    (hi : i < (S.grps gid).liveCnt) (hc : (S.grps gid).conns[i]? = some c) (now : Int)
    (polls : Nat → Poll) : Inv H K gid (S.turn H.server gid i now polls).1 := by
  have hchange := Server.Change.of_turn (C := H.server) hg hi hc now polls
  have hnamed := (hinv.tables.slots gid hg).live_named hi hc
  refine hinv.touches (hinv.tables.change hchange) (fun d hd => ?_)
    (Server.turn_touches hinv.tables hg hi hc now polls) (hchange.names hnamed ▸ hnamed)
  have htcp := hinv.tcp d hd
  rw [← hshm] at htcp ⊢
  exact Server.Mapped.step (R := ⟨64, by decide⟩) hinv.tables hg hd htcp (.turn S now polls hg hi)

/-- What the server is in every run. -/
lemma Step.inv (hg : gid ∈ K.groupIds) (hshm : gid.useShm = false)
    (hclient : H.clientName.isEmpty = false) (hinv : Inv H K gid x.server)
    (h : Step H K R gid x x') : Inv H K gid x'.server := by
  cases h with
  | client h => exact hinv
  | serves hc h =>
    have hkeeps := h.keepsFd
    rw [show (x.view H gid).server.conn = _ from Server.connOf_of_slot hc] at hkeeps
    exact hinv.serves hclient hc hkeeps
  | login now env hi hfd hrecv hname hgrp hfile hout => exact hinv.afterLogin hg hshm hfd hrecv hout
  | ignores hi hfd => exact hinv.sameTables (.freeNewConn _ _)
  | turn now polls hi hc hslot => exact hinv.turn hg hshm hi hc now polls
  | restarts => exact .new H K gid
  | others h => exact hinv.other hg hshm hclient h

/-- A step is one that a server with one client can take, or the client does not see it. -/
theorem Step.view (hg : gid ∈ K.groupIds) (hshm : gid.useShm = false)
    (hclient : H.clientName.isEmpty = false) (hinv : Inv H K gid x.server)
    (h : Step H K R gid x x') :
    System.Step H (x.view H gid) (x'.view H gid) ∨ x'.view H gid = x.view H gid := by
  cases h with
  | client h =>
    rw [view_client h]
    exact Or.inl h.step
  | serves hc h => exact Or.inl (step_serves hc h)
  | login now env hi hfd hrecv hname hgrp hfile hout =>
    exact Or.inl (step_login hinv hg hshm hclient hfd hrecv hname hgrp hfile hout)
  | ignores hi hfd =>
    rw [view_answer]
    exact Or.inl .ignore
  | turn now polls hi hc hslot => exact step_turn hinv hg hshm hclient now polls hi hc hslot
  | restarts =>
    rw [view_new]
    exact Or.inl .crashServer
  | others h => exact Or.inr (h.view_eq hinv hg hclient x.link)

lemma Reaches.inv (hg : gid ∈ K.groupIds) (hshm : gid.useShm = false)
    (hclient : H.clientName.isEmpty = false) (h : Reaches H K R gid x) : Inv H K gid x.server := by
  induction h with
  | init clientBlk serverBlk => exact .new H K gid
  | step _ hstep ih => exact hstep.inv hg hshm hclient ih

/-- Another client logs on. -/
def otherLogsOn : Option (Server shortNames) :=
  (Server.smallStarted.accept Server.smallServer 5 0).visit (hostConf true) Server.smallServer 0 0
    (Server.smallLogin false (shortName 100)) Server.smallEnv

/-- After that the server accepts a connection, -/
def shared (S : Server shortNames) : Cluster shortNames :=
  ⟨S.accept Server.smallServer 6 0,
    .init System.smallHosts serverS (fun _ => ⟨0, 0, 0⟩) fun _ => ⟨0, 0, 0⟩⟩

/-- the client sends its login, -/
def asking (x : Cluster shortNames) : Option (Cluster shortNames) :=
  ((x.view System.smallHosts ⟨false, 0⟩).connect System.smallHosts).map (Cluster.mk x.server)

/-- and the server handles it. -/
def answering (x : Cluster shortNames) : Option (Cluster shortNames) :=
  (x.link.received System.smallHosts).bind fun (header, login) =>
    (x.server.handleLogin (hostConf true) Server.smallServer header login (x.server.newConns 0).fd 0
      Server.smallEnv).map fun out =>
        ⟨out.server.freeNewConn 0, x.afterLogin out (x.server.handledSent (hostConf true) header
          login (x.server.newConns 0).fd 0 Server.smallEnv)⟩

/-- The new connection is open, and the login is the client's. -/
def Asked (x : Cluster shortNames) : Prop :=
  0 ≤ (x.server.newConns 0).fd ∧ (x.link.received System.smallHosts).all
    (fun m => m.2.clientName = clientC ∧ m.2.useShm = false) = true

instance (x : Cluster shortNames) : Decidable (Asked x) := inferInstanceAs (Decidable (_ ∧ _))

lemma reaches_shared {S : Server shortNames} (h : otherLogsOn = some S) :
    Reaches System.smallHosts Server.smallServer ⟨64, by decide⟩ ⟨false, 0⟩ (shared S) := by
  have hnew : Reaches System.smallHosts Server.smallServer ⟨64, by decide⟩ ⟨false, 0⟩ _ :=
    .init (fun _ => ⟨0, 0, 0⟩) fun _ => ⟨0, 0, 0⟩
  have haccepted := (hnew.step (.others (.start 3))).step (.others (.accept 5 0))
  refine (haccepted.step (.others (.visit (by decide) h ?_))).step (.others (.accept 6 0))
  intro header msg header' login hrecv hvalid
  cases hrecv
  unfold receiveLogin at hvalid
  simp only at hvalid
  split_ifs at hvalid
  cases hvalid
  decide

lemma reaches_answering {S : Server shortNames} {x x' : Cluster shortNames}
    (h : Reaches System.smallHosts Server.smallServer ⟨64, by decide⟩ ⟨false, 0⟩ (shared S))
    (hasking : asking (shared S) = some x) (hasked : Asked x) (hanswering : answering x = some x') :
    Reaches System.smallHosts Server.smallServer ⟨64, by decide⟩ ⟨false, 0⟩ x' := by
  obtain ⟨s', hconnect, rfl⟩ := Option.map_eq_some_iff.mp hasking
  obtain ⟨hfd, hname⟩ := hasked
  obtain ⟨⟨header, login⟩, hrecv, hanswer⟩ := Option.bind_eq_some_iff.mp hanswering
  obtain ⟨out, hout, rfl⟩ := Option.map_eq_some_iff.mp hanswer
  rw [hrecv] at hname
  obtain ⟨hclient, htcp⟩ := of_decide_eq_true hname
  have hserver := (System.ClientStep.connect hconnect).server_eq.1
  have hfile : Server.smallEnv.files.ptcp = s'.server.file := by
    rw [hserver]
    rfl
  have hgrp : Server.smallEnv.group login = ⟨false, 0⟩ := by
    unfold HandleEnv.group
    rw [htcp]
    rfl
  exact (h.step (.client (.connect hconnect))).step
    (.login 0 Server.smallEnv (by decide) hfd hrecv hclient (Or.inr hgrp) hfile hout)

end Cluster

end Tcpshm
