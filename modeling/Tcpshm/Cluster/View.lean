import Tcpshm.Link.Session
import Tcpshm.Cluster.Login

/-!
# What the client sees of a login

Where the server handles a login of the client, the client sees a single server that handles it or
refuses it.
-/

namespace Tcpshm.Cluster

open Server (Touches SameTables)

variable {F : LoginFormat} {H : Hosts F} {K : ServerConf} {gid : GroupId}
  {x : Cluster F} {S S' : Server F} {link : System F} {i c : Nat} {header : MsgHeader}
  {login : LoginMsg F} {now : Int} {env : HandleEnv} {out : ServerHandled F}

/-! ### The view -/

lemma view_eq {conn : PTCPConnection} {live : Bool}
    (hconn : S.connOf H.server gid H.clientName = conn) (hlive : S.liveOf gid H.clientName = live) :
    (Cluster.mk S link).view H gid =
      { link with server := link.server.withConn conn, live := live } := by
  unfold view
  rw [hconn, hlive]

lemma view_answer (S : Server F) (link : System F)
    (response : Option (MsgHeader × LoginRspMsg F)) :
    (Cluster.mk S (link.answer response)).view H gid =
      ((Cluster.mk S link).view H gid).answer response := by
  obtain ⟨client, server, name, connecting, late, live, joined, toServer, toClient⟩ := link
  cases late <;> cases connecting <;> rfl

lemma answer_view (response : Option (MsgHeader × LoginRspMsg F)) :
    (x.view H gid).answer response =
      { x.link.answer response with
        server := (x.view H gid).server
        live := x.server.liveOf gid H.clientName } := by
  obtain ⟨S, client, server, name, connecting, late, live, joined, toServer, toClient⟩ := x
  cases late <;> cases connecting <;> rfl

/-! ### The login -/

lemma refuse_eq (hname : S.serverName = H.serverName) (errorMsg : String) :
    ((S.refuse H.server errorMsg).header, (S.refuse H.server errorMsg).rsp) =
      System.refusal H errorMsg := by
  unfold Server.refuse System.refusal
  rw [hname]

/-- The server refuses, and does nothing to the connection. -/
lemma step_refuse {errorMsg : String} {sent : List UInt8} (hlogon : out.logon = false)
    (hrsp : (out.header, out.rsp) = System.refusal H errorMsg)
    (hconn : S'.connOf H.server gid H.clientName = x.server.connOf H.server gid H.clientName)
    (hlive : S'.liveOf gid H.clientName = x.server.liveOf gid H.clientName) :
    System.Step H (x.view H gid) ((Cluster.mk S' (x.afterLogin out sent)).view H gid) := by
  have hstatus : out.rsp.status ≠ 0 := by
    have h2 : out.rsp = (System.refusal H errorMsg).2 := congrArg Prod.snd hrsp
    rw [h2]
    exact (nomatch ·)
  have hafter : x.afterLogin out sent = x.link.answer (some (System.refusal H errorMsg)) := by
    unfold afterLogin
    rw [hlogon, if_neg Bool.false_ne_true, if_neg hstatus, hrsp]
  rw [hafter, view_answer, view_eq hconn hlive]
  exact .refuse errorMsg

/-- The server does what it does for a single client. -/
lemma step_handle {r : LoginHandled F} {fd : Int} {sendOk : Bool} {rs : List SendResult}
    (hrecv : x.link.received H = some (header, login))
    (hr : handleLogin H.server H.serverName (x.server.connOf H.server gid H.clientName)
      x.link.server.file header login fd now sendOk rs = some r)
    (hdown : x.server.liveOf gid H.clientName = false) (hheader : out.header = r.header)
    (hrsp : out.rsp = r.rsp) (hlogon : out.logon = decide (r.event = .clientLogon))
    (hconn : S'.connOf H.server gid H.clientName = r.conn)
    (hlive : S'.liveOf gid H.clientName = decide (r.event = .clientLogon)) :
    System.Step H (x.view H gid) ((Cluster.mk S' (x.afterLogin out r.sent)).view H gid) := by
  have hhandled : (x.view H gid).handled H fd now sendOk rs = some r := by
    unfold System.handled
    rw [show (x.view H gid).received H = some (header, login) from hrecv]
    exact hr
  have hdown' : ¬(x.view H gid).live = true := by
    rw [show (x.view H gid).live = false from hdown]
    exact Bool.false_ne_true
  have hstatus := handleLogin_status hr
  refine .handle fd now sendOk rs ?_
  unfold System.handle
  rw [if_neg hdown', hhandled, Option.map_some, view_eq hconn hlive]
  unfold System.afterHandle afterLogin
  rw [hlogon, hheader, hrsp]
  have hfail : ∀ (response : Option (MsgHeader × LoginRspMsg F)),
      { (x.view H gid).answer response with server := (x.view H gid).server.withConn r.conn } =
        { x.link.answer response with
          server := (x.link.answer response).server.withConn r.conn, live := false } := by
    intro response
    rw [answer_view, hdown, System.answer_server]
    rfl
  cases hev : r.event with
  | clientLogon =>
    simp only [decide_true, if_true]
    rw [answer_view]
    rfl
  | sendFailed =>
    rw [if_pos (hstatus.mpr (Or.inl hev))]
    exact congrArg some (hfail none)
  | clientFileError errorMsg =>
    rw [if_neg (mt hstatus.mp (by simp [hev]))]
    exact congrArg some (hfail (some (r.header, r.rsp)))
  | seqNumberMismatch n =>
    rw [if_neg (mt hstatus.mp (by simp [hev]))]
    exact congrArg some (hfail (some (r.header, r.rsp)))

/-- The login is visited as any login is. -/
lemma visit_of_received (hfd : 0 ≤ (x.server.newConns i).fd)
    (hrecv : x.link.received H = some (header, login))
    (hout : x.server.handleLogin H.server K header login (x.server.newConns i).fd now env =
      some out) :
    ∃ recv, x.server.visit H.server K i now recv env = some (out.server.freeNewConn i) := by
  obtain ⟨⟨header₀, login₀⟩, -, hvalid⟩ := Option.bind_eq_some_iff.mp hrecv
  refine ⟨.login (header₀.carry H.client.endian.isLittle H.server.endian.isLittle)
    (login₀.carry H.client.endian.isLittle H.server.endian.isLittle), ?_⟩
  have hvalid' : receiveLogin H.server
      (header₀.carry H.client.endian.isLittle H.server.endian.isLittle)
      (login₀.carry H.client.endian.isLittle H.server.endian.isLittle) = some (header, login) := hvalid
  unfold Server.visit
  rw [if_neg (not_lt.mpr hfd)]
  simp only [hvalid', hout, Option.map_some]

lemma Inv.afterLogin (hinv : Inv H K gid x.server) (hg : gid ∈ K.groupIds)
    (hshm : gid.useShm = false) (hfd : 0 ≤ (x.server.newConns i).fd)
    (hrecv : x.link.received H = some (header, login))
    (hout : x.server.handleLogin H.server K header login (x.server.newConns i).fd now env =
      some out) :
    Inv H K gid (out.server.freeNewConn i) := by
  have hfree := SameTables.freeNewConn out.server i
  obtain ⟨-, hserver⟩ | ⟨j, c, -, htouches, hnames, hnamed⟩ := Server.handleLogin_touches hout
  · rw [hserver] at hfree ⊢
    exact hinv.sameTables hfree
  · obtain ⟨recv, hvisit⟩ := visit_of_received hfd hrecv hout
    refine hinv.touches (hinv.tables.change (.of_visit hvisit)) (fun d hd => ?_)
      (htouches.trans (.of_sameTables c hfree)) ?_
    · have htcp := hinv.tcp d hd
      rw [← hshm] at htcp ⊢
      exact Server.Mapped.handleLogin hinv.tables hg hd htcp hout
    · rw [hfree.quiet.names, hnames]
      exact hnamed

/-- The slot once it is taken. -/
lemma slot_afterLogin (htables : Server.Inv K S') (hg : gid ∈ K.groupIds)
    (hclient : H.clientName.isEmpty = false) (hnames : S'.names c = H.clientName)
    (hc : c ∈ K.slice gid) : S'.slot gid H.clientName = some c := by
  rw [Server.slot_eq_some_iff htables hg hclient, (htables.slots gid hg).perm.mem_iff]
  exact ⟨hc, hnames⟩

lemma mem_live_fire {ev : LoginEvent} (hi : (S.grps gid).liveCnt ≤ i)
    (hc : (S.grps gid).conns[i]? = some c) (hdown : c ∉ (S.grps gid).live) :
    c ∈ ((S.fire gid i c ev).grps gid).live ↔ ev = .clientLogon := by
  cases ev with
  | clientLogon =>
    simp [Server.fire, Server.logs, Server.setGrp, ConnectionGroup.goLive_live hi hc]
  | clientFileError errorMsg => exact iff_of_false hdown (nomatch ·)
  | seqNumberMismatch n => exact iff_of_false hdown (nomatch ·)
  | sendFailed => exact iff_of_false hdown (nomatch ·)

/-- What the client sees of its connection once it is matched. -/
lemma connOf_matched {m : Matched F} {name : Name F} {j : Nat}
    (hslot : ((((S.claim c name).setConn c m.conn).fire gid j c m.event).freeNewConn i).slot gid
      H.clientName = some c) :
    ((((S.claim c name).setConn c m.conn).fire gid j c m.event).freeNewConn i).connOf H.server gid
      H.clientName = m.conn.ptcpConn := by
  rw [Server.connOf_of_slot hslot]
  show ((Server.fire _ gid j c m.event).pool c).ptcpConn = _
  rw [Server.fire_pool, Server.setConn_self]

lemma liveOf_matched {m : Matched F} {name : Name F} {j : Nat} (hj : (S.grps gid).liveCnt ≤ j)
    (hc : (S.grps gid).conns[j]? = some c) (hdown : c ∉ (S.grps gid).live)
    (hslot : ((((S.claim c name).setConn c m.conn).fire gid j c m.event).freeNewConn i).slot gid
      H.clientName = some c) :
    ((((S.claim c name).setConn c m.conn).fire gid j c m.event).freeNewConn i).liveOf gid
      H.clientName = decide (m.event = .clientLogon) := by
  have hgrps : ((S.claim c name).setConn c m.conn).grps = S.grps := Server.claim_grps S c name
  rw [Server.liveOf_of_slot hslot]
  refine decide_eq_decide.mpr (mem_live_fire ?_ ?_ ?_)
  · rw [hgrps]
    exact hj
  · rw [hgrps]
    exact hc
  · rw [hgrps]
    exact hdown

lemma claim_ptcpConn (S : Server F) (c : Nat) (name : Name F) :
    ((S.claim c name).pool c).ptcpConn = (S.pool c).ptcpConn := by
  unfold Server.claim
  split_ifs
  · rw [Server.setConn_self]
  · rfl

/-- A login of the client is refused or handled. -/
theorem step_login (hinv : Inv H K gid x.server) (hg : gid ∈ K.groupIds) (hshm : gid.useShm = false)
    (hclient : H.clientName.isEmpty = false) (hfd : 0 ≤ (x.server.newConns i).fd)
    (hrecv : x.link.received H = some (header, login)) (hname : login.clientName = H.clientName)
    (hgrp : env.grpid < 0 ∨ env.group login = gid) (hfile : env.files.ptcp = x.link.server.file)
    (hout : x.server.handleLogin H.server K header login (x.server.newConns i).fd now env =
      some out) :
    System.Step H (x.view H gid) ((Cluster.mk (out.server.freeNewConn i) (x.afterLogin out
      (x.server.handledSent H.server header login (x.server.newConns i).fd now env))).view H gid) := by
  have hinv' := hinv.afterLogin hg hshm hfd hrecv hout
  by_cases hrefused : x.server.Refused login env
  · obtain ⟨errorMsg, rfl⟩ := Server.handleLogin_of_refused hout hrefused
    exact step_refuse rfl (refuse_eq hinv.serverName _) rfl rfl
  obtain ⟨hno, -⟩ | ⟨j, c, hg', -, hfind, hslot⟩ := Server.handleLogin_cases hout
  · exact absurd hno hrefused
  have hnames : out.server.names c = H.clientName := by
    rw [Server.handleLogin_names hslot, hfind.claim_names, hname]
  have hgid : env.group login = gid := by
    rcases hgrp with hneg | hgid
    · exact absurd (Or.inr (Or.inl hneg)) hrefused
    · exact hgid
  have hsent : x.server.handledSent H.server header login (x.server.newConns i).fd now env = _ :=
    Server.handledSent_of_finds hfind
  have htcp : login.useShm = false := by
    rw [← hshm, ← hgid]
    rfl
  rw [Server.handleLogin_of_finds hrefused hg' hfind] at hout
  rw [hgid] at hfind hout
  rw [hname] at hfind
  have hconn := hinv.connOf_of_finds hg hclient hfind
  have hlive := Server.liveOf_of_finds hinv.tables hg hclient hfind
  obtain ⟨hj, rfl⟩ | ⟨hj, m, hm, rfl⟩ := Server.handleSlot_cases hfind.getElem? hout
  · have hnamed := (hinv.tables.slots gid hg).live_named hj hfind.getElem?
    rw [Server.claim_of_named hnamed]
    exact step_refuse rfl (refuse_eq hinv.serverName _) rfl rfl
  have hmem := (hinv.tables.slots gid hg).perm.mem_iff.mp (List.mem_of_getElem? hfind.getElem?)
  have hslot' := slot_afterLogin hinv'.tables hg hclient hnames hmem
  have hdown := mt (Server.mem_live_iff hinv.tables hg hfind.getElem?).mp (not_lt.mpr hj)
  have hconn' := connOf_matched hslot'
  have hlive' := liveOf_matched hj hfind.getElem? hdown hslot'
  rw [decide_eq_false (not_lt.mpr hj)] at hlive
  have hmapped : TcpShmConnection.Mapped false ((x.server.claim c login.clientName).pool c) :=
    Server.Mapped.claim (hinv.tcp c hmem)
  obtain ⟨hkept, hev, hrsp⟩ | ⟨r, hr, rfl, hsent'⟩ :=
    TcpShmConnection.handleMatched_tcp htcp hmapped.shmSendq hm
  · rw [hinv.serverName] at hrsp
    refine step_refuse (decide_eq_false hev) hrsp ?_ ?_
    · rw [hconn', hkept, claim_ptcpConn, hconn]
    · rw [hlive', hlive, decide_eq_false hev]
  · rw [hinv.serverName, claim_ptcpConn, ← hconn, hfile] at hr
    rw [hsent, hsent']
    exact step_handle hrecv hr hlive rfl rfl rfl hconn' hlive'

end Tcpshm.Cluster
