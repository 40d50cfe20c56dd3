import Tcpshm.Server.Sweep

/-!
# The transport of a group

The connections of a group over TCP never map a queue in shared memory, and one that logged on in a
group over shared memory keeps both of its queues mapped.
-/

namespace Tcpshm

namespace TcpShmConnection

variable {F : LoginFormat} {C : Conf} {c c' : TcpShmConnection F} {useShm : Bool}

/-- Both queues in shared memory are mapped, or none of them. -/
structure Mapped (useShm : Bool) (c : TcpShmConnection F) : Prop where
  shmSendq : c.shmSendq.isSome = useShm
  shmRecvq : c.shmRecvq.isSome = useShm

namespace Mapped

lemma sendsOn (h : Mapped useShm c) : c.sendsOn = .ofFlag useShm := by
  unfold TcpShmConnection.sendsOn Transport.ofFlag
  rw [h.shmSendq]

lemma receivesOn (h : Mapped useShm c) : c.receivesOn = .ofFlag useShm := by
  unfold TcpShmConnection.receivesOn Transport.ofFlag
  rw [h.shmRecvq]

lemma keeps (h : Mapped useShm c) (hk : Keeps c c') : Mapped useShm c' :=
  ⟨hk.shmSendq.trans h.shmSendq, hk.shmRecvq.trans h.shmRecvq⟩

lemma reset (h : Mapped useShm c) : Mapped useShm c.reset := by
  unfold TcpShmConnection.reset
  split_ifs with hsend
  · exact ⟨hsend.symm.trans h.shmSendq, Option.isSome_map.trans h.shmRecvq⟩
  · exact ⟨h.shmSendq, h.shmRecvq⟩

lemma openFile (h : Mapped useShm c) (files : QueueFiles) (errs : MapErrors) :
    Mapped useShm (c.openFile useShm files errs).1 := by
  cases useShm with
  | false => exact ⟨h.shmSendq, h.shmRecvq⟩
  | true =>
    have hrecv := (c.openFile_mono true files errs).1 h.shmRecvq
    exact ⟨(c.openFile_shmSendq true files errs).mpr (Or.inl h.shmSendq), hrecv⟩

/-- After a successful `OpenFile`, where a connection over TCP had nothing mapped. -/
lemma of_openFile {files : QueueFiles} {errs : MapErrors}
    (h : useShm = false → Mapped false c) (hopen : (c.openFile useShm files errs).2 = none) :
    Mapped useShm (c.openFile useShm files errs).1 := by
  have hmapped := openFile_mapped hopen
  cases useShm with
  | false => exact ⟨(h rfl).shmSendq, (h rfl).shmRecvq⟩
  | true =>
    rw [if_pos rfl] at hmapped
    rw [hmapped]
    exact ⟨rfl, rfl⟩

end Mapped

end TcpShmConnection

namespace Server

variable {F : LoginFormat} {C : Conf} {R : RingSize} {K : ServerConf} {S S' : Server F}
  {gid : GroupId} {c : Nat} {header : MsgHeader} {login : LoginMsg F} {fd now : Int}
  {env : HandleEnv} {useShm : Bool}

open TcpShmConnection (Mapped)

lemma Mapped.prepare {conn : TcpShmConnection F} (serverName : Name F)
    (h : Mapped login.useShm (conn.openFile login.useShm env.files env.errs).1) :
    Mapped login.useShm (conn.prepare serverName login env) :=
  TcpShmConnection.prepare_of h fun _ hd => hd.reset

lemma claim_pool (S : Server F) (c d : Nat) (name : Name F) :
    ((S.claim c name).pool d).shmSendq = (S.pool d).shmSendq ∧
      ((S.claim c name).pool d).shmRecvq = (S.pool d).shmRecvq := by
  unfold claim
  split_ifs
  · by_cases hd : d = c
    · rw [hd, setConn_self]
      exact ⟨rfl, rfl⟩
    · rw [setConn_of_ne _ hd]
      exact ⟨rfl, rfl⟩
  · exact ⟨rfl, rfl⟩

lemma Mapped.claim {d : Nat} {name : Name F} (h : Mapped useShm (S.pool c)) :
    Mapped useShm ((S.claim d name).pool c) := by
  obtain ⟨hsend, hrecv⟩ := claim_pool S d c name
  exact ⟨hsend ▸ h.shmSendq, hrecv ▸ h.shmRecvq⟩

/-- A login maps what its group maps. -/
lemma Mapped.handleLogin {out : ServerHandled F} (hinv : Inv K S) (hg : gid ∈ K.groupIds)
    (hc : c ∈ K.slice gid) (h : Mapped gid.useShm (S.pool c))
    (hout : S.handleLogin C K header login fd now env = some out) :
    Mapped gid.useShm (out.server.pool c) := by
  obtain ⟨-, -, hserver⟩ | ⟨i, d, hg', -, hfind, hslot⟩ := handleLogin_cases hout
  · rw [hserver]
    exact h
  have hclaim : Mapped gid.useShm ((S.claim d login.clientName).pool c) := Mapped.claim h
  obtain ⟨-, -, hserver⟩ | ⟨-, m, hm, -, hserver⟩ := hslot
  · rw [hserver]
    exact hclaim
  rw [hserver, fire_pool]
  by_cases hcd : c = d
  · subst hcd
    have hmem : c ∈ (S.grps (env.group login)).conns := List.mem_of_getElem? hfind.getElem?
    obtain rfl : gid = env.group login := ServerConf.slice_disjoint hg hg' hc
      ((hinv.slots _ hg').perm.mem_iff.mp hmem)
    rw [setConn_self]
    have hprep : Mapped login.useShm
        (((S.claim c login.clientName).pool c).prepare S.serverName login env) :=
      Mapped.prepare S.serverName (hclaim.openFile env.files env.errs)
    obtain ⟨-, hconn⟩ | ⟨-, -, remoteAckSeq, hconn⟩ := TcpShmConnection.handleMatched_cases hm
    · rw [hconn]
      exact hprep
    · rw [hconn]
      exact ⟨hprep.shmSendq, hprep.shmRecvq⟩
  · rw [setConn_of_ne _ hcd]
    exact hclaim

lemma Mapped.step (hinv : Inv K S) (hg : gid ∈ K.groupIds) (hc : c ∈ K.slice gid)
    (h : Mapped gid.useShm (S.pool c)) (hstep : Step C R K S S') :
    Mapped gid.useShm (S'.pool c) := by
  have hset : ∀ {d : Nat} {conn : TcpShmConnection F}, (d = c → Mapped gid.useShm conn) →
      Mapped gid.useShm ((S.setConn d conn).pool c) := by
    intro d conn hconn
    by_cases hd : c = d
    · subst hd
      rw [setConn_self]
      exact hconn rfl
    · rw [setConn_of_ne _ hd]
      exact h
  cases hstep with
  | start fd =>
    rw [(SameTables.start S fd).pool]
    exact h
  | accept accepted now =>
    rw [(SameTables.accept S accepted now).pool]
    exact h
  | visit _ hvisit =>
    obtain ⟨-, rfl⟩ | ⟨-, rfl | rfl | ⟨header, login, out, hout, rfl⟩⟩ := visit_cases hvisit
    · exact h
    · exact h
    · exact h
    · exact Mapped.handleLogin hinv hg hc h hout
  | @turn gid' i now polls hg' hi =>
    obtain ⟨d, hd⟩ := hinv.getElem? hg' hi
    have hkeeps := pollConn_keeps (C := C) S gid' now polls d
    obtain ⟨-, hturn⟩ | ⟨-, hturn⟩ := turn_cases (C := C) hd now polls
    · rw [hturn]
      exact hset fun hdc => (hdc ▸ h).keeps hkeeps
    · rw [hturn]
      refine hset fun hdc => ?_
      have hpolled := (hdc ▸ h : Mapped gid.useShm (S.pool d)).keeps hkeeps
      exact ⟨hpolled.shmSendq, hpolled.shmRecvq⟩
  | call d e => exact hset fun hdc => (hdc ▸ h).keeps (e.keeps _)

theorem Steps.mapped (hinv : Inv K S) (hg : gid ∈ K.groupIds) (hc : c ∈ K.slice gid)
    (h : Mapped gid.useShm (S.pool c)) (hsteps : Steps C R K S S') :
    Mapped gid.useShm (S'.pool c) := by
  have hboth : Inv K S' ∧ Mapped gid.useShm (S'.pool c) := by
    induction hsteps with
    | refl => exact ⟨hinv, h⟩
    | tail _ hstep ih => exact ⟨ih.1.change (hstep.change ih.1), Mapped.step ih.1 hg hc ih.2 hstep⟩
  exact hboth.2

/-- The connections of a group over TCP. -/
theorem Reaches.tcp_mapped {serverName : Name F} (h : Reaches C R K (.new C K serverName) S)
    (hg : gid ∈ K.groupIds) (hc : c ∈ K.slice gid) (htcp : gid.useShm = false) :
    Mapped false (S.pool c) := by
  induction h with
  | refl => exact ⟨rfl, rfl⟩
  | tail hreach hstep ih =>
    rcases hstep with hstep | rfl
    · rw [← htcp] at ih ⊢
      exact Mapped.step (Reaches.inv hreach) hg hc ih hstep
    · unfold stop
      split_ifs
      · exact ih
      · show Mapped false (if _ then _ else _ : TcpShmConnection F)
        split_ifs
        · exact ⟨rfl, rfl⟩
        · exact ih

/-- A connection that logs on has mapped what its group maps. -/
theorem handleLogin_mapped {serverName : Name F} {out : ServerHandled F}
    (hreach : Reaches C R K (.new C K serverName) S)
    (hout : S.handleLogin C K header login fd now env = some out) (hlogon : out.logon = true) :
    ∃ c, c ∈ K.slice (env.group login) ∧ env.group login ∈ K.groupIds ∧
      out.server.log.getLast? = some (.clientLogon c) ∧
      Mapped login.useShm (out.server.pool c) := by
  obtain ⟨-, hfail, -⟩ | ⟨i, c, hg, -, hfind, hslot⟩ := handleLogin_cases hout
  · exact (nomatch hfail.symm.trans hlogon)
  obtain ⟨-, hfail, -⟩ | ⟨-, m, hm, hev, hserver⟩ := hslot
  · exact (nomatch hfail.symm.trans hlogon)
  have hmem : c ∈ K.slice (env.group login) :=
    (hreach.inv.slots _ hg).perm.mem_iff.mp (List.mem_of_getElem? hfind.getElem?)
  have hlogged := of_decide_eq_true (hev.symm.trans hlogon)
  obtain ⟨hno, -⟩ | ⟨-, hopen, remoteAckSeq, hconn⟩ := TcpShmConnection.handleMatched_cases hm
  · exact absurd hlogged hno
  refine ⟨c, hmem, hg, ?_, ?_⟩
  · rw [hserver, hlogged]
    exact List.getLast?_concat ..
  · have hfree : login.useShm = false →
        Mapped false ((S.claim c login.clientName).pool c) := fun htcp =>
      Mapped.claim (hreach.tcp_mapped hg hmem htcp)
    have hopened := Mapped.of_openFile hfree hopen
    rw [hserver, hlogged]
    show Mapped login.useShm (((S.claim c login.clientName).setConn c m.conn).pool c)
    rw [setConn_self, hconn]
    have hprep := Mapped.prepare S.serverName hopened
    exact ⟨hprep.shmSendq, hprep.shmRecvq⟩

/-! ### The name of the server -/

lemma handleMatched_serverName {conn : TcpShmConnection F} {serverName : Name F} {m : Matched F}
    (h : conn.handleMatched C serverName header login fd now env = some m) :
    m.rsp.serverName = serverName := by
  have hanswer : ∀ (d : TcpShmConnection F) (n : SeqNumbers),
      (d.answer C serverName n fd now env).rsp.serverName = serverName := by
    intro d n
    unfold TcpShmConnection.answer answerLogin
    simp only
    split_ifs <;> rfl
  unfold TcpShmConnection.handleMatched at h
  generalize conn.openFile login.useShm env.files env.errs = opened at h
  obtain ⟨d, _ | err⟩ := opened
  · simp only at h
    split_ifs at h
    · cases h
      exact hanswer _ _
    · cases hseq : d.getSeq C with
      | ok ackSeq seqStart seqEnd =>
        rw [hseq] at h
        cases h
        exact hanswer _ _
      | corrupt =>
        rw [hseq] at h
        cases h
        rfl
      | undefined =>
        rw [hseq] at h
        cases h
  · cases h
    rfl

/-- The server answers under its name, and keeps it. -/
lemma handleLogin_serverName {out : ServerHandled F}
    (h : S.handleLogin C K header login fd now env = some out) :
    out.rsp.serverName = S.serverName ∧ out.server.serverName = S.serverName := by
  have hclaim : ∀ c, (S.claim c login.clientName).serverName = S.serverName := by
    intro c
    unfold claim
    split_ifs <;> rfl
  unfold handleLogin at h
  simp only at h
  split_ifs at h
  · cases h
    exact ⟨rfl, rfl⟩
  · cases h
    exact ⟨rfl, rfl⟩
  · cases h
    exact ⟨rfl, rfl⟩
  · cases hfind : S.findSlot ⟨login.useShm, env.grpid.toNat⟩ login.clientName with
    | none =>
      rw [hfind] at h
      cases h
      exact ⟨rfl, rfl⟩
    | some i =>
      rw [hfind] at h
      unfold handleSlot at h
      simp only at h
      split_ifs at h
      · cases h
        exact ⟨hclaim _, hclaim _⟩
      · obtain ⟨m, hm, rfl⟩ := Option.map_eq_some_iff.mp h
        refine ⟨(handleMatched_serverName hm).trans (hclaim _), ?_⟩
        exact (fire_serverName _ _ _ _ _).trans (hclaim _)

lemma Reaches.serverName_eq {serverName : Name F}
    (h : Reaches C R K (.new C K serverName) S) : S.serverName = serverName := by
  induction h with
  | refl => rfl
  | tail _ hstep ih =>
    rcases hstep with hstep | rfl
    · cases hstep with
      | start fd => exact (SameTables.start _ fd).serverName.trans ih
      | accept accepted now => exact (SameTables.accept _ accepted now).serverName.trans ih
      | visit _ hvisit =>
        obtain ⟨-, rfl⟩ | ⟨-, rfl | rfl | ⟨header, login, out, hout, rfl⟩⟩ := visit_cases hvisit
        · exact ih
        · exact ih
        · exact ih
        · exact (handleLogin_serverName hout).2.trans ih
      | turn now polls _ _ =>
        unfold turn
        simp only
        split_ifs
        · exact ih
        · exact ih
      | call c e => exact ih
    · unfold stop
      split_ifs
      · exact ih
      · exact ih

end Server

end Tcpshm
