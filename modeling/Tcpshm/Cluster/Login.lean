import Tcpshm.Link.Login
import Tcpshm.Cluster.Invariant

/-!
# Logging on among other clients

In a group over TCP `HandleLogin` does to the connection of the client what it does for a single
client, and where it never gets to that it refuses.
-/

namespace Tcpshm

/-! ### The matching connection -/

section

variable {F : LoginFormat} {C : Conf} {serverName : Name F} {conn : PTCPConnection}
  {file : PTCPQueue} {header : MsgHeader} {login : LoginMsg F} {fd now : Int} {sendOk : Bool}
  {rs : List SendResult}

lemma handleLogin_unknown (hname : login.lastServerName ≠ serverName) :
    handleLogin C serverName conn file header login fd now sendOk rs =
      some (answerLogin C serverName (conn.openFile file).reset ⟨0, 0, 0, 0, 0, 0⟩ fd now sendOk rs) :=
  if_pos hname

lemma answerLogin_status (n : SeqNumbers) :
    (answerLogin C serverName conn n fd now sendOk rs).rsp.status = 0 ↔
      (answerLogin C serverName conn n fd now sendOk rs).event = .sendFailed ∨
        (answerLogin C serverName conn n fd now sendOk rs).event = .clientLogon := by
  unfold answerLogin
  simp only
  split_ifs <;> simp [LoginRspMsg.convertByteOrder]

/-- The status is 0 where nothing but sending the response can fail. -/
lemma handleLogin_status {r : LoginHandled F}
    (h : handleLogin C serverName conn file header login fd now sendOk rs = some r) :
    r.rsp.status = 0 ↔ r.event = .sendFailed ∨ r.event = .clientLogon := by
  by_cases hname : login.lastServerName = serverName
  · rw [System.handleLogin_known rfl hname] at h
    cases hseq : (conn.q.getD file).sanityCheckAndGetSeq C.tcpQueueSize C.endian with
    | ok seqStart seqEnd =>
      rw [hseq] at h
      cases h
      exact answerLogin_status _
    | corrupt =>
      rw [hseq] at h
      cases h
      simp
    | outOfBounds =>
      rw [hseq] at h
      cases h
    | running =>
      rw [hseq] at h
      cases h
  · rw [handleLogin_unknown hname] at h
    cases h
    exact answerLogin_status _

end

namespace TcpShmConnection

variable {F : LoginFormat} {C : Conf} {serverName : Name F} {c : TcpShmConnection F}
  {header : MsgHeader} {login : LoginMsg F} {fd now : Int} {env : HandleEnv} {m : Matched F}

lemma mapOnce_fst_of_failed {α : Type} {ptr : Option α} {file : α} {err : Option MapError}
    {e : MapError} (h : (mapOnce ptr file err).2 = some e) : (mapOnce ptr file err).1 = ptr := by
  cases ptr <;> cases err <;> simp [mapOnce] at h ⊢

/-- Over TCP either the queue file cannot be mapped, or all is as it is for a single client. -/
theorem handleMatched_tcp (htcp : login.useShm = false) (hsend : c.shmSendq.isSome = false)
    (h : c.handleMatched C serverName header login fd now env = some m) :
    (m.conn = c ∧ m.event ≠ .clientLogon ∧
        (m.header, m.rsp) = (rspHeader F C 0, ⟨0, 0, 2, serverName, "System error"⟩)) ∨
      ∃ r, Tcpshm.handleLogin C serverName c.ptcpConn env.files.ptcp header login fd now env.sendOk
          env.sends = some r ∧
        m = ⟨{ c with ptcpConn := r.conn }, r.header, r.rsp, r.event⟩ ∧
        c.handledSent C serverName header login fd now env = r.sent := by
  have hopened := @openFile_mapped F c false env.files env.errs
  unfold handleMatched at h
  unfold handledSent
  rw [htcp] at h ⊢
  generalize hopen : c.openFile false env.files env.errs = opened at h hopened ⊢
  obtain ⟨c₁, _ | err⟩ := opened
  · have hc₁ : c₁ = { c with ptcpConn := c.ptcpConn.openFile env.files.ptcp } := hopened rfl
    have hshm : c₁.shmSendq.isSome = false := by rw [hc₁, hsend]
    refine Or.inr ?_
    simp only at h ⊢
    by_cases hname : login.lastServerName = serverName
    · have hseq := getSeq_of_tcp (C := C) hshm (q := c.ptcpConn.q.getD env.files.ptcp)
        (by rw [hc₁]; rfl)
      rw [if_neg (not_not.mpr hname), hseq] at h
      rw [System.handleLogin_known rfl hname, if_neg (not_not.mpr hname), hseq]
      cases hcheck : (c.ptcpConn.q.getD env.files.ptcp).sanityCheckAndGetSeq C.tcpQueueSize C.endian with
      | ok seqStart seqEnd =>
        rw [hcheck] at h
        cases h
        rw [if_neg (not_not.mpr hname), hc₁]
        exact ⟨_, rfl, rfl, rfl⟩
      | corrupt =>
        rw [hcheck] at h
        cases h
        rw [hc₁]
        exact ⟨_, rfl, rfl, rfl⟩
      | outOfBounds =>
        rw [hcheck] at h
        cases h
      | running =>
        rw [hcheck] at h
        cases h
    · have hreset : c₁.reset = { c₁ with ptcpConn := c₁.ptcpConn.reset } := by
        unfold TcpShmConnection.reset
        rw [hshm, if_neg Bool.false_ne_true]
      rw [if_pos hname, hreset] at h
      rw [handleLogin_unknown hname, if_pos hname, if_pos hname, hreset, hc₁]
      cases h
      rw [hc₁]
      exact ⟨_, rfl, rfl, rfl⟩
  · cases h
    refine Or.inl ⟨?_, fun hev => (nomatch hev), rfl⟩
    have hfailed : (mapOnce c.ptcpConn.q env.files.ptcp env.errs.ptcp).2 = some err :=
      congrArg Prod.snd hopen
    have hkept : { c with ptcpConn := { c.ptcpConn with
        q := (mapOnce c.ptcpConn.q env.files.ptcp env.errs.ptcp).1 } } = c₁ :=
      congrArg Prod.fst hopen
    rw [mapOnce_fst_of_failed hfailed] at hkept
    exact hkept.symm

end TcpShmConnection

/-! ### The server -/

namespace Server

variable {F : LoginFormat} {C : Conf} {K : ServerConf} {S : Server F} {i c : Nat}
  {header : MsgHeader} {login : LoginMsg F} {fd now : Int} {env : HandleEnv} {out : ServerHandled F}

lemma handleLogin_of_refused (h : S.handleLogin C K header login fd now env = some out)
    (hrefused : S.Refused login env) : ∃ errorMsg, out = S.refuse C errorMsg := by
  unfold handleLogin at h
  by_cases hname : login.clientName.isEmpty = true
  · rw [if_pos hname] at h
    cases h
    exact ⟨_, rfl⟩
  rw [if_neg hname] at h
  by_cases hgrp : env.grpid < 0
  · rw [if_pos hgrp] at h
    cases h
    exact ⟨_, rfl⟩
  rw [if_neg hgrp] at h
  have hnone : S.findSlot ⟨login.useShm, env.grpid.toNat⟩ login.clientName = none := by
    rcases hrefused with hr | hr | hr
    · exact absurd hr hname
    · exact absurd hr hgrp
    · exact hr
  simp only [hnone] at h
  split_ifs at h
  cases h
  exact ⟨_, rfl⟩

/-- `HandleLogin` for the slot that is found. -/
lemma handleLogin_of_finds (hrefused : ¬S.Refused login env) (hg : env.group login ∈ K.groupIds)
    (hfind : S.Finds (env.group login) login.clientName i c) :
    S.handleLogin C K header login fd now env = S.handleSlot C (env.group login) i header login fd
      now env := by
  have hgrp : ¬env.grpid < 0 := fun hneg => hrefused (Or.inr (Or.inl hneg))
  have hslot := findSlot_eq_some_iff.mpr ⟨c, hfind⟩
  unfold handleLogin
  rw [named_of_not_refused hrefused, if_neg Bool.false_ne_true, if_neg hgrp]
  unfold HandleEnv.group at *
  simp only [if_pos hg, hslot]

@[simp] lemma claim_serverName (S : Server F) (c : Nat) (name : Name F) :
    (S.claim c name).serverName = S.serverName := by
  unfold claim
  split_ifs <;> rfl

/-- The client is logged on already, or the connection is the one that matches. -/
lemma handleSlot_cases {gid : GroupId} (hc : (S.grps gid).conns[i]? = some c)
    (h : S.handleSlot C gid i header login fd now env = some out) :
    (i < (S.grps gid).liveCnt ∧
        out = (S.claim c login.clientName).refuse C "Already loggned on") ∨
      ((S.grps gid).liveCnt ≤ i ∧
        ∃ m, ((S.claim c login.clientName).pool c).handleMatched C S.serverName header login fd
            now env = some m ∧
          out = ⟨((S.claim c login.clientName).setConn c m.conn).fire gid i c m.event, m.header,
            m.rsp, m.event = .clientLogon⟩) := by
  unfold handleSlot at h
  simp only [ConnectionGroup.getD_conns hc, claim_grps, claim_serverName] at h
  split_ifs at h with hi
  · cases h
    exact Or.inl ⟨hi, rfl⟩
  · obtain ⟨m, hm, rfl⟩ := Option.map_eq_some_iff.mp h
    exact Or.inr ⟨not_lt.mp hi, m, hm, rfl⟩

lemma handledSent_of_finds (hfind : S.Finds (env.group login) login.clientName i c) :
    S.handledSent C header login fd now env =
      ((S.claim c login.clientName).pool c).handledSent C S.serverName header login fd now env := by
  have hslot := findSlot_eq_some_iff.mpr ⟨c, hfind⟩
  have hget := ConnectionGroup.getD_conns hfind.getElem?
  unfold handledSent
  unfold HandleEnv.group at *
  simp only [hslot, hget]

end Server

end Tcpshm
