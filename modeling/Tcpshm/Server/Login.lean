import Tcpshm.Server.Basic
import Tcpshm.TcpShmConn.Files

/-!
# What a login does to the server

`HandleLogin` inverted once: it refuses and leaves the tables alone, or it takes a slot, and then
the connection there is prepared and, on success, opened.
-/

namespace Tcpshm

namespace TcpShmConnection

variable {F : LoginFormat} {C : Conf} {serverName : Name F} {c : TcpShmConnection F}
  {header : MsgHeader} {login : LoginMsg F} {fd now : Int} {env : HandleEnv}

/-- The connection after `OpenFile` and, for a client that knows another server name, `Reset`. -/
def prepare (c : TcpShmConnection F) (serverName : Name F) (login : LoginMsg F)
    (env : HandleEnv) : TcpShmConnection F :=
  match c.openFile login.useShm env.files env.errs with
  | (c, some _) => c
  | (c, none) => if login.lastServerName ≠ serverName then c.reset else c

/-! ### What stays -/

/-- What `OpenFile` leaves true and `Reset` keeps. -/
lemma prepare_of {P : TcpShmConnection F → Prop}
    (hopen : P (c.openFile login.useShm env.files env.errs).1) (hreset : ∀ d, P d → P d.reset) :
    P (c.prepare serverName login env) := by
  unfold prepare
  generalize c.openFile login.useShm env.files env.errs = opened at hopen ⊢
  obtain ⟨d, _ | err⟩ := opened
  · simp only
    split_ifs
    · exact hreset d hopen
    · exact hopen
  · exact hopen

@[simp] lemma prepare_remoteName (c : TcpShmConnection F) :
    (c.prepare serverName login env).remoteName = c.remoteName :=
  @prepare_of F serverName c login env (·.remoteName = c.remoteName)
    (openFile_remoteName c _ _ _) fun d hd => (reset_remoteName d).trans hd

@[simp] lemma prepare_fdToClose (c : TcpShmConnection F) :
    (c.prepare serverName login env).ptcpConn.fdToClose = c.ptcpConn.fdToClose :=
  @prepare_of F serverName c login env (·.ptcpConn.fdToClose = c.ptcpConn.fdToClose)
    (openFile_fdToClose c _ _ _) fun d hd => (reset_fdToClose d).trans hd

/-! ### The matching connection -/

lemma answer_cases (c : TcpShmConnection F) (n : SeqNumbers) (fd now : Int) (env : HandleEnv) :
    ((c.answer C serverName n fd now env).event ≠ .clientLogon ∧
        (c.answer C serverName n fd now env).conn = c) ∨
      ((c.answer C serverName n fd now env).event = .clientLogon ∧
        (c.answer C serverName n fd now env).conn =
          (c.open C fd n.remoteAckSeq now env.sends).1) := by
  unfold answer answerLogin
  simp only
  split_ifs
  · exact Or.inl ⟨(nomatch ·), rfl⟩
  · exact Or.inl ⟨(nomatch ·), rfl⟩
  · exact Or.inr ⟨rfl, rfl⟩

/-- The files could be mapped where the login succeeds. -/
theorem handleMatched_cases {m : Matched F}
    (h : c.handleMatched C serverName header login fd now env = some m) :
    (m.event ≠ .clientLogon ∧ m.conn = c.prepare serverName login env) ∨
      (m.event = .clientLogon ∧ (c.openFile login.useShm env.files env.errs).2 = none ∧
        ∃ remoteAckSeq, m.conn =
          ((c.prepare serverName login env).open C fd remoteAckSeq now env.sends).1) := by
  unfold handleMatched prepare at *
  generalize c.openFile login.useShm env.files env.errs = opened at h ⊢
  obtain ⟨c₁, _ | err⟩ := opened
  · simp only at h ⊢
    by_cases hname : login.lastServerName ≠ serverName
    · rw [if_pos hname] at h ⊢
      cases h
      obtain ⟨hev, hconn⟩ | ⟨hev, hconn⟩ :=
        @answer_cases F C serverName c₁.reset ⟨0, 0, 0, 0, 0, 0⟩ fd now env
      · exact Or.inl ⟨hev, hconn⟩
      · exact Or.inr ⟨hev, trivial, _, hconn⟩
    rw [if_neg hname] at h ⊢
    cases hseq : c₁.getSeq C with
    | ok ackSeq seqStart seqEnd =>
      rw [hseq] at h
      cases h
      obtain ⟨hev, hconn⟩ | ⟨hev, hconn⟩ :=
        @answer_cases F C serverName c₁ ⟨ackSeq, seqStart, seqEnd,
          header.ackSeq, login.clientSeqStart, login.clientSeqEnd⟩ fd now env
      · exact Or.inl ⟨hev, hconn⟩
      · exact Or.inr ⟨hev, trivial, _, hconn⟩
    | corrupt =>
      rw [hseq] at h
      cases h
      exact Or.inl ⟨(nomatch ·), rfl⟩
    | undefined =>
      rw [hseq] at h
      cases h
  · cases h
    exact Or.inl ⟨(nomatch ·), rfl⟩

end TcpShmConnection

/-- The group that the callback chose. -/
def HandleEnv.group {F : LoginFormat} (env : HandleEnv) (login : LoginMsg F) : GroupId :=
  ⟨login.useShm, env.grpid.toNat⟩

namespace Server

variable {F : LoginFormat} {C : Conf} {K : ServerConf} {S : Server F} {gid : GroupId} {i c : Nat}
  {header : MsgHeader} {login : LoginMsg F} {fd now : Int} {env : HandleEnv}

/-! ### The search for a slot -/

/-- The slot at `i` is the first one that is unused or has the client's name. -/
structure Finds (S : Server F) (gid : GroupId) (clientName : Name F) (i c : Nat) : Prop where
  getElem? : (S.grps gid).conns[i]? = some c
  matched : (S.pool c).remoteName.isEmpty = true ∨ (S.pool c).remoteName = clientName
  first : ∀ j < i, ∀ d, (S.grps gid).conns[j]? = some d →
    (S.pool d).remoteName.isEmpty = false ∧ (S.pool d).remoteName ≠ clientName

lemma findSlot_eq_some_iff {clientName : Name F} :
    S.findSlot gid clientName = some i ↔ ∃ c, S.Finds gid clientName i c := by
  unfold findSlot
  rw [List.findIdx?_eq_some_iff_getElem]
  constructor
  · rintro ⟨hi, hmatch, hfirst⟩
    rw [Bool.or_eq_true, decide_eq_true_iff] at hmatch
    refine ⟨_, List.getElem?_eq_getElem hi, hmatch, fun j hj d hd => ?_⟩
    obtain ⟨hjl, rfl⟩ := List.getElem?_eq_some_iff.mp hd
    have hno := hfirst j hj
    rw [Bool.not_eq_true, Bool.or_eq_false_iff, decide_eq_false_iff_not] at hno
    exact hno
  · rintro ⟨c, hc, hmatch, hfirst⟩
    obtain ⟨hi, rfl⟩ := List.getElem?_eq_some_iff.mp hc
    refine ⟨hi, ?_, fun j hj => ?_⟩
    · rw [Bool.or_eq_true, decide_eq_true_iff]
      exact hmatch
    · rw [Bool.not_eq_true, Bool.or_eq_false_iff, decide_eq_false_iff_not]
      exact hfirst j hj _ (List.getElem?_eq_getElem (hj.trans hi))

/-! ### `HandleLogin` -/

/-- The exits before a slot is taken. -/
def Refused (S : Server F) (login : LoginMsg F) (env : HandleEnv) : Prop :=
  login.clientName.isEmpty = true ∨ env.grpid < 0 ∨
    S.findSlot (env.group login) login.clientName = none

lemma named_of_not_refused (h : ¬S.Refused login env) : login.clientName.isEmpty = false :=
  Bool.not_eq_true _ ▸ fun hempty => h (Or.inl hempty)

/-- Before a slot is taken nothing happens; a client that is logged on keeps its slot. -/
theorem handleLogin_cases {out : ServerHandled F}
    (h : S.handleLogin C K header login fd now env = some out) :
    (S.Refused login env ∧ out.logon = false ∧ out.server = S) ∨
      ∃ i c, env.group login ∈ K.groupIds ∧ ¬S.Refused login env ∧
        S.Finds (env.group login) login.clientName i c ∧
        ((i < (S.grps (env.group login)).liveCnt ∧ out.logon = false ∧
            out.server = S.claim c login.clientName) ∨
          ((S.grps (env.group login)).liveCnt ≤ i ∧
            ∃ m, ((S.claim c login.clientName).pool c).handleMatched C S.serverName header login
                fd now env = some m ∧ out.logon = decide (m.event = .clientLogon) ∧
              out.server = ((S.claim c login.clientName).setConn c m.conn).fire
                (env.group login) i c m.event)) := by
  unfold handleLogin at h
  by_cases hname : login.clientName.isEmpty = true
  · rw [if_pos hname] at h
    cases h
    exact Or.inl ⟨Or.inl hname, rfl, rfl⟩
  rw [if_neg hname] at h
  by_cases hgrp : env.grpid < 0
  · rw [if_pos hgrp] at h
    cases h
    exact Or.inl ⟨Or.inr (Or.inl hgrp), rfl, rfl⟩
  rw [if_neg hgrp] at h
  simp only at h
  split_ifs at h with hgid
  cases hfind : S.findSlot (env.group login) login.clientName with
  | none =>
    have hfind' : S.findSlot ⟨login.useShm, env.grpid.toNat⟩ login.clientName = none := hfind
    rw [hfind'] at h
    cases h
    exact Or.inl ⟨Or.inr (Or.inr hfind), rfl, rfl⟩
  | some i =>
    have hfind' : S.findSlot ⟨login.useShm, env.grpid.toNat⟩ login.clientName = some i := hfind
    rw [hfind'] at h
    obtain ⟨c, hc⟩ := findSlot_eq_some_iff.mp hfind
    have hrefused : ¬S.Refused login env := by
      rintro (hempty | hneg | hnone)
      · exact hname hempty
      · exact hgrp hneg
      · exact (nomatch hfind.symm.trans hnone)
    refine Or.inr ⟨i, c, hgid, hrefused, hc, ?_⟩
    have hget : (S.grps ⟨login.useShm, env.grpid.toNat⟩).conns.getD i 0 = c := by
      rw [List.getD_eq_getElem?_getD]
      exact (congrArg (Option.getD · 0) hc.getElem?)
    have hgrps : (S.claim c login.clientName).grps = S.grps := by
      unfold claim
      split_ifs <;> rfl
    have hserver : (S.claim c login.clientName).serverName = S.serverName := by
      unfold claim
      split_ifs <;> rfl
    simp only [handleSlot, hget, hgrps, hserver] at h
    split_ifs at h with hlive
    · cases h
      exact Or.inl ⟨hlive, rfl, rfl⟩
    · obtain ⟨m, hm, rfl⟩ := Option.map_eq_some_iff.mp h
      exact Or.inr ⟨not_lt.mp hlive, m, hm, rfl, rfl⟩

@[simp] lemma fire_pool (S : Server F) (gid : GroupId) (i c : Nat) (ev : LoginEvent) :
    (S.fire gid i c ev).pool = S.pool := by
  cases ev <;> rfl

@[simp] lemma fire_serverName (S : Server F) (gid : GroupId) (i c : Nat) (ev : LoginEvent) :
    (S.fire gid i c ev).serverName = S.serverName := by
  cases ev <;> rfl

/-! ### The new connections -/

/-- Only the new connections change. -/
structure SameTables (S S' : Server F) : Prop where
  serverName : S'.serverName = S.serverName
  pool : S'.pool = S.pool
  grps : S'.grps = S.grps
  log : S'.log = S.log

lemma SameTables.accept (S : Server F) (accepted now : Int) :
    SameTables S (S.accept K accepted now) := by
  unfold Server.accept
  simp only
  split_ifs <;> exact ⟨rfl, rfl, rfl, rfl⟩

lemma SameTables.start (S : Server F) (fd : Int) : SameTables S (S.start fd) := by
  unfold Server.start
  split_ifs <;> exact ⟨rfl, rfl, rfl, rfl⟩

lemma SameTables.freeNewConn (S : Server F) (i : Nat) : SameTables S (S.freeNewConn i) :=
  ⟨rfl, rfl, rfl, rfl⟩

/-- A turn passes over an unused entry, waits, or is done with the new connection, by a login or
not. -/
theorem visit_cases {S' : Server F} {recv : LoginRecv F}
    (h : S.visit C K i now recv env = some S') :
    ((S.newConns i).fd < 0 ∧ S' = { S with availIdx := i }) ∨
      (0 ≤ (S.newConns i).fd ∧ (S' = S ∨ S' = S.freeNewConn i ∨ ∃ header login out,
        S.handleLogin C K header login (S.newConns i).fd now env = some out ∧
          S' = out.server.freeNewConn i)) := by
  unfold visit at h
  by_cases hfd : (S.newConns i).fd < 0
  · rw [if_pos hfd] at h
    cases h
    exact Or.inl ⟨hfd, rfl⟩
  rw [if_neg hfd] at h
  refine Or.inr ⟨not_lt.mp hfd, ?_⟩
  cases recv with
  | again =>
    simp only at h
    split_ifs at h with htime
    · cases h
      exact Or.inl rfl
    · cases h
      exact Or.inr (Or.inl rfl)
  | login header msg =>
    simp only at h
    cases hrecv : receiveLogin C header msg with
    | none =>
      rw [hrecv] at h
      cases h
      exact Or.inr (Or.inl rfl)
    | some received =>
      rw [hrecv] at h
      obtain ⟨out, hout, rfl⟩ := Option.map_eq_some_iff.mp h
      exact Or.inr (Or.inr ⟨_, _, out, hout, rfl⟩)
  | other =>
    cases h
    exact Or.inr (Or.inl rfl)

end Server

end Tcpshm
