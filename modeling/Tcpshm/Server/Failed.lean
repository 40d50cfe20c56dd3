import Tcpshm.Server.Sweep

/-!
# Logins that fail

When `HandleLogin` fails, what it did until then stays done: an unused slot has got the client's
name, and the queues of a client that knows another server name have been reset.
-/

namespace Tcpshm

namespace Server

variable {F : LoginFormat} {C : Conf} {K : ServerConf} {S S' : Server F} {gid : GroupId}
  {i c : Nat} {header : MsgHeader} {login : LoginMsg F} {fd now : Int} {env : HandleEnv}

/-- The order of the slots, what is live, the names, and the persistent queues are the same, where
the files of the connection that the login is matched to hold `files`. -/
structure Unchanged (files : QueueFiles) (S S' : Server F) : Prop where
  grps : S'.grps = S.grps
  names : S'.names = S.names
  contents : ∀ c, (S'.pool c).contents files = (S.pool c).contents files

/-- The login gets no slot; or it gets the one that has its name, and there it is logged on
already, or the files cannot be opened, or it knows the server, or the queues are new. -/
def Harmless (S : Server F) (login : LoginMsg F) (env : HandleEnv) : Prop :=
  S.Refused login env ∨ ∃ i c, S.Finds (env.group login) login.clientName i c ∧
    (S.names c).isEmpty = false ∧
    (i < (S.grps (env.group login)).liveCnt ∨ ¬(S.pool c).CanOpen login.useShm env.errs ∨
      login.lastServerName = S.serverName ∨ (S.pool c).IsNew login.useShm env.files)

/-! ### One login -/

lemma Finds.unique {name : Name F} {j d : Nat} (h : S.Finds gid name i c)
    (h' : S.Finds gid name j d) : i = j ∧ c = d := by
  have hi := findSlot_eq_some_iff.mpr ⟨c, h⟩
  obtain rfl := Option.some.inj (hi.symm.trans (findSlot_eq_some_iff.mpr ⟨d, h'⟩))
  exact ⟨rfl, Option.some.inj (h.getElem?.symm.trans h'.getElem?)⟩

lemma claim_of_named {name : Name F} (h : (S.names c).isEmpty = false) : S.claim c name = S := by
  have hne : ¬(S.pool c).remoteName.isEmpty = true := by
    rw [show (S.pool c).remoteName.isEmpty = false from h]
    exact Bool.false_ne_true
  exact if_neg hne

lemma unchanged_setConn_iff {files : QueueFiles} {conn : TcpShmConnection F}
    (hname : conn.remoteName = (S.pool c).remoteName) {T : Server F} (hgrps : T.grps = S.grps)
    (hpool : T.pool = (S.setConn c conn).pool) :
    Unchanged files S T ↔ conn.contents files = (S.pool c).contents files := by
  have hnames : T.names = S.names := by
    rw [← names_setConn (S := S) hname]
    funext d
    rw [names, names, hpool]
  constructor
  · intro h
    rw [← h.contents c, hpool, setConn_self]
  · refine fun h => ⟨hgrps, hnames, fun d => ?_⟩
    rw [hpool]
    by_cases hd : d = c
    · rw [hd, setConn_self, h]
    · rw [setConn_of_ne conn hd]

/-- `OpenFile` and `Reset` on a connection that then is not opened. -/
lemma prepare_contents_iff (conn : TcpShmConnection F) (serverName : Name F) :
    (conn.prepare serverName login env).contents env.files = conn.contents env.files ↔
      ¬conn.CanOpen login.useShm env.errs ∨ login.lastServerName = serverName ∨
        conn.IsNew login.useShm env.files := by
  have hkept := conn.openFile_contents login.useShm env.files env.errs
  have hcan := @TcpShmConnection.openFile_eq_none_iff F conn login.useShm env.files env.errs
  have hreset := @TcpShmConnection.reset_contents_iff F conn login.useShm env.files env.errs
  unfold TcpShmConnection.prepare
  generalize conn.openFile login.useShm env.files env.errs = opened at hkept hcan hreset ⊢
  obtain ⟨c₁, _ | err⟩ := opened
  · have hopen := hcan.mp rfl
    simp only [hopen, not_true_eq_false, false_or]
    split_ifs with hname
    · rw [hreset rfl, or_iff_right hname]
    · exact ⟨fun _ => Or.inl (not_not.mp hname), fun _ => hkept⟩
  · have hnot : ¬conn.CanOpen login.useShm env.errs := fun h => (nomatch hcan.mpr h)
    exact ⟨fun _ => Or.inl hnot, fun _ => hkept⟩

/-- `HandleLogin` gives an unused slot the name, whatever it comes to. -/
lemma handleLogin_names {out : ServerHandled F}
    (h : (i < (S.grps gid).liveCnt ∧ out.logon = false ∧
        out.server = S.claim c login.clientName) ∨
      ((S.grps gid).liveCnt ≤ i ∧
        ∃ m, ((S.claim c login.clientName).pool c).handleMatched C S.serverName header login
            fd now env = some m ∧ out.logon = decide (m.event = .clientLogon) ∧
          out.server = ((S.claim c login.clientName).setConn c m.conn).fire gid i c m.event)) :
    out.server.names = (S.claim c login.clientName).names := by
  obtain ⟨-, -, hserver⟩ | ⟨-, m, hm, -, hserver⟩ := h
  · rw [hserver]
  have hname : m.conn.remoteName = ((S.claim c login.clientName).pool c).remoteName := by
    obtain ⟨-, hconn⟩ | ⟨-, -, remoteAckSeq, hconn⟩ := TcpShmConnection.handleMatched_cases hm
    · rw [hconn, TcpShmConnection.prepare_remoteName]
    · rw [hconn]
      exact TcpShmConnection.prepare_remoteName _
  rw [hserver, ← names_setConn hname]
  funext d
  rw [names, names, fire_pool]

/-- A login that fails leaves the server as it was exactly when it was harmless. -/
theorem handleLogin_unchanged_iff {out : ServerHandled F}
    (h : S.handleLogin C K header login fd now env = some out) (hfail : out.logon = false) :
    Unchanged env.files S out.server ↔ S.Harmless login env := by
  obtain ⟨hrefused, -, hserver⟩ | ⟨i, c, -, hrefused, hfind, hslot⟩ := handleLogin_cases h
  · rw [hserver]
    exact ⟨fun _ => Or.inl hrefused, fun _ => ⟨rfl, rfl, fun _ => rfl⟩⟩
  have hname := named_of_not_refused hrefused
  have hharmless : S.Harmless login env ↔ (S.names c).isEmpty = false ∧
      (i < (S.grps (env.group login)).liveCnt ∨ ¬(S.pool c).CanOpen login.useShm env.errs ∨
        login.lastServerName = S.serverName ∨ (S.pool c).IsNew login.useShm env.files) := by
    rw [Harmless, or_iff_right hrefused]
    constructor
    · rintro ⟨j, d, hfind', hcond⟩
      obtain ⟨rfl, rfl⟩ := hfind.unique hfind'
      exact hcond
    · exact fun hcond => ⟨i, c, hfind, hcond⟩
  rw [hharmless]
  -- in an unused slot the name stays
  cases hnamed : (S.names c).isEmpty with
  | true =>
    refine ⟨fun hunch => ?_, fun hcond => (nomatch hcond.1)⟩
    have hclaim := Inv.claim_named (S := S) (c := c) hname
    rw [← handleLogin_names hslot, hunch.names, hnamed] at hclaim
    exact (nomatch hclaim)
  | false =>
    rw [claim_of_named hnamed] at hslot
    simp only [true_and]
    obtain ⟨hlive, -, hserver⟩ | ⟨hlive, m, hm, hlogon, hserver⟩ := hslot
    · rw [hserver]
      exact ⟨fun _ => Or.inl hlive, fun _ => ⟨rfl, rfl, fun _ => rfl⟩⟩
    rw [or_iff_right (not_lt.mpr hlive), ← prepare_contents_iff]
    obtain ⟨hev, hconn⟩ | ⟨hev, -⟩ := TcpShmConnection.handleMatched_cases hm
    · rw [← hconn]
      refine unchanged_setConn_iff ?_ ?_ ?_
      · rw [hconn, TcpShmConnection.prepare_remoteName]
      · rw [hserver, (fire_quiet hev).grps]
        rfl
      · rw [hserver, fire_pool]
    · rw [hlogon, hev] at hfail
      exact (nomatch hfail)

/-! ### Any number of logins -/

/-- A harmless login that fails. -/
inductive FailedLogin (C : Conf) (K : ServerConf) : Server F → Server F → Prop where
  | login {S : Server F} {header : MsgHeader} {login : LoginMsg F} {fd now : Int}
      {env : HandleEnv} {out : ServerHandled F}
      (h : S.handleLogin C K header login fd now env = some out) (hfail : out.logon = false)
      (hharmless : S.Harmless login env) : FailedLogin C K S out.server

lemma findSlot_congr (hgrps : S'.grps = S.grps) (hnames : S'.names = S.names) (gid : GroupId)
    (name : Name F) : S'.findSlot gid name = S.findSlot gid name := by
  have h : ∀ c, (S'.pool c).remoteName = (S.pool c).remoteName := congrFun hnames
  unfold findSlot
  simp only [hgrps, h]

lemma FailedLogin.run (h : Relation.ReflTransGen (FailedLogin C K) S S') :
    S'.grps = S.grps ∧ S'.names = S.names := by
  induction h with
  | refl => exact ⟨rfl, rfl⟩
  | tail _ hstep ih =>
    cases hstep with
    | login h hfail hharmless =>
      have hunch := (handleLogin_unchanged_iff h hfail).mpr hharmless
      exact ⟨hunch.grps.trans ih.1, hunch.names.trans ih.2⟩

/-- A login that fails leaves slots, names and queues as they were exactly when it was harmless, and
after any number of harmless ones the same names find a slot as before. -/
theorem failed_login_unchanged_iff (C : Conf) (K : ServerConf) (S : Server F) :
    (∀ header login fd now env out, S.handleLogin C K header login fd now env = some out →
      out.logon = false → (Unchanged env.files S out.server ↔ S.Harmless login env)) ∧
    ∀ S', Relation.ReflTransGen (FailedLogin C K) S S' →
      S'.grps = S.grps ∧ S'.names = S.names ∧
        ∀ gid name, S'.findSlot gid name = S.findSlot gid name := by
  refine ⟨fun header login fd now env out h hfail => handleLogin_unchanged_iff h hfail,
    fun S' hrun => ?_⟩
  obtain ⟨hgrps, hnames⟩ := FailedLogin.run hrun
  exact ⟨hgrps, hnames, fun gid name => findSlot_congr hgrps hnames gid name⟩

/-- A login for a TCP connection, in host order, by a client that was not connected before. -/
def freshLogin (clientName : Name shortNames) : LoginMsg shortNames :=
  ⟨0, 0, false, clientName, clientName.clear⟩

/-- The user rejects the client. -/
theorem failed_login_unchanged_iff_rejected :
    ∃ out, smallStarted.handleLogin (hostConf true) smallServer ⟨0, 0, 0⟩
        (freshLogin (shortName 97)) 5 0 { smallEnv with grpid := -1 } = some out ∧
      Unchanged smallEnv.files smallStarted out.server := by
  refine ⟨_, rfl, ?_⟩
  exact ((failed_login_unchanged_iff (hostConf true) smallServer smallStarted).1 ⟨0, 0, 0⟩
    (freshLogin (shortName 97)) 5 0 { smallEnv with grpid := -1 } _ rfl rfl).mpr
    (Or.inl (Or.inr (Or.inl (by decide))))

/-- Two clients of which none gets the response, one after the other. -/
def lostLogins : Option (ServerHandled shortNames × ServerHandled shortNames) := do
  let a ← smallStarted.handleLogin (hostConf true) smallServer ⟨0, 0, 0⟩
    (freshLogin (shortName 97)) 5 0 { smallEnv with sendOk := false }
  let b ← a.server.handleLogin (hostConf true) smallServer ⟨0, 0, 0⟩
    (freshLogin (shortName 98)) 5 0 { smallEnv with sendOk := false }
  return (a, b)

/-- They never log on, and for a third one there is no slot any more. -/
theorem failed_logins_take_slots : ∃ a b, lostLogins = some (a, b) ∧
    a.logon = false ∧ b.logon = false ∧ a.server.names 1 ≠ smallStarted.names 1 ∧
    smallStarted.findSlot ⟨false, 0⟩ (shortName 99) = some 0 ∧
    b.server.findSlot ⟨false, 0⟩ (shortName 99) = none := by
  have hlost : lostLogins.any (fun (a, b) => decide (a.logon = false ∧ b.logon = false ∧
      a.server.names 1 ≠ smallStarted.names 1 ∧
      smallStarted.findSlot ⟨false, 0⟩ (shortName 99) = some 0 ∧
      b.server.findSlot ⟨false, 0⟩ (shortName 99) = none)) = true := by decide +kernel
  obtain ⟨⟨a, b⟩, heq, h⟩ := (Option.any_eq_true _ _).mp hlost
  exact ⟨a, b, heq, of_decide_eq_true h⟩

end Server

end Tcpshm
