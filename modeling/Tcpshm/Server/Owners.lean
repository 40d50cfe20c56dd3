import Tcpshm.Server.Fds

/-!
# Every descriptor has one owner

An accepted descriptor moves from `new_conns_` to a connection and is closed from where it is. Over
any run it has exactly one holder as long as it is open, and it is closed once.
-/

namespace Tcpshm

open Descriptors (Owns)

namespace TcpShmConnection

variable {F : LoginFormat} {serverName : Name F} {login : LoginMsg F} {env : HandleEnv}

@[simp] lemma prepare_sockfd (c : TcpShmConnection F) :
    (c.prepare serverName login env).ptcpConn.sockfd = c.ptcpConn.sockfd := by
  apply @prepare_of F serverName c login env (·.ptcpConn.sockfd = c.ptcpConn.sockfd)
  · exact openFile_sockfd c login.useShm env.files env.errs
  · intro d hd
    unfold reset
    split_ifs
    · exact hd
    · exact hd

end TcpShmConnection

namespace Server

variable {F : LoginFormat} {C : Conf} {R : RingSize} {K : ServerConf} {S S' : Server F}
  {gid : GroupId} {i c : Nat}

/-! ### Logins -/

/-- The descriptors of connection `c` stay, and nothing was reported about it. -/
structure SameFd (S S' : Server F) (c : Nat) : Prop where
  callbacks : S'.callbacks c = S.callbacks c
  sockfd : (S'.pool c).ptcpConn.sockfd = (S.pool c).ptcpConn.sockfd
  fdToClose : (S'.pool c).ptcpConn.fdToClose = (S.pool c).ptcpConn.fdToClose

lemma sameFd_claim (S : Server F) (c : Nat) (name : Name F) (d : Nat) :
    SameFd S (S.claim c name) d := by
  refine ⟨by rw [claim_callbacks], ?_, claim_fdToClose S c d name⟩
  unfold claim setConn
  split_ifs
  · simp only
    by_cases hd : d = c
    · rw [hd, Function.update_self]
    · rw [Function.update_of_ne hd]
  · rfl

/-- A successful login calls `Open` on a connection `c` that is not live, in the state `p`. -/
structure Opens (C : Conf) (K : ServerConf) (S S' : Server F) (fd : Int) (c : Nat)
    (p : PTCPConnection) : Prop where
  notLive : ¬S.IsLive K c
  callbacks : S'.callbacks c = S.callbacks c ++ [true]
  sockfd : p.sockfd = (S.pool c).ptcpConn.sockfd
  fdToClose : p.fdToClose = (S.pool c).ptcpConn.fdToClose
  opened : ∃ ack now rs, (S'.pool c).ptcpConn = (p.open C fd ack now rs).1
  other : ∀ d ≠ c, SameFd S S' d

/-- `HandleLogin` calls `Open`, or leaves the descriptors alone. -/
theorem handleLogin_fds (hinv : Inv K S) {header : MsgHeader} {login : LoginMsg F} {fd now : Int}
    {env : HandleEnv} {out : ServerHandled F}
    (h : S.handleLogin C K header login fd now env = some out) :
    (out.logon = false ∧ ∀ d, SameFd S out.server d) ∨
      (out.logon = true ∧ ∃ c p, Opens C K S out.server fd c p) := by
  obtain ⟨-, hno, hserver⟩ | ⟨j, c, hg, -, hfind, hslot⟩ := handleLogin_cases h
  · rw [hserver]
    exact Or.inl ⟨hno, fun _ => ⟨rfl, rfl, rfl⟩⟩
  have hclaim := sameFd_claim S c login.clientName
  obtain ⟨-, hno, hserver⟩ | ⟨hj, m, hm, hlogon, hserver⟩ := hslot
  · rw [hserver]
    exact Or.inl ⟨hno, hclaim⟩
  have hself : out.server.pool c = m.conn := by rw [hserver, fire_pool, setConn_self]
  have hother : ∀ d ≠ c, out.server.callbacks d = S.callbacks d → SameFd S out.server d := by
    intro d hd hcalls
    have hd' : out.server.pool d = (S.claim c login.clientName).pool d := by
      rw [hserver, fire_pool, setConn_of_ne _ hd]
    exact ⟨hcalls, by rw [hd', (hclaim d).sockfd], by rw [hd', (hclaim d).fdToClose]⟩
  have hcalls : ((S.claim c login.clientName).setConn c m.conn).callbacks = S.callbacks :=
    claim_callbacks S c login.clientName
  rw [hlogon]
  obtain ⟨hev, hconn⟩ | ⟨hev, -, ack, hconn⟩ := TcpShmConnection.handleMatched_cases hm
  · have hquiet : out.server.callbacks = S.callbacks := by
      rw [hserver, (fire_quiet hev).callbacks, hcalls]
    refine Or.inl ⟨decide_eq_false hev, fun d => ?_⟩
    by_cases hd : d = c
    · subst hd
      refine ⟨by rw [hquiet], ?_, ?_⟩
      · rw [hself, hconn, TcpShmConnection.prepare_sockfd, (hclaim d).sockfd]
      · rw [hself, hconn, TcpShmConnection.prepare_fdToClose, (hclaim d).fdToClose]
    · exact hother d hd (by rw [hquiet])
  · have hfires := fire_clientLogon ((S.claim c login.clientName).setConn c m.conn)
      (env.group login) j c
    rw [hev] at hserver
    rw [← hserver] at hfires
    refine Or.inr ⟨decide_eq_true hev, c,
      (((S.claim c login.clientName).pool c).prepare S.serverName login env).ptcpConn, ?_⟩
    refine ⟨hinv.not_isLive hg hfind.getElem? hj, by rw [hfires.self, hcalls], ?_, ?_,
      ⟨ack, now, env.sends, ?_⟩, fun d hd => hother d hd (by rw [hfires.other d hd, hcalls])⟩
    · exact (TcpShmConnection.prepare_sockfd _).trans (hclaim c).sockfd
    · exact (TcpShmConnection.prepare_fdToClose _).trans (hclaim c).fdToClose
    · rw [hself, hconn]
      rfl

/-- What a turn of the loop over the new connections does to the descriptors. -/
theorem visit_fds {now : Int} {recv : LoginRecv F} {env : HandleEnv}
    (h : S.visit C K i now recv env = some S') :
    let fd := (S.newConns i).fd
    let es := S.visitFds C K i now recv env
    (fd < 0 ∧ S' = { S with availIdx := i } ∧ es = []) ∨
      (0 ≤ fd ∧ ((S' = S ∧ es = []) ∨ (S' = S.freeNewConn i ∧ es = [.closed fd]) ∨
        ∃ header login out, S.handleLogin C K header login fd now env = some out ∧
          S' = out.server.freeNewConn i ∧ es = if out.logon then [] else [.closed fd])) := by
  intro fd es
  unfold visit at h
  by_cases hfd : (S.newConns i).fd < 0
  · rw [if_pos hfd] at h
    cases h
    exact Or.inl ⟨hfd, rfl, if_pos hfd⟩
  have hes : es = S.visitFds C K i now recv env := rfl
  unfold visitFds at hes
  rw [if_neg hfd] at h hes
  refine Or.inr ⟨not_lt.mp hfd, ?_⟩
  cases recv with
  | again =>
    simp only at h hes
    split_ifs at h hes with htime
    · cases h
      exact Or.inl ⟨rfl, hes⟩
    · cases h
      exact Or.inr (Or.inl ⟨rfl, hes⟩)
  | login header msg =>
    simp only at h hes
    cases hrecv : receiveLogin C header msg with
    | none =>
      rw [hrecv] at h hes
      cases h
      exact Or.inr (Or.inl ⟨rfl, hes⟩)
    | some received =>
      obtain ⟨header, login⟩ := received
      rw [hrecv] at h hes
      obtain ⟨out, hout, rfl⟩ := Option.map_eq_some_iff.mp h
      simp only [hout] at hes
      exact Or.inr (Or.inr ⟨_, _, out, hout, rfl, hes⟩)
  | other =>
    cases h
    exact Or.inr (Or.inl ⟨rfl, hes⟩)

/-! ### Who holds what -/

/-- Every open descriptor has exactly one holder, and nothing was closed that was not open. -/
def Owned (fds : List FdEvent) (holds : Holder → Option Int) : Prop :=
  ∃ t, Descriptors.run (fun _ => none) fds = some t ∧ Owns Holder.kind holds t

namespace Owned

variable {fds : List FdEvent} {holds : Holder → Option Int} {x y : Holder} {fd : Int}

lemma opened (h : Owned fds holds) (hx : holds x = none) (hfresh : ¬IsOpen fds fd) :
    Owned (fds ++ [.opened x.kind fd]) (Function.update holds x (some fd)) := by
  obtain ⟨t, hrun, ho⟩ := h
  have hfd : t fd = none := by
    rw [Option.eq_none_iff_forall_ne_some]
    exact fun k hk => hfresh ⟨k, (Descriptors.run_openAs hrun).mp hk⟩
  obtain ⟨t', hstep, ho'⟩ := ho.opened hx hfd
  refine ⟨t', ?_, ho'⟩
  rw [Descriptors.run_append, hrun, Option.bind_some, Descriptors.run_cons, hstep]
  rfl

lemma closed (h : Owned fds holds) (hx : holds x = some fd) :
    Owned (fds ++ [.closed fd]) (Function.update holds x none) := by
  obtain ⟨t, hrun, ho⟩ := h
  obtain ⟨t', hstep, ho'⟩ := ho.closed hx
  refine ⟨t', ?_, ho'⟩
  rw [Descriptors.run_append, hrun, Option.bind_some, Descriptors.run_cons, hstep]
  rfl

lemma moved (h : Owned fds holds) (hx : holds x = some fd) (hy : holds y = none)
    (hkind : y.kind = x.kind) :
    Owned fds (Function.update (Function.update holds x none) y (some fd)) := by
  obtain ⟨t, hrun, ho⟩ := h
  exact ⟨t, hrun, ho.moved hx hy hkind⟩

lemma closedAll (h : Owned fds holds) (xs : List Holder) (hxs : xs.Nodup) :
    Owned (fds ++ (xs.filterMap holds).map .closed)
      (fun x => if x ∈ xs then none else holds x) := by
  obtain ⟨t, hrun, ho⟩ := h
  obtain ⟨t', hall, ho'⟩ := ho.closedAll xs hxs
  refine ⟨t', ?_, ho'⟩
  rw [Descriptors.run_append, hrun, Option.bind_some, hall]

/-- An open descriptor has exactly one holder. -/
lemma existsUnique (h : Owned fds holds) {k : FdKind} (hopen : Descriptors.OpenAs fds k fd) :
    ∃! x, x.kind = k ∧ holds x = some fd := by
  obtain ⟨t, hrun, ho⟩ := h
  obtain ⟨x, hk, hx⟩ := (ho.open_iff k fd).mp ((Descriptors.run_openAs hrun).mpr hopen)
  exact ⟨x, ⟨hk, hx⟩, fun y hy => ho.unique _ _ _ hy.2 hx⟩

/-- What is held is open. -/
lemma openAs (h : Owned fds holds) (hx : holds x = some fd) :
    Descriptors.OpenAs fds x.kind fd := by
  obtain ⟨t, hrun, ho⟩ := h
  exact (Descriptors.run_openAs hrun).mp (ho.isOpen hx)

end Owned

lemma holds_congr (hlisten : S'.listenfd = S.listenfd) (hnew : S'.newConns = S.newConns)
    (hpool : ∀ d, (S'.pool d).ptcpConn.fdToClose = (S.pool d).ptcpConn.fdToClose) :
    S'.holds = S.holds := by
  funext x
  cases x with
  | listening => rw [holds, holds, hlisten]
  | newConn j => rw [holds, holds, hnew]
  | conn d => rw [holds, holds, hpool]

/-- Only the new connection `i` changes. -/
lemma holds_newConn {conn : NewConn} (hlisten : S'.listenfd = S.listenfd)
    (hnew : S'.newConns = Function.update S.newConns i conn)
    (hpool : ∀ d, (S'.pool d).ptcpConn.fdToClose = (S.pool d).ptcpConn.fdToClose) :
    S'.holds = Function.update S.holds (.newConn i) (openFd conn.fd) := by
  funext x
  cases x with
  | listening =>
    rw [Function.update_of_ne (by simp), holds, holds, hlisten]
  | newConn j =>
    by_cases hj : j = i
    · rw [hj, Function.update_self, holds, hnew, Function.update_self]
    · rw [Function.update_of_ne (by simpa using hj), holds, holds, hnew, Function.update_of_ne hj]
  | conn d =>
    rw [Function.update_of_ne (by simp), holds, holds, hpool]

/-- Only connection `c` changes. -/
lemma holds_conn (hlisten : S'.listenfd = S.listenfd) (hnew : S'.newConns = S.newConns)
    (hpool : ∀ d ≠ c, (S'.pool d).ptcpConn.fdToClose = (S.pool d).ptcpConn.fdToClose) :
    S'.holds =
      Function.update S.holds (.conn c) (openFd (S'.pool c).ptcpConn.fdToClose) := by
  funext x
  cases x with
  | listening =>
    rw [Function.update_of_ne (by simp), holds, holds, hlisten]
  | newConn j =>
    rw [Function.update_of_ne (by simp), holds, holds, hnew]
  | conn d =>
    by_cases hd : d = c
    · rw [hd, Function.update_self, holds]
    · rw [Function.update_of_ne (by simpa using hd), holds, holds, hpool d hd]

/-! ### The invariant -/

/-- The connections are open on their descriptors or closed, those that are not live are unused, and
so is the entry that `accept` will take. -/
structure FdInv (K : ServerConf) (T : Traced F) : Prop where
  sockets : ∀ c, (T.server.pool c).ptcpConn.Socket
  unused : ∀ c, ¬T.server.IsLive K c → (T.server.pool c).ptcpConn.Unused
  avail : T.server.availIdx ≠ K.maxNewConnections →
    (T.server.newConns T.server.availIdx).fd < 0
  owned : Owned T.fds T.server.holds

lemma isLive_congr (hinv : Inv K S) (hinv' : Inv K S') (h : S'.callbacks c = S.callbacks c) :
    S'.IsLive K c ↔ S.IsLive K c := by
  rw [← hinv.odd_iff, ← hinv'.odd_iff, h]

namespace FdInv

variable {fds : List FdEvent}

lemma start (h : FdInv K ⟨S, fds⟩) {fd : Int} (hfresh : ¬IsOpen fds fd) :
    FdInv K ⟨S.start fd, fds ++ S.startFds fd⟩ := by
  have hsame := SameTables.start S fd
  unfold Server.start startFds at *
  split_ifs with hlisten
  · rwa [List.append_nil]
  · obtain ⟨hsockets, hunused, havail, howned⟩ := h
    refine ⟨hsockets, hunused, havail, ?_⟩
    have hnone : S.holds .listening = none := openFd_of_neg (not_le.mp hlisten)
    have hholds : Server.holds { S with listenfd := fd } =
        Function.update S.holds .listening (openFd fd) := by
      funext x
      cases x with
      | listening => rw [Function.update_self, holds]
      | newConn j => rw [Function.update_of_ne (by simp)]; rfl
      | conn d => rw [Function.update_of_ne (by simp)]; rfl
    show Owned _ (Server.holds { S with listenfd := fd })
    rw [hholds]
    by_cases hfd : 0 ≤ fd
    · rw [openFd_of_nonneg hfd]
      exact howned.opened hnone hfresh
    · rw [openFd_of_neg (not_le.mp hfd), Function.update_eq_self_iff.mpr hnone.symm]
      simpa using howned

lemma accept (h : FdInv K ⟨S, fds⟩) {accepted : Int} (now : Int) (hfresh : ¬IsOpen fds accepted) :
    FdInv K ⟨S.accept K accepted now, fds ++ S.acceptFds K accepted⟩ := by
  obtain ⟨hsockets, hunused, havail, howned⟩ := h
  have hsame := SameTables.accept (K := K) S accepted now
  have hlisten : (S.accept K accepted now).listenfd = S.listenfd := by
    unfold Server.accept
    simp only
    split_ifs <;> rfl
  refine ⟨fun c => by rw [hsame.pool]; exact hsockets c, fun c hc => ?_, ?_, ?_⟩
  · rw [hsame.pool]
    refine hunused c fun hlive => hc ?_
    rw [IsLive, hsame.grps]
    exact hlive
  · unfold Server.accept
    simp only
    split_ifs with hne hl hpos hpos
    · exact absurd hpos (by decide)
    · intro _
      simp
    · exact fun hno => absurd rfl hno
    · intro _
      simpa using hpos
    · exact fun hno => absurd hno hne
  · have hpool : ∀ d, ((S.accept K accepted now).pool d).ptcpConn.fdToClose =
        (S.pool d).ptcpConn.fdToClose := fun d => by rw [hsame.pool]
    by_cases hne : S.availIdx ≠ K.maxNewConnections
    · have hnone : S.holds (.newConn S.availIdx) = none := openFd_of_neg (havail hne)
      generalize hfd : (if S.listenfd < 0 then -1 else accepted : Int) = fd
      have hnew : ∃ conn : NewConn, conn.fd = fd ∧ (S.accept K accepted now).newConns =
          Function.update S.newConns S.availIdx conn := by
        unfold Server.accept
        simp only [hfd]
        rw [if_pos hne]
        split_ifs
        · exact ⟨_, rfl, rfl⟩
        · exact ⟨_, rfl, rfl⟩
      obtain ⟨conn, hconn, hnew⟩ := hnew
      show Owned _ (S.accept K accepted now).holds
      rw [holds_newConn hlisten hnew hpool, hconn, acceptFds, if_pos hne, hfd]
      by_cases hpos : 0 ≤ fd
      · have hfd' : fd = accepted := by
          rw [← hfd]
          split_ifs at hfd ⊢ with hl
          · omega
          · rfl
        rw [openFd_of_nonneg hpos, hfd']
        exact howned.opened hnone hfresh
      · rw [openFd_of_neg (not_le.mp hpos), Function.update_eq_self_iff.mpr hnone.symm]
        simpa using howned
    · have hnoop : S.accept K accepted now = S := if_neg hne
      rw [hnoop, acceptFds, if_neg hne, List.append_nil]
      exact howned

/-- A new connection that was not handed over is closed. -/
lemma free (h : FdInv K ⟨S, fds⟩) {S' : Server F} {i : Nat} (hfd : 0 ≤ (S.newConns i).fd)
    (hinv : Inv K S) (hinv' : Inv K (S'.freeNewConn i)) (hsockets : SameSockets S S')
    (hsame : ∀ d, SameFd S S' d) :
    FdInv K ⟨S'.freeNewConn i, fds ++ [.closed (S.newConns i).fd]⟩ := by
  obtain ⟨hsock, hunused, -, howned⟩ := h
  have hfree : ∀ d, SameFd S (S'.freeNewConn i) d := fun d =>
    ⟨(hsame d).callbacks, (hsame d).sockfd, (hsame d).fdToClose⟩
  have hsocket : ∀ d, (S.pool d).ptcpConn.Socket → ((S'.freeNewConn i).pool d).ptcpConn.Socket := by
    rintro d ⟨h₁, h₂⟩
    exact ⟨by rw [(hfree d).fdToClose]; exact h₁,
      by rw [(hfree d).fdToClose, (hfree d).sockfd]; exact h₂⟩
  refine ⟨fun d => hsocket d (hsock d), fun d hd => ?_, fun _ => ?_, ?_⟩
  · obtain ⟨h₁, h₂⟩ := hunused d (mt (isLive_congr hinv hinv' (hfree d).callbacks).mpr hd)
    exact ⟨by rw [(hfree d).sockfd]; exact h₁, by rw [(hfree d).fdToClose]; exact h₂⟩
  · simp [freeNewConn]
  · have hnew : (S'.freeNewConn i).newConns =
        Function.update S.newConns i { S.newConns i with fd := -1 } := by
      rw [← hsockets.newConns]
      rfl
    have hlisten : (S'.freeNewConn i).listenfd = S.listenfd := hsockets.listenfd
    show Owned _ (S'.freeNewConn i).holds
    rw [holds_newConn hlisten hnew fun d => (hfree d).fdToClose, openFd_of_neg (by simp)]
    exact howned.closed (x := .newConn i) (openFd_of_nonneg hfd)

/-- A new connection is handed over to `Open`. -/
lemma handOver (h : FdInv K ⟨S, fds⟩) {S' : Server F} {i c : Nat} {p : PTCPConnection}
    (hfd : 0 ≤ (S.newConns i).fd) (hinv : Inv K S) (hinv' : Inv K (S'.freeNewConn i))
    (hsockets : SameSockets S S') (hopens : Opens C K S S' (S.newConns i).fd c p) :
    FdInv K ⟨S'.freeNewConn i, fds⟩ := by
  obtain ⟨hsock, hunused, -, howned⟩ := h
  obtain ⟨hnot, hcalls, -, -, ⟨ack, now, rs, hconn⟩, hother⟩ := hopens
  obtain ⟨hsocket, hfdc⟩ := PTCPConnection.socket_open (C := C) hfd p ack now rs
  rw [← hconn] at hsocket hfdc
  refine ⟨fun d => ?_, fun d hd => ?_, fun _ => ?_, ?_⟩
  · by_cases hdc : d = c
    · rw [hdc]
      exact hsocket
    · obtain ⟨h₁, h₂⟩ := hsock d
      refine ⟨?_, ?_⟩
      · rw [← (hother d hdc).fdToClose] at h₁
        exact h₁
      · rw [← (hother d hdc).fdToClose, ← (hother d hdc).sockfd] at h₂
        exact h₂
  · by_cases hdc : d = c
    · -- the connection is live now
      subst hdc
      refine absurd ((hinv'.odd_iff d).mp ?_) hd
      have heven := mt (hinv.odd_iff d).mp hnot
      show (S'.callbacks d).length % 2 = 1
      rw [hcalls, List.length_append, List.length_singleton]
      omega
    · have hcalls' : (S'.freeNewConn i).callbacks d = S.callbacks d := (hother d hdc).callbacks
      obtain ⟨h₁, h₂⟩ := hunused d (mt (isLive_congr hinv hinv' hcalls').mpr hd)
      refine ⟨?_, ?_⟩
      · rw [← (hother d hdc).sockfd] at h₁
        exact h₁
      · rw [← (hother d hdc).fdToClose] at h₂
        exact h₂
  · simp [freeNewConn]
  · have hholds : S'.holds = Function.update S.holds (.conn c) (some (S.newConns i).fd) := by
      rw [holds_conn hsockets.listenfd hsockets.newConns fun d hd => (hother d hd).fdToClose, hfdc,
        openFd_of_nonneg hfd]
    have hnew : (S'.freeNewConn i).newConns =
        Function.update S'.newConns i { S'.newConns i with fd := -1 } := rfl
    have hfree := @holds_newConn F S' (S'.freeNewConn i) i _ rfl hnew fun _ => rfl
    rw [openFd_of_neg (by simp)] at hfree
    have hnone : S.holds (.conn c) = none :=
      openFd_of_neg (by rw [(hunused c hnot).fdToClose]; decide)
    show Owned fds (S'.freeNewConn i).holds
    rw [hfree, hholds, Function.update_comm (by simp)]
    exact howned.moved (openFd_of_nonneg hfd) hnone rfl

lemma visit (h : FdInv K ⟨S, fds⟩) (hinv : Inv K S) (hinv' : Inv K S') {now : Int}
    {recv : LoginRecv F} {env : HandleEnv} (hvisit : S.visit C K i now recv env = some S') :
    FdInv K ⟨S', fds ++ S.visitFds C K i now recv env⟩ := by
  obtain ⟨hfd, rfl, hes⟩ | ⟨hfd, ⟨rfl, hes⟩ | ⟨rfl, hes⟩ | ⟨header, login, out, hout, rfl, hes⟩⟩ :=
    visit_fds hvisit
  · rw [hes, List.append_nil]
    exact ⟨h.sockets, h.unused, fun _ => hfd, h.owned⟩
  · rw [hes, List.append_nil]
    exact h
  · rw [hes]
    exact h.free hfd hinv hinv' ⟨rfl, rfl, rfl⟩ fun _ => ⟨rfl, rfl, rfl⟩
  · obtain ⟨hno, hsame⟩ | ⟨hlogon, c, p, hopens⟩ := handleLogin_fds hinv hout
    · rw [hes, hno]
      exact h.free hfd hinv hinv' (.of_handleLogin hout) hsame
    · rw [hes, hlogon, if_pos rfl, List.append_nil]
      exact h.handOver hfd hinv hinv' (.of_handleLogin hout) hopens

/-- A connection is used, and keeps its descriptor. -/
lemma setConn (h : FdInv K ⟨S, fds⟩) {conn : TcpShmConnection F} (hinv : Inv K S)
    (hinv' : Inv K (S.setConn c conn)) (hk : (S.pool c).Keeps conn) :
    FdInv K ⟨S.setConn c conn, fds⟩ := by
  obtain ⟨hsock, hunused, havail, howned⟩ := h
  have hpool : ∀ d, (S.pool d).ptcpConn.KeepsFd ((S.setConn c conn).pool d).ptcpConn := by
    intro d
    by_cases hd : d = c
    · rw [hd, setConn_self]
      exact hk.ptcpConn
    · rw [setConn_of_ne _ hd]
      exact .refl _
  refine ⟨fun d => (hsock d).keeps (hpool d), fun d hd => ?_, havail, ?_⟩
  · exact (hunused d (mt (isLive_congr hinv hinv' rfl).mpr hd)).keeps (hpool d)
  · have hholds : (S.setConn c conn).holds = S.holds :=
      holds_congr rfl rfl fun d => (hpool d).fdToClose
    show Owned fds (S.setConn c conn).holds
    rw [hholds]
    exact howned

lemma turn (h : FdInv K ⟨S, fds⟩) (hinv : Inv K S) (hg : gid ∈ K.groupIds)
    (hi : i < (S.grps gid).liveCnt) (now : Int) (polls : Nat → Poll) :
    FdInv K ⟨(S.turn C gid i now polls).1, fds ++ S.turnFds C gid i now polls⟩ := by
  obtain ⟨c, hc⟩ := hinv.getElem? hg hi
  have hk := pollConn_keeps (C := C) S gid now polls c
  have hsocket := (h.sockets c).keeps hk.ptcpConn
  have hinv' := hinv.change (.of_turn (C := C) hg hi hc now polls)
  rw [turnFds, ConnectionGroup.getD_conns hc]
  obtain ⟨hopen, hturn⟩ | ⟨hclosed, hturn⟩ := turn_cases (C := C) hc now polls
  · rw [hturn] at hinv' ⊢
    have hnil := PTCPConnection.tryCloseFds_of_open hopen
    rw [hnil, List.map_nil, List.append_nil]
    exact h.setConn hinv hinv' hk
  · rw [hturn] at hinv' ⊢
    obtain ⟨hun, hpos, hes⟩ := hsocket.tryCloseFd hclosed
    have hfdc := hk.ptcpConn.fdToClose
    rw [hfdc] at hpos hes
    obtain ⟨hsock, hunused, havail, howned⟩ := h
    have hfires := disconnect_fires (S.setConn c (S.pollConn C gid now polls c).tryCloseFd.1) gid i c
    have hpool : ((S.setConn c (S.pollConn C gid now polls c).tryCloseFd.1).disconnect gid i c).pool =
        (S.setConn c (S.pollConn C gid now polls c).tryCloseFd.1).pool := rfl
    have hself : ((((S.setConn c (S.pollConn C gid now polls c).tryCloseFd.1).disconnect
        gid i c).pool c).ptcpConn).Unused := by
      rw [hpool, setConn_self]
      exact hun
    have hother : ∀ d ≠ c, ((S.setConn c (S.pollConn C gid now polls c).tryCloseFd.1).disconnect
        gid i c).pool d = S.pool d := fun d hd => by rw [hpool, setConn_of_ne _ hd]
    generalize hS' : (S.setConn c (S.pollConn C gid now polls c).tryCloseFd.1).disconnect gid i c =
      S' at hfires hinv' hself hother ⊢
    refine ⟨fun d => ?_, fun d hd => ?_, ?_, ?_⟩
    · by_cases hdc : d = c
      · rw [hdc]
        exact hself.socket
      · show ((S'.pool d).ptcpConn).Socket
        rw [hother d hdc]
        exact hsock d
    · by_cases hdc : d = c
      · rw [hdc]
        exact hself
      · show ((S'.pool d).ptcpConn).Unused
        rw [hother d hdc]
        exact hunused d (mt (isLive_congr hinv hinv' (hfires.other d hdc)).mpr hd)
    · subst hS'
      exact havail
    · have hlisten : S'.listenfd = S.listenfd := by rw [← hS']; rfl
      have hnew : S'.newConns = S.newConns := by rw [← hS']; rfl
      have hholds : S'.holds = Function.update S.holds (.conn c) none := by
        rw [holds_conn hlisten hnew fun d hd => by rw [hother d hd], hself.fdToClose]
        rfl
      show Owned _ S'.holds
      rw [hholds, hes]
      exact howned.closed (x := .conn c) (openFd_of_nonneg hpos)

end FdInv

/-! ### `Stop` -/

/-- The places that `Stop` goes through, in order. -/
def holders (K : ServerConf) (S : Server F) : List Holder :=
  .listening :: ((List.range K.maxNewConnections).map .newConn ++
    (K.groupIds.flatMap fun gid => (S.grps gid).conns).map .conn)

lemma mem_holders_conn :
    Holder.conn c ∈ S.holders K ↔ ∃ gid ∈ K.groupIds, c ∈ (S.grps gid).conns := by
  simp [holders]

lemma mem_holders_newConn : Holder.newConn i ∈ S.holders K ↔ i < K.maxNewConnections := by
  simp [holders]

lemma groupIds_nodup (K : ServerConf) : K.groupIds.Nodup := by
  unfold ServerConf.groupIds
  refine List.Nodup.append ?_ ?_ ?_
  · exact List.nodup_range.map fun i j h => (GroupId.mk.inj h).2
  · exact List.nodup_range.map fun i j h => (GroupId.mk.inj h).2
  · intro gid h h'
    obtain ⟨i, -, rfl⟩ := List.mem_map.mp h
    obtain ⟨j, -, hj⟩ := List.mem_map.mp h'
    exact Bool.noConfusion (GroupId.mk.inj hj).1

lemma Inv.holders_nodup (hinv : Inv K S) : (S.holders K).Nodup := by
  have hconns : (K.groupIds.flatMap fun gid => (S.grps gid).conns).Nodup := by
    rw [List.nodup_flatMap]
    refine ⟨fun gid hg => (hinv.slots gid hg).perm.nodup_iff.mpr (K.slice_nodup gid), ?_⟩
    refine (groupIds_nodup K).pairwise_of_forall_ne fun gid hg gid' hg' hne => ?_
    exact fun c hc hc' => hne (hinv.disjoint hg hg' hc hc')
  unfold holders
  rw [List.nodup_cons]
  constructor
  · simp
  · refine List.Nodup.append ?_ ?_ ?_
    · exact List.nodup_range.map fun i j h => Holder.newConn.inj h
    · exact hconns.map fun i j h => Holder.conn.inj h
    · intro x h h'
      obtain ⟨i, -, rfl⟩ := List.mem_map.mp h
      obtain ⟨j, -, hj⟩ := List.mem_map.mp h'
      cases hj

/-- What `Stop` closes is what these hold. -/
lemma stopFds_eq (hsock : ∀ c, (S.pool c).ptcpConn.Socket) (hlisten : 0 ≤ S.listenfd) :
    S.stopFds K = ((S.holders K).filterMap S.holds).map .closed := by
  have hfirst : S.holds .listening = some S.listenfd := openFd_of_nonneg hlisten
  rw [stopFds, if_neg (not_lt.mpr hlisten), List.filterMap_eq_flatMap_toList, holders, List.flatMap_cons, hfirst,
    List.flatMap_append, List.flatMap_map, List.flatMap_map, List.map_append, List.map_append,
    List.map_flatMap, List.map_flatMap, List.flatMap_assoc, Option.toList_some, List.map_singleton,
    List.singleton_append, List.cons_append]
  refine congrArg _ (congrArg₂ _ rfl ?_)
  refine List.flatMap_congr fun gid _ => List.flatMap_congr fun c _ => ?_
  rw [((hsock c).release).2]
  rfl

namespace FdInv

variable {fds : List FdEvent}

lemma stop (h : FdInv K ⟨S, fds⟩) (hinv : Inv K S) :
    FdInv K ⟨S.stop K, fds ++ S.stopFds K⟩ := by
  by_cases hl : S.listenfd < 0
  · have hnoop : S.stop K = S := if_pos hl
    have hnil : S.stopFds K = [] := if_pos hl
    rw [hnoop, hnil, List.append_nil]
    exact h
  obtain ⟨hsock, hunused, -, howned⟩ := h
  have hstop := stopFds_eq (K := K) hsock (not_lt.mp hl)
  have hpool : ∀ c, (Holder.conn c ∈ S.holders K ∧ ((S.stop K).pool c).ptcpConn.Unused) ∨
      (Holder.conn c ∉ S.holders K ∧ (S.stop K).pool c = S.pool c) := by
    intro c
    have hdef : (S.stop K).pool c = if K.groupIds.any fun gid => c ∈ (S.grps gid).conns then
        (S.pool c).release else S.pool c := by
      rw [Server.stop, if_neg hl]
    have hmem : (K.groupIds.any fun gid => decide (c ∈ (S.grps gid).conns)) = true ↔
        Holder.conn c ∈ S.holders K := by
      rw [mem_holders_conn, List.any_eq_true]
      simp
    rw [hdef]
    split_ifs with hany
    · exact Or.inl ⟨hmem.mp hany, ((hsock c).release).1⟩
    · exact Or.inr ⟨fun hm => hany (hmem.mpr hm), rfl⟩
  refine ⟨fun c => ?_, fun c _ => ?_, fun hne => ?_, ?_⟩
  · rcases hpool c with ⟨-, hun⟩ | ⟨-, heq⟩
    · exact hun.socket
    · show ((S.stop K).pool c).ptcpConn.Socket
      rw [heq]
      exact hsock c
  · rcases hpool c with ⟨-, hun⟩ | ⟨hno, heq⟩
    · exact hun
    · show ((S.stop K).pool c).ptcpConn.Unused
      rw [heq]
      refine hunused c fun ⟨gid, hg, hc⟩ => hno ?_
      exact mem_holders_conn.mpr ⟨gid, hg, ConnectionGroup.live_subset hc⟩
  · have havail : (S.stop K).availIdx = 0 := by rw [Server.stop, if_neg hl]
    have hnew : (S.stop K).newConns 0 = if 0 < K.maxNewConnections then
        { S.newConns 0 with fd := -1 } else S.newConns 0 := by
      rw [Server.stop, if_neg hl]
    have hpos : 0 < K.maxNewConnections := by
      have hne' : (S.stop K).availIdx ≠ K.maxNewConnections := hne
      omega
    show ((S.stop K).newConns (S.stop K).availIdx).fd < 0
    rw [havail, hnew, if_pos hpos]
    exact neg_one_lt_zero
  · have hholds : (S.stop K).holds = fun x => if x ∈ S.holders K then none else S.holds x := by
      funext x
      cases x with
      | listening =>
        have hmem : Holder.listening ∈ S.holders K := List.mem_cons_self
        have hneg : (S.stop K).listenfd = -1 := by rw [Server.stop, if_neg hl]
        rw [if_pos hmem, holds, hneg]
        rfl
      | newConn i =>
        have hnew : (S.stop K).newConns i = if i < K.maxNewConnections then
            { S.newConns i with fd := -1 } else S.newConns i := by
          rw [Server.stop, if_neg hl]
        rw [holds, hnew]
        by_cases hi : i < K.maxNewConnections
        · rw [if_pos hi, if_pos (mem_holders_newConn.mpr hi)]
          rfl
        · rw [if_neg hi, if_neg (mt mem_holders_newConn.mp hi)]
          rfl
      | conn c =>
        rw [holds]
        rcases hpool c with ⟨hmem, hun⟩ | ⟨hno, heq⟩
        · rw [if_pos hmem, hun.fdToClose]
          rfl
        · rw [if_neg hno, heq]
          rfl
    show Owned _ (S.stop K).holds
    rw [hholds, hstop]
    exact howned.closedAll _ hinv.holders_nodup

end FdInv

/-! ### Runs -/

variable {T T' : Traced F} {serverName : Name F}

/-- The descriptors aside, it is a run of the server. -/
lemma FdStep.step (h : FdStep C R K T T') :
    Step C R K T.server T'.server ∨ T'.server = T.server.stop K := by
  cases h with
  | start => exact Or.inl (.start _ _)
  | accept => exact Or.inl (.accept _ _ _)
  | visit hi hvisit => exact Or.inl (.visit hi hvisit)
  | turn now polls hg hi => exact Or.inl (.turn _ now polls hg hi)
  | call c e => exact Or.inl (.call _ c e)
  | stop => exact Or.inr rfl

lemma FdReaches.reaches (h : FdReaches C R K serverName T) :
    Reaches C R K (.new C K serverName) T.server := by
  induction h with
  | refl => exact .refl
  | tail _ hstep ih => exact .tail ih hstep.step

lemma FdInv.new (C : Conf) (K : ServerConf) (serverName : Name F) :
    FdInv K ⟨Server.new C K serverName, []⟩ := by
  have hun : (PTCPConnection.new C).Unused := ⟨rfl, rfl⟩
  have hholds : (Server.new C K serverName).holds = fun _ => none := by
    funext x
    cases x <;> rfl
  refine ⟨fun _ => hun.socket, fun _ _ => hun, fun _ => neg_one_lt_zero, ?_⟩
  show Owned [] (Server.new C K serverName).holds
  rw [hholds]
  exact ⟨_, rfl, Owns.none _⟩

lemma FdReaches.fdInv (h : FdReaches C R K serverName T) : FdInv K T := by
  induction h with
  | refl => exact .new C K serverName
  | @tail T T' hrun hstep ih =>
    have hinv := FdReaches.reaches hrun |>.inv
    have hinv' : Inv K T'.server := (FdReaches.reaches (.tail hrun hstep)).inv
    cases hstep with
    | start hfresh => exact ih.start hfresh
    | accept now hfresh => exact ih.accept now hfresh
    | visit _ hvisit => exact ih.visit hinv hinv' hvisit
    | turn now polls hg hi => exact ih.turn hinv hg hi now polls
    | call c e => exact ih.setConn hinv hinv' (e.keeps _)
    | stop => exact ih.stop hinv

/-- A `PollCtl` takes such steps, where `accept` hands out a descriptor that is not open. -/
theorem pollCtl_fdSteps {env : PollEnv F} (hfresh : ¬IsOpen T.fds env.accepted)
    (h : T.server.pollCtl C K env = some S') : ∃ fds, FdSteps C R K T ⟨S', fds⟩ := by
  -- a step can be taken whatever happened before
  have hrun := pollCtl_run (C := C) (K := K)
    (r := fun S S' => ∀ fds, ∃ fds', FdSteps C R K ⟨S, fds⟩ ⟨S', fds'⟩)
    (fun hi hvisit fds => ⟨_, .single (.visit (T := ⟨_, fds⟩) hi hvisit)⟩)
    (fun S _ _ hg hi fds => ⟨_, .single (.turn ⟨S, fds⟩ env.now env.polls hg hi)⟩) h
  have hsteps : ∀ fds, ∃ fds', FdSteps C R K
      ⟨T.server.accept K env.accepted env.now, fds⟩ ⟨S', fds'⟩ := by
    clear h
    induction hrun with
    | refl => exact fun fds => ⟨fds, .refl⟩
    | tail _ hstep ih =>
      intro fds
      obtain ⟨fds₁, h₁⟩ := ih fds
      obtain ⟨fds₂, h₂⟩ := hstep fds₁
      exact ⟨fds₂, h₁.trans h₂⟩
  obtain ⟨fds, hrest⟩ := hsteps (T.fds ++ T.server.acceptFds K env.accepted)
  exact ⟨fds, .head (.accept T env.now hfresh) hrest⟩

/-- After `Stop` nothing is held. -/
lemma FdReaches.stop_holds (h : FdReaches C R K serverName T) (x : Holder) :
    (T.server.stop K).holds x = none := by
  have hstop : FdReaches C R K serverName ⟨T.server.stop K, T.fds ++ T.server.stopFds K⟩ :=
    .tail h (.stop T)
  have hlisten : (T.server.stop K).listenfd < 0 := by
    unfold Server.stop
    split_ifs with hl
    · exact hl
    · exact neg_one_lt_zero
  obtain ⟨hnew, hlog⟩ := hstop.reaches.idle.stopped hlisten
  cases x with
  | listening => exact openFd_of_neg hlisten
  | newConn i => exact openFd_of_neg (hnew i)
  | conn c =>
    have hnot : ¬(T.server.stop K).IsLive K c := by
      rw [← hstop.reaches.inv.odd_iff, callbacks, hlog]
      simp
    exact openFd_of_neg (by rw [(hstop.fdInv.unused c hnot).fdToClose]; decide)

/-- Who owns the descriptors in a state of a run: an accepted descriptor to which nothing happened
since is held by exactly one entry of `new_conns_` or `fd_to_close_`, and any other was closed once;
only such descriptors are held; `accept` takes an entry that holds none; `Open` is called on
connections that hold none; and `Stop` leaves none open. -/
structure WellOwned (C : Conf) (K : ServerConf) (T : Traced F) : Prop where
  accepted : ∀ pre post fd, T.fds = pre ++ .opened .accepted fd :: post →
    (Descriptors.Untouched post fd ∧ ∃! x : Holder, x.kind = .accepted ∧
      T.server.holds x = some fd) ∨ Descriptors.ClosedOnce post fd
  held : ∀ x : Holder, x.kind = .accepted → ∀ fd, T.server.holds x = some fd →
    Descriptors.OpenAs T.fds .accepted fd
  avail : T.server.availIdx ≠ K.maxNewConnections →
    T.server.holds (.newConn T.server.availIdx) = none
  opens : ∀ header login fd now env out,
    T.server.handleLogin C K header login fd now env = some out → out.logon = true →
      ∃ c p, p.Unused ∧ Opens C K T.server out.server fd c p
  stopped : ∀ fd, ¬IsOpen (T.fds ++ T.server.stopFds K) fd

/-- Over any run of the control thread, also in the middle of a `PollCtl`, the descriptors are
owned. -/
theorem FdReaches.wellOwned (h : FdReaches C R K serverName T) :
    WellOwned C K T ∧ ∀ env S', ¬IsOpen T.fds env.accepted →
      T.server.pollCtl C K env = some S' → ∃ fds, FdSteps C R K T ⟨S', fds⟩ := by
  have hfd := h.fdInv
  have hinv := h.reaches.inv
  refine ⟨⟨fun pre post fd heq => ?_, fun x hk fd hx => ?_, fun hne => ?_, ?_, ?_⟩,
    fun env S' hfresh hpoll => pollCtl_fdSteps hfresh hpoll⟩
  · obtain ⟨t, hrun, -⟩ := hfd.owned
    rw [heq, ← List.singleton_append, ← List.append_assoc, Descriptors.run_append] at hrun
    obtain ⟨t₁, hpre, hpost⟩ := Option.bind_eq_some_iff.mp hrun
    have hopen : t₁ fd = some .accepted := by
      rw [Descriptors.run_openAs hpre, Descriptors.openAs_append_singleton]
      exact Or.inl rfl
    rcases Descriptors.run_of_open hpost hopen with ⟨hun, -⟩ | ⟨hclosed, -⟩
    · exact Or.inl ⟨hun, hfd.owned.existsUnique ⟨pre, post, heq, hun⟩⟩
    · exact Or.inr hclosed
  · rw [← hk]
    exact hfd.owned.openAs hx
  · exact openFd_of_neg (hfd.avail hne)
  · intro header login fd now env out hout hlogon
    obtain ⟨hno, -⟩ | ⟨-, c, p, hopens⟩ := handleLogin_fds hinv hout
    · rw [hlogon] at hno
      cases hno
    · have hun := hfd.unused c hopens.notLive
      exact ⟨c, p, ⟨hopens.sockfd.trans hun.sockfd, hopens.fdToClose.trans hun.fdToClose⟩, hopens⟩
  · rintro fd ⟨k, hopen⟩
    have hstop : FdReaches C R K serverName ⟨T.server.stop K, T.fds ++ T.server.stopFds K⟩ :=
      .tail h (.stop T)
    obtain ⟨x, ⟨-, hx⟩, -⟩ := hstop.fdInv.owned.existsUnique hopen
    rw [h.stop_holds x] at hx
    cases hx

/-- A server that listens has accepted a connection. -/
def smallAccepted : Traced shortNames :=
  ⟨smallStarted.accept smallServer 5 0, [.opened .listening 3, .opened .accepted 5]⟩

/-- The entry of `new_conns_` holds it, and `Stop` closes it. -/
theorem FdReaches.wellOwned_accepted :
    (∃! x : Holder, x.kind = .accepted ∧ smallAccepted.server.holds x = some 5) ∧
      ¬IsOpen (smallAccepted.fds ++ smallAccepted.server.stopFds smallServer) 5 := by
  have hno : ∀ fd, ¬IsOpen [] fd := by
    rintro fd ⟨k, pre, post, heq, -⟩
    simp at heq
  have hno' : ¬IsOpen [.opened .listening 3] 5 := by
    rintro ⟨k, hopen⟩
    rw [← List.nil_append [_], Descriptors.openAs_append_singleton] at hopen
    rcases hopen with heq | ⟨-, hopen⟩
    · cases heq
    · exact hno 5 ⟨k, hopen⟩
  have hstart : FdStep (hostConf true) ⟨64, by decide⟩ smallServer
      ⟨.new (hostConf true) smallServer (shortName 115), []⟩
      ⟨smallStarted, [.opened .listening 3]⟩ := .start ⟨_, []⟩ (hno 3)
  have haccept : FdStep (hostConf true) ⟨64, by decide⟩ smallServer
      ⟨smallStarted, [.opened .listening 3]⟩ smallAccepted :=
    .accept ⟨smallStarted, [.opened .listening 3]⟩ 0 hno'
  have hreach : FdReaches (hostConf true) ⟨64, by decide⟩ smallServer (shortName 115)
      smallAccepted := .tail (.single hstart) haccept
  have howned := (FdReaches.wellOwned hreach).1
  refine ⟨?_, howned.stopped 5⟩
  rcases howned.accepted [.opened .listening 3] [] 5 rfl with ⟨-, hx⟩ | ⟨mid, post, heq, -⟩
  · exact hx
  · simp at heq

end Server

end Tcpshm
