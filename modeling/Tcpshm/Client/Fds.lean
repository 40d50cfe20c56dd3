import Tcpshm.Server.Fds
import Tcpshm.Client.Transport

/-!
# The descriptor of the client

What `Connect` opens and closes on each of its exits. The client never holds more than one
descriptor, and that is the `fd_to_close_` of its connection.
-/

namespace Tcpshm

namespace PTCPConnection

variable {c : PTCPConnection}

/-- `TryCloseFd` on a connection that is closed. -/
lemma Socket.closed (h : Socket c) (hclosed : c.isClosed = true) :
    Unused c.tryCloseFd.1 ∧ c.tryCloseFds = (openFd c.fdToClose).toList := by
  have hneg : c.sockfd < 0 := of_decide_eq_true hclosed
  have hsock : c.sockfd = -1 := by
    rcases h.sockfd with hs | hs
    · rcases h.fdToClose with hfd | hfd <;> omega
    · exact hs
  unfold PTCPConnection.tryCloseFd tryCloseFds openFd
  by_cases hpos : 0 ≤ c.fdToClose
  · rw [if_pos ⟨hneg, hpos⟩, if_pos ⟨hneg, hpos⟩, if_pos hpos]
    exact ⟨⟨hsock, rfl⟩, rfl⟩
  · rw [if_neg fun h => hpos h.2, if_neg fun h => hpos h.2, if_neg hpos]
    exact ⟨⟨hsock, h.fdToClose.resolve_left hpos⟩, rfl⟩

lemma Unused.release (h : Unused c) : Unused c.release ∧ c.releaseFds = [] := by
  obtain ⟨hrelease, hfds⟩ := h.socket.release
  rw [h.fdToClose] at hfds
  exact ⟨hrelease, hfds⟩

end PTCPConnection

namespace Client

variable {F : LoginFormat}

abbrev SocketEvent := Descriptors.Event Unit Int

section Events

variable (C : Conf) (R : RingSize)

/-! ### What is opened and closed -/

/-- `TryCloseFd` at the start of `Connect`. -/
def prepareFds (cl : Client F) : List SocketEvent :=
  if cl.conn.isClosed then cl.conn.ptcpConn.tryCloseFds.map .closed else []

/-- `Release` where the server is another one than the last time. -/
def adoptFds (cl : Client F) (name : Name F) : List SocketEvent :=
  if cl.storedName = name then [] else cl.conn.ptcpConn.releaseFds.map .closed

/-- `Connect` on the response: the socket is closed on each exit that fails. -/
def respondFds (cl : Client F) (env : ConnectEnv F) (fd : Int) (header : MsgHeader)
    (rsp : LoginRspMsg F) : List SocketEvent :=
  let header := header.convertByteOrder C.endian
  let rsp := rsp.convertByteOrder C.endian
  if header.size ≠ 8 + F.loginRspMsgSize ∨ header.msgType ≠ 2 ∨ rsp.serverName.isEmpty then
    [.closed fd]
  else if rsp.status ≠ 0 then [.closed fd]
  else
    cl.adoptFds rsp.serverName ++
      match cl.adopt rsp.serverName env with
      | (_, some _) => [.closed fd]
      | (_, none) => []

/-- `Connect`. Where a call after `socket` fails, `sock` is what `socket` has returned. -/
def connectFds (cl : Client F) (env : ConnectEnv F) (sock : Int) : List SocketEvent :=
  cl.prepareFds ++
    match cl.prepare C env with
    | (cl, .login _ _) =>
      match env.net with
      | .failed .socket _ => []
      | .failed _ _ => [.opened () sock, .closed sock]
      | .response fd header rsp => .opened () fd :: cl.respondFds C env fd header rsp
    | _ => []

def pollTcpFds (cl : Client F) (now : Int) (rs : List SendResult) (hb : SendResult)
    (res : ReadResult) : List SocketEvent :=
  let conn := if cl.conn.isClosed then cl.conn else (cl.conn.tcpFront C now rs hb res).1
  conn.ptcpConn.tryCloseFds.map .closed

def stopFds (cl : Client F) : List SocketEvent := cl.conn.ptcpConn.releaseFds.map .closed

/-! ### Runs -/

/-- A client, and what happened to descriptors so far. -/
structure Traced (F : LoginFormat) where
  client : Client F
  fds : List SocketEvent

/-- What `Connect` gets from the kernel is a descriptor, and one that is not open. -/
def Fresh (T : Traced F) (env : ConnectEnv F) (sock : Int) : Prop :=
  ∀ fd, Descriptors.Event.opened () fd ∈ T.client.connectFds C env sock →
    0 ≤ fd ∧ ¬Descriptors.OpenAs (T.fds ++ T.client.prepareFds) () fd

inductive FdStep : Traced F → Traced F → Prop where
  | connect {T : Traced F} {env : ConnectEnv F} {sock : Int} (hfresh : Fresh C T env sock) :
      FdStep T ⟨(T.client.connect C env).1, T.fds ++ T.client.connectFds C env sock⟩
  | pollTcp (T : Traced F) (now : Int) (rs : List SendResult) (hb : SendResult) (res : ReadResult) :
      FdStep T ⟨T.client.pollTcp C now rs hb res, T.fds ++ T.client.pollTcpFds C now rs hb res⟩
  | call (T : Traced F) (e : TcpShmConnection.Call) :
      FdStep T ⟨{ T.client with conn := e.run C R T.client.conn }, T.fds⟩
  | stop (T : Traced F) : FdStep T ⟨T.client.stop, T.fds ++ T.client.stopFds⟩

/-- The states of a client that was just constructed, and went through a run. -/
def FdReaches (clientName : Name F) (disk : Disk F) (T : Traced F) : Prop :=
  Relation.ReflTransGen (FdStep C R) ⟨.new C clientName disk, []⟩ T

end Events

variable {C : Conf} {R : RingSize} {cl : Client F} {env : ConnectEnv F} {sock fd : Int}
  {name : Name F}

open PTCPConnection (Socket Unused)

/-! ### `Connect` exit by exit -/

lemma openFile_unused (h : Unused cl.conn.ptcpConn) (useShm : Bool) (errs : MapErrors) :
    Unused (cl.openFile useShm errs).1.conn.ptcpConn := by
  refine ⟨?_, ?_⟩
  · rw [← h.sockfd]
    exact TcpShmConnection.openFile_sockfd ..
  · rw [← h.fdToClose]
    exact TcpShmConnection.openFile_fdToClose ..

lemma mapLastServer_ptcpConn (cl : Client F) (err : Option MapError) :
    (cl.mapLastServer err).1.conn.ptcpConn = cl.conn.ptcpConn := by
  unfold mapLastServer
  split <;> rfl

/-- Before the network is needed the client is connected already, or its descriptor is closed. -/
lemma prepare_unused (hs : Socket cl.conn.ptcpConn) (env : ConnectEnv F) :
    (cl.conn.isClosed = false ∧ cl.prepareFds = [] ∧
        cl.prepare C env = (cl, .error "already connected" 0)) ∨
      (cl.prepareFds = (openFd cl.conn.ptcpConn.fdToClose).toList.map .closed ∧
        Unused (cl.prepare C env).1.conn.ptcpConn) := by
  unfold prepareFds
  cases hclosed : cl.conn.isClosed with
  | false =>
    refine Or.inl ⟨rfl, rfl, ?_⟩
    unfold prepare
    rw [hclosed]
    rfl
  | true =>
    obtain ⟨hunused, hfds⟩ := hs.closed hclosed
    refine Or.inr ⟨by rw [hfds]; rfl, ?_⟩
    unfold prepare
    rw [hclosed]
    have hmap := mapLastServer_ptcpConn { cl with conn := cl.conn.tryCloseFd.1 } env.lastServerErr
    have hkept : Unused ({ cl with conn := cl.conn.tryCloseFd.1 }.mapLastServer
        env.lastServerErr).1.conn.ptcpConn := by
      rw [hmap]
      exact hunused
    simp only [Bool.not_true, Bool.false_eq_true, if_false]
    generalize { cl with conn := cl.conn.tryCloseFd.1 }.mapLastServer env.lastServerErr = mapped
      at hkept ⊢
    obtain ⟨cl₁, _ | err⟩ := mapped
    · simp only
      split_ifs
      · exact hkept
      · have hopened := openFile_unused hkept env.useShm env.errs
        generalize cl₁.openFile env.useShm env.errs = opened at hopened ⊢
        obtain ⟨cl₂, _ | err⟩ := opened
        · exact hopened
        · exact hopened
    · exact hkept

/-- A new server name finds no descriptor to close. -/
lemma adopt_unused (h : Unused cl.conn.ptcpConn) (name : Name F) (env : ConnectEnv F) :
    cl.adoptFds name = [] ∧ Unused (cl.adopt name env).1.conn.ptcpConn := by
  unfold adoptFds adopt
  by_cases hname : cl.storedName = name
  · rw [if_pos hname, if_pos hname]
    exact ⟨rfl, h⟩
  · rw [if_neg hname, if_neg hname]
    obtain ⟨hrelease, hfds⟩ := h.release
    have hrenamed : Unused (cl.rename name).conn.ptcpConn := hrelease
    have hopened := openFile_unused hrenamed env.useShm env.newErrs
    refine ⟨by rw [hfds]; rfl, ?_⟩
    generalize (cl.rename name).openFile env.useShm env.newErrs = opened at hopened ⊢
    obtain ⟨cl₁, _ | err⟩ := opened
    · refine ⟨?_, ?_⟩
      · rw [← hopened.sockfd]
        show cl₁.conn.reset.ptcpConn.sockfd = _
        unfold TcpShmConnection.reset
        split_ifs <;> rfl
      · rw [← hopened.fdToClose]
        exact TcpShmConnection.reset_fdToClose cl₁.conn
    · exact hopened

/-- The response is refused and the socket closed, or the socket is handed to `Open`. -/
lemma respond_unused (h : Unused cl.conn.ptcpConn) (env : ConnectEnv F) (sentHeader : MsgHeader)
    (sentMsg : LoginMsg F) (fd : Int) (header : MsgHeader) (rsp : LoginRspMsg F) :
    (cl.respondFds C env fd header rsp = [.closed fd] ∧
        Unused (cl.respond C env sentHeader sentMsg fd header rsp).1.conn.ptcpConn ∧
        ∀ r, (cl.respond C env sentHeader sentMsg fd header rsp).2 ≠ .loginSuccess r) ∨
      (cl.respondFds C env fd header rsp = [] ∧
        (∃ r, (cl.respond C env sentHeader sentMsg fd header rsp).2 = .loginSuccess r) ∧
        ∃ (c : TcpShmConnection F) (ack : UInt32), Unused c.ptcpConn ∧
          (cl.respond C env sentHeader sentMsg fd header rsp).1.conn =
            (c.open C fd ack env.now env.sends).1) := by
  unfold respondFds respond
  simp only
  split_ifs
  · refine Or.inl ⟨rfl, h, fun r hr => ?_⟩
    cases hr
  · refine Or.inl ⟨rfl, h, fun r hr => ?_⟩
    cases hr
  · refine Or.inl ⟨rfl, h, fun r hr => ?_⟩
    cases hr
  · obtain ⟨hfds, hadopt⟩ := adopt_unused h (rsp.convertByteOrder C.endian).serverName env
    rw [hfds]
    generalize cl.adopt (rsp.convertByteOrder C.endian).serverName env = adopted at hadopt ⊢
    obtain ⟨cl₁, _ | err⟩ := adopted
    · exact Or.inr ⟨rfl, ⟨_, rfl⟩, cl₁.conn, _, hadopt, rfl⟩
    · refine Or.inl ⟨rfl, hadopt, fun r hr => ?_⟩
      cases hr

/-- What `Connect` does to descriptors once that of the connection is closed: nothing; a socket is
opened and closed; or one is opened and handed to `Open`. -/
inductive Ends (C : Conf) (cl : Client F) (env : ConnectEnv F) : List SocketEvent → Prop where
  | failed (h : Unused (cl.connect C env).1.conn.ptcpConn)
      (hfail : ∀ r, (cl.connect C env).2 ≠ .loginSuccess r) : Ends C cl env []
  | closed (fd : Int) (h : Unused (cl.connect C env).1.conn.ptcpConn)
      (hfail : ∀ r, (cl.connect C env).2 ≠ .loginSuccess r) :
      Ends C cl env [.opened () fd, .closed fd]
  | opened {fd : Int} {c : TcpShmConnection F} {ack : UInt32} {r : LoginRspMsg F}
      (hsuccess : (cl.connect C env).2 = .loginSuccess r) (h : Unused c.ptcpConn)
      (hconn : (cl.connect C env).1.conn = (c.open C fd ack env.now env.sends).1) :
      Ends C cl env [.opened () fd]

theorem connect_ends (hs : Socket cl.conn.ptcpConn) (env : ConnectEnv F) (sock : Int) :
    (cl.conn.isClosed = false ∧ cl.connectFds C env sock = [] ∧
        cl.connect C env = (cl, .systemError "already connected" 0)) ∨
      ∃ rest, cl.connectFds C env sock = cl.prepareFds ++ rest ∧
        cl.prepareFds = (openFd cl.conn.ptcpConn.fdToClose).toList.map .closed ∧
        Ends C cl env rest := by
  obtain ⟨hopen, hnone, hprep⟩ | ⟨hfds, hunused⟩ := prepare_unused (C := C) hs env
  · refine Or.inl ⟨hopen, ?_, ?_⟩
    · unfold connectFds
      rw [hnone, hprep]
      rfl
    · unfold connect
      rw [hprep]
  refine Or.inr ⟨_, rfl, hfds, ?_⟩
  generalize hprep : cl.prepare C env = prepared at hunused ⊢
  obtain ⟨cl₁, prepared⟩ := prepared
  cases prepared with
  | error errorMsg sysErrno =>
    have hconnect : cl.connect C env = (cl₁, .systemError errorMsg sysErrno) := by
      unfold connect
      rw [hprep]
    refine .failed ?_ fun r => ?_
    · rw [hconnect]
      exact hunused
    · rw [hconnect]
      exact (nomatch ·)
  | undefined =>
    have hconnect : cl.connect C env = (cl₁, .undefined) := by
      unfold connect
      rw [hprep]
    refine .failed ?_ fun r => ?_
    · rw [hconnect]
      exact hunused
    · rw [hconnect]
      exact (nomatch ·)
  | login header msg =>
    cases hnet : env.net with
    | failed call sysErrno =>
      have hconnect : cl.connect C env = (cl₁, .systemError call.errorMsg sysErrno) := by
        unfold connect
        rw [hprep, hnet]
      have hkept : Unused (cl.connect C env).1.conn.ptcpConn := by
        rw [hconnect]
        exact hunused
      have hfail : ∀ r, (cl.connect C env).2 ≠ .loginSuccess r := by
        rw [hconnect]
        exact fun r => (nomatch ·)
      cases call with
      | socket => exact .failed hkept hfail
      | _ => exact .closed sock hkept hfail
    | response fd rspHeader rsp =>
      have hconnect : cl.connect C env = cl₁.respond C env header msg fd rspHeader rsp := by
        unfold connect
        rw [hprep, hnet]
      simp only
      obtain ⟨hfds, hkept, hfail⟩ | ⟨hfds, ⟨r, hsuccess⟩, c, ack, hc, hconn⟩ :=
        respond_unused (C := C) hunused env header msg fd rspHeader rsp
      · rw [hfds]
        refine .closed fd ?_ fun r => ?_
        · rw [hconnect]
          exact hkept
        · rw [hconnect]
          exact hfail r
      · rw [hfds]
        exact .opened (hconnect ▸ hsuccess) hc (hconnect ▸ hconn)

/-! ### What is held -/

/-- `held` is what is open, and nothing was closed that was not open. -/
def Owned (fds : List SocketEvent) (held : Option Int) : Prop :=
  ∃ t, Descriptors.run (fun _ => none) fds = some t ∧
    Descriptors.Owns (fun _ : Unit => ()) (fun _ => held) t

namespace Owned

variable {fds : List SocketEvent} {held : Option Int}

lemma openAs_iff (h : Owned fds held) : Descriptors.OpenAs fds () fd ↔ held = some fd := by
  obtain ⟨t, hrun, ho⟩ := h
  rw [← Descriptors.run_openAs hrun, ho.open_iff]
  constructor
  · rintro ⟨_, -, hheld⟩
    exact hheld
  · exact fun hheld => ⟨(), rfl, hheld⟩

lemma opened (h : Owned fds none) (hfresh : ¬Descriptors.OpenAs fds () fd) :
    Owned (fds ++ [.opened () fd]) (some fd) := by
  obtain ⟨t, hrun, ho⟩ := h
  have hfd : t fd = none := by
    rw [Option.eq_none_iff_forall_ne_some]
    exact fun _ hk => hfresh ((Descriptors.run_openAs hrun).mp hk)
  obtain ⟨t', hstep, ho'⟩ := ho.opened (x := ()) rfl hfd
  refine ⟨t', ?_, ?_⟩
  · rw [Descriptors.run_append, hrun, Option.bind_some, Descriptors.run_cons, hstep]
    rfl
  · convert ho' using 2
    exact (Function.update_self () (some fd) fun _ => none).symm

lemma closed (h : Owned fds (some fd)) : Owned (fds ++ [.closed fd]) none := by
  obtain ⟨t, hrun, ho⟩ := h
  obtain ⟨t', hstep, ho'⟩ := ho.closed (x := ()) rfl
  refine ⟨t', ?_, ?_⟩
  · rw [Descriptors.run_append, hrun, Option.bind_some, Descriptors.run_cons, hstep]
    rfl
  · convert ho' using 2
    exact (Function.update_self () none fun _ => some fd).symm

/-- What is held is closed, if anything. -/
lemma closedHeld (h : Owned fds (openFd fd)) :
    Owned (fds ++ (openFd fd).toList.map .closed) none := by
  unfold openFd at *
  split_ifs at h ⊢
  · exact h.closed
  · rw [Option.toList_none, List.map_nil, List.append_nil]
    exact h

end Owned

/-- The invariant of a run. -/
structure FdInv (T : Traced F) : Prop where
  socket : Socket T.client.conn.ptcpConn
  owned : Owned T.fds (openFd T.client.conn.ptcpConn.fdToClose)

namespace FdInv

variable {T T' : Traced F}

lemma new (C : Conf) (clientName : Name F) (disk : Disk F) :
    FdInv ⟨.new C clientName disk, []⟩ :=
  ⟨Unused.socket ⟨rfl, rfl⟩, _, rfl, .none _⟩

/-- The connection holds no descriptor any more. -/
lemma of_unused (h : Unused T.client.conn.ptcpConn) (howned : Owned T.fds none) : FdInv T := by
  refine ⟨h.socket, ?_⟩
  rw [h.fdToClose]
  exact howned

lemma connect (h : FdInv T) (hfresh : Fresh C T env sock) :
    FdInv ⟨(T.client.connect C env).1, T.fds ++ T.client.connectFds C env sock⟩ := by
  unfold Fresh at hfresh
  obtain ⟨-, hnone, hconnect⟩ | ⟨rest, hrest, hfds, hends⟩ :=
    connect_ends (C := C) h.socket env sock
  · rw [hnone, hconnect, List.append_nil]
    exact h
  have howned : Owned (T.fds ++ T.client.prepareFds) none := by
    rw [hfds]
    exact h.owned.closedHeld
  rw [hrest] at hfresh ⊢
  rw [← List.append_assoc]
  cases hends with
  | failed hunused =>
    rw [List.append_nil]
    exact of_unused hunused howned
  | closed fd hunused =>
    obtain ⟨-, hnew⟩ := hfresh fd (by simp)
    have hclosed := (howned.opened hnew).closed
    rw [List.append_assoc] at hclosed
    exact of_unused hunused hclosed
  | @opened fd c ack r hsuccess hunused hconn =>
    obtain ⟨hpos, hnew⟩ := hfresh fd (by simp)
    obtain ⟨hsocket, hfd⟩ :=
      PTCPConnection.socket_open (C := C) hpos c.ptcpConn ack env.now env.sends
    have hptcp : (T.client.connect C env).1.conn.ptcpConn =
        (c.ptcpConn.open C fd ack env.now env.sends).1 := by
      rw [hconn]
      rfl
    refine ⟨?_, ?_⟩
    · rw [hptcp]
      exact hsocket
    · rw [hptcp, hfd, openFd_of_nonneg hpos]
      exact howned.opened hnew

lemma keeps {conn : TcpShmConnection F} (h : FdInv T) (hk : T.client.conn.Keeps conn) :
    FdInv ⟨{ T.client with conn := conn }, T.fds⟩ := by
  refine ⟨h.socket.keeps hk.ptcpConn, ?_⟩
  show Owned T.fds (openFd conn.ptcpConn.fdToClose)
  rw [hk.ptcpConn.fdToClose]
  exact h.owned

/-- `TryCloseFd`. -/
lemma tryCloseFd (h : FdInv T) : FdInv ⟨{ T.client with conn := T.client.conn.tryCloseFd.1 },
    T.fds ++ T.client.conn.ptcpConn.tryCloseFds.map .closed⟩ := by
  cases hclosed : T.client.conn.ptcpConn.tryCloseFd.2 with
  | true =>
    obtain ⟨hunused, hpos, hfds⟩ := h.socket.tryCloseFd hclosed
    have howned := h.owned
    rw [openFd_of_nonneg hpos] at howned
    rw [hfds]
    exact of_unused hunused howned.closed
  | false =>
    have hsame : T.client.conn.tryCloseFd.1 = T.client.conn := by
      unfold TcpShmConnection.tryCloseFd PTCPConnection.tryCloseFd at *
      split_ifs at hclosed ⊢
      rfl
    rw [PTCPConnection.tryCloseFds_of_open hclosed, hsame, List.map_nil, List.append_nil]
    exact h

lemma step (h : FdInv T) (hstep : FdStep C R T T') : FdInv T' := by
  cases hstep with
  | connect hfresh => exact h.connect hfresh
  | pollTcp now rs hb res =>
    have hkeeps : T.client.conn.Keeps (if T.client.conn.isClosed then T.client.conn
        else (T.client.conn.tcpFront C now rs hb res).1) := by
      split_ifs
      · exact .refl _
      · exact .tcpFront _ now rs hb res
    exact (h.keeps hkeeps).tryCloseFd
  | call e => exact h.keeps (e.keeps _)
  | stop =>
    obtain ⟨hunused, hfds⟩ := h.socket.release
    refine of_unused hunused ?_
    show Owned (T.fds ++ T.client.conn.ptcpConn.releaseFds.map .closed) none
    rw [hfds]
    exact h.owned.closedHeld

end FdInv

variable {T : Traced F} {clientName : Name F} {disk : Disk F}

lemma FdReaches.fdInv (h : FdReaches C R clientName disk T) : FdInv T := by
  induction h with
  | refl => exact .new C clientName disk
  | tail _ hstep ih => exact ih.step hstep

/-- Who owns the descriptors of a client in a state of a run: a socket to which nothing happened
since it was opened is the `fd_to_close_` of the connection, and any other was closed once; a
`Connect` that is not refused outright and does not succeed leaves no descriptor open; `Open` is
called on a connection that holds none; and neither does `Stop` leave one. -/
structure WellOwned (C : Conf) (T : Traced F) : Prop where
  opened : ∀ pre post fd, T.fds = pre ++ .opened () fd :: post →
    (Descriptors.Untouched post fd ∧ T.client.conn.ptcpConn.fdToClose = fd) ∨
      Descriptors.ClosedOnce post fd
  held : 0 ≤ T.client.conn.ptcpConn.fdToClose →
    Descriptors.OpenAs T.fds () T.client.conn.ptcpConn.fdToClose
  failed : ∀ env sock, T.client.conn.isClosed = true → Fresh C T env sock →
    (∀ rsp, (T.client.connect C env).2 ≠ .loginSuccess rsp) →
      ∀ fd, ¬Descriptors.OpenAs (T.fds ++ T.client.connectFds C env sock) () fd
  opens : ∀ env rsp, (T.client.connect C env).2 = .loginSuccess rsp →
    ∃ (c : TcpShmConnection F) (fd : Int) (ack : UInt32), Unused c.ptcpConn ∧
      (T.client.connect C env).1.conn = (c.open C fd ack env.now env.sends).1
  stopped : ∀ fd, ¬Descriptors.OpenAs (T.fds ++ T.client.stopFds) () fd

/-- The first login cannot be sent. -/
def unsentEnv : ConnectEnv shortNames := { acceptedEnv false with net := .failed .send 32 }

def unsent : Client shortNames := (newClient.connect (hostConf true) unsentEnv).1

/-- The second one is answered, on a socket with the same number. -/
def answeredOnce : Traced shortNames :=
  ⟨(unsent.connect (hostConf true) (acceptedEnv false)).1,
    [.opened () 6, .closed 6, .opened () 6]⟩

end Client

end Tcpshm
