import Mathlib.Logic.Relation
import Tcpshm.Client.Basic
import Tcpshm.TcpShmConn.Calls

/-!
# The next login

What the login of a client depends on, and what a `Connect` that fails leaves of it.
-/

namespace Tcpshm.Client

variable {F : LoginFormat} {C : Conf} {R : RingSize} {cl cl' : Client F} {env : ConnectEnv F}

/-! ### Runs of a client -/

/-- A call of the user on the client or its connection. -/
inductive Step (C : Conf) (R : RingSize) : Client F → Client F → Prop where
  | connect (cl : Client F) (env : ConnectEnv F) : Step C R cl (cl.connect C env).1
  | pollTcp (cl : Client F) (now : Int) (rs : List SendResult) (hb : SendResult)
      (res : ReadResult) : Step C R cl (cl.pollTcp C now rs hb res)
  | call (cl : Client F) (e : TcpShmConnection.Call) :
      Step C R cl { cl with conn := e.run C R cl.conn }
  | stop (cl : Client F) : Step C R cl cl.stop

def Reaches (C : Conf) (R : RingSize) : Client F → Client F → Prop :=
  Relation.ReflTransGen (Step C R)

/-- Once `.lastserver` is mapped, the connection is that with the stored server. -/
def Named (cl : Client F) : Prop := ∀ n, cl.serverName = some n → cl.conn.remoteName = n

lemma Named.of_conn (h : Named cl) {conn : TcpShmConnection F}
    (hname : conn.remoteName = cl.conn.remoteName) : Named { cl with conn := conn } :=
  fun n hn => hname.trans (h n hn)

lemma Named.mapLastServer (h : Named cl) (err : Option MapError) :
    Named (cl.mapLastServer err).1 := by
  unfold Client.mapLastServer
  split
  · exact h
  · exact h
  · intro n hn
    exact Option.some.inj hn

lemma Named.openFile (h : Named cl) (useShm : Bool) (errs : MapErrors) :
    Named (cl.openFile useShm errs).1 :=
  h.of_conn (TcpShmConnection.openFile_remoteName _ _ _ _)

/-! ### The first half of `Connect` -/

/-- The client with `.lastserver` mapped and no descriptor left to close. -/
def mapped (cl : Client F) : Client F :=
  { cl with
    serverName := some cl.storedName
    conn := { cl.conn.tryCloseFd.1 with remoteName := cl.storedName } }

/-- `.lastserver` is mapped or can be mapped. -/
def CanMapName (cl : Client F) (env : ConnectEnv F) : Prop :=
  cl.serverName.isSome = true ∨ env.lastServerErr = none

lemma mapLastServer_cases (hn : Named cl) (err : Option MapError) :
    (cl.serverName = none ∧ ∃ e, err = some e ∧ cl.mapLastServer err = (cl, some e)) ∨
      ((cl.serverName.isSome = true ∨ err = none) ∧ cl.mapLastServer err =
        ({ cl with
          serverName := some cl.storedName
          conn := { cl.conn with remoteName := cl.storedName } }, none)) := by
  unfold mapLastServer storedName
  cases hname : cl.serverName with
  | some n =>
    refine Or.inr ⟨Or.inl rfl, ?_⟩
    have hsame : cl.serverName = some cl.conn.remoteName := by rw [hname, hn n hname]
    simp only [Option.getD_some]
    rw [← hn n hname, ← hsame]
  | none =>
    cases err with
    | some e => exact Or.inl ⟨rfl, e, rfl, rfl⟩
    | none => exact Or.inr ⟨Or.inr rfl, rfl⟩

/-- Every exit of the first half. -/
theorem prepare_cases (hn : Named cl) (env : ConnectEnv F) :
    (cl.conn.isClosed = false ∧ cl.prepare C env = (cl, .error "already connected" 0)) ∨
    (cl.conn.isClosed = true ∧ ¬cl.CanMapName env ∧ ∃ err : MapError, cl.prepare C env =
      ({ cl with conn := cl.conn.tryCloseFd.1 }, .error err.call.errorMsg err.errno)) ∨
    (cl.conn.isClosed = true ∧ cl.CanMapName env ∧ cl.storedName.isEmpty = true ∧
      cl.prepare C env = (cl.mapped, cl.mapped.loginMsg C env.useShm 0 0 0)) ∨
    (cl.conn.isClosed = true ∧ cl.CanMapName env ∧ cl.storedName.isEmpty = false ∧
      ((∃ err, (cl.mapped.openFile env.useShm env.errs).2 = some err ∧ cl.prepare C env =
          ((cl.mapped.openFile env.useShm env.errs).1, .error err.call.errorMsg err.errno)) ∨
        ((cl.mapped.openFile env.useShm env.errs).2 = none ∧ cl.prepare C env =
          ((cl.mapped.openFile env.useShm env.errs).1,
            (cl.mapped.openFile env.useShm env.errs).1.loginSeq C env.useShm)))) := by
  have hfd : Named { cl with conn := cl.conn.tryCloseFd.1 } := hn.of_conn rfl
  unfold prepare
  cases hclosed : cl.conn.isClosed with
  | false => exact Or.inl ⟨rfl, rfl⟩
  | true =>
    refine Or.inr ?_
    simp only [Bool.not_true, Bool.false_eq_true, if_false, true_and]
    obtain ⟨hnone, err, herr, hmap⟩ | ⟨hsome, hmap⟩ := mapLastServer_cases hfd env.lastServerErr
    · refine Or.inl ⟨?_, err, by rw [hmap]⟩
      rintro (h | h)
      · rw [show cl.serverName = none from hnone] at h
        exact (nomatch h)
      · exact (nomatch herr.symm.trans h)
    · refine Or.inr ?_
      have hmapped : Client.mapLastServer { cl with conn := cl.conn.tryCloseFd.1 }
          env.lastServerErr = (cl.mapped, none) := hmap
      rw [hmapped]
      simp only
      cases hempty : cl.storedName.isEmpty with
      | true =>
        have h : cl.mapped.storedName.isEmpty = true := hempty
        refine Or.inl ⟨hsome, rfl, ?_⟩
        rw [if_pos h]
      | false =>
        have h : ¬cl.mapped.storedName.isEmpty = true := by
          rw [show cl.mapped.storedName.isEmpty = false from hempty]
          exact Bool.false_ne_true
        refine Or.inr ⟨hsome, rfl, ?_⟩
        rw [if_neg h]
        generalize cl.mapped.openFile env.useShm env.errs = opened
        obtain ⟨cl₁, _ | err⟩ := opened
        · exact Or.inr ⟨rfl, rfl⟩
        · exact Or.inl ⟨err, rfl, rfl⟩

lemma Named.mapped (cl : Client F) : Named cl.mapped := fun _ hn => Option.some.inj hn

lemma Named.prepare (h : Named cl) (env : ConnectEnv F) : Named (cl.prepare C env).1 := by
  obtain ⟨-, heq⟩ | ⟨-, -, err, heq⟩ | ⟨-, -, -, heq⟩ | ⟨-, -, -, ⟨err, -, heq⟩ | ⟨-, heq⟩⟩ :=
    prepare_cases (C := C) h env <;> rw [heq]
  · exact h
  · exact h.of_conn rfl
  · exact .mapped cl
  · exact (Named.mapped cl).openFile _ _
  · exact (Named.mapped cl).openFile _ _

lemma Named.adopt (h : Named cl) (name : Name F) (env : ConnectEnv F) :
    Named (cl.adopt name env).1 := by
  have hname : Named (cl.rename name) := fun n hn => Option.some.inj hn
  have hopen := hname.openFile env.useShm env.newErrs
  unfold Client.adopt
  split_ifs
  · exact h
  · generalize (cl.rename name).openFile env.useShm env.newErrs = opened at hopen ⊢
    obtain ⟨cl₁, _ | err⟩ := opened
    · exact hopen.of_conn (TcpShmConnection.reset_remoteName _)
    · exact hopen

/-! ### What the login depends on -/

/-- What the TCP queue for the stored server holds, mapped or not. -/
def tcpFile (cl : Client F) : PTCPQueue :=
  (cl.conn.contents (cl.disk.queueFiles cl.storedName)).ptcp

/-- The login that `Connect` sends where everything can be mapped. -/
def request (C : Conf) (cl : Client F) (useShm : Bool) : Prepared F :=
  if cl.storedName.isEmpty ∨ useShm ∨ cl.conn.shmSendq.isSome then cl.loginMsg C useShm 0 0 0
  else match cl.tcpFile.sanityCheckAndGetSeq C.tcpQueueSize C.endian with
    | .ok seqStart seqEnd => cl.loginMsg C useShm cl.tcpFile.myAck seqStart seqEnd
    | .corrupt => .error "Ptcp file corrupt" 0
    | _ => .undefined

/-- `Connect` gets as far as the numbers. -/
structure CanPrepare (cl : Client F) (env : ConnectEnv F) : Prop where
  closed : cl.conn.isClosed = true
  name : cl.CanMapName env
  files : cl.storedName.isEmpty = true ∨ cl.conn.CanOpen env.useShm env.errs

lemma mapped_contents (cl : Client F) (files : QueueFiles) :
    cl.mapped.conn.contents files = cl.conn.contents files := by
  show QueueFiles.mk (cl.conn.ptcpConn.tryCloseFd.1.q.getD _) _ _ = _
  rw [PTCPConnection.q_tryCloseFd]
  rfl

lemma openFile_none_iff {useShm : Bool} {errs : MapErrors} :
    (cl.mapped.openFile useShm errs).2 = none ↔ cl.conn.CanOpen useShm errs := by
  have hq : cl.mapped.conn.ptcpConn.q = cl.conn.ptcpConn.q := PTCPConnection.q_tryCloseFd _
  refine TcpShmConnection.openFile_eq_none_iff.trans ?_
  unfold TcpShmConnection.CanOpen
  rw [hq]
  rfl

/-- `GetSeq` on the opened files. -/
lemma loginSeq_eq (hempty : cl.storedName.isEmpty = false) {useShm : Bool} {errs : MapErrors}
    (h : (cl.mapped.openFile useShm errs).2 = none) :
    (cl.mapped.openFile useShm errs).1.loginSeq C useShm = cl.request C useShm := by
  have hconn := TcpShmConnection.openFile_mapped h
  have hcontents := mapped_contents cl (cl.disk.queueFiles cl.storedName)
  have hfiles : cl.mapped.disk.queueFiles cl.mapped.conn.remoteName =
      cl.disk.queueFiles cl.storedName := rfl
  rw [hfiles, hcontents] at hconn
  -- the login of the opened client carries the same names
  have hseq : ∀ {a s e}, (cl.mapped.conn.openFile useShm (cl.disk.queueFiles cl.storedName)
      errs).1.getSeq C = .ok a s e →
      (cl.mapped.openFile useShm errs).1.loginSeq C useShm = cl.loginMsg C useShm a s e := by
    intro a s e hget
    have hget' : (cl.mapped.openFile useShm errs).1.conn.getSeq C = .ok a s e := hget
    rw [loginSeq, hget']
    rfl
  unfold request
  cases useShm with
  | true =>
    rw [if_pos rfl] at hconn
    rw [if_pos (Or.inr (Or.inl rfl))]
    refine hseq (TcpShmConnection.getSeq_of_shm ?_)
    rw [hconn]
    rfl
  | false =>
    rw [if_neg Bool.false_ne_true] at hconn
    have hsend : (cl.mapped.conn.openFile false (cl.disk.queueFiles cl.storedName)
        errs).1.shmSendq = cl.conn.shmSendq := by
      rw [hconn]
      rfl
    have hq : (cl.mapped.conn.openFile false (cl.disk.queueFiles cl.storedName)
        errs).1.ptcpConn.q = some cl.tcpFile := by
      rw [hconn]
      rfl
    cases hshm : cl.conn.shmSendq.isSome with
    | true =>
      rw [if_pos (Or.inr (Or.inr rfl))]
      exact hseq (TcpShmConnection.getSeq_of_shm (by rw [hsend, hshm]))
    | false =>
      have hget := TcpShmConnection.getSeq_of_tcp (C := C) (by rw [hsend, hshm]) hq
      rw [if_neg (by simp [hempty])]
      cases hcheck : cl.tcpFile.sanityCheckAndGetSeq C.tcpQueueSize C.endian with
      | ok seqStart seqEnd =>
        rw [hcheck] at hget
        exact hseq hget
      | corrupt =>
        rw [hcheck] at hget
        rw [loginSeq, show (cl.mapped.openFile false errs).1.conn.getSeq C = .corrupt from hget]
      | outOfBounds =>
        rw [hcheck] at hget
        rw [loginSeq, show (cl.mapped.openFile false errs).1.conn.getSeq C = .undefined from hget]
      | running =>
        rw [hcheck] at hget
        rw [loginSeq, show (cl.mapped.openFile false errs).1.conn.getSeq C = .undefined from hget]

theorem prepare_of_can (hn : Named cl) (h : cl.CanPrepare env) :
    (cl.prepare C env).2 = cl.request C env.useShm := by
  obtain ⟨hopen, -⟩ | ⟨-, hname, -⟩ | ⟨-, -, hempty, heq⟩ |
    ⟨-, -, hempty, ⟨err, herr, -⟩ | ⟨hnone, heq⟩⟩ := prepare_cases (C := C) hn env
  · exact (nomatch hopen.symm.trans h.closed)
  · exact absurd h.name hname
  · rw [heq, request, if_pos (Or.inl hempty)]
    rfl
  · have hcan := h.files.resolve_left fun h => (nomatch hempty.symm.trans h)
    exact (nomatch herr.symm.trans (openFile_none_iff.mpr hcan))
  · rw [heq]
    exact loginSeq_eq hempty hnone

theorem can_of_prepare {header : MsgHeader} {msg : LoginMsg F} (hn : Named cl)
    (h : (cl.prepare C env).2 = .login header msg) : cl.CanPrepare env := by
  obtain ⟨-, heq⟩ | ⟨-, -, err, heq⟩ | ⟨hclosed, hname, hempty, -⟩ |
    ⟨hclosed, hname, -, ⟨err, -, heq⟩ | ⟨hnone, -⟩⟩ := prepare_cases (C := C) hn env
  · rw [heq] at h
    exact (nomatch h)
  · rw [heq] at h
    exact (nomatch h)
  · exact ⟨hclosed, hname, Or.inl hempty⟩
  · rw [heq] at h
    exact (nomatch h)
  · exact ⟨hclosed, hname, Or.inr (openFile_none_iff.mp hnone)⟩

/-! ### What the first half leaves -/

/-- What a login depends on is the same, but for the send queue over shared memory, and what is
mapped stays mapped. -/
structure Kept (cl p : Client F) : Prop where
  clientName : p.clientName = cl.clientName
  storedName : p.storedName = cl.storedName
  sockfd : p.conn.ptcpConn.sockfd = cl.conn.ptcpConn.sockfd
  tcpFile : p.tcpFile = cl.tcpFile
  name : cl.serverName.isSome = true → p.serverName.isSome = true
  shmSendq : cl.conn.shmSendq.isSome = true → p.conn.shmSendq.isSome = true
  shmRecvq : cl.conn.shmRecvq.isSome = true → p.conn.shmRecvq.isSome = true
  queue : cl.conn.ptcpConn.q.isSome = true → p.conn.ptcpConn.q.isSome = true

namespace Kept

variable {p p' : Client F}

lemma refl (cl : Client F) : Kept cl cl := ⟨rfl, rfl, rfl, rfl, id, id, id, id⟩

lemma trans (h : Kept cl p) (h' : Kept p p') : Kept cl p' :=
  ⟨h'.clientName.trans h.clientName, h'.storedName.trans h.storedName, h'.sockfd.trans h.sockfd,
    h'.tcpFile.trans h.tcpFile, fun hs => h'.name (h.name hs), fun hs => h'.shmSendq (h.shmSendq hs),
    fun hs => h'.shmRecvq (h.shmRecvq hs), fun hs => h'.queue (h.queue hs)⟩

lemma closeFd (cl : Client F) : Kept cl { cl with conn := cl.conn.tryCloseFd.1 } := by
  have hsock : cl.conn.ptcpConn.tryCloseFd.1.sockfd = cl.conn.ptcpConn.sockfd := by
    unfold PTCPConnection.tryCloseFd
    split_ifs <;> rfl
  refine ⟨rfl, rfl, hsock, ?_, id, id, id, fun hq => ?_⟩
  · show cl.conn.ptcpConn.tryCloseFd.1.q.getD _ = _
    rw [PTCPConnection.q_tryCloseFd]
    rfl
  · show cl.conn.ptcpConn.tryCloseFd.1.q.isSome = true
    rw [PTCPConnection.q_tryCloseFd]
    exact hq

lemma mapped (cl : Client F) : Kept cl cl.mapped := by
  have hclose := closeFd cl
  exact ⟨rfl, rfl, hclose.sockfd, hclose.tcpFile, fun _ => rfl, id, id, hclose.queue⟩

lemma openFile (cl : Client F) (useShm : Bool) (errs : MapErrors) :
    Kept cl.mapped (cl.mapped.openFile useShm errs).1 := by
  have hmono := cl.mapped.conn.openFile_mono useShm (cl.disk.queueFiles cl.storedName) errs
  refine ⟨rfl, rfl, TcpShmConnection.openFile_sockfd _ _ _ _, ?_, id, fun hs => ?_, hmono.1,
    hmono.2⟩
  · exact congrArg QueueFiles.ptcp (cl.mapped.conn.openFile_contents useShm
      (cl.disk.queueFiles cl.storedName) errs)
  · exact (TcpShmConnection.openFile_shmSendq _ _ _ _).mpr (Or.inl hs)

lemma prepare (hn : Named cl) (env : ConnectEnv F) : Kept cl (cl.prepare C env).1 := by
  have hopen := (Kept.mapped cl).trans (openFile cl env.useShm env.errs)
  obtain ⟨-, heq⟩ | ⟨-, -, err, heq⟩ | ⟨-, -, -, heq⟩ | ⟨-, -, -, ⟨err, -, heq⟩ | ⟨-, heq⟩⟩ :=
    prepare_cases (C := C) hn env <;> rw [heq]
  · exact refl cl
  · exact closeFd cl
  · exact mapped cl
  · exact hopen
  · exact hopen

lemma isClosed (h : Kept cl p) : p.conn.isClosed = cl.conn.isClosed := by
  unfold TcpShmConnection.isClosed PTCPConnection.isClosed
  rw [h.sockfd]

lemma canPrepare (h : Kept cl p) (hcan : cl.CanPrepare env) : p.CanPrepare env := by
  refine ⟨h.isClosed.trans hcan.closed, hcan.name.imp_left h.name, ?_⟩
  rw [h.storedName]
  refine hcan.files.imp_right fun hopen => ?_
  unfold TcpShmConnection.CanOpen at hopen ⊢
  split_ifs at hopen ⊢
  · exact ⟨hopen.1.imp_left h.shmSendq, hopen.2.imp_left h.shmRecvq⟩
  · exact hopen.imp_left h.queue

lemma request_eq (h : Kept cl p)
    (hsend : p.conn.shmSendq.isSome = true → cl.conn.shmSendq.isSome = true) (useShm : Bool) :
    p.request C useShm = cl.request C useShm := by
  have hsame : p.conn.shmSendq.isSome = cl.conn.shmSendq.isSome :=
    Bool.eq_iff_iff.mpr ⟨hsend, h.shmSendq⟩
  have hmsg : ∀ a b c, p.loginMsg C useShm a b c = cl.loginMsg C useShm a b c := by
    intro a b c
    unfold loginMsg
    rw [h.clientName, h.storedName]
  unfold request
  rw [h.storedName, h.tcpFile, hsame, hmsg]
  split_ifs
  · rfl
  · cases cl.tcpFile.sanityCheckAndGetSeq C.tcpQueueSize C.endian with
    | ok seqStart seqEnd => exact hmsg _ _ _
    | _ => rfl

end Kept

/-- The first half maps the send queue over shared memory. -/
structure MapsSend (cl : Client F) (env : ConnectEnv F) : Prop where
  useShm : env.useShm = true
  closed : cl.conn.isClosed = true
  name : cl.CanMapName env
  stored : cl.storedName.isEmpty = false
  unmapped : cl.conn.shmSendq = none
  err : env.errs.shmSend = none

lemma prepare_shmSendq (hn : Named cl) (env : ConnectEnv F) :
    (cl.prepare C env).1.conn.shmSendq.isSome = true ↔
      cl.conn.shmSendq.isSome = true ∨ cl.MapsSend env := by
  have hopen : ((cl.mapped.openFile env.useShm env.errs).1.conn.shmSendq.isSome = true ↔
      cl.conn.shmSendq.isSome = true ∨ (env.useShm = true ∧ env.errs.shmSend = none)) :=
    TcpShmConnection.openFile_shmSendq _ _ _ _
  have hmaps : ∀ h : cl.conn.isClosed = true, cl.CanMapName env → cl.storedName.isEmpty = false →
      (cl.conn.shmSendq.isSome = true ∨ (env.useShm = true ∧ env.errs.shmSend = none) ↔
        cl.conn.shmSendq.isSome = true ∨ cl.MapsSend env) := by
    intro hclosed hname hstored
    constructor
    · rintro (hs | ⟨hshm, herr⟩)
      · exact Or.inl hs
      · cases hs : cl.conn.shmSendq with
        | some q => exact Or.inl rfl
        | none => exact Or.inr ⟨hshm, hclosed, hname, hstored, hs, herr⟩
    · rintro (hs | h)
      · exact Or.inl hs
      · exact Or.inr ⟨h.useShm, h.err⟩
  obtain ⟨hopened, heq⟩ | ⟨-, hname, err, heq⟩ | ⟨-, -, hempty, heq⟩ |
    ⟨hclosed, hname, hstored, ⟨err, -, heq⟩ | ⟨-, heq⟩⟩ := prepare_cases (C := C) hn env <;> rw [heq]
  · exact ⟨Or.inl, fun h => h.resolve_right fun h => (nomatch hopened.symm.trans h.closed)⟩
  · exact ⟨Or.inl, fun h => h.resolve_right fun h => hname h.name⟩
  · exact ⟨Or.inl, fun h => h.resolve_right fun h => (nomatch hempty.symm.trans h.stored)⟩
  · exact hopen.trans (hmaps hclosed hname hstored)
  · exact hopen.trans (hmaps hclosed hname hstored)

end Tcpshm.Client
