import Tcpshm.Joined
import Tcpshm.Login.Sync
import Tcpshm.TcpShmConn.Calls
import Tcpshm.TcpShmConn.Files

/-!
# Which files belong to a connection

The two names of a connection are joined to the name of a file. The joined text can be cut at any
separator in it, so that other names may give the same file; and the files for shared memory are
in one place on a host, whichever end sends on them.
-/

namespace Tcpshm

/-! ### The files -/

/-- The bytes of a string literal. -/
def text (s : String) : List UInt8 := s.toList.map Char.toUInt8

/-- `'_'`. -/
def underscore : UInt8 := 95

namespace TcpShmConnection

variable {F : LoginFormat}

/-- `GetPtcpFile`. -/
def getPtcpFile (ptcpDir : List UInt8) (localName remoteName : Name F) : List UInt8 :=
  ptcpDir ++ text "/" ++ localName.chars ++ text "_" ++ remoteName.chars ++ text ".ptcp"

/-- `shm_send_file`. -/
def shmSendFile (localName remoteName : Name F) : List UInt8 :=
  text "/" ++ localName.chars ++ text "_" ++ remoteName.chars ++ text ".shm"

/-- `shm_recv_file`. -/
def shmRecvFile (localName remoteName : Name F) : List UInt8 :=
  text "/" ++ remoteName.chars ++ text "_" ++ localName.chars ++ text ".shm"

variable {a b c d : Name F}

/-- The names of one file can be taken for those of the other. -/
def Confused (a b c d : Name F) : Prop := Joined.Confused underscore a.chars b.chars c.chars d.chars

lemma append_join_append (x y : List UInt8) (a b : Name F) :
    x ++ a.chars ++ text "_" ++ b.chars ++ y = x ++ (Joined.join underscore a.chars b.chars ++ y) := by
  have htext : text "_" = [underscore] := rfl
  simp [htext, Joined.join]

lemma getPtcpFile_eq_iff (ptcpDir : List UInt8) :
    getPtcpFile ptcpDir a b = getPtcpFile ptcpDir c d ↔ Confused a b c d := by
  unfold getPtcpFile
  rw [append_join_append, append_join_append, List.append_cancel_left_eq,
    List.append_cancel_right_eq, Joined.join_eq_iff, Confused]

lemma shmSendFile_eq_iff : shmSendFile a b = shmSendFile c d ↔ Confused a b c d := by
  unfold shmSendFile
  rw [append_join_append, append_join_append, List.append_cancel_left_eq,
    List.append_cancel_right_eq, Joined.join_eq_iff, Confused]

/-- One end sends where the other receives. -/
lemma shmRecvFile_eq (a b : Name F) : shmRecvFile a b = shmSendFile b a := rfl

end TcpShmConnection

/-! ### Queues on a host -/

/-- What the files of a host hold, by their paths; those for shared memory are separate. -/
structure Host where
  ptcp : List UInt8 → PTCPQueue
  shm : List UInt8 → SPSCVarQueue

namespace TcpShmConnection

/-- A call on a connection, by the user or by the client or server that has it. -/
inductive Op where
  | call (e : Call)
  | openFile (useShm : Bool) (errs : MapErrors)
  | reset
  | release
  | open (sockFd : Int) (remoteAckSeq : UInt32) (now : Int) (rs : List SendResult)
  | tryCloseFd

variable {F : LoginFormat} (C : Conf) (R : RingSize)

/-- The connection after the call, where its files hold `files`. -/
def Op.run (files : QueueFiles) (c : TcpShmConnection F) : Op → TcpShmConnection F
  | call e => e.run C R c
  | openFile useShm errs => (c.openFile useShm files errs).1
  | reset => c.reset
  | release => c.release
  | «open» sockFd remoteAckSeq now rs => (c.open C sockFd remoteAckSeq now rs).1
  | tryCloseFd => c.tryCloseFd.1

end TcpShmConnection

namespace Host

variable {F : LoginFormat}

/-- What the files of an end hold. -/
def queueFiles (h : Host) (ptcpDir : List UInt8) (localName remoteName : Name F) : QueueFiles where
  ptcp := h.ptcp (TcpShmConnection.getPtcpFile ptcpDir localName remoteName)
  shmSend := h.shm (TcpShmConnection.shmSendFile localName remoteName)
  shmRecv := h.shm (TcpShmConnection.shmRecvFile localName remoteName)

/-- A mapped queue is what the file holds. -/
def load (files : QueueFiles) (c : TcpShmConnection F) : TcpShmConnection F :=
  { c with
    ptcpConn := { c.ptcpConn with q := c.ptcpConn.q.map fun _ => files.ptcp }
    shmSendq := c.shmSendq.map fun _ => files.shmSend
    shmRecvq := c.shmRecvq.map fun _ => files.shmRecv }

/-- The file at `path` holds the queue, if it is mapped. -/
def storeAt {α : Type} (files : List UInt8 → α) (path : List UInt8) (q : Option α) :
    List UInt8 → α :=
  q.elim files (Function.update files path)

/-- What is mapped is in the files of the end with these names, where these are two for shared
memory. -/
def store (h : Host) (ptcpDir : List UInt8) (localName remoteName : Name F)
    (c : TcpShmConnection F) : Host where
  ptcp := storeAt h.ptcp (TcpShmConnection.getPtcpFile ptcpDir localName remoteName) c.ptcpConn.q
  shm := storeAt
    (storeAt h.shm (TcpShmConnection.shmSendFile localName remoteName) c.shmSendq)
    (TcpShmConnection.shmRecvFile localName remoteName) c.shmRecvq

/-- The host after a call on the connection, and the connection. -/
def perform (C : Conf) (R : RingSize) (h : Host) (ptcpDir : List UInt8) (c : TcpShmConnection F)
    (op : TcpShmConnection.Op) : Host × TcpShmConnection F :=
  let files := h.queueFiles ptcpDir c.localName c.remoteName
  let after := op.run C R files (load files c)
  (h.store ptcpDir c.localName c.remoteName after, after)

lemma storeAt_of_ne {α : Type} (files : List UInt8 → α) {path path' : List UInt8} (q : Option α)
    (h : path ≠ path') : storeAt files path q path' = files path' := by
  cases q with
  | none => rfl
  | some q => exact Function.update_of_ne h.symm q files

/-- A call changes the files with the names of the connection only. -/
theorem perform_queueFiles {C : Conf} {R : RingSize} (h : Host) (ptcpDir : List UInt8)
    (conn : TcpShmConnection F) (op : TcpShmConnection.Op) {c d : Name F}
    (hsend : ¬ TcpShmConnection.Confused conn.localName conn.remoteName c d)
    (hrecv : ¬ TcpShmConnection.Confused conn.remoteName conn.localName d c)
    (hcross : ¬ TcpShmConnection.Confused conn.localName conn.remoteName d c)
    (hcross' : ¬ TcpShmConnection.Confused conn.remoteName conn.localName c d) :
    (h.perform C R ptcpDir conn op).1.queueFiles ptcpDir c d = h.queueFiles ptcpDir c d := by
  have hshm : ∀ {x y z w : Name F}, ¬ TcpShmConnection.Confused x y z w →
      TcpShmConnection.shmSendFile x y ≠ TcpShmConnection.shmSendFile z w :=
    fun hne => mt TcpShmConnection.shmSendFile_eq_iff.mp hne
  unfold queueFiles perform store
  simp only [TcpShmConnection.shmRecvFile_eq]
  rw [storeAt_of_ne _ _ (mt (TcpShmConnection.getPtcpFile_eq_iff ptcpDir).mp hsend),
    storeAt_of_ne _ _ (hshm hcross'), storeAt_of_ne _ _ (hshm hsend),
    storeAt_of_ne _ _ (hshm hrecv), storeAt_of_ne _ _ (hshm hcross)]

end Host

namespace TcpShmConnection

variable {F : LoginFormat}

/-- The names as the client has them, own name first, and as the server has them. -/
def ends (clientName serverName : Name F) : List (Name F × Name F) :=
  [(clientName, serverName), (serverName, clientName)]

/-- Two connections that share no queue: the files of either end of one are not those of either end
of the other, an end sends and receives on different files, the one's send file is the other's
receive file, and no call at an end of the one changes what the files of the other hold. -/
structure Isolated (C : Conf) (R : RingSize) (clientName serverName clientName' serverName' : Name F) :
    Prop where
  ptcp : ∀ ptcpDir, ∀ e ∈ ends clientName serverName, ∀ e' ∈ ends clientName' serverName',
    getPtcpFile ptcpDir e.1 e.2 ≠ getPtcpFile ptcpDir e'.1 e'.2
  shm : ∀ e ∈ ends clientName serverName, ∀ e' ∈ ends clientName' serverName',
    ∀ file ∈ [shmSendFile e.1 e.2, shmRecvFile e.1 e.2],
    ∀ file' ∈ [shmSendFile e'.1 e'.2, shmRecvFile e'.1 e'.2], file ≠ file'
  own : ∀ e ∈ ends clientName serverName ++ ends clientName' serverName',
    shmSendFile e.1 e.2 ≠ shmRecvFile e.1 e.2
  crossed : ∀ e ∈ ends clientName serverName ++ ends clientName' serverName',
    shmSendFile e.1 e.2 = shmRecvFile e.2 e.1 ∧ shmRecvFile e.1 e.2 = shmSendFile e.2 e.1
  frame : ∀ (h : Host) (ptcpDir : List UInt8) (conn : TcpShmConnection F) (op : Op),
    (conn.localName, conn.remoteName) ∈ ends clientName serverName →
    ∀ e' ∈ ends clientName' serverName', (h.perform C R ptcpDir conn op).1.queueFiles ptcpDir e'.1 e'.2 =
      h.queueFiles ptcpDir e'.1 e'.2

/-- The names of neither end of one connection can be taken for those of an end of the other, and
the names of its client not for those of its server. -/
structure Apart (clientName serverName clientName' serverName' : Name F) : Prop where
  others : ∀ e ∈ ends clientName serverName, ∀ e' ∈ ends clientName' serverName',
    ¬ Confused e.1 e.2 e'.1 e'.2
  own : ¬ Confused clientName serverName serverName clientName
  own' : ¬ Confused clientName' serverName' serverName' clientName'

lemma Confused.symm {a b c d : Name F} (h : Confused a b c d) : Confused c d a b :=
  shmSendFile_eq_iff.mp (shmSendFile_eq_iff.mpr h).symm

lemma swap_mem_ends {c s : Name F} {e : Name F × Name F} (he : e ∈ ends c s) :
    (e.2, e.1) ∈ ends c s := by
  simp only [ends, List.mem_cons, List.not_mem_nil, or_false] at he ⊢
  rcases he with rfl | rfl <;> simp

/-- Two connections share no queue exactly when no text of their names can be cut at another
separator to give the other's. -/
theorem isolated_iff (C : Conf) (R : RingSize) (clientName serverName clientName' serverName' : Name F) :
    Isolated C R clientName serverName clientName' serverName' ↔
      Apart clientName serverName clientName' serverName' := by
  constructor
  · intro h
    refine ⟨fun e he e' he' hconf => ?_, fun hconf => ?_, fun hconf => ?_⟩
    · exact h.ptcp [] e he e' he' ((getPtcpFile_eq_iff []).mpr hconf)
    · exact h.own (clientName, serverName) (by simp [ends]) (shmSendFile_eq_iff.mpr hconf)
    · exact h.own (clientName', serverName') (by simp [ends]) (shmSendFile_eq_iff.mpr hconf)
  · intro h
    refine ⟨?_, ?_, ?_, fun _ _ => ⟨rfl, rfl⟩, ?_⟩
    · intro ptcpDir e he e' he' heq
      exact h.others e he e' he' ((getPtcpFile_eq_iff ptcpDir).mp heq)
    · intro e he e' he' file hfile file' hfile' heq
      have hswap := swap_mem_ends he
      have hswap' := swap_mem_ends he'
      simp only [List.mem_cons, List.not_mem_nil, or_false, shmRecvFile_eq] at hfile hfile'
      rcases hfile with rfl | rfl <;> rcases hfile' with rfl | rfl
      · exact h.others e he e' he' (shmSendFile_eq_iff.mp heq)
      · exact h.others e he _ hswap' (shmSendFile_eq_iff.mp heq)
      · exact h.others _ hswap e' he' (shmSendFile_eq_iff.mp heq)
      · exact h.others _ hswap _ hswap' (shmSendFile_eq_iff.mp heq)
    · intro e he heq
      have hconf : Confused e.1 e.2 e.2 e.1 := shmSendFile_eq_iff.mp heq
      simp only [ends, List.cons_append, List.nil_append, List.mem_cons, List.not_mem_nil,
        or_false] at he
      rcases he with rfl | rfl | rfl | rfl
      · exact h.own hconf
      · exact h.own hconf.symm
      · exact h.own' hconf
      · exact h.own' hconf.symm
    · intro host ptcpDir conn op hconn e' he'
      have hswap := swap_mem_ends hconn
      have hswap' := swap_mem_ends he'
      exact host.perform_queueFiles ptcpDir conn op (h.others _ hconn e' he')
        (h.others _ hswap _ hswap') (h.others _ hconn _ hswap') (h.others _ hswap e' he')

lemma Confused.eq_of_plain {a b c d : Name F} (hb : underscore ∉ b.chars)
    (hd : underscore ∉ d.chars) (h : Confused a b c d) : a = c ∧ b = d := by
  obtain ⟨h₁, h₂⟩ := Joined.Confused.eq_of_not_mem hb hd h
  cases a; cases b; cases c; cases d
  subst h₁ h₂
  exact ⟨rfl, rfl⟩

/-- Names without `'_'` are safe, where no name is used on both sides. -/
theorem isolated_of_plain (C : Conf) (R : RingSize) {c s c' s' : Name F}
    (hplain : ∀ n ∈ [c, s, c', s'], underscore ∉ n.chars)
    (hsides : ∀ x ∈ [c, c'], ∀ y ∈ [s, s'], x ≠ y) (hpairs : (c, s) ≠ (c', s')) :
    Isolated C R c s c' s' := by
  have hc := hplain c (by simp)
  have hs := hplain s (by simp)
  have hc' := hplain c' (by simp)
  have hs' := hplain s' (by simp)
  apply (isolated_iff C R c s c' s').mpr
  refine ⟨?_, fun h => ?_, fun h => ?_⟩
  · intro e he e' he' hconf
    simp only [ends, List.mem_cons, List.not_mem_nil, or_false] at he he'
    rcases he with rfl | rfl <;> rcases he' with rfl | rfl
    · obtain ⟨rfl, rfl⟩ := hconf.eq_of_plain hs hs'
      exact hpairs rfl
    · exact hsides c (by simp) s' (by simp) (hconf.eq_of_plain hs hc').1
    · exact hsides c' (by simp) s (by simp) (hconf.eq_of_plain hc hs').1.symm
    · obtain ⟨rfl, rfl⟩ := hconf.eq_of_plain hc hc'
      exact hpairs rfl
  · exact hsides c (by simp) s (by simp) (h.eq_of_plain hs hc).1
  · exact hsides c' (by simp) s' (by simp) (h.eq_of_plain hs' hc').1

/-- A name of up to 15 characters. -/
def shortChars (chars : List UInt8) (h : 0 ∉ chars ∧ chars.length < 16) : Name shortNames :=
  ⟨chars, h.1, h.2⟩

/-- The client `a_b` of the server `c`, and the client `a` of the server `b_c`: their queues are in
the same files, and a message of the one is gone when the other resets its queue. -/
theorem names_share_queues :
    let C := hostConf true
    let R : RingSize := ⟨64, by decide⟩
    let a_b := shortChars (text "a_b") (by decide)
    let c := shortChars (text "c") (by decide)
    let a := shortChars (text "a") (by decide)
    let b_c := shortChars (text "b_c") (by decide)
    let q : PTCPQueue := { PTCPQueue.init fun _ => default with writeIdx := 1 }
    let conn := { TcpShmConnection.new C a_b with
      remoteName := c, ptcpConn := { PTCPConnection.new C with q := some q } }
    let host : Host := ⟨fun _ => q, fun _ => newShmq⟩
    (a_b, c) ≠ (a, b_c) ∧ (∀ n ∈ [a_b, c, a, b_c], n.chars ≠ [] ∧ 47 ∉ n.chars) ∧
    (∀ ptcpDir, getPtcpFile ptcpDir a_b c = getPtcpFile ptcpDir a b_c) ∧
    shmSendFile a_b c = shmSendFile a b_c ∧ ¬ Isolated C R a_b c a b_c ∧
    (host.queueFiles [] a b_c).ptcp.writeIdx = 1 ∧
    ((host.perform C R [] conn .reset).1.queueFiles [] a b_c).ptcp.writeIdx = 0 := by
  intro C R a_b c a b_c q conn host
  have hconf : Confused a_b c a b_c := Or.inr (Or.inr ⟨text "b", rfl, rfl⟩)
  have hfile : getPtcpFile [] a_b c = getPtcpFile [] a b_c := (getPtcpFile_eq_iff []).mpr hconf
  refine ⟨by decide, by decide, fun ptcpDir => (getPtcpFile_eq_iff ptcpDir).mpr hconf,
    shmSendFile_eq_iff.mpr hconf, ?_, rfl, ?_⟩
  · intro h
    exact h.ptcp [] (a_b, c) (by simp [ends]) (a, b_c) (by simp [ends]) hfile
  · show (Function.update host.ptcp (getPtcpFile [] a_b c) (PTCPQueue.init fun _ => ⟨0, 0, 0⟩)
      (getPtcpFile [] a b_c)).writeIdx = 0
    rw [hfile, Function.update_self]
    rfl

end TcpShmConnection

end Tcpshm
