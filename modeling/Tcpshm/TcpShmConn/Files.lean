import Tcpshm.TcpShmConn.Basic

/-!
# Opening the files of a connection

`OpenFile` maps what is not mapped yet and changes no contents; `Reset` constructs the queues anew.
-/

namespace Tcpshm

namespace TcpShmConnection

variable {F : LoginFormat}

/-! ### What stays -/

@[simp] lemma openFile_remoteName (c : TcpShmConnection F) (useShm : Bool) (files : QueueFiles)
    (errs : MapErrors) : (c.openFile useShm files errs).1.remoteName = c.remoteName := by
  unfold openFile
  cases useShm with
  | false => rfl
  | true =>
    simp only [if_true]
    split <;> rfl

@[simp] lemma openFile_fdToClose (c : TcpShmConnection F) (useShm : Bool) (files : QueueFiles)
    (errs : MapErrors) :
    (c.openFile useShm files errs).1.ptcpConn.fdToClose = c.ptcpConn.fdToClose := by
  unfold openFile
  cases useShm with
  | false => rfl
  | true =>
    simp only [if_true]
    split <;> rfl

@[simp] lemma reset_remoteName (c : TcpShmConnection F) : c.reset.remoteName = c.remoteName := by
  unfold reset
  split_ifs <;> rfl

@[simp] lemma reset_fdToClose (c : TcpShmConnection F) :
    c.reset.ptcpConn.fdToClose = c.ptcpConn.fdToClose := by
  unfold reset
  split_ifs <;> rfl

/-! ### What the files hold -/

/-- The persistent queues of the connection, where the files hold `files`. -/
def contents (c : TcpShmConnection F) (files : QueueFiles) : QueueFiles where
  ptcp := c.ptcpConn.q.getD files.ptcp
  shmSend := c.shmSendq.getD files.shmSend
  shmRecv := c.shmRecvq.getD files.shmRecv

/-- What `OpenFile` needs is mapped or can be mapped. -/
def CanOpen (c : TcpShmConnection F) (useShm : Bool) (errs : MapErrors) : Prop :=
  if useShm then (c.shmSendq.isSome = true ∨ errs.shmSend = none) ∧
    (c.shmRecvq.isSome = true ∨ errs.shmRecv = none)
  else c.ptcpConn.q.isSome = true ∨ errs.ptcp = none

/-- The queues that `Reset` constructs anew, once the files are open, are new already. -/
def IsNew (c : TcpShmConnection F) (useShm : Bool) (files : QueueFiles) : Prop :=
  if useShm = true ∨ c.shmSendq.isSome = true then
    (c.contents files).shmSend = newShmq ∧
      (useShm = true ∨ c.shmRecvq.isSome = true → (c.contents files).shmRecv = newShmq)
  else (c.contents files).ptcp = .init fun _ => ⟨0, 0, 0⟩

/-! ### `OpenFile` -/

lemma mapOnce_fst_getD {α : Type} (ptr : Option α) (file : α) (err : Option MapError) :
    (mapOnce ptr file err).1.getD file = ptr.getD file := by
  unfold mapOnce
  split <;> rfl

lemma mapOnce_snd_eq_none {α : Type} {ptr : Option α} {file : α} {err : Option MapError} :
    (mapOnce ptr file err).2 = none ↔ ptr.isSome = true ∨ err = none := by
  cases ptr <;> cases err <;> simp [mapOnce]

lemma mapOnce_fst_of_snd {α : Type} {ptr : Option α} {file : α} {err : Option MapError}
    (h : (mapOnce ptr file err).2 = none) : (mapOnce ptr file err).1 = some (ptr.getD file) := by
  cases ptr <;> cases err <;> first | rfl | exact absurd h (Option.some_ne_none _)

/-- Mapping a file does not change what it holds. -/
lemma openFile_contents (c : TcpShmConnection F) (useShm : Bool) (files : QueueFiles)
    (errs : MapErrors) : (c.openFile useShm files errs).1.contents files = c.contents files := by
  unfold openFile contents
  cases useShm with
  | false =>
    simp only [Bool.false_eq_true, if_false]
    rw [mapOnce_fst_getD]
  | true =>
    simp only [if_true]
    split
    · simp only [mapOnce_fst_getD]
    · simp only [mapOnce_fst_getD]

lemma openFile_eq_none_iff {c : TcpShmConnection F} {useShm : Bool} {files : QueueFiles}
    {errs : MapErrors} : (c.openFile useShm files errs).2 = none ↔ c.CanOpen useShm errs := by
  unfold openFile CanOpen
  cases useShm with
  | false => exact mapOnce_snd_eq_none
  | true =>
    simp only [if_true]
    rw [← @mapOnce_snd_eq_none _ c.shmSendq files.shmSend errs.shmSend,
      ← @mapOnce_snd_eq_none _ c.shmRecvq files.shmRecv errs.shmRecv]
    split
    · rename_i err herr
      rw [herr]
      exact ⟨(nomatch ·), fun h => (nomatch h.1)⟩
    · rename_i herr
      rw [herr, eq_self_iff_true, true_and]

/-- What is mapped after `OpenFile`. -/
lemma openFile_mapped {c : TcpShmConnection F} {useShm : Bool} {files : QueueFiles}
    {errs : MapErrors} (h : (c.openFile useShm files errs).2 = none) :
    if useShm then (c.openFile useShm files errs).1 =
        { c with
          shmSendq := some (c.contents files).shmSend, shmRecvq := some (c.contents files).shmRecv }
      else (c.openFile useShm files errs).1 =
        { c with ptcpConn := { c.ptcpConn with q := some (c.contents files).ptcp } } := by
  unfold openFile at h ⊢
  cases useShm with
  | false =>
    simp only [Bool.false_eq_true, if_false] at h ⊢
    rw [mapOnce_fst_of_snd h]
    rfl
  | true =>
    simp only [if_true] at h ⊢
    split at h
    · exact (nomatch h)
    · rename_i hsend
      rw [mapOnce_fst_of_snd h, mapOnce_fst_of_snd hsend]
      rfl

lemma reset_contents_shm {c : TcpShmConnection F} (h : c.shmSendq.isSome = true)
    (files : QueueFiles) : c.reset.contents files =
      { c.contents files with
        shmSend := newShmq
        shmRecv := if c.shmRecvq.isSome then newShmq else files.shmRecv } := by
  unfold reset
  rw [if_pos h]
  cases hrecv : c.shmRecvq <;> simp [contents]

lemma reset_contents_tcp {c : TcpShmConnection F} (h : c.shmSendq.isSome = false)
    (hq : c.ptcpConn.q.isSome = true) (files : QueueFiles) : c.reset.contents files =
      { c.contents files with ptcp := .init fun _ => ⟨0, 0, 0⟩ } := by
  obtain ⟨q, hq⟩ := Option.isSome_iff_exists.mp hq
  unfold reset
  rw [if_neg (by rw [h]; exact Bool.false_ne_true)]
  simp [contents, PTCPConnection.reset, PTCPConnection.onQueue, hq]

/-- `Reset` changes nothing in queues that are new. -/
lemma reset_contents_iff {c : TcpShmConnection F} {useShm : Bool} {files : QueueFiles}
    {errs : MapErrors} (h : (c.openFile useShm files errs).2 = none) :
    (c.openFile useShm files errs).1.reset.contents files = c.contents files ↔
      c.IsNew useShm files := by
  have hmapped := openFile_mapped h
  have hcontents := openFile_contents c useShm files errs
  cases useShm with
  | true =>
    rw [if_pos rfl] at hmapped
    rw [reset_contents_shm (by rw [hmapped]; rfl), hcontents, IsNew, if_pos (Or.inl rfl), hmapped]
    simp only [QueueFiles.ext_iff, Option.isSome_some, if_true, true_and, true_or, forall_const]
    exact and_congr eq_comm eq_comm
  | false =>
    rw [if_neg Bool.false_ne_true] at hmapped
    cases hsend : c.shmSendq.isSome with
    | true =>
      rw [reset_contents_shm (by rw [hmapped]; exact hsend), hcontents, IsNew,
        if_pos (Or.inr hsend), hmapped]
      cases hrecv : c.shmRecvq <;> simp [QueueFiles.ext_iff, eq_comm, contents, hrecv]
    | false =>
      rw [reset_contents_tcp (by rw [hmapped]; exact hsend) (by rw [hmapped]; rfl), hcontents,
        IsNew, if_neg (by simp [hsend])]
      simp [QueueFiles.ext_iff, eq_comm]

/-- `OpenFile` maps the send queue where it opens shared memory and can. -/
lemma openFile_shmSendq (c : TcpShmConnection F) (useShm : Bool) (files : QueueFiles)
    (errs : MapErrors) : (c.openFile useShm files errs).1.shmSendq.isSome = true ↔
      c.shmSendq.isSome = true ∨ (useShm = true ∧ errs.shmSend = none) := by
  unfold openFile
  cases useShm with
  | false => simp
  | true =>
    have hsend : (mapOnce c.shmSendq files.shmSend errs.shmSend).1.isSome = true ↔
        c.shmSendq.isSome = true ∨ errs.shmSend = none := by
      cases c.shmSendq <;> cases errs.shmSend <;> simp [mapOnce]
    simp only [if_true, true_and]
    rw [← hsend]
    split <;> rfl

/-- What is mapped stays mapped. -/
lemma openFile_mono (c : TcpShmConnection F) (useShm : Bool) (files : QueueFiles)
    (errs : MapErrors) :
    (c.shmRecvq.isSome = true → (c.openFile useShm files errs).1.shmRecvq.isSome = true) ∧
      (c.ptcpConn.q.isSome = true →
        (c.openFile useShm files errs).1.ptcpConn.q.isSome = true) := by
  have hmap : ∀ {α : Type} (ptr : Option α) (file : α) (err : Option MapError),
      ptr.isSome = true → (mapOnce ptr file err).1.isSome = true := by
    intro α ptr file err h
    obtain ⟨x, rfl⟩ := Option.isSome_iff_exists.mp h
    rfl
  unfold openFile
  cases useShm with
  | false => exact ⟨id, hmap _ _ _⟩
  | true =>
    simp only [if_true]
    split
    · exact ⟨id, id⟩
    · exact ⟨hmap _ _ _, id⟩

lemma openFile_sockfd (c : TcpShmConnection F) (useShm : Bool) (files : QueueFiles)
    (errs : MapErrors) :
    (c.openFile useShm files errs).1.ptcpConn.sockfd = c.ptcpConn.sockfd := by
  unfold openFile
  cases useShm with
  | false => rfl
  | true =>
    simp only [if_true]
    split <;> rfl

/-! ### `GetSeq` -/

lemma getSeq_of_shm {C : Conf} {c : TcpShmConnection F} (h : c.shmSendq.isSome = true) :
    c.getSeq C = .ok 0 0 0 := if_pos h

lemma getSeq_of_tcp {C : Conf} {c : TcpShmConnection F} {q : PTCPQueue}
    (h : c.shmSendq.isSome = false) (hq : c.ptcpConn.q = some q) :
    c.getSeq C = match q.sanityCheckAndGetSeq C.tcpQueueSize C.endian with
      | .ok seqStart seqEnd => .ok q.myAck seqStart seqEnd
      | .corrupt => .corrupt
      | _ => .undefined := by
  cases hcheck : q.sanityCheckAndGetSeq C.tcpQueueSize C.endian <;> simp [getSeq, h, hq, hcheck]

end TcpShmConnection

end Tcpshm
