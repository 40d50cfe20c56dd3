import Tcpshm.Server.Transport
import Tcpshm.Shm.System

/-!
# What a login does to the shared queues

Either process leaves both queues as they are, or it constructs both of them anew.
-/

namespace Tcpshm

open TcpShmConnection (newShmq)

variable {F : LoginFormat} {C : Conf}

/-- The two queues in shared memory hold the same. -/
structure QueueFiles.SameShm (files files' : QueueFiles) : Prop where
  shmSend : files'.shmSend = files.shmSend
  shmRecv : files'.shmRecv = files.shmRecv

/-- The two queues in shared memory are new. -/
structure QueueFiles.NewShm (files : QueueFiles) : Prop where
  shmSend : files.shmSend = newShmq
  shmRecv : files.shmRecv = newShmq

open QueueFiles (SameShm NewShm)

/-! ### The client -/

namespace Client

variable {cl cl' : Client F} {env : ConnectEnv F} {name : Name F}

/-- Where no server is named, nothing is mapped. -/
structure Tidy (cl : Client F) : Prop where
  named : Named cl
  shmSendq : cl.serverName = none → cl.conn.shmSendq = none
  shmRecvq : cl.serverName = none → cl.conn.shmRecvq = none

lemma queueFiles_view (cl : Client F) (name : Name F) (send recv : SPSCVarQueue) :
    ((cl.view name send recv).queueFiles name).shmSend = send ∧
      ((cl.view name send recv).queueFiles name).shmRecv = recv := by
  have hdisk : ((cl.view name send recv).disk.queueFiles name).shmSend = send ∧
      ((cl.view name send recv).disk.queueFiles name).shmRecv = recv :=
    ⟨Function.update_self .., Function.update_self ..⟩
  unfold queueFiles
  split_ifs with hname
  · have hremote : cl.conn.remoteName = name := by
      unfold view at hname
      split_ifs at hname with h
      · exact h
      · exact hname
    have hconn : (cl.view name send recv).conn = cl.conn.view send recv := if_pos hremote
    rw [hconn]
    show ((cl.conn.shmSendq.map fun _ => send).getD _) = send ∧
      ((cl.conn.shmRecvq.map fun _ => recv).getD _) = recv
    rw [hdisk.1, hdisk.2]
    cases cl.conn.shmSendq <;> cases cl.conn.shmRecvq <;> exact ⟨rfl, rfl⟩
  · exact hdisk

lemma Tidy.view (h : Tidy cl) (name : Name F) (send recv : SPSCVarQueue) :
    Tidy (cl.view name send recv) := by
  unfold Client.view
  split_ifs
  · refine ⟨h.named, fun hnone => ?_, fun hnone => ?_⟩
    · show cl.conn.shmSendq.map _ = none
      rw [h.shmSendq hnone]
      rfl
    · show cl.conn.shmRecvq.map _ = none
      rw [h.shmRecvq hnone]
      rfl
  · exact ⟨h.named, h.shmSendq, h.shmRecvq⟩

/-- Mapping a file does not change what it holds. -/
lemma queueFiles_openFile (cl : Client F) (useShm : Bool) (errs : MapErrors) (name : Name F) :
    (cl.openFile useShm errs).1.queueFiles name = cl.queueFiles name := by
  have hremote := cl.conn.openFile_remoteName useShm (cl.disk.queueFiles cl.conn.remoteName) errs
  have hcontents := cl.conn.openFile_contents useShm (cl.disk.queueFiles cl.conn.remoteName) errs
  unfold queueFiles Client.openFile
  simp only [hremote]
  split_ifs with hname
  · rw [← hname]
    exact hcontents
  · rfl

/-- `Connect` changes nothing in the queues before it has the response. -/
lemma Tidy.prepare (h : Tidy cl) (env : ConnectEnv F) (name : Name F) :
    Tidy (cl.prepare C env).1 ∧
      SameShm (cl.queueFiles name) ((cl.prepare C env).1.queueFiles name) := by
  have hmapped : Tidy cl.mapped ∧ SameShm (cl.queueFiles name) (cl.mapped.queueFiles name) := by
    refine ⟨⟨.mapped cl, (nomatch ·), (nomatch ·)⟩, ?_⟩
    unfold queueFiles
    rw [mapped_contents]
    show SameShm _ (if cl.storedName = name then cl.conn.contents (cl.disk.queueFiles name)
      else cl.disk.queueFiles name)
    cases hserver : cl.serverName with
    | some n =>
      have hremote : cl.conn.remoteName = cl.storedName := by
        rw [h.named n hserver, storedName, hserver]
        rfl
      rw [hremote]
      exact ⟨rfl, rfl⟩
    | none =>
      have hcontents : SameShm (cl.disk.queueFiles name)
          (cl.conn.contents (cl.disk.queueFiles name)) := by
        unfold TcpShmConnection.contents
        rw [h.shmSendq hserver, h.shmRecvq hserver]
        exact ⟨rfl, rfl⟩
      split_ifs
      · exact ⟨rfl, rfl⟩
      · exact ⟨hcontents.shmSend.symm, hcontents.shmRecv.symm⟩
      · exact hcontents
      · exact ⟨rfl, rfl⟩
  have hopen : Tidy (cl.mapped.openFile env.useShm env.errs).1 ∧
      SameShm (cl.queueFiles name) ((cl.mapped.openFile env.useShm env.errs).1.queueFiles name) := by
    refine ⟨⟨hmapped.1.named.openFile _ _, (nomatch ·), (nomatch ·)⟩, ?_⟩
    rw [← queueFiles_openFile cl.mapped env.useShm env.errs name] at hmapped
    exact hmapped.2
  obtain ⟨-, heq⟩ | ⟨-, -, err, heq⟩ | ⟨-, -, -, heq⟩ | ⟨-, -, -, ⟨err, -, heq⟩ | ⟨-, heq⟩⟩ :=
    prepare_cases (C := C) h.named env <;> rw [heq]
  · exact ⟨h, rfl, rfl⟩
  · refine ⟨⟨h.named.of_conn rfl, h.shmSendq, h.shmRecvq⟩, ?_⟩
    unfold queueFiles
    show SameShm _ (if cl.conn.remoteName = name then _ else _)
    split_ifs
    · exact ⟨rfl, rfl⟩
    · exact ⟨rfl, rfl⟩
  · exact hmapped
  · exact hopen
  · exact hopen

/-- What is unmapped stays in the files. -/
lemma queueFiles_save (cl : Client F) (name : Name F) :
    (cl.disk.save cl.conn).queueFiles name = cl.queueFiles name := by
  unfold Client.queueFiles Disk.save Disk.queueFiles
  simp only [Function.update_apply, eq_comm (a := name)]
  split_ifs with hname
  · rw [hname]
  · rfl

lemma queueFiles_rename (cl : Client F) (name : Name F) :
    (cl.rename name).queueFiles name = cl.queueFiles name := by
  rw [← queueFiles_save cl name]
  exact if_pos rfl

lemma queueFiles_open (cl : Client F) (fd : Int) (remoteAckSeq : UInt32) (env : ConnectEnv F)
    (name : Name F) :
    SameShm (cl.queueFiles name) ((cl.open C fd remoteAckSeq env).queueFiles name) := by
  unfold queueFiles
  show SameShm _ (if cl.conn.remoteName = name then _ else _)
  split_ifs
  · exact ⟨rfl, rfl⟩
  · exact ⟨rfl, rfl⟩

/-- A new name keeps both queues, unless they can be opened and are reset. -/
lemma Tidy.adopt (h : Tidy cl) (name : Name F) (hshm : env.useShm = true) :
    Tidy (cl.adopt name env).1 ∧
      (SameShm (cl.queueFiles name) ((cl.adopt name env).1.queueFiles name) ∨
        cl.storedName ≠ name ∧ ((cl.rename name).openFile env.useShm env.newErrs).2 = none ∧
          NewShm ((cl.adopt name env).1.queueFiles name)) := by
  have hfiles : ((cl.rename name).openFile env.useShm env.newErrs).1.queueFiles name =
      cl.queueFiles name := by
    rw [queueFiles_openFile, queueFiles_rename]
  have hnamed := h.named.adopt name env
  unfold Client.adopt at hnamed ⊢
  split_ifs at hnamed ⊢ with hname
  · exact ⟨h, Or.inl ⟨rfl, rfl⟩⟩
  have hserver : ((cl.rename name).openFile env.useShm env.newErrs).1.serverName = some name := rfl
  have hremote : ((cl.rename name).openFile env.useShm env.newErrs).1.conn.remoteName = name :=
    TcpShmConnection.openFile_remoteName _ _ _ _
  have hmapped : ((cl.rename name).openFile env.useShm env.newErrs).2 = none →
      TcpShmConnection.Mapped true ((cl.rename name).openFile env.useShm env.newErrs).1.conn :=
    fun hopen => hshm ▸ TcpShmConnection.Mapped.of_openFile (fun _ => ⟨rfl, rfl⟩) hopen
  generalize (cl.rename name).openFile env.useShm env.newErrs = opened
    at hfiles hserver hremote hmapped hnamed ⊢
  obtain ⟨cl₁, _ | err⟩ := opened
  · refine ⟨⟨hnamed, fun hnone => ?_, fun hnone => ?_⟩, Or.inr ⟨hname, rfl, ?_⟩⟩
    · exact (nomatch hserver.symm.trans hnone)
    · exact (nomatch hserver.symm.trans hnone)
    · have hreset := TcpShmConnection.reset_contents_shm (hmapped rfl).shmSendq
        (cl₁.disk.queueFiles name)
      rw [if_pos (hmapped rfl).shmRecvq] at hreset
      unfold queueFiles
      rw [if_pos ((TcpShmConnection.reset_remoteName _).trans hremote), hreset]
      exact ⟨rfl, rfl⟩
  · refine ⟨⟨hnamed, fun hnone => ?_, fun hnone => ?_⟩, Or.inl ?_⟩
    · exact (nomatch hserver.symm.trans hnone)
    · exact (nomatch hserver.symm.trans hnone)
    · rw [hfiles]
      exact ⟨rfl, rfl⟩

/-- What the rest of `Connect` does to the queues with the server that answers. -/
theorem Tidy.respond (h : Tidy cl) (hshm : env.useShm = true) (sentHeader : MsgHeader)
    (sentMsg : LoginMsg F) (fd : Int) (header : MsgHeader) (rsp : LoginRspMsg F) :
    Tidy (cl.respond C env sentHeader sentMsg fd header rsp).1 ∧
      (SameShm (cl.queueFiles rsp.serverName)
          ((cl.respond C env sentHeader sentMsg fd header rsp).1.queueFiles rsp.serverName) ∨
        cl.NewName C header rsp ∧
          ((cl.rename rsp.serverName).openFile env.useShm env.newErrs).2 = none ∧
          NewShm ((cl.respond C env sentHeader sentMsg fd header rsp).1.queueFiles
            rsp.serverName)) := by
  have hname : (rsp.convertByteOrder C.endian).serverName = rsp.serverName := rfl
  have hstatus : (rsp.convertByteOrder C.endian).status = rsp.status := rfl
  have hadopt := h.adopt rsp.serverName hshm
  unfold Client.respond
  simp only [hname, hstatus]
  split_ifs with hinvalid hrejected hmismatch
  · exact ⟨h, Or.inl ⟨rfl, rfl⟩⟩
  · exact ⟨h, Or.inl ⟨rfl, rfl⟩⟩
  · exact ⟨h, Or.inl ⟨rfl, rfl⟩⟩
  rw [not_or, not_or] at hinvalid
  generalize cl.adopt rsp.serverName env = adopted at hadopt ⊢
  obtain ⟨htidy, hfiles⟩ := hadopt
  obtain ⟨cl₁, _ | err⟩ := adopted
  · refine ⟨⟨htidy.named.of_conn rfl, htidy.shmSendq, htidy.shmRecvq⟩, ?_⟩
    have hopen := queueFiles_open (C := C) cl₁ fd (header.convertByteOrder C.endian).ackSeq env
      rsp.serverName
    obtain hsame | ⟨hother, hmapped, hnew⟩ := hfiles
    · exact Or.inl ⟨hopen.shmSend.trans hsame.shmSend, hopen.shmRecv.trans hsame.shmRecv⟩
    · refine Or.inr ⟨⟨not_not.mp hinvalid.1, not_not.mp hinvalid.2.1, ?_, not_not.mp hrejected,
        hother.symm⟩, hmapped, hopen.shmSend.trans hnew.shmSend, hopen.shmRecv.trans hnew.shmRecv⟩
      exact Bool.not_eq_true _ ▸ hinvalid.2.2
  · refine ⟨htidy, hfiles.imp id ?_⟩
    rintro ⟨hother, hmapped, hnew⟩
    refine ⟨⟨not_not.mp hinvalid.1, not_not.mp hinvalid.2.1, ?_, not_not.mp hrejected,
      hother.symm⟩, hmapped, hnew⟩
    exact Bool.not_eq_true _ ▸ hinvalid.2.2

end Client

/-! ### The server -/

namespace TcpShmConnection

variable {c : TcpShmConnection F} {serverName : Name F} {header : MsgHeader} {login : LoginMsg F}
  {fd now : Int} {env : HandleEnv}

lemma contents_view (c : TcpShmConnection F) (files : QueueFiles) :
    SameShm files ((c.view files.shmSend files.shmRecv).contents files) := by
  unfold TcpShmConnection.view contents
  cases c.shmSendq <;> cases c.shmRecvq <;> exact ⟨rfl, rfl⟩

/-- A login over shared memory keeps both queues, unless they can be opened and are reset. -/
lemma prepare_contents (c : TcpShmConnection F) (serverName : Name F) (env : HandleEnv)
    (hshm : login.useShm = true) :
    SameShm (c.contents env.files) ((c.prepare serverName login env).contents env.files) ∨
      login.lastServerName ≠ serverName ∧
        (c.openFile login.useShm env.files env.errs).2 = none ∧
        NewShm ((c.prepare serverName login env).contents env.files) := by
  have hcontents := c.openFile_contents login.useShm env.files env.errs
  have hmapped : (c.openFile login.useShm env.files env.errs).2 = none →
      Mapped true (c.openFile login.useShm env.files env.errs).1 := by
    rw [hshm]
    exact Mapped.of_openFile (nomatch ·)
  unfold prepare
  generalize c.openFile login.useShm env.files env.errs = opened at hcontents hmapped ⊢
  obtain ⟨d, _ | err⟩ := opened
  · simp only
    split_ifs with hname
    · have hreset := reset_contents_shm (hmapped rfl).shmSendq env.files
      rw [if_pos (hmapped rfl).shmRecvq] at hreset
      rw [hreset]
      exact Or.inr ⟨hname, trivial, rfl, rfl⟩
    · rw [hcontents]
      exact Or.inl ⟨rfl, rfl⟩
  · rw [hcontents]
    exact Or.inl ⟨rfl, rfl⟩

theorem handleMatched_contents {m : Matched F} (hshm : login.useShm = true)
    (h : c.handleMatched C serverName header login fd now env = some m) :
    SameShm (c.contents env.files) (m.conn.contents env.files) ∨
      login.lastServerName ≠ serverName ∧
        (c.openFile login.useShm env.files env.errs).2 = none ∧
        NewShm (m.conn.contents env.files) := by
  have hprepare := prepare_contents c serverName env hshm
  obtain ⟨-, hconn⟩ | ⟨-, -, remoteAckSeq, hconn⟩ := handleMatched_cases h
  · rw [hconn]
    exact hprepare
  · rw [hconn]
    obtain hsame | ⟨hname, hopen, hnew⟩ := hprepare
    · exact Or.inl ⟨hsame.shmSend, hsame.shmRecv⟩
    · exact Or.inr ⟨hname, hopen, hnew.shmSend, hnew.shmRecv⟩

end TcpShmConnection

end Tcpshm
