import Tcpshm.Login.Basic
import Tcpshm.SpscVarQueue.Basic

/-!
# The connection of either transport (`tcpshm_conn.h`)

`TcpShmConnection` as the code computes it. Which transport is in use is stored nowhere: each
operation looks at whether a queue is mapped. What `my_mmap` comes to is an argument, and so are
the contents of the files.
-/

namespace Tcpshm

/-! ### Mapping files (`mmap.h`) -/

/-- The call in `my_mmap` that fails. -/
inductive MapCall where
  | open
  | ftruncate
  | mmap
deriving DecidableEq, Repr

/-- `*error_msg`. -/
def MapCall.errorMsg : MapCall → String
  | .open => "open"
  | .ftruncate => "ftruncate"
  | .mmap => "mmap"

structure MapError where
  call : MapCall
  errno : Int
deriving DecidableEq, Repr

/-- What the files of a connection hold. -/
@[ext] structure QueueFiles where
  ptcp : PTCPQueue
  shmSend : SPSCVarQueue
  shmRecv : SPSCVarQueue

/-- How mapping each of them fails, if it does. -/
structure MapErrors where
  ptcp : Option MapError
  shmSend : Option MapError
  shmRecv : Option MapError
deriving DecidableEq, Repr

/-- Map a file unless that was done before: the pointer, `none` for `nullptr`, and the error. -/
def mapOnce {α : Type} (ptr : Option α) (file : α) (err : Option MapError) :
    Option α × Option MapError :=
  match ptr, err with
  | some q, _ => (some q, none)
  | none, some err => (none, some err)
  | none, none => (some file, none)

/-! ### The connection -/

/-- `name[0] = 0`. -/
def Name.clear {F : LoginFormat} (n : Name F) : Name F where
  chars := []
  no_nul := List.not_mem_nil
  length_lt := n.length_lt.trans_le' (Nat.zero_le _)

/-- What messages go through. -/
inductive Transport where
  | shm
  | tcp
deriving DecidableEq, Repr

/-- What `GetSeq` comes to: the three numbers; `Ptcp file corrupt`; or nothing, where the check of
the queue does not end or reads outside of it, or there is no queue. -/
inductive GetSeqResult where
  | ok (ackSeq seqStart seqEnd : UInt32)
  | corrupt
  | undefined
deriving DecidableEq, Repr

structure TcpShmConnection (F : LoginFormat) where
  localName : Name F
  remoteName : Name F
  ptcpConn : PTCPConnection
  shmSendq : Option SPSCVarQueue
  shmRecvq : Option SPSCVarQueue

namespace TcpShmConnection

variable {F : LoginFormat} (C : Conf) (R : RingSize)

/-- The constructor and `init`. -/
def new (localName : Name F) : TcpShmConnection F where
  localName := localName
  remoteName := localName.clear
  ptcpConn := .new C
  shmSendq := none
  shmRecvq := none

def isClosed (c : TcpShmConnection F) : Bool := c.ptcpConn.isClosed

def close (c : TcpShmConnection F) : TcpShmConnection F :=
  { c with ptcpConn := c.ptcpConn.requestClose }

/-! ### Messages -/

/-- `Alloc`: the state after the call and the returned pointer. -/
def alloc (c : TcpShmConnection F) (size : UInt16) : TcpShmConnection F × Option Nat :=
  match c.shmSendq with
  | some q => ({ c with shmSendq := some (q.alloc R size).1 }, (q.alloc R size).2)
  | none => ({ c with ptcpConn := (c.ptcpConn.alloc C size).1 }, (c.ptcpConn.alloc C size).2)

/-- `Push`: the state after the call and the bytes handed to the socket. -/
def push (c : TcpShmConnection F) (rs : List SendResult) : TcpShmConnection F × List UInt8 :=
  match c.shmSendq with
  | some q => ({ c with shmSendq := some (q.push R) }, [])
  | none => ({ c with ptcpConn := (c.ptcpConn.push C rs).1 }, (c.ptcpConn.push C rs).2)

def pushMore (c : TcpShmConnection F) : TcpShmConnection F :=
  match c.shmSendq with
  | some q => { c with shmSendq := some (q.push R) }
  | none => { c with ptcpConn := c.ptcpConn.pushMore C }

/-- `Front`: the state after the call and the returned pointer, into a block of the shared queue or
into the receive buffer. -/
def front (c : TcpShmConnection F) (res : ReadResult) : TcpShmConnection F × FrontResult :=
  match c.shmRecvq with
  | some q => ({ c with shmRecvq := some (q.front R).1 }, (q.front R).2.elim .null .header)
  | none => ({ c with ptcpConn := (c.ptcpConn.front C res).1 }, (c.ptcpConn.front C res).2)

def pop (c : TcpShmConnection F) : TcpShmConnection F :=
  match c.shmRecvq with
  | some q => { c with shmRecvq := some (q.pop R) }
  | none => { c with ptcpConn := c.ptcpConn.pop C }

/-- `TcpFront`: the state after the call, the bytes handed to the socket, and the pointer. -/
def tcpFront (c : TcpShmConnection F) (now : Int) (rs : List SendResult) (hb : SendResult)
    (res : ReadResult) : TcpShmConnection F × List UInt8 × FrontResult :=
  let sent := c.ptcpConn.sendHB C now rs hb
  ({ c with ptcpConn := (sent.1.front C res).1 }, sent.2, (sent.1.front C res).2)

/-- `ShmFront`, where the queue is mapped. -/
def shmFront (c : TcpShmConnection F) : TcpShmConnection F × Option Nat :=
  match c.shmRecvq with
  | some q => ({ c with shmRecvq := some (q.front R).1 }, (q.front R).2)
  | none => (c, none)

/-! ### Opening and closing -/

/-- `OpenFile`: the state after the call, and the error if it fails. -/
def openFile (c : TcpShmConnection F) (useShm : Bool) (files : QueueFiles) (errs : MapErrors) :
    TcpShmConnection F × Option MapError :=
  if useShm then
    let send := mapOnce c.shmSendq files.shmSend errs.shmSend
    let c := { c with shmSendq := send.1 }
    match send.2 with
    | some err => (c, some err)
    | none =>
      let recv := mapOnce c.shmRecvq files.shmRecv errs.shmRecv
      ({ c with shmRecvq := recv.1 }, recv.2)
  else
    let q := mapOnce c.ptcpConn.q files.ptcp errs.ptcp
    ({ c with ptcpConn := { c.ptcpConn with q := q.1 } }, q.2)

/-- `GetSeq`, where the numbers are 0 before the call. -/
def getSeq (c : TcpShmConnection F) : GetSeqResult :=
  if c.shmSendq.isSome then .ok 0 0 0
  else match c.ptcpConn.q with
    | none => .undefined
    | some q =>
      match q.sanityCheckAndGetSeq C.tcpQueueSize C.endian with
      | .ok seqStart seqEnd => .ok q.myAck seqStart seqEnd
      | .corrupt => .corrupt
      | _ => .undefined

/-- `new (q) SHMQ()`. -/
def newShmq : SPSCVarQueue := .init fun _ => ⟨0, 0, 0⟩

def reset (c : TcpShmConnection F) : TcpShmConnection F :=
  if c.shmSendq.isSome then
    { c with shmSendq := some newShmq, shmRecvq := c.shmRecvq.map fun _ => newShmq }
  else { c with ptcpConn := c.ptcpConn.reset }

def release (c : TcpShmConnection F) : TcpShmConnection F where
  localName := c.localName
  remoteName := c.remoteName.clear
  ptcpConn := c.ptcpConn.release
  shmSendq := none
  shmRecvq := none

/-- `Open`: the state after the call and the bytes handed to the socket. -/
def «open» (c : TcpShmConnection F) (sockFd : Int) (remoteAckSeq : UInt32) (now : Int)
    (rs : List SendResult) : TcpShmConnection F × List UInt8 :=
  let opened := c.ptcpConn.open C sockFd remoteAckSeq now rs
  ({ c with ptcpConn := opened.1 }, opened.2)

/-- `TryCloseFd`, and whether it closed the descriptor. -/
def tryCloseFd (c : TcpShmConnection F) : TcpShmConnection F × Bool :=
  ({ c with ptcpConn := c.ptcpConn.tryCloseFd.1 }, c.ptcpConn.tryCloseFd.2)

/-! ### Which queue -/

/-- The test `if(shm_sendq_)` of `Alloc`, `Push` and `PushMore`. -/
def sendsOn (c : TcpShmConnection F) : Transport := if c.shmSendq.isSome then .shm else .tcp

/-- The test `if(shm_recvq_)` of `Front` and `Pop`. -/
def receivesOn (c : TcpShmConnection F) : Transport := if c.shmRecvq.isSome then .shm else .tcp

end TcpShmConnection

/-- The transport that a login asks for. -/
def Transport.ofFlag (useShm : Bool) : Transport := if useShm then .shm else .tcp

end Tcpshm
