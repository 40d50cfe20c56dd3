import Tcpshm.PtcpQueue.Basic

/-!
# The TCP connection (`ptcp_conn.h`)

`PTCPConnection` as the code computes it. What the kernel answers is an argument: the result of the
one `read` or `readv` in `DoRecv`, and the results of the successive `send` calls.
-/

namespace Tcpshm

/-- The template argument `Conf` with its `static_assert`s, and the byte order of the host. -/
structure Conf where
  endian : Endian
  tcpQueueSize : QueueSize
  tcpRecvBufInitSize : UInt32
  tcpRecvBufMaxSize : UInt32
  heartBeatInverval : Int
  connectionTimeout : Int
  init_le_max : tcpRecvBufInitSize.toNat ≤ tcpRecvBufMaxSize.toNat
  init_aligned : tcpRecvBufInitSize.toNat % 8 = 0
  max_aligned : tcpRecvBufMaxSize.toNat % 8 = 0

/-- A host with a queue of four blocks and a receive buffer of 16 bytes. -/
def Conf.tiny (endian : Endian) : Conf where
  endian := endian
  tcpQueueSize := .fourBlocks
  tcpRecvBufInitSize := 16
  tcpRecvBufMaxSize := 16
  heartBeatInverval := 10
  connectionTimeout := 100
  init_le_max := le_rfl
  init_aligned := rfl
  max_aligned := rfl

/-- What `read` or `readv` comes to. -/
inductive ReadResult where
  | data (bs : List UInt8)
  | eof
  | again
  | error (errno : Int)
deriving DecidableEq, Repr

/-- What one `send` comes to: the number of bytes taken, `EAGAIN`, or another error. -/
inductive SendResult where
  | sent (n : Nat)
  | again
  | error (errno : Int)
deriving DecidableEq, Repr

/-- `EAGAIN`. -/
def eagain : Int := 11

/-- What `Front` comes to: a pointer into the receive buffer, `nullptr`, or no return. -/
inductive FrontResult where
  | header (idx : Nat)
  | null
  | hangs
deriving DecidableEq, Repr

/-- `(size + 7) & -8`. -/
def padded (size : UInt16) : UInt32 := UInt32.ofNat ((size.toNat + 7) / 8 * 8)

/-- `q` holds what the mapped file holds while it is mapped. -/
structure PTCPConnection where
  q : Option PTCPQueue
  sockfd : Int
  fdToClose : Int
  closeReason : String
  closeErrno : Int
  recvbuf : Mem UInt8
  recvbufSize : UInt32
  writeidx : UInt32
  nextmsgIdx : UInt32
  readidx : UInt32
  recvTime : Int
  sendTime : Int
  now : Int
  hbmsg : MsgHeader
  lastMyAck : UInt32

namespace PTCPConnection

variable (C : Conf)

def new : PTCPConnection where
  q := none
  sockfd := -1
  fdToClose := -1
  closeReason := "nil"
  closeErrno := 0
  recvbuf := fun _ => 0
  recvbufSize := 0
  writeidx := 0
  nextmsgIdx := 0
  readidx := 0
  recvTime := 0
  sendTime := 0
  now := 0
  hbmsg := MsgHeader.convertByteOrder C.endian ⟨8, 0, 0⟩
  lastMyAck := 0

/-- Run an operation of the queue. -/
def onQueue (c : PTCPConnection) (f : PTCPQueue → PTCPQueue) : PTCPConnection :=
  { c with q := c.q.map f }

/-! ### Opening and closing -/

/-- `OpenFile`, where the file can be mapped and holds `file`. -/
def openFile (c : PTCPConnection) (file : PTCPQueue) : PTCPConnection :=
  { c with q := some (c.q.getD file) }

/-- `Reset`: construct the queue anew. The value-initialization clears `blk_` first. -/
def reset (c : PTCPConnection) : PTCPConnection := c.onQueue fun _ => .init fun _ => ⟨0, 0, 0⟩

def isClosed (c : PTCPConnection) : Bool := c.sockfd < 0

def close (c : PTCPConnection) (reason : String) (sysErrno : Int) : PTCPConnection :=
  if c.sockfd < 0 then c
  else { c with sockfd := -1, closeReason := reason, closeErrno := sysErrno }

def requestClose (c : PTCPConnection) : PTCPConnection := c.close "Request close" 0

/-- `TryCloseFd`, and whether it closed the descriptor. -/
def tryCloseFd (c : PTCPConnection) : PTCPConnection × Bool :=
  if c.sockfd < 0 ∧ 0 ≤ c.fdToClose then ({ c with fdToClose := -1 }, true) else (c, false)

def release (c : PTCPConnection) : PTCPConnection :=
  { (c.close "Release" 0).tryCloseFd.1 with q := none }

/-! ### Sending -/

/-- The `send` loop in `SendPending` on `size` remaining bytes: how many the kernel takes, and the
error that closes the connection. A kernel that is not asked any more answers `EAGAIN`. -/
def sendLoop : List SendResult → Nat → Nat × Option Int
  | [], size => (0, if size % 8 ≠ 0 then some eagain else none)
  | .again :: _, size => (0, if size % 8 ≠ 0 then some eagain else none)
  | .error errno :: _, _ => (0, some errno)
  | .sent n :: rs, size =>
    if size ≤ n then (size, none)
    else ((sendLoop rs (size - n)).1 + n, (sendLoop rs (size - n)).2)

/-- The bytes of the blocks `ms` as they lie in memory. -/
def memBytes (ms : List MsgHeader) : List UInt8 := ms.flatMap (MsgHeader.toBytes C.endian.isLittle)

/-- `SendPending`: the state after the call, the bytes handed to the socket, and the result. -/
def sendPending (c : PTCPConnection) (rs : List SendResult) :
    PTCPConnection × List UInt8 × Bool :=
  match c.q with
  | none => (c, [], false)
  | some q =>
    if c.isClosed then (c, [], false)
    else if q.getSendable.2 = 0 then (c, [], false)
    else
      let blkSz := q.getSendable.2.toNat
      let bytes := memBytes C (q.blk.slice q.getSendable.1 blkSz)
      match sendLoop rs (blkSz * 8) with
      | (n, some errno) => (c.close "Send error" errno, bytes.take n, false)
      | (n, none) =>
        let sentBlk := blkSz - (blkSz * 8 - n) / 8
        if 0 < sentBlk then
          ({ c with q := some (q.sendout (UInt32.ofNat sentBlk)), sendTime := c.now },
            bytes.take n, true)
        else (c, bytes.take n, true)

/-- The end of `SendHB`: one `send` of the heartbeat. A closed connection has no socket to send
on, and the error it gets changes nothing. -/
def sendHbmsg (c : PTCPConnection) (res : SendResult) : PTCPConnection × List UInt8 :=
  if c.isClosed then (c, [])
  else match res with
    | .again => (c, [])
    | .error errno => (c.close "Send error" errno, [])
    | .sent n =>
      if n < 8 then (c.close "Send error" 0, (c.hbmsg.toBytes C.endian.isLittle).take n)
      else ({ c with sendTime := c.now }, c.hbmsg.toBytes C.endian.isLittle)

/-- `SendHB`: the state after the call and the bytes handed to the socket. -/
def sendHB (c : PTCPConnection) (now : Int) (rs : List SendResult) (res : SendResult) :
    PTCPConnection × List UInt8 :=
  let c := { c with now := now }
  if c.now - c.sendTime < C.heartBeatInverval then (c, [])
  else match c.q with
    | none => c.sendHbmsg C res
    | some q =>
      match c.sendPending C rs with
      | (c, bytes, true) => (c, bytes)
      | (c, bytes, false) =>
        let c := { c with hbmsg := { c.hbmsg with ackSeq := C.endian.convert32 q.myAck } }
        ((c.sendHbmsg C res).1, bytes ++ (c.sendHbmsg C res).2)

/-- `Open` up to `LoginAck`. -/
def openAck (c : PTCPConnection) (sockFd : Int) (remoteAckSeq : UInt32) (now : Int) :
    PTCPConnection :=
  { c with
    q := c.q.map fun q => q.loginAck C.endian remoteAckSeq
    sockfd := sockFd, fdToClose := sockFd
    writeidx := 0, readidx := 0, nextmsgIdx := 0
    recvTime := now, sendTime := now, now := now }

/-- The end of `Open`: the first time, the receive buffer is allocated. -/
def openBuf (c : PTCPConnection) : PTCPConnection :=
  if c.recvbufSize = 0 then
    { c with recvbufSize := C.tcpRecvBufInitSize, recvbuf := fun _ => 0 }
  else c

/-- `Open`: the state after the call and the bytes handed to the socket. -/
def «open» (c : PTCPConnection) (sockFd : Int) (remoteAckSeq : UInt32) (now : Int)
    (rs : List SendResult) : PTCPConnection × List UInt8 :=
  let sent := (c.openAck C sockFd remoteAckSeq now).sendPending C rs
  (sent.1.openBuf C, sent.2.1)

/-- `Alloc`: the state after the call and the returned pointer. -/
def alloc (c : PTCPConnection) (size : UInt16) : PTCPConnection × Option Nat :=
  match c.q with
  | none => (c, none)
  | some q => ({ c with q := some (q.alloc C.tcpQueueSize size).1 }, (q.alloc C.tcpQueueSize size).2)

def pushMore (c : PTCPConnection) : PTCPConnection := c.onQueue fun q => q.push C.endian

/-- `Push`: the state after the call and the bytes handed to the socket. -/
def push (c : PTCPConnection) (rs : List SendResult) : PTCPConnection × List UInt8 :=
  (((c.pushMore C).sendPending C rs).1, ((c.pushMore C).sendPending C rs).2.1)

/-! ### Receiving -/

/-- The header at `idx` of the receive buffer. -/
def headerAt (c : PTCPConnection) (idx : UInt32) : MsgHeader :=
  .ofBytes C.endian.isLittle (c.recvbuf.slice idx.toNat 8)

/-- `header->ConvertByteOrder` for the header at `idx` of the receive buffer. -/
def convertHeader (c : PTCPConnection) (idx : UInt32) : PTCPConnection :=
  let header := (c.headerAt C idx).convertByteOrder C.endian
  { c with recvbuf := c.recvbuf.write idx.toNat (header.toBytes C.endian.isLittle) }

/-- The start of `DoRecv`: an emptied buffer is used from its start again. -/
def rewindBuf (c : PTCPConnection) : PTCPConnection :=
  if 0 < c.readidx ∧ c.readidx = c.writeidx then
    { c with readidx := 0, nextmsgIdx := 0, writeidx := 0 }
  else c

def writable (c : PTCPConnection) : UInt32 := c.recvbufSize - c.writeidx

def allowExpand (c : PTCPConnection) : Bool := (c.writable + c.readidx) * 2 < c.recvbufSize

/-- `extra_size`, with `sizeof(stackbuf)` being 65536. -/
def extraSize (c : PTCPConnection) : UInt32 :=
  min 65536 (c.readidx + if c.allowExpand then C.tcpRecvBufMaxSize - c.recvbufSize else 0)

/-- Move the unread bytes to the front and put the rest of what was read behind them. -/
def shift (c : PTCPConnection) (stackbuf : List UInt8) : PTCPConnection :=
  let keep := (c.recvbufSize - c.readidx).toNat
  { c with
    recvbuf := (c.recvbuf.move 0 c.readidx.toNat keep).write keep stackbuf
    writeidx := c.writeidx - c.readidx
    nextmsgIdx := c.nextmsgIdx - c.readidx
    readidx := 0 }

/-- `newbufsize`. -/
def newbufsize (c : PTCPConnection) (ret : UInt32) : UInt32 :=
  min C.tcpRecvBufMaxSize
    (max (c.recvbufSize * 2) ((c.writeidx - c.readidx + ret + 7) &&& 0xFFFFFFF8))

/-- Go on in a new buffer, larger than the old one. -/
def expand (c : PTCPConnection) (stackbuf : List UInt8) (ret : UInt32) : PTCPConnection :=
  let keep := (c.recvbufSize - c.readidx).toNat
  let newBuf : Mem UInt8 := fun _ => 0
  { c with
    recvbuf := (newBuf.write 0 (c.recvbuf.slice c.readidx.toNat keep)).write keep stackbuf
    recvbufSize := c.newbufsize C ret
    writeidx := c.writeidx - c.readidx
    nextmsgIdx := c.nextmsgIdx - c.readidx
    readidx := 0 }

/-- `DoRecv` after a successful read of `bs`: what fits was read into the buffer, the rest into
`stackbuf`. -/
def received (c : PTCPConnection) (bs : List UInt8) : PTCPConnection :=
  let ret := UInt32.ofNat bs.length
  let c' := { c with
    recvTime := c.now
    recvbuf := c.recvbuf.write c.writeidx.toNat (bs.take c.writable.toNat) }
  if ret ≤ c.writable then c'
  else if ret ≤ c.writable + c.readidx then c'.shift (bs.drop c.writable.toNat)
  else c'.expand C (bs.drop c.writable.toNat) ret

/-- `DoRecv`: the state after the call and the result. -/
def doRecv (c : PTCPConnection) (res : ReadResult) : PTCPConnection × UInt32 :=
  let c := c.rewindBuf
  if c.writable + c.extraSize C = 0 then (c, 0)
  else match res with
    | .data bs => (c.received C bs, UInt32.ofNat bs.length)
    | .eof => (c.close "Remote close" 0, 0)
    | .again =>
      if C.connectionTimeout < c.now - c.recvTime then (c.close "Timeout" 0, 0) else (c, 0)
    | .error errno => (c.close "Read error" errno, 0)

/-- The first loop of `Front`, on buffered messages, from the given `q_->MyAck()`; `none` goes on to
`DoRecv`. -/
def skipLoop (myAck : UInt32) : Nat → PTCPConnection → PTCPConnection × Option FrontResult
  | 0, c => (c, some .hangs)
  | fuel + 1, c =>
    if c.nextmsgIdx = c.readidx then (c, none)
    else if (c.headerAt C c.readidx).msgType = 0 then
      skipLoop myAck fuel { c with readidx := c.readidx + 8 }
    else if c.lastMyAck = myAck then (c, none)
    else ({ c with lastMyAck := myAck }, some (.header c.readidx.toNat))

/-- Put the header at `nextmsg_idx_` in host order, if that was not done by an earlier call. -/
def convertNew (c : PTCPConnection) (oldWriteidx : UInt32) : PTCPConnection :=
  if oldWriteidx.asInt - c.nextmsgIdx.asInt < 8 then c.convertHeader C c.nextmsgIdx else c

/-- A full message has been received; a heartbeat with nothing before it is consumed at once. -/
def gotMsg (c : PTCPConnection) (header : MsgHeader) : PTCPConnection :=
  { c with
    readidx :=
      if header.msgType = 0 ∧ c.readidx = c.nextmsgIdx then c.readidx + padded header.size
      else c.readidx
    nextmsgIdx := c.nextmsgIdx + padded header.size }

/-- The second loop of `Front`, on what was received; `none` goes on to the end of `Front`. -/
def parseLoop (oldWriteidx : UInt32) : Nat → PTCPConnection → PTCPConnection × Option FrontResult
  | 0, c => (c, some .hangs)
  | fuel + 1, c =>
    if 8 ≤ c.writeidx - c.nextmsgIdx then
      let c := c.convertNew C oldWriteidx
      let header := c.headerAt C c.nextmsgIdx
      let c := c.onQueue fun q => q.ack C.endian header.ackSeq
      if C.tcpRecvBufMaxSize < padded header.size then
        (c.close "Msg size larger than recv buf max size" 0, some .null)
      else if c.writeidx - c.nextmsgIdx < padded header.size then (c, none)
      else parseLoop oldWriteidx fuel (c.gotMsg header)
    else (c, none)

/-- The end of `Front`. -/
def frontEnd (c : PTCPConnection) : PTCPConnection × FrontResult :=
  (c, if c.readidx ≠ c.nextmsgIdx then .header c.readidx.toNat else .null)

/-- `Front` after `DoRecv` has read `len` bytes. A loop of more than `writeidx_ / 8` turns has met a
message of size 0 and stays there. -/
def frontParse (c : PTCPConnection) (len : UInt32) : PTCPConnection × FrontResult :=
  let parsed := parseLoop C c.writeidx ((c.writeidx + len).toNat / 8 + 1)
    { c with writeidx := c.writeidx + len }
  match parsed.2 with
  | some r => (parsed.1, r)
  | none => parsed.1.frontEnd

/-- `Front` from `DoRecv` on. -/
def frontRecv (c : PTCPConnection) (res : ReadResult) : PTCPConnection × FrontResult :=
  let recv := c.doRecv C res
  if recv.2 = 0 then recv.1.frontEnd else recv.1.frontParse C recv.2

/-- The first loop of `Front`. `readidx_` and `nextmsg_idx_` are multiples of 8, so that it ends
after their distance by eights. -/
def buffered (c : PTCPConnection) : PTCPConnection × Option FrontResult :=
  c.skipLoop C (c.q.elim 0 PTCPQueue.myAck) ((c.nextmsgIdx - c.readidx).toNat / 8 + 1)

def front (c : PTCPConnection) (res : ReadResult) : PTCPConnection × FrontResult :=
  if c.q.isNone then ((c.doRecv C res).1, .null)
  else
    let skipped := c.buffered C
    match skipped.2 with
    | some r => (skipped.1, r)
    | none => skipped.1.frontRecv C res

def pop (c : PTCPConnection) : PTCPConnection :=
  { c with readidx := c.readidx + padded (c.headerAt C c.readidx).size }.onQueue PTCPQueue.incMyAck

end PTCPConnection

end Tcpshm
