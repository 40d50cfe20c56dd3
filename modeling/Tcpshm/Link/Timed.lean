import Tcpshm.KeepAlive
import Tcpshm.PtcpConn.Times
import Tcpshm.TcpShmConn.Basic

/-!
# Heartbeats and timeouts

Two connected sides with clocks that run at the same rate. `PollTcp` and, with shared memory,
`PollCtl` send a heartbeat when nothing was sent for `HeartBeatInverval`, and close a connection on
which nothing was received for `ConnectionTimeout`. With the times chosen well no side is closed for
that reason while the other side goes on. A call takes no time here.
-/

namespace Tcpshm

open PTCPConnection KeepAlive

/-! ### One side -/

/-- A call of the user, and what it hands to the socket. -/
inductive UserCall (C : Conf) (c : PTCPConnection) : List UInt8 → PTCPConnection → Prop where
  | alloc (size : UInt16) : UserCall C c [] (c.alloc C size).1
  | fill (f : PTCPQueue → PTCPQueue) : UserCall C c [] (c.onQueue f)
  | push (rs : List SendResult) : UserCall C c (c.push C rs).2 (c.push C rs).1
  | pushMore : UserCall C c [] (c.pushMore C)
  | pop : UserCall C c [] (c.pop C)
  | close : UserCall C c [] c.requestClose

/-- What the kernel answers during `TcpFront`. -/
structure Answers where
  pending : List SendResult
  heartbeat : SendResult
  read : ReadResult

/-- `TcpFront` at `now`: the state after the call, the bytes handed to the socket, and those taken
from it. -/
def PTCPConnection.tcpFront (C : Conf) (c : PTCPConnection) (now : Int) (ans : Answers) :
    PTCPConnection × List UInt8 × List UInt8 :=
  let sent := c.sendHB C now ans.pending ans.heartbeat
  ((sent.1.front C ans.read).1, sent.2, sent.1.tcpRead C ans.read)

/-- What the kernel can answer at `time` while `inc` is on the way: it takes something from every
`send` that it is asked first, it hands out what is there, and nothing is on the way for longer than
`delay`. -/
structure Kernel (C : Conf) (c : PTCPConnection) (now time delay : Int) (inc : List (Int × UInt8))
    (ans : Answers) : Prop where
  pending : ∃ r ∈ ans.pending.head?, r.answers
  heartbeat : ans.heartbeat.answers
  admissible : (c.sendHB C now ans.pending ans.heartbeat).1.TcpAdmissible C ans.read
  read_prefix : (c.tcpFront C now ans).2.2 <+: inc.map Prod.snd
  empty : ans.read = .again → ∀ b ∈ inc, time < b.1 + delay

/-- The line from `a` to `b`, when their clocks show `u` and `v` at time 0. -/
def line (a b : PTCPConnection) (u v time : Int) (chan : List (Int × UInt8)) : Line Int UInt8 :=
  ⟨time, a.sendTime - u, a.now - u, b.recvTime - v, chan⟩

variable {C : Conf} {T : Timing Int} {a a' b : PTCPConnection} {u v time : Int}
  {chan : List (Int × UInt8)} {bytes : List UInt8} {ans : Answers}

lemma UserCall.sent (h : UserCall C a bytes a') : Sent bytes a a' := by
  cases h with
  | alloc size => exact .of_sameTimes (.alloc a size)
  | fill f => exact .of_sameTimes (.onQueue a f)
  | push rs => exact .push a rs
  | pushMore => exact .of_sameTimes (.onQueue a _)
  | pop => exact .of_sameTimes (.pop a)
  | close => exact .of_sameTimes (.close a (by decide) 0)

/-- What a connection sends between two polls is noted with the time of the first. -/
lemma beating_sent (h : Sent bytes a a') (hbeat : Beating T (line a b u v time chan)) :
    Beating T (line a' b u v time (chan ++ bytes.map (Prod.mk time))) := by
  have hsent : a.sendTime - u ≤ a.now - u := hbeat.sent_le
  have hdue : a.now - u ≤ a.sendTime - u + T.interval := hbeat.due
  have hinterval := T.interval_nonneg
  refine hbeat.acts (l := line a b u v time chan) ?_ ?_ ?_ ?_
  · rcases h.sendTime with hs | ⟨hs, -⟩ <;> rw [hs, h.now]
    exact hsent
  · rw [h.now]
    exact hbeat.polled_le
  · rw [h.now]
    exact le_rfl
  · rcases h.sendTime with hs | ⟨hs, -⟩ <;> rw [hs, h.now]
    · exact hdue
    · omega

lemma heard_sent (h : Sent bytes a a') (hbeat : Beating T (line a b u v time chan))
    (hheard : Heard T (line a b u v time chan)) :
    Heard T (line a' b u v time (chan ++ bytes.map (Prod.mk time))) := by
  refine hheard.acts (l := line a b u v time chan) hbeat (a'.now - u) fun hnil => ?_
  rcases h.sendTime with hs | ⟨-, hne⟩
  · rw [hs]
    rfl
  · exact absurd hnil hne

lemma line_receiver {b' : PTCPConnection} (h : b'.recvTime = b.recvTime) :
    line a b' u v time chan = line a b u v time chan := by
  unfold line
  rw [h]

lemma line_opened (hnow : a.now = time + u) (hsend : a.sendTime = time + u) :
    line a b u v time (bytes.map (Prod.mk time)) = (line a b u v time []).started bytes := by
  unfold line Line.started
  rw [hnow, hsend, add_sub_cancel_right]

lemma beating_opened (T : Timing Int) (hnow : a.now = time + u) (hsend : a.sendTime = time + u) :
    Beating T (line a b u v time (bytes.map (Prod.mk time))) := by
  rw [line_opened hnow hsend]
  exact .started T _ bytes

lemma heard_opened (hnow : a.now = time + u) (hsend : a.sendTime = time + u)
    (hwait : time ≤ b.recvTime - v + T.lag) :
    Heard T (line a b u v time (bytes.map (Prod.mk time))) := by
  rw [line_opened hnow hsend]
  exact .started hwait bytes

/-! ### A poll -/

lemma TcpShmConnection.tcpFront_ptcpConn {F : LoginFormat} (c : TcpShmConnection F) (now : Int)
    (ans : Answers) :
    (c.tcpFront C now ans.pending ans.heartbeat ans.read).1.ptcpConn =
      (c.ptcpConn.tcpFront C now ans).1 := rfl

variable {now delay : Int} {inc : List (Int × UInt8)}

/-- The two halves of a poll. -/
lemma tcpFront_spec (c : PTCPConnection) (now : Int) (ans : Answers) :
    ∃ m, Sent (c.tcpFront C now ans).2.1 { c with now := now } m ∧
      Receipt C ans.read (c.tcpFront C now ans).2.2 m (c.tcpFront C now ans).1 :=
  ⟨(c.sendHB C now ans.pending ans.heartbeat).1, .sendHB c now _ _, .front _ _⟩

lemma tcpFront_now (c : PTCPConnection) (now : Int) (ans : Answers) :
    (c.tcpFront C now ans).1.now = now := by
  obtain ⟨m, hsent, hrecv⟩ := tcpFront_spec (C := C) c now ans
  exact hrecv.now.trans hsent.now

lemma tcpFront_closed (c : PTCPConnection) (now : Int) (ans : Answers) (h : c.sockfd < 0) :
    (c.tcpFront C now ans).1.sockfd < 0 := by
  obtain ⟨m, hsent, hrecv⟩ := tcpFront_spec (C := C) c now ans
  exact hrecv.closed (hsent.closed h)

/-- A poll sees to it that something is sent in time. -/
lemma beating_poll (hans : Kernel C a (time + u) time delay inc ans)
    (hinterval : T.interval = C.heartBeatInverval) (hopen : 0 ≤ (a.tcpFront C (time + u) ans).1.sockfd)
    (hbeat : Beating T (line a b u v time chan)) :
    Beating T (line (a.tcpFront C (time + u) ans).1 b u v time
      (chan ++ (a.tcpFront C (time + u) ans).2.1.map (Prod.mk time))) := by
  have hnow := tcpFront_now (C := C) a (time + u) ans
  have hnonneg := T.interval_nonneg
  have hsent := Sent.sendHB (C := C) a (time + u) ans.pending ans.heartbeat
  have hrecv := Receipt.front (C := C) (a.sendHB C (time + u) ans.pending ans.heartbeat).1 ans.read
  have hstill : 0 ≤ (a.sendHB C (time + u) ans.pending ans.heartbeat).1.sockfd :=
    not_lt.mp fun h => absurd (hrecv.closed h) (not_lt.mpr hopen)
  have hdue := sendHB_due hans.pending hans.heartbeat hstill
  have hsend : (a.tcpFront C (time + u) ans).1.sendTime =
      (a.sendHB C (time + u) ans.pending ans.heartbeat).1.sendTime := hrecv.sendTime
  have hle : a.sendTime - u ≤ a.now - u := hbeat.sent_le
  have hpolled : a.now - u ≤ time := hbeat.polled_le
  refine hbeat.acts (l := line a b u v time chan) ?_ ?_ ?_ ?_
  · rw [hnow, hsend]
    rcases hsent.sendTime with hs | ⟨hs, -⟩
    · rw [hs]
      simp only
      omega
    · rw [hs]
  · rw [hnow]
    exact (add_sub_cancel_right time u).le
  · rw [hnow, add_sub_cancel_right]
    exact hpolled
  · rw [hnow, hsend]
    omega

lemma heard_poll (hbeat : Beating T (line a b u v time chan))
    (hheard : Heard T (line a b u v time chan)) :
    Heard T (line (a.tcpFront C (time + u) ans).1 b u v time
      (chan ++ (a.tcpFront C (time + u) ans).2.1.map (Prod.mk time))) := by
  obtain ⟨m, hsent, hrecv⟩ := tcpFront_spec (C := C) a (time + u) ans
  refine hheard.acts (l := line a b u v time chan) hbeat _ fun hnil => ?_
  rw [hrecv.sendTime]
  rcases hsent.sendTime with hs | ⟨-, hne⟩
  · rw [hs]
    rfl
  · exact absurd hnil hne

/-- What the receiver has heard after a poll. -/
lemma hears_poll (hbeat : Beating T (line b a v u time chan))
    (hheard : Heard T (line b a v u time chan)) :
    Heard T (line b (a.tcpFront C (time + u) ans).1 v u time
      (chan.drop (a.tcpFront C (time + u) ans).2.2.length)) := by
  obtain ⟨m, hsent, hrecv⟩ := tcpFront_spec (C := C) a (time + u) ans
  rcases hrecv.recvTime with hread | ⟨hsame, hnone⟩
  · -- something was read, now
    refine (hbeat.hears _ ((a.tcpFront C (time + u) ans).1.recvTime - u)).heard ?_
    show time ≤ (a.tcpFront C (time + u) ans).1.recvTime - u
    rw [hread, hsent.now]
    simp
  · rw [hnone]
    unfold line
    rw [hsame, hsent.recvTime]
    exact hheard

/-- A poll does not time out while the other side goes on. -/
lemma in_time_poll (hans : Kernel C a (time + u) time delay chan ans)
    (hdelay : T.delay = delay) (htimeout : T.timeout = C.connectionTimeout)
    (hbeat : Beating T (line b a v u time chan)) (hheard : Heard T (line b a v u time chan))
    (h : (a.tcpFront C (time + u) ans).1.TimedOut) : a.TimedOut := by
  obtain ⟨m, hsent, hrecv⟩ := tcpFront_spec (C := C) a (time + u) ans
  rcases hrecv.timedOut h with hbefore | ⟨-, hagain, hlate⟩
  · exact hsent.timedOut hbefore
  · have hin : time - (a.recvTime - u) ≤ T.timeout :=
      hheard.in_time hbeat (hdelay ▸ hans.empty hagain)
    rw [hsent.now, hsent.recvTime] at hlate
    simp only at hlate
    omega

/-! ### Two sides -/

/-- The two sides of a connection and how they are run. A side that is open is polled at least every
so often, and the side that opens second does so within `lag`. The clocks show their numbers at
time 0. -/
structure Pace where
  first : Conf
  second : Conf
  firstClock : Int
  secondClock : Int
  firstEvery : Int
  secondEvery : Int
  delay : Int
  lag : Int
  first_nonneg : 0 ≤ first.heartBeatInverval ∧ 0 ≤ firstEvery
  second_nonneg : 0 ≤ second.heartBeatInverval ∧ 0 ≤ secondEvery
  delay_nonneg : 0 ≤ delay
  lag_nonneg : 0 ≤ lag
  first_fits : lag + second.heartBeatInverval + secondEvery + delay ≤ first.connectionTimeout
  second_fits : first.heartBeatInverval + firstEvery + delay ≤ second.connectionTimeout

/-- The timing of the line from the first side to the second. -/
def Pace.up (p : Pace) : Timing Int where
  interval := p.first.heartBeatInverval
  every := p.firstEvery
  delay := p.delay
  lag := 0
  timeout := p.second.connectionTimeout
  interval_nonneg := p.first_nonneg.1
  every_nonneg := p.first_nonneg.2
  delay_nonneg := p.delay_nonneg
  lag_nonneg := le_rfl
  fits := by rw [zero_add]; exact p.second_fits

/-- The timing of the line from the second side to the first. -/
def Pace.down (p : Pace) : Timing Int where
  interval := p.second.heartBeatInverval
  every := p.secondEvery
  delay := p.delay
  lag := p.lag
  timeout := p.first.connectionTimeout
  interval_nonneg := p.second_nonneg.1
  every_nonneg := p.second_nonneg.2
  delay_nonneg := p.delay_nonneg
  lag_nonneg := p.lag_nonneg
  fits := p.first_fits

/-- Whether the second side has opened: the server opens when it has sent its response, and the
client when it has got it. -/
inductive Phase where
  | awaited
  | opened
  | failed
deriving DecidableEq

/-- Every byte on the way has the time at which it was sent; `since` is when the first side has
opened. -/
structure Timed where
  time : Int
  since : Int
  phase : Phase
  first : PTCPConnection
  second : PTCPConnection
  toFirst : List (Int × UInt8)
  toSecond : List (Int × UInt8)

namespace Timed

variable (p : Pace) (s : Timed)

/-- The first side opens; what the second side is before it opens does not matter. -/
def init (first second : PTCPConnection) (fd : Int) (ack : UInt32) (since : Int)
    (rs : List SendResult) : Timed where
  time := since
  since := since
  phase := .awaited
  first := (first.open p.first fd ack (since + p.firstClock) rs).1
  second := second
  toFirst := []
  toSecond := (first.open p.first fd ack (since + p.firstClock) rs).2.map (Prod.mk since)

def firstCalls (bytes : List UInt8) (c : PTCPConnection) : Timed :=
  { s with first := c, toSecond := s.toSecond ++ bytes.map (Prod.mk s.time) }

def secondCalls (bytes : List UInt8) (c : PTCPConnection) : Timed :=
  { s with second := c, toFirst := s.toFirst ++ bytes.map (Prod.mk s.time) }

def firstPolls (ans : Answers) : Timed :=
  let polled := s.first.tcpFront p.first (s.time + p.firstClock) ans
  { s with
    first := polled.1
    toFirst := s.toFirst.drop polled.2.2.length
    toSecond := s.toSecond ++ polled.2.1.map (Prod.mk s.time) }

def secondPolls (ans : Answers) : Timed :=
  let polled := s.second.tcpFront p.second (s.time + p.secondClock) ans
  { s with
    second := polled.1
    toFirst := s.toFirst ++ polled.2.1.map (Prod.mk s.time)
    toSecond := s.toSecond.drop polled.2.2.length }

def opens (fd : Int) (ack : UInt32) (rs : List SendResult) : Timed :=
  let opened := s.second.open p.second fd ack (s.time + p.secondClock) rs
  { s with
    phase := .opened
    second := opened.1
    toFirst := s.toFirst ++ opened.2.map (Prod.mk s.time) }

/-- `d` may pass. -/
structure MayWait (d : Int) : Prop where
  nonneg : 0 ≤ d
  first : 0 ≤ s.first.sockfd → s.time + d ≤ s.first.now - p.firstClock + p.firstEvery
  second : s.phase = .opened → 0 ≤ s.second.sockfd →
    s.time + d ≤ s.second.now - p.secondClock + p.secondEvery
  awaited : s.phase = .awaited → s.time + d ≤ s.since + p.lag

inductive Step : Timed → Timed → Prop where
  | firstCalls {s : Timed} {bytes : List UInt8} {c : PTCPConnection}
      (h : UserCall p.first s.first bytes c) : Step s (s.firstCalls bytes c)
  | secondCalls {s : Timed} {bytes : List UInt8} {c : PTCPConnection} (hphase : s.phase = .opened)
      (h : UserCall p.second s.second bytes c) : Step s (s.secondCalls bytes c)
  | firstPolls {s : Timed} (ans : Answers)
      (h : Kernel p.first s.first (s.time + p.firstClock) s.time p.delay s.toFirst ans) :
      Step s (s.firstPolls p ans)
  | secondPolls {s : Timed} (hphase : s.phase = .opened) (ans : Answers)
      (h : Kernel p.second s.second (s.time + p.secondClock) s.time p.delay s.toSecond ans) :
      Step s (s.secondPolls p ans)
  | opens {s : Timed} (hphase : s.phase = .awaited) {fd : Int} (hfd : 0 ≤ fd) (ack : UInt32)
      (rs : List SendResult) : Step s (s.opens p fd ack rs)
  | fails {s : Timed} (hphase : s.phase = .awaited) : Step s { s with phase := .failed }
  | waits {s : Timed} {d : Int} (h : s.MayWait p d) : Step s { s with time := s.time + d }

inductive Reaches : Timed → Prop where
  | init (first second : PTCPConnection) {fd : Int} (hfd : 0 ≤ fd) (ack : UInt32) (since : Int)
      (rs : List SendResult) : Reaches (init p first second fd ack since rs)
  | step {s s' : Timed} (h : Reaches s) (hstep : Step p s s') : Reaches s'

/-- The line from the first side to the second. -/
def up : Line Int UInt8 := line s.first s.second p.firstClock p.secondClock s.time s.toSecond

/-- The line from the second side to the first. -/
def down : Line Int UInt8 := line s.second s.first p.secondClock p.firstClock s.time s.toFirst

/-! ### The invariant -/

/-- The first side is open and waits for the second. -/
structure Waiting : Prop where
  beating : Beating p.up (s.up p)
  empty : s.toFirst = []
  le_time : s.since ≤ s.time
  since_le : s.since ≤ s.first.recvTime - p.firstClock
  le_lag : s.time ≤ s.since + p.lag

/-- Both sides are open. -/
structure Alive : Prop where
  upBeating : Beating p.up (s.up p)
  upHeard : Heard p.up (s.up p)
  downBeating : Beating p.down (s.down p)
  downHeard : Heard p.down (s.down p)

structure Inv : Prop where
  waiting : s.phase = .awaited → 0 ≤ s.first.sockfd → s.Waiting p
  alive : s.phase = .opened → 0 ≤ s.first.sockfd → 0 ≤ s.second.sockfd → s.Alive p
  first : s.first.TimedOut → s.phase = .failed ∨ (s.phase = .opened ∧ s.second.sockfd < 0)
  second : s.phase = .opened → s.second.TimedOut → s.first.sockfd < 0
  notBoth : s.phase = .opened → s.first.TimedOut → ¬s.second.TimedOut

variable {p s} {s' : Timed}

lemma Waiting.le_heard (h : s.Waiting p) : s.time ≤ s.first.recvTime - p.firstClock + p.lag :=
  h.le_lag.trans (add_le_add_left h.since_le p.lag)

lemma open_of_stays {c c' : PTCPConnection} (h : c.sockfd < 0 → c'.sockfd < 0)
    (hopen : 0 ≤ c'.sockfd) : 0 ≤ c.sockfd :=
  not_lt.mp fun hc => absurd (h hc) (not_lt.mpr hopen)

lemma Inv.init (first second : PTCPConnection) {fd : Int} (hfd : 0 ≤ fd) (ack : UInt32) (since : Int)
    (rs : List SendResult) : Inv p (init p first second fd ack since rs) := by
  obtain ⟨hnow, hsend, hrecv, htimed⟩ :=
    open_times (C := p.first) first hfd ack (since + p.firstClock) rs
  refine ⟨fun _ _ => ⟨?_, rfl, le_rfl, ?_, ?_⟩, nofun, fun h => absurd h htimed, nofun, nofun⟩
  · exact beating_opened p.up hnow hsend
  · show since ≤ (first.open p.first fd ack (since + p.firstClock) rs).1.recvTime - p.firstClock
    rw [hrecv, add_sub_cancel_right]
  · exact le_add_of_nonneg_right p.lag_nonneg

lemma Inv.firstCalls (h : Inv p s) {bytes : List UInt8} {c : PTCPConnection}
    (hcall : UserCall p.first s.first bytes c) : Inv p (s.firstCalls bytes c) := by
  have hsent := hcall.sent
  refine ⟨fun hphase hopen => ?_, fun hphase hopen hopen' => ?_, fun htimed => ?_,
    fun hphase htimed => ?_, fun hphase htimed => ?_⟩
  · have hw := h.waiting hphase (open_of_stays hsent.closed hopen)
    refine ⟨beating_sent hsent hw.beating, hw.empty, hw.le_time, ?_, hw.le_lag⟩
    show s.since ≤ c.recvTime - p.firstClock
    rw [hsent.recvTime]
    exact hw.since_le
  · have ha := h.alive hphase (open_of_stays hsent.closed hopen) hopen'
    have hdown : (s.firstCalls bytes c).down p = s.down p := line_receiver hsent.recvTime
    refine ⟨beating_sent hsent ha.upBeating, heard_sent hsent ha.upBeating ha.upHeard, ?_, ?_⟩
    · rw [hdown]
      exact ha.downBeating
    · rw [hdown]
      exact ha.downHeard
  · exact h.first (hsent.timedOut htimed)
  · exact hsent.closed (h.second hphase htimed)
  · exact h.notBoth hphase (hsent.timedOut htimed)

lemma Inv.secondCalls (h : Inv p s) (hphase : s.phase = .opened) {bytes : List UInt8}
    {c : PTCPConnection} (hcall : UserCall p.second s.second bytes c) :
    Inv p (s.secondCalls bytes c) := by
  have hsent := hcall.sent
  refine ⟨fun hawaited _ => ?_, fun _ hopen hopen' => ?_, fun htimed => ?_, fun _ htimed => ?_,
    fun _ htimed htimed' => ?_⟩
  · exact absurd (hphase.symm.trans hawaited) (by decide)
  · have ha := h.alive hphase hopen (open_of_stays hsent.closed hopen')
    have hup : (s.secondCalls bytes c).up p = s.up p := line_receiver hsent.recvTime
    refine ⟨?_, ?_, beating_sent hsent ha.downBeating,
      heard_sent hsent ha.downBeating ha.downHeard⟩
    · rw [hup]
      exact ha.upBeating
    · rw [hup]
      exact ha.upHeard
  · exact (h.first htimed).imp_right fun ⟨hphase, hclosed⟩ => ⟨hphase, hsent.closed hclosed⟩
  · exact h.second hphase (hsent.timedOut htimed)
  · exact h.notBoth hphase htimed (hsent.timedOut htimed')

/-- The first side waits, and its polls find nothing. -/
lemma Waiting.firstPolls (h : s.Waiting p) {ans : Answers}
    (hans : Kernel p.first s.first (s.time + p.firstClock) s.time p.delay s.toFirst ans)
    (hopen : 0 ≤ (s.firstPolls p ans).first.sockfd) : (s.firstPolls p ans).Waiting p := by
  obtain ⟨m, hsent, hrecv⟩ := tcpFront_spec (C := p.first) s.first (s.time + p.firstClock) ans
  refine ⟨beating_poll hans rfl hopen h.beating, ?_, h.le_time, ?_, h.le_lag⟩
  · show s.toFirst.drop _ = []
    rw [h.empty, List.drop_nil]
  · show s.since ≤
      (s.first.tcpFront p.first (s.time + p.firstClock) ans).1.recvTime - p.firstClock
    rcases hrecv.recvTime with hread | ⟨hsame, -⟩
    · rw [hread, hsent.now, add_sub_cancel_right]
      exact h.le_time
    · rw [hsame, hsent.recvTime]
      exact h.since_le

/-- A side that waits for the other to open does not time out. -/
lemma Waiting.in_time (h : s.Waiting p) {ans : Answers}
    (htimed : (s.firstPolls p ans).first.TimedOut) : s.first.TimedOut := by
  obtain ⟨m, hsent, hrecv⟩ := tcpFront_spec (C := p.first) s.first (s.time + p.firstClock) ans
  rcases hrecv.timedOut htimed with hbefore | ⟨-, -, hlate⟩
  · exact hsent.timedOut hbefore
  · have hin : s.time - (s.first.recvTime - p.firstClock) ≤ p.first.connectionTimeout :=
      p.down.in_time_of_lag h.le_heard
    rw [hsent.now, hsent.recvTime] at hlate
    simp only at hlate
    omega

lemma Alive.firstPolls (h : s.Alive p) {ans : Answers}
    (hans : Kernel p.first s.first (s.time + p.firstClock) s.time p.delay s.toFirst ans)
    (hopen : 0 ≤ (s.firstPolls p ans).first.sockfd) : (s.firstPolls p ans).Alive p where
  upBeating := beating_poll hans rfl hopen h.upBeating
  upHeard := heard_poll h.upBeating h.upHeard
  downBeating := h.downBeating.hears _ _
  downHeard := hears_poll h.downBeating h.downHeard

lemma Alive.secondPolls (h : s.Alive p) {ans : Answers}
    (hans : Kernel p.second s.second (s.time + p.secondClock) s.time p.delay s.toSecond ans)
    (hopen : 0 ≤ (s.secondPolls p ans).second.sockfd) : (s.secondPolls p ans).Alive p where
  upBeating := h.upBeating.hears _ _
  upHeard := hears_poll h.upBeating h.upHeard
  downBeating := beating_poll hans rfl hopen h.downBeating
  downHeard := heard_poll h.downBeating h.downHeard

lemma Inv.firstPolls (h : Inv p s) {ans : Answers}
    (hans : Kernel p.first s.first (s.time + p.firstClock) s.time p.delay s.toFirst ans) :
    Inv p (s.firstPolls p ans) := by
  have hclosed := tcpFront_closed (C := p.first) s.first (s.time + p.firstClock) ans
  have hcases : (s.firstPolls p ans).first.TimedOut → s.first.TimedOut ∨ 0 ≤ s.first.sockfd := by
    obtain ⟨m, hsent, hrecv⟩ := tcpFront_spec (C := p.first) s.first (s.time + p.firstClock) ans
    exact fun htimed => (hrecv.timedOut htimed).imp hsent.timedOut fun hnew =>
      open_of_stays hsent.closed hnew.1
  refine ⟨fun hphase hopen => ?_, fun hphase hopen hopen' => ?_, fun htimed => ?_,
    fun hphase htimed => ?_, fun hphase htimed => ?_⟩
  · exact (h.waiting hphase (open_of_stays hclosed hopen)).firstPolls hans hopen
  · exact (h.alive hphase (open_of_stays hclosed hopen) hopen').firstPolls hans hopen
  · rcases hcases htimed with hbefore | hopen
    · exact h.first hbefore
    cases hphase : s.phase with
    | failed => exact Or.inl hphase
    | awaited => exact h.first ((h.waiting hphase hopen).in_time htimed)
    | opened =>
      by_cases hsecond : s.second.sockfd < 0
      · exact Or.inr ⟨hphase, hsecond⟩
      · have ha := h.alive hphase hopen (not_lt.mp hsecond)
        exact h.first (in_time_poll hans rfl rfl ha.downBeating ha.downHeard htimed)
  · exact hclosed (h.second hphase htimed)
  · rcases hcases htimed with hbefore | hopen
    · exact h.notBoth hphase hbefore
    · exact fun hsecond => absurd (h.second hphase hsecond) (not_lt.mpr hopen)

lemma Inv.secondPolls (h : Inv p s) (hphase : s.phase = .opened) {ans : Answers}
    (hans : Kernel p.second s.second (s.time + p.secondClock) s.time p.delay s.toSecond ans) :
    Inv p (s.secondPolls p ans) := by
  have hclosed := tcpFront_closed (C := p.second) s.second (s.time + p.secondClock) ans
  have hcases : (s.secondPolls p ans).second.TimedOut →
      s.second.TimedOut ∨ 0 ≤ s.second.sockfd := by
    obtain ⟨m, hsent, hrecv⟩ := tcpFront_spec (C := p.second) s.second (s.time + p.secondClock) ans
    exact fun htimed => (hrecv.timedOut htimed).imp hsent.timedOut fun hnew =>
      open_of_stays hsent.closed hnew.1
  refine ⟨fun hawaited _ => ?_, fun _ hopen hopen' => ?_, fun htimed => ?_, fun _ htimed => ?_,
    fun _ htimed htimed' => ?_⟩
  · exact absurd (hphase.symm.trans hawaited) (by decide)
  · exact (h.alive hphase hopen (open_of_stays hclosed hopen')).secondPolls hans hopen'
  · exact (h.first htimed).imp_right fun ⟨hphase, hsecond⟩ => ⟨hphase, hclosed hsecond⟩
  · rcases hcases htimed with hbefore | hopen
    · exact h.second hphase hbefore
    by_contra hfirst
    have ha := h.alive hphase (not_lt.mp hfirst) hopen
    exact hfirst (h.second hphase (in_time_poll hans rfl rfl ha.upBeating ha.upHeard htimed))
  · rcases hcases htimed' with hbefore | hopen
    · exact h.notBoth hphase htimed hbefore
    rcases h.first htimed with hfailed | ⟨-, hsecond⟩
    · exact absurd (hphase.symm.trans hfailed) (by decide)
    · exact absurd hsecond (not_lt.mpr hopen)

lemma Inv.opens (h : Inv p s) (hphase : s.phase = .awaited) {fd : Int} (hfd : 0 ≤ fd) (ack : UInt32)
    (rs : List SendResult) : Inv p (s.opens p fd ack rs) := by
  obtain ⟨hnow, hsend, hrecv, htimed⟩ :=
    open_times (C := p.second) s.second hfd ack (s.time + p.secondClock) rs
  refine ⟨nofun, fun _ hopen _ => ?_, fun hfirst => ?_, fun _ hsecond => absurd hsecond htimed,
    fun _ _ => htimed⟩
  · have hw := h.waiting hphase hopen
    have hup : Beating p.up ((s.opens p fd ack rs).up p) := hw.beating.hears 0 _
    refine ⟨hup, hup.heard ?_, ?_, ?_⟩
    · show s.time ≤ (s.second.open p.second fd ack (s.time + p.secondClock) rs).1.recvTime -
        p.secondClock
      rw [hrecv, add_sub_cancel_right]
    · show Beating p.down (line _ _ _ _ _ (s.toFirst ++ _))
      rw [hw.empty, List.nil_append]
      exact beating_opened p.down hnow hsend
    · show Heard p.down (line _ _ _ _ _ (s.toFirst ++ _))
      rw [hw.empty, List.nil_append]
      exact heard_opened hnow hsend hw.le_heard
  · rcases h.first hfirst with hfailed | ⟨hopened, -⟩
    · exact absurd (hphase.symm.trans hfailed) (by decide)
    · exact absurd (hphase.symm.trans hopened) (by decide)

lemma Inv.waits (h : Inv p s) {d : Int} (hd : s.MayWait p d) :
    Inv p { s with time := s.time + d } := by
  refine ⟨fun hphase hopen => ?_, fun hphase hopen hopen' => ?_, h.first, h.second,
    h.notBoth⟩
  · have hw := h.waiting hphase hopen
    exact ⟨hw.beating.waits hd.nonneg (hd.first hopen), hw.empty,
      hw.le_time.trans (le_add_of_nonneg_right hd.nonneg), hw.since_le, hd.awaited hphase⟩
  · have ha := h.alive hphase hopen hopen'
    exact ⟨ha.upBeating.waits hd.nonneg (hd.first hopen), ha.upHeard.waits d,
      ha.downBeating.waits hd.nonneg (hd.second hphase hopen'), ha.downHeard.waits d⟩

lemma Step.inv (hstep : Step p s s') (h : Inv p s) : Inv p s' := by
  cases hstep with
  | firstCalls hcall => exact h.firstCalls hcall
  | secondCalls hphase hcall => exact h.secondCalls hphase hcall
  | firstPolls ans hans => exact h.firstPolls hans
  | secondPolls hphase ans hans => exact h.secondPolls hphase hans
  | opens hphase hfd ack rs => exact h.opens hphase hfd ack rs
  | fails hphase => exact ⟨nofun, nofun, fun _ => Or.inl rfl, nofun, nofun⟩
  | waits hd => exact h.waits hd

lemma Reaches.inv (h : Reaches p s) : Inv p s := by
  induction h with
  | init first second hfd ack since rs => exact .init first second hfd ack since rs
  | step _ hstep ih => exact hstep.inv ih

/-- Heartbeats work: a side that is closed for a timeout has lost the other side before, which has
never opened or was closed for another reason. -/
theorem Reaches.kept_alive (h : Reaches p s) :
    (s.first.TimedOut → s.phase = .failed ∨
      (s.phase = .opened ∧ s.second.sockfd < 0 ∧ ¬s.second.TimedOut)) ∧
    (s.phase = .opened → s.second.TimedOut → s.first.sockfd < 0 ∧ ¬s.first.TimedOut) := by
  have hinv := h.inv
  refine ⟨fun hfirst => ?_, fun hphase hsecond => ?_⟩
  · rcases hinv.first hfirst with hfailed | ⟨hphase, hclosed⟩
    · exact Or.inl hfailed
    · exact Or.inr ⟨hphase, hclosed, hinv.notBoth hphase hfirst⟩
  · exact ⟨hinv.second hphase hsecond, fun hfirst => hinv.notBoth hphase hfirst hsecond⟩

/-! ### A client that goes away -/

/-- Both sides with heartbeats after 10 and timeouts after 100. -/
def steady : Pace where
  first := .tiny ⟨true, true⟩
  second := .tiny ⟨true, true⟩
  firstClock := 1000
  secondClock := 0
  firstEvery := 60
  secondEvery := 60
  delay := 20
  lag := 10
  first_nonneg := by decide
  second_nonneg := by decide
  delay_nonneg := by decide
  lag_nonneg := by decide
  first_fits := by decide
  second_fits := by decide

/-- The kernel takes everything and has nothing to read. -/
def nothingRead : Answers := ⟨[.sent 8], .sent 8, .again⟩

lemma kernel_nothingRead (C : Conf) (c : PTCPConnection) (now time delay : Int) :
    Kernel C c now time delay [] nothingRead := by
  refine ⟨⟨_, rfl, rfl⟩, rfl, ?_, ?_, fun _ b hb => absurd hb List.not_mem_nil⟩
  · unfold TcpAdmissible
    split_ifs
    · trivial
    · exact fun _ => trivial
  · unfold PTCPConnection.tcpFront tcpRead frontRead
    simp only
    split_ifs <;> exact List.prefix_rfl

/-- The second side opens and is closed by its user at once. -/
def abandoned : Timed :=
  let s := init steady (.new steady.first) (.new steady.second) 5 0 0 []
  (s.opens steady 6 0 []).secondCalls [] (s.opens steady 6 0 []).second.requestClose

/-- Time passes until the first side is polled again. -/
def pollsLater (s : Timed) : Timed := { s with time := s.time + 60 }.firstPolls steady nothingRead

lemma reaches_pollsLater {s : Timed} (h : Reaches steady s) (hwait : s.MayWait steady 60)
    (hempty : s.toFirst = []) : Reaches steady s.pollsLater := by
  refine (h.step (.waits hwait)).step (.firstPolls nothingRead ?_)
  rw [hempty]
  exact kernel_nothingRead _ _ _ _ _

lemma reaches_abandoned : Reaches steady abandoned := by
  have hinit : Reaches steady
      (init steady (.new steady.first) (.new steady.second) 5 0 0 []) :=
    .init _ _ (by decide) 0 0 []
  exact (hinit.step (.opens rfl (by decide) 0 [])).step (.secondCalls rfl .close)

/-- The other side has a timeout in the end. -/
theorem Reaches.kept_alive_abandoned : abandoned.pollsLater.pollsLater.first.TimedOut ∧
    abandoned.pollsLater.pollsLater.second.sockfd < 0 := by
  have h₁ : Reaches steady abandoned.pollsLater :=
    reaches_pollsLater reaches_abandoned ⟨by decide, by decide +kernel, by decide +kernel, nofun⟩
      (by decide +kernel)
  have h₂ : Reaches steady abandoned.pollsLater.pollsLater :=
    reaches_pollsLater h₁ ⟨by decide, by decide +kernel, by decide +kernel, nofun⟩ (by decide +kernel)
  have htimed : abandoned.pollsLater.pollsLater.first.TimedOut := by decide +kernel
  refine ⟨htimed, ?_⟩
  rcases (Reaches.kept_alive h₂).1 htimed with hfailed | ⟨-, hclosed, -⟩
  · exact absurd hfailed (by decide +kernel)
  · exact hclosed

end Timed

end Tcpshm
