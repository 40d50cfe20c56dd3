import Tcpshm.Client.Transport
import Tcpshm.Shm.Reset

/-!
# Delivery over shared memory

What was pushed is delivered as long as a login constructs the queues anew only while nothing is on
the way. The first login of a client does it after the server has gone live.
-/

namespace Tcpshm

open TcpShmConnection (newShmq)
open SPSCVarQueue (Traffic)
open QueueFiles (SameShm NewShm)

variable {F : LoginFormat} {C Cs : Conf} {R : RingSize}

/-! ### One direction -/

namespace SPSCVarQueue.Traffic

variable {t t' : Traffic}

/-- Unbounded positions can be given to the indices of the queue. -/
def Valid (R : RingSize) (t : Traffic) : Prop := ∃ us rc r wa w, Inv R t us rc r wa w

lemma Valid.step (h : Valid R t) (hstep : Step R t t') : Valid R t' := by
  obtain ⟨us, rc, r, wa, w, hinv⟩ := h
  exact hstep.inv hinv

lemma Produces.step (h : Produces R t t') : Step R t t' := by
  cases h with
  | alloc size hsize => exact .alloc size hsize
  | fill hu msgType body hbody => exact .fill hu msgType body hbody
  | push hu => exact .push hu

lemma Consumes.step (h : Consumes R t t') : Step R t t' := by
  cases h with
  | front => exact .front
  | pop hp => exact .pop hp

/-- A new queue is as good as the old one while nothing is on the way. -/
lemma Valid.renew (h : Valid R t) (hquiet : t.Quiet) : Valid R { t with q := newShmq } := by
  obtain ⟨us, rc, r, wa, w, hinv⟩ := h
  obtain rfl : us = [] := hinv.unread_eq.symm.trans hquiet.unread
  have hnew := inv_init (R := R) fun _ => ⟨0, 0, 0⟩
  refine ⟨[], 0, 0, 0, 0, hnew.spans, fun u hu => ?_, fun p hp => ?_, hinv.pushed_eq⟩
  · have hpending : t.pending = none := hquiet.pending
    exact (nomatch hpending.symm.trans hu)
  · obtain ⟨u, hu, -⟩ := hinv.atFirst p hp
    cases hu

/-- What was pushed is popped once and in order; `Front` points at the next unread message, and
returns null only after the last one. -/
structure Delivers (R : RingSize) (t : Traffic) : Prop where
  popped : t.popped <+: t.pushed.map Placed.msg
  front : ∀ p ∈ (t.q.front R).2, ∃ u ∈ t.unread.head?, u.ptr = p ∧ t.q.msgAt p = u.msg
  drained : (t.q.front R).2 = none → t.popped = t.pushed.map Placed.msg
  spans : ∃ rc r wa w, Spans R t.q t.unread rc r wa w

lemma Valid.delivery (h : Valid R t) : Delivers R t := by
  obtain ⟨us, rc, r, wa, w, hinv⟩ := h
  have hunread := hinv.unread_eq
  have hmap := hinv.pushed_map
  obtain ⟨r', hspans, hfirst, hempty⟩ := hinv.spans.front
  refine ⟨⟨us.map Placed.msg, hmap.symm⟩, fun p hp => ?_, fun hnull => ?_, ?_⟩
  · obtain ⟨u, hu, hptr, hlies⟩ := hfirst p hp
    have hmsg : (t.q.front R).1.msgAt p = t.q.msgAt p := by
      unfold SPSCVarQueue.msgAt SPSCVarQueue.header
      rw [blk_front]
    rw [hunread]
    refine ⟨u, hu, hptr, ?_⟩
    rw [← hmsg, ← hptr, hlies.ptr_eq, hlies.msgAt_eq]
  · rw [hmap, hempty hnull, List.map_nil, List.append_nil]
  · rw [hunread]
    exact ⟨rc, r, wa, w, hinv.spans⟩

end SPSCVarQueue.Traffic

/-! ### The system -/

namespace ShmSystem

variable {serverName : Name F} {s s' : ShmSystem F} {d : Direction} {resets : Prop}

/-- What a step does to a direction. -/
inductive Moves (R : RingSize) (resets : Prop) (t t' : Traffic) : Prop where
  | stays (h : t' = t)
  | uses (h : Traffic.Step R t t')
  | renews (hresets : resets) (h : t' = { t with q := newShmq })

/-- The response comes from the server. -/
structure Inv (serverName : Name F) (s : ShmSystem F) : Prop where
  tidy : s.client.Tidy
  answer : ∀ {header : MsgHeader} {msg : LoginMsg F} {rspHeader : MsgHeader} {rsp : LoginRspMsg F},
    s.stage = .answered header msg rspHeader rsp → rsp.serverName = serverName

lemma storeClient_same {cl : Client F} (h : SameShm ((s.clientView serverName).queueFiles serverName)
    (cl.queueFiles serverName)) (d : Direction) :
    (s.storeClient serverName cl).traffic d = s.traffic d := by
  obtain ⟨hsend, hrecv⟩ := s.client.queueFiles_view serverName s.toServer.q s.toClient.q
  cases d with
  | toClient =>
    show { s.toClient with q := (cl.queueFiles serverName).shmRecv } = s.toClient
    rw [h.shmRecv.trans hrecv]
  | toServer =>
    show { s.toServer with q := (cl.queueFiles serverName).shmSend } = s.toServer
    rw [h.shmSend.trans hsend]

lemma storeClient_new {cl : Client F} (h : NewShm (cl.queueFiles serverName)) (d : Direction) :
    (s.storeClient serverName cl).traffic d = { s.traffic d with q := newShmq } := by
  cases d with
  | toClient =>
    show { s.toClient with q := (cl.queueFiles serverName).shmRecv } = _
    rw [h.shmRecv]
    rfl
  | toServer =>
    show { s.toServer with q := (cl.queueFiles serverName).shmSend } = _
    rw [h.shmSend]
    rfl

lemma storeServer_same {c : TcpShmConnection F} {ptcp : PTCPQueue}
    (h : SameShm (s.serverView.contents (s.serverFiles ptcp)) (c.contents (s.serverFiles ptcp)))
    (d : Direction) : (s.storeServer c).traffic d = s.traffic d := by
  have hview := s.server.contents_view (s.serverFiles ptcp)
  cases d with
  | toClient =>
    show { s.toClient with q := (c.contents (s.serverFiles ptcp)).shmSend } = s.toClient
    rw [h.shmSend.trans hview.shmSend]
    rfl
  | toServer =>
    show { s.toServer with q := (c.contents (s.serverFiles ptcp)).shmRecv } = s.toServer
    rw [h.shmRecv.trans hview.shmRecv]
    rfl

lemma storeServer_new {c : TcpShmConnection F} {ptcp : PTCPQueue}
    (h : NewShm (c.contents (s.serverFiles ptcp))) (d : Direction) :
    (s.storeServer c).traffic d = { s.traffic d with q := newShmq } := by
  cases d with
  | toClient =>
    show { s.toClient with q := (c.contents (s.serverFiles ptcp)).shmSend } = _
    rw [h.shmSend]
    rfl
  | toServer =>
    show { s.toServer with q := (c.contents (s.serverFiles ptcp)).shmRecv } = _
    rw [h.shmRecv]
    rfl

/-- A step of the system is at most a step of either queue, unless it makes both of them new. -/
theorem Step.moves (hinv : Inv serverName s) (h : Step C Cs R serverName resets s s')
    (d : Direction) : Moves R resets (s.traffic d) (s'.traffic d) := by
  have hview : (s.clientView serverName).Tidy := hinv.tidy.view _ _ _
  cases h with
  | @connect _ env hshm hidle => exact .stays (storeClient_same (hview.prepare env serverName).2 d)
  | @handle _ header h msg m fd now env out hstage hlive hreceived hshm hmatched =>
    obtain hsame | ⟨hname, hopen, hnew⟩ := TcpShmConnection.handleMatched_contents hshm hmatched
    · exact .stays (storeServer_same hsame d)
    · exact .renews ⟨hname, hopen⟩ (storeServer_new hnew d)
  | refuse hstage errorMsg => cases d <;> exact .stays rfl
  | @respond _ header rspHeader msg rsp env fd hshm hstage =>
    have hrsp := hview.respond (C := C) hshm header msg fd
      (rspHeader.carry Cs.endian.isLittle C.endian.isLittle)
      (rsp.carry Cs.endian.isLittle C.endian.isLittle)
    have hanswer := hinv.answer hstage
    have hname : (rsp.carry Cs.endian.isLittle C.endian.isLittle).serverName = serverName := hanswer
    rw [hname] at hrsp
    obtain ⟨-, hsame | ⟨hnewName, hopen, hnew⟩⟩ := hrsp
    · exact .stays (storeClient_same hsame d)
    · have hopen' : (((s.clientView serverName).rename rsp.serverName).openFile env.useShm
          env.newErrs).2 = none := hanswer.symm ▸ hopen
      exact .renews ⟨⟨hnewName.size, hnewName.msgType, hnewName.named, hnewName.status,
        hnewName.other⟩, hopen'⟩ (storeClient_new hnew d)
  | giveUp => cases d <;> exact .stays rfl
  | pollTcp now rs hb res => cases d <;> exact .stays rfl
  | tcpFront now rs hb res => cases d <;> exact .stays rfl
  | disconnect h => cases d <;> exact .stays rfl
  | clientSends hname hmapped h =>
    cases d with
    | toClient => exact .stays rfl
    | toServer => exact .uses h.step
  | clientReceives hname hmapped h =>
    cases d with
    | toClient => exact .uses h.step
    | toServer => exact .stays rfl
  | serverSends hmapped h =>
    cases d with
    | toClient => exact .uses h.step
    | toServer => exact .stays rfl
  | serverReceives hmapped h =>
    cases d with
    | toClient => exact .stays rfl
    | toServer => exact .uses h.step

lemma Inv.of_tidy {cl : Client F} {live : Bool} {server : TcpShmConnection F}
    {toClient toServer : Traffic} (h : cl.Tidy) :
    Inv serverName ⟨cl, server, live, .idle, toClient, toServer⟩ := ⟨h, (nomatch ·)⟩

lemma Step.inv (hinv : Inv serverName s) (h : Step C Cs R serverName resets s s') :
    Inv serverName s' := by
  have hview : (s.clientView serverName).Tidy := hinv.tidy.view _ _ _
  cases h with
  | @connect _ env hshm hidle =>
    refine ⟨(hview.prepare (C := C) env serverName).1, fun {header msg rspHeader rsp} hstage => ?_⟩
    simp only [ShmSystem.connect] at hstage
    split at hstage
    · cases hstage
    · cases hstage
  | @handle _ header h msg m fd now env out hstage hlive hreceived hshm hmatched =>
    refine ⟨hinv.tidy, fun {header' msg' rspHeader rsp} hanswered => ?_⟩
    unfold afterHandle at hanswered
    split_ifs at hanswered
    cases hanswered
    exact Server.handleMatched_serverName hmatched
  | refuse hstage errorMsg =>
    refine ⟨hinv.tidy, fun hanswered => ?_⟩
    cases hanswered
    rfl
  | @respond _ header rspHeader msg rsp env fd hshm hstage =>
    exact .of_tidy (hview.respond hshm _ _ _ _ _).1
  | giveUp => exact .of_tidy hinv.tidy
  | pollTcp now rs hb res =>
    obtain ⟨-, hremote, hserver, hsend, hrecv⟩ := (Client.Use.pollTcp (C := C) (R := R) s.client now
      rs hb res).keeps
    refine ⟨⟨fun n hn => hremote.trans (hinv.tidy.named n (hserver ▸ hn)), fun hnone => ?_,
      fun hnone => ?_⟩, hinv.answer⟩
    · rw [hinv.tidy.shmSendq (hserver ▸ hnone)] at hsend
      exact Option.not_isSome_iff_eq_none.mp (Bool.not_eq_true _ ▸ hsend)
    · rw [hinv.tidy.shmRecvq (hserver ▸ hnone)] at hrecv
      exact Option.not_isSome_iff_eq_none.mp (Bool.not_eq_true _ ▸ hrecv)
  | tcpFront now rs hb res => exact ⟨hinv.tidy, hinv.answer⟩
  | disconnect h => exact ⟨hinv.tidy, hinv.answer⟩
  | clientSends hname hmapped h => exact ⟨hinv.tidy, hinv.answer⟩
  | clientReceives hname hmapped h => exact ⟨hinv.tidy, hinv.answer⟩
  | serverSends hmapped h => exact ⟨hinv.tidy, hinv.answer⟩
  | serverReceives hmapped h => exact ⟨hinv.tidy, hinv.answer⟩

lemma Moves.valid {t t' : Traffic} (h : Moves R resets t t') (hvalid : t.Valid R)
    (hquiet : resets → t.Quiet) : t'.Valid R := by
  cases h with
  | stays h => exact h ▸ hvalid
  | uses h => exact hvalid.step h
  | renews hresets h => exact h ▸ hvalid.renew (hquiet hresets)

theorem Reaches.valid (h : Reaches C Cs R serverName d s) :
    Inv serverName s ∧ (s.traffic d).Valid R := by
  obtain ⟨clientName, disk, blk, blk', hrun⟩ := h
  induction hrun with
  | refl =>
    refine ⟨.of_tidy ⟨fun n hn => (nomatch hn), fun _ => rfl, fun _ => rfl⟩, ?_⟩
    cases d with
    | toClient => exact ⟨[], 0, 0, 0, 0, Traffic.inv_init blk⟩
    | toServer => exact ⟨[], 0, 0, 0, 0, Traffic.inv_init blk'⟩
  | tail _ hstep ih =>
    obtain ⟨hinv, hvalid⟩ := ih
    obtain ⟨resets, hstep, hquiet⟩ := hstep
    exact ⟨hstep.inv hinv, (hstep.moves hinv d).valid hvalid hquiet⟩

/-- Where the queues are constructed anew only while nothing is on the way in a direction, its
messages are delivered, whatever the two processes do in between. -/
theorem Reaches.delivers (h : Reaches C Cs R serverName d s) : (s.traffic d).Delivers R :=
  h.valid.2.delivery

/-! ### The first login of a client -/

/-- Nobody has logged on yet. -/
def fresh : ShmSystem shortNames :=
  .init (hostConf true) (hostConf true) serverS clientC Client.newDisk (fun _ => ⟨0, 0, 0⟩)
    fun _ => ⟨0, 0, 0⟩

/-- The client sends its login. -/
def connected (s : ShmSystem shortNames) : ShmSystem shortNames :=
  s.connect (hostConf true) serverS (Client.acceptedEnv true)

/-- The server handles the login that it has got. -/
def handled (s : ShmSystem shortNames) : Option (ShmSystem shortNames) :=
  match s.stage with
  | .asking header msg =>
    (receiveLogin (hostConf true) (header.carry true true) (msg.carry true true)).bind fun (h, m) =>
      if m.useShm then
        (s.serverView.handleMatched (hostConf true) serverS h m 5 0
          (s.handleEnv Server.smallEnv)).map (s.afterHandle header msg)
      else none
  | _ => none

/-- The client gets the response. -/
def completed (s : ShmSystem shortNames) : ShmSystem shortNames :=
  match s.stage with
  | .answered header msg rspHeader rsp =>
    { s.storeClient serverS (s.response (hostConf true) (hostConf true) serverS
        (Client.acceptedEnv true) header msg 6 rspHeader rsp).1 with stage := .idle }
  | _ => s

/-- The server sends a message without a body. -/
def serverPushes (s : ShmSystem shortNames) : ShmSystem shortNames :=
  let R : RingSize := ⟨128, by decide⟩
  { s with toClient := (s.toClient.alloc R 8).push R ⟨0, ⟨16, 0, [⟨0, 0, 0⟩]⟩⟩ }

/-- The system after the login of the client, on the server's side. -/
def serving : ShmSystem shortNames := fresh.connected.handled.getD fresh

lemma handled_step {s s' : ShmSystem shortNames} (hlive : s.live = false)
    (h : s.handled = some s') :
    ∃ resets, Step (hostConf true) (hostConf true) R serverS resets s s' := by
  unfold handled at h
  cases hstage : s.stage with
  | asking header msg =>
    rw [hstage] at h
    obtain ⟨⟨h₁, m⟩, hreceived, hmap⟩ := Option.bind_eq_some_iff.mp h
    dsimp only at hmap
    split_ifs at hmap with hshm
    obtain ⟨out, hmatched, rfl⟩ := Option.map_eq_some_iff.mp hmap
    exact ⟨_, .handle hstage hlive hreceived hshm hmatched⟩
  | idle =>
    rw [hstage] at h
    cases h
  | answered header msg rspHeader rsp =>
    rw [hstage] at h
    cases h

lemma completed_step {s : ShmSystem shortNames}
    (h : ∃ header msg rspHeader rsp, s.stage = .answered header msg rspHeader rsp) :
    ∃ resets, Step (hostConf true) (hostConf true) R serverS resets s s.completed := by
  obtain ⟨header, msg, rspHeader, rsp, hstage⟩ := h
  unfold completed
  rw [hstage]
  exact ⟨_, .respond 6 rfl hstage⟩

lemma serverPushes_steps {s : ShmSystem shortNames} (hmapped : s.server.sendsOn = .shm)
    (hpending : (s.toClient.alloc ⟨128, by decide⟩ 8).pending =
      some ⟨0, ⟨16, 0, [⟨0, 0, 0⟩]⟩⟩) :
    ∃ s₁, Step (hostConf true) (hostConf true) ⟨128, by decide⟩ serverS False s s₁ ∧
      Step (hostConf true) (hostConf true) ⟨128, by decide⟩ serverS False s₁ s.serverPushes :=
  ⟨_, .serverSends hmapped (.alloc 8 (by decide)), .serverSends hmapped (.push hpending)⟩

lemma serving_run : ∃ resets,
    Step (hostConf true) (hostConf true) R serverS False fresh fresh.connected ∧
      Step (hostConf true) (hostConf true) R serverS resets fresh.connected serving := by
  have hsome : fresh.connected.handled.isSome = true := by decide +kernel
  obtain ⟨s', hs'⟩ := Option.isSome_iff_exists.mp hsome
  have hserving : serving = s' := by rw [serving, hs', Option.getD_some]
  obtain ⟨resets, hstep⟩ := handled_step (R := R) (by decide +kernel) hs'
  exact ⟨resets, .connect rfl rfl, hserving ▸ hstep⟩

/-- The server pushes after the client has got the response. -/
theorem Reaches.delivers_after_response :
    serving.completed.serverPushes.toClient.Delivers ⟨128, by decide⟩ := by
  obtain ⟨r₁, hconnect, hhandle⟩ := serving_run (R := ⟨128, by decide⟩)
  obtain ⟨r₂, hrespond⟩ := completed_step (R := ⟨128, by decide⟩) (s := serving)
    ⟨_, _, _, _, rfl⟩
  obtain ⟨s₁, halloc, hpush⟩ := serverPushes_steps (s := serving.completed) (by decide +kernel)
    (by decide +kernel)
  have hquiet : fresh.connected.toClient.Quiet ∧ serving.toClient.Quiet := ⟨⟨rfl, rfl⟩, ⟨rfl, rfl⟩⟩
  exact Reaches.delivers (d := .toClient) ⟨clientC, Client.newDisk, _, _,
    ((((Relation.ReflTransGen.single ⟨_, hconnect, False.elim⟩).tail
      ⟨r₁, hhandle, fun _ => hquiet.1⟩).tail ⟨r₂, hrespond, fun _ => hquiet.2⟩).tail
      ⟨_, halloc, False.elim⟩).tail ⟨_, hpush, False.elim⟩⟩

/-- The server pushes as soon as it has gone live, and then the client resets the queue. -/
theorem first_login_wipes :
    Runs (hostConf true) (hostConf true) ⟨128, by decide⟩ serverS fresh serving ∧
    serving.live = true ∧
    Runs (hostConf true) (hostConf true) ⟨128, by decide⟩ serverS serving serving.serverPushes ∧
    serving.serverPushes.toClient.pushed = [⟨0, ⟨16, 0, [⟨0, 0, 0⟩]⟩⟩] ∧
    Runs (hostConf true) (hostConf true) ⟨128, by decide⟩ serverS serving.serverPushes
      serving.serverPushes.completed ∧
    serving.serverPushes.completed.toClient.q = newShmq ∧
    ¬serving.serverPushes.completed.toClient.Delivers ⟨128, by decide⟩ := by
  obtain ⟨r₁, hconnect, hhandle⟩ := serving_run (R := ⟨128, by decide⟩)
  obtain ⟨r₂, hrespond⟩ := completed_step (R := ⟨128, by decide⟩) (s := serving.serverPushes)
    ⟨_, _, _, _, rfl⟩
  obtain ⟨s₁, halloc, hpush⟩ := serverPushes_steps (s := serving) (by decide +kernel)
    (by decide +kernel)
  refine ⟨(Relation.ReflTransGen.single ⟨_, hconnect⟩).tail ⟨r₁, hhandle⟩, by decide +kernel,
    (Relation.ReflTransGen.single ⟨_, halloc⟩).tail ⟨_, hpush⟩, rfl, .single ⟨r₂, hrespond⟩, rfl,
    fun hdelivers => ?_⟩
  have hpopped := hdelivers.drained (by decide +kernel)
  exact absurd hpopped (by decide +kernel)

end ShmSystem

end Tcpshm
