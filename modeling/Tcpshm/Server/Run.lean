import Mathlib.Logic.Relation
import Tcpshm.Server.Slots

/-!
# Runs of the server

The steps that `PollCtl` is made of, the calls of the user and `Start`, in any order, and between
them `Stop`.
-/

namespace Tcpshm

/-- The callback about connection `c`: `true` for a logon and `false` for a disconnect. -/
def ServerEvent.ofConn (c : Nat) : ServerEvent → Option Bool
  | .clientLogon d => if d = c then some true else none
  | .clientDisconnected d _ _ => if d = c then some false else none
  | _ => none

namespace Server

variable {F : LoginFormat}

/-- The logons and disconnects of connection `c`. -/
def callbacks (S : Server F) (c : Nat) : List Bool := S.log.filterMap (ServerEvent.ofConn c)

section Step

variable (C : Conf) (R : RingSize) (K : ServerConf)

/-- A step of the control thread: a part of `PollCtl`, a call of the user on a connection, also from
within a callback, or `Start`. -/
inductive Step : Server F → Server F → Prop where
  | start (S : Server F) (fd : Int) : Step S (S.start fd)
  | accept (S : Server F) (accepted now : Int) : Step S (S.accept K accepted now)
  | visit {S S' : Server F} {i : Nat} {now : Int} {recv : LoginRecv F} {env : HandleEnv}
      (hi : i < K.maxNewConnections) (h : S.visit C K i now recv env = some S') : Step S S'
  | turn (S : Server F) {gid : GroupId} {i : Nat} (now : Int) (polls : Nat → Poll)
      (hg : gid ∈ K.groupIds) (hi : i < (S.grps gid).liveCnt) :
      Step S (S.turn C gid i now polls).1
  | call (S : Server F) (c : Nat) (e : TcpShmConnection.Call) :
      Step S (S.setConn c (e.run C R (S.pool c)))

/-- A run without `Stop`. -/
def Steps : Server F → Server F → Prop := Relation.ReflTransGen (Step C R K)

/-- A run. -/
def Reaches : Server F → Server F → Prop :=
  Relation.ReflTransGen fun S S' => Step C R K S S' ∨ S' = S.stop K

end Step

variable {C : Conf} {R : RingSize} {K : ServerConf} {S S' S'' : Server F} {gid : GroupId}
  {i c : Nat}

/-! ### What a step changes -/

/-- The remote names of the pool. -/
def names (S : Server F) (c : Nat) : Name F := (S.pool c).remoteName

/-- Neither the slots change nor what the server owes to the callbacks. -/
structure Quiet (S S' : Server F) : Prop where
  grps : S'.grps = S.grps
  names : S'.names = S.names
  fdToClose : ∀ c, (S'.pool c).ptcpConn.fdToClose = (S.pool c).ptcpConn.fdToClose
  callbacks : S'.callbacks = S.callbacks

/-- Group `gid` becomes `grp`, and the callback `b` about connection `c` is fired. -/
structure Fires (gid : GroupId) (grp : ConnectionGroup) (c : Nat) (b : Bool) (S S' : Server F) :
    Prop where
  grps : S'.grps = Function.update S.grps gid grp
  names : S'.names = S.names
  fdToClose : ∀ d ≠ c, (S'.pool d).ptcpConn.fdToClose = (S.pool d).ptcpConn.fdToClose
  self : S'.callbacks c = S.callbacks c ++ [b]
  other : ∀ d ≠ c, S'.callbacks d = S.callbacks d

lemma Quiet.trans (h : Quiet S S') (h' : Quiet S' S'') : Quiet S S'' :=
  ⟨h'.grps.trans h.grps, h'.names.trans h.names, fun c => (h'.fdToClose c).trans (h.fdToClose c),
    h'.callbacks.trans h.callbacks⟩

lemma Fires.trans_quiet {grp : ConnectionGroup} {b : Bool} (h : Fires gid grp c b S S')
    (h' : Quiet S' S'') : Fires gid grp c b S S'' :=
  ⟨h'.grps.trans h.grps, h'.names.trans h.names,
    fun d hd => (h'.fdToClose d).trans (h.fdToClose d hd), by rw [h'.callbacks, h.self],
    fun d hd => by rw [h'.callbacks, h.other d hd]⟩

lemma SameTables.quiet (h : SameTables S S') : Quiet S S' := by
  refine ⟨h.grps, ?_, fun c => by rw [h.pool], ?_⟩
  · funext c
    rw [names, names, h.pool]
  · funext c
    rw [callbacks, callbacks, h.log]

lemma setConn_self (S : Server F) (c : Nat) (conn : TcpShmConnection F) :
    (S.setConn c conn).pool c = conn := by
  unfold setConn
  exact Function.update_self ..

lemma names_setConn {conn : TcpShmConnection F} (h : conn.remoteName = (S.pool c).remoteName) :
    (S.setConn c conn).names = S.names := by
  funext d
  show (Function.update S.pool c conn d).remoteName = (S.pool d).remoteName
  by_cases hd : d = c
  · rw [hd, Function.update_self, h]
  · rw [Function.update_of_ne hd]

lemma Quiet.setConn {conn : TcpShmConnection F} (hname : conn.remoteName = (S.pool c).remoteName)
    (hfd : conn.ptcpConn.fdToClose = (S.pool c).ptcpConn.fdToClose) :
    Quiet S (S.setConn c conn) := by
  refine ⟨rfl, names_setConn hname, fun d => ?_, rfl⟩
  show (Function.update S.pool c conn d).ptcpConn.fdToClose = _
  by_cases hd : d = c
  · rw [hd, Function.update_self, hfd]
  · rw [Function.update_of_ne hd]

lemma Fires.of_setConn {grp : ConnectionGroup} {b : Bool} {conn : TcpShmConnection F}
    (hname : conn.remoteName = (S.pool c).remoteName)
    (h : Fires gid grp c b (S.setConn c conn) S') : Fires gid grp c b S S' := by
  refine ⟨h.grps, h.names.trans (names_setConn hname), fun d hd => ?_, h.self, h.other⟩
  rw [h.fdToClose d hd]
  show (Function.update S.pool c conn d).ptcpConn.fdToClose = _
  rw [Function.update_of_ne hd]

lemma Quiet.of_keeps {conn : TcpShmConnection F} (h : (S.pool c).Keeps conn) :
    Quiet S (S.setConn c conn) := .setConn h.remoteName h.ptcpConn.fdToClose

lemma callbacks_logs (S : Server F) (e : ServerEvent) (c : Nat) :
    (S.logs e).callbacks c = S.callbacks c ++ (e.ofConn c).toList := by
  unfold callbacks logs
  rw [List.filterMap_append]
  cases h : e.ofConn c <;> simp [h]

lemma Quiet.logs {e : ServerEvent} (h : ∀ c, e.ofConn c = none) : Quiet S (S.logs e) := by
  refine ⟨rfl, rfl, fun _ => rfl, ?_⟩
  funext c
  rw [callbacks_logs, h c, Option.toList_none, List.append_nil]

lemma callbacks_setGrp (S : Server F) (gid : GroupId) (grp : ConnectionGroup) :
    (S.setGrp gid grp).callbacks = S.callbacks := rfl

/-! ### Logins -/

lemma fire_quiet {ev : LoginEvent} (hev : ev ≠ .clientLogon) : Quiet S (S.fire gid i c ev) := by
  cases ev with
  | clientFileError errorMsg => exact .logs fun _ => rfl
  | seqNumberMismatch n => exact .logs fun _ => rfl
  | sendFailed => exact ⟨rfl, rfl, fun _ => rfl, rfl⟩
  | clientLogon => exact absurd rfl hev

lemma fire_clientLogon (S : Server F) (gid : GroupId) (i c : Nat) :
    Fires gid ((S.grps gid).goLive i) c true S (S.fire gid i c .clientLogon) := by
  refine ⟨rfl, rfl, fun _ _ => rfl, ?_, fun d hd => ?_⟩
  · show ((S.setGrp gid _).logs _).callbacks c = _
    rw [callbacks_logs, callbacks_setGrp, ServerEvent.ofConn, if_pos rfl, Option.toList_some]
  · show ((S.setGrp gid _).logs _).callbacks d = _
    rw [callbacks_logs, callbacks_setGrp, ServerEvent.ofConn, if_neg (Ne.symm hd),
      Option.toList_none, List.append_nil]

/-- What a step does to the tables: nothing; a slot is taken, for good or for a connection that then
is live; or a live connection is removed. -/
inductive Change (K : ServerConf) (S S' : Server F) : Prop where
  | quiet (h : Quiet S S')
  | taken {gid : GroupId} {i c : Nat} {name : Name F} (hg : gid ∈ K.groupIds)
      (hname : name.isEmpty = false) (hfind : S.Finds gid name i c)
      (h : Quiet (S.claim c name) S')
  | logon {gid : GroupId} {i c : Nat} {name : Name F} (hg : gid ∈ K.groupIds)
      (hname : name.isEmpty = false) (hfind : S.Finds gid name i c)
      (hi : (S.grps gid).liveCnt ≤ i) (hfd : 0 ≤ (S'.pool c).ptcpConn.fdToClose)
      (h : Fires gid ((S.grps gid).goLive i) c true (S.claim c name) S')
  | removed {gid : GroupId} {i c : Nat} (hg : gid ∈ K.groupIds)
      (hc : (S.grps gid).conns[i]? = some c) (hi : i < (S.grps gid).liveCnt)
      (h : Fires gid ((S.grps gid).drop i) c false S S')

@[simp] lemma claim_grps (S : Server F) (c : Nat) (name : Name F) :
    (S.claim c name).grps = S.grps := by
  unfold claim
  split_ifs <;> rfl

@[simp] lemma claim_callbacks (S : Server F) (c : Nat) (name : Name F) :
    (S.claim c name).callbacks = S.callbacks := by
  unfold claim
  split_ifs <;> rfl

lemma claim_fdToClose (S : Server F) (c d : Nat) (name : Name F) :
    ((S.claim c name).pool d).ptcpConn.fdToClose = (S.pool d).ptcpConn.fdToClose := by
  unfold claim setConn
  split_ifs
  · simp only
    by_cases hd : d = c
    · rw [hd, Function.update_self]
    · rw [Function.update_of_ne hd]
  · rfl

lemma open_fdToClose (conn : TcpShmConnection F) (fd : Int) (remoteAckSeq : UInt32) (now : Int)
    (rs : List SendResult) :
    (conn.open C fd remoteAckSeq now rs).1.ptcpConn.fdToClose = fd := by
  have hsent := PTCPConnection.KeepsFd.sendPending (C := C)
    (conn.ptcpConn.openAck C fd remoteAckSeq now) rs
  show (((conn.ptcpConn.openAck C fd remoteAckSeq now).sendPending C rs).1.openBuf C).fdToClose = fd
  unfold PTCPConnection.openBuf
  split_ifs
  · exact hsent.fdToClose
  · exact hsent.fdToClose

lemma Change.of_visit {now : Int} {recv : LoginRecv F} {env : HandleEnv}
    (h : S.visit C K i now recv env = some S') : Change K S S' := by
  obtain ⟨-, rfl⟩ | ⟨hfd, rfl | rfl | ⟨header, login, out, hout, hfree⟩⟩ := visit_cases h
  · exact .quiet ⟨rfl, rfl, fun _ => rfl, rfl⟩
  · exact .quiet ⟨rfl, rfl, fun _ => rfl, rfl⟩
  · exact .quiet (SameTables.freeNewConn S i).quiet
  have hsame : SameTables out.server S' := hfree ▸ .freeNewConn out.server i
  obtain ⟨-, -, hserver⟩ | ⟨j, c, hg, hrefused, hfind, hslot⟩ := handleLogin_cases hout
  · rw [hserver] at hsame
    exact .quiet hsame.quiet
  have hname := named_of_not_refused hrefused
  obtain ⟨-, -, hserver⟩ | ⟨hj, m, hm, -, hserver⟩ := hslot
  · rw [hserver] at hsame
    exact .taken hg hname hfind hsame.quiet
  rw [hserver] at hsame
  obtain ⟨hev, hconn⟩ | ⟨hev, -, remoteAckSeq, hconn⟩ :=
    TcpShmConnection.handleMatched_cases hm
  · have hset : Quiet (S.claim c login.clientName) ((S.claim c login.clientName).setConn c m.conn) :=
      .setConn (by rw [hconn, TcpShmConnection.prepare_remoteName])
        (by rw [hconn, TcpShmConnection.prepare_fdToClose])
    exact .taken hg hname hfind ((hset.trans (fire_quiet hev)).trans hsame.quiet)
  · rw [hev] at hsame
    have hfire := fire_clientLogon ((S.claim c login.clientName).setConn c m.conn)
      (env.group login) j c
    have hgrps : ((S.claim c login.clientName).setConn c m.conn).grps = S.grps :=
      claim_grps S c login.clientName
    rw [hgrps] at hfire
    have hsame_name : m.conn.remoteName = ((S.claim c login.clientName).pool c).remoteName := by
      rw [hconn]
      exact TcpShmConnection.prepare_remoteName _
    refine .logon hg hname hfind hj ?_ (.of_setConn hsame_name (hfire.trans_quiet hsame.quiet))
    rw [hsame.pool]
    show 0 ≤ (((S.claim c login.clientName).setConn c m.conn).pool c).ptcpConn.fdToClose
    rw [setConn_self, hconn, open_fdToClose]
    exact hfd

/-! ### The loop over the live connections -/

lemma pollConn_keeps (S : Server F) (gid : GroupId) (now : Int) (polls : Nat → Poll) (c : Nat) :
    (S.pool c).Keeps (S.pollConn C gid now polls c) := by
  unfold pollConn
  split_ifs
  · exact .tcpFront _ now _ _ _
  · exact .refl _

/-- A turn keeps the connection or removes it. -/
lemma turn_cases (hc : (S.grps gid).conns[i]? = some c) (now : Int) (polls : Nat → Poll) :
    ((S.pollConn C gid now polls c).tryCloseFd.2 = false ∧
        S.turn C gid i now polls = (S.setConn c (S.pollConn C gid now polls c), false)) ∨
      ((S.pollConn C gid now polls c).tryCloseFd.2 = true ∧
        S.turn C gid i now polls =
          ((S.setConn c (S.pollConn C gid now polls c).tryCloseFd.1).disconnect gid i c, true)) := by
  have hget := ConnectionGroup.getD_conns hc
  unfold turn
  rw [hget]
  simp only
  split_ifs with hclosed
  · exact Or.inr ⟨hclosed, rfl⟩
  · refine Or.inl ⟨Bool.not_eq_true _ ▸ hclosed, ?_⟩
    have hsame : (S.pollConn C gid now polls c).tryCloseFd.1 = S.pollConn C gid now polls c := by
      unfold TcpShmConnection.tryCloseFd PTCPConnection.tryCloseFd at hclosed ⊢
      split_ifs at hclosed ⊢ with hfd
      · exact absurd rfl hclosed
      · rfl
    rw [hsame]

lemma disconnect_fires (S : Server F) (gid : GroupId) (i c : Nat) :
    Fires gid ((S.grps gid).drop i) c false S (S.disconnect gid i c) := by
  refine ⟨rfl, rfl, fun _ _ => rfl, ?_, fun d hd => ?_⟩
  · show (S.logs _).callbacks c = _
    rw [callbacks_logs, ServerEvent.ofConn, if_pos rfl, Option.toList_some]
  · show (S.logs _).callbacks d = _
    rw [callbacks_logs, ServerEvent.ofConn, if_neg (Ne.symm hd), Option.toList_none,
      List.append_nil]

lemma Change.of_turn (hg : gid ∈ K.groupIds) (hi : i < (S.grps gid).liveCnt)
    (hc : (S.grps gid).conns[i]? = some c) (now : Int) (polls : Nat → Poll) :
    Change K S (S.turn C gid i now polls).1 := by
  have hkeeps := pollConn_keeps (C := C) S gid now polls c
  obtain ⟨-, hturn⟩ | ⟨-, hturn⟩ := turn_cases (C := C) hc now polls
  · rw [hturn]
    exact .quiet (.of_keeps hkeeps)
  · rw [hturn]
    have hname : (S.pollConn C gid now polls c).tryCloseFd.1.remoteName = (S.pool c).remoteName :=
      hkeeps.remoteName
    have hfires := disconnect_fires (S.setConn c (S.pollConn C gid now polls c).tryCloseFd.1) gid i c
    have hgrps : (S.setConn c (S.pollConn C gid now polls c).tryCloseFd.1).grps = S.grps := rfl
    rw [hgrps] at hfires
    exact .removed hg hc hi (.of_setConn hname hfires)

/-! ### The invariant -/

/-- A connection logs on and off in turn, and first it logs on. -/
def Alternates (bs : List Bool) : Prop := ∀ k b, bs[k]? = some b → (b = true ↔ k % 2 = 0)

lemma Alternates.append {bs : List Bool} {b : Bool} (h : Alternates bs)
    (hb : b = true ↔ bs.length % 2 = 0) : Alternates (bs ++ [b]) := by
  intro k b' hk
  rcases lt_trichotomy k bs.length with hlt | rfl | hgt
  · rw [List.getElem?_append_left hlt] at hk
    exact h k b' hk
  · rw [List.getElem?_concat_length] at hk
    rw [← Option.some.inj hk, hb]
  · rw [List.getElem?_eq_none (by rw [List.length_append]; exact hgt)] at hk
    exact absurd hk (Option.some_ne_none b').symm

/-- The connection is live. -/
def IsLive (K : ServerConf) (S : Server F) (c : Nat) : Prop :=
  ∃ gid ∈ K.groupIds, c ∈ (S.grps gid).live

structure Inv (K : ServerConf) (S : Server F) : Prop where
  slots : ∀ gid ∈ K.groupIds, Slots (K.slice gid) (S.grps gid) S.names
  fdToClose : ∀ c, S.IsLive K c → 0 ≤ (S.pool c).ptcpConn.fdToClose
  alternate : ∀ c, Alternates (S.callbacks c)
  odd_iff : ∀ c, (S.callbacks c).length % 2 = 1 ↔ S.IsLive K c

namespace Inv

lemma new (C : Conf) (K : ServerConf) (serverName : Name F) :
    Inv K (Server.new C K serverName) := by
  have hlive : ∀ c, ¬(Server.new C K serverName).IsLive K c := by
    rintro c ⟨gid, -, hc⟩
    simp [ConnectionGroup.live, Server.new] at hc
  refine ⟨fun gid hg => ⟨.refl _, Nat.zero_le _, ⟨0, le_refl 0, fun i c _ => ?_⟩, fun c _ d _ hc => ?_⟩,
    fun c hc => absurd hc (hlive c), fun c k b hk => ?_, fun c => ?_⟩
  · exact ⟨fun h => Bool.noConfusion h, fun h => absurd h (Nat.not_lt_zero i)⟩
  · exact Bool.noConfusion hc
  · simp [callbacks, Server.new] at hk
  · exact ⟨fun h => absurd h Nat.zero_ne_one, fun h => absurd h (hlive c)⟩

lemma quiet (hinv : Inv K S) (h : Quiet S S') : Inv K S' := by
  have hlive : ∀ c, S'.IsLive K c ↔ S.IsLive K c := by
    intro c
    rw [IsLive, IsLive, h.grps]
  refine ⟨?_, fun c hc => ?_, ?_, fun c => ?_⟩
  · rw [h.grps, h.names]
    exact hinv.slots
  · rw [h.fdToClose]
    exact hinv.fdToClose c ((hlive c).mp hc)
  · rw [h.callbacks]
    exact hinv.alternate
  · rw [h.callbacks, hlive]
    exact hinv.odd_iff c

lemma getElem? (hinv : Inv K S) (hg : gid ∈ K.groupIds) (hi : i < (S.grps gid).liveCnt) :
    ∃ c, (S.grps gid).conns[i]? = some c :=
  ⟨_, List.getElem?_eq_getElem (hi.trans_le (hinv.slots gid hg).live_le)⟩

/-- A connection is in the slots of one group only. -/
lemma disjoint (hinv : Inv K S) {gid' : GroupId} (hg : gid ∈ K.groupIds) (hg' : gid' ∈ K.groupIds)
    (hc : c ∈ (S.grps gid).conns) (hc' : c ∈ (S.grps gid').conns) : gid = gid' :=
  ServerConf.slice_disjoint hg hg' ((hinv.slots gid hg).perm.mem_iff.mp hc)
    ((hinv.slots gid' hg').perm.mem_iff.mp hc')

/-- A slot is taken. -/
lemma claim (hinv : Inv K S) {name : Name F} (hg : gid ∈ K.groupIds)
    (hname : name.isEmpty = false) (hfind : S.Finds gid name i c) : Inv K (S.claim c name) := by
  have hlive : ∀ d, (S.claim c name).IsLive K d ↔ S.IsLive K d := by
    intro d
    rw [IsLive, IsLive, claim_grps]
  refine ⟨fun gid' hg' => ?_, fun d hd => ?_, ?_, fun d => ?_⟩
  · rw [claim_grps]
    by_cases hempty : (S.pool c).remoteName.isEmpty = true
    · have hnames : (S.claim c name).names = Function.update S.names c name := by
        funext d
        unfold Server.claim names
        rw [if_pos hempty]
        show (Function.update S.pool c _ d).remoteName = _
        by_cases hd : d = c
        · rw [hd, Function.update_self, Function.update_self]
        · rw [Function.update_of_ne hd, Function.update_of_ne hd]
      rw [hnames]
      by_cases hgid : gid' = gid
      · rw [hgid]
        exact (hinv.slots gid hg).claim (K.slice_nodup gid) hname hfind.getElem? hempty hfind.first
      · refine (hinv.slots gid' hg').congr fun d hd => Function.update_of_ne ?_ _ _
        rintro rfl
        exact hgid (hinv.disjoint hg' hg hd (List.mem_of_getElem? hfind.getElem?))
    · have hclaim : S.claim c name = S := if_neg hempty
      rw [hclaim]
      exact hinv.slots gid' hg'
  · rw [claim_fdToClose]
    exact hinv.fdToClose d ((hlive d).mp hd)
  · rw [claim_callbacks]
    exact hinv.alternate
  · rw [claim_callbacks, hlive]
    exact hinv.odd_iff d

/-- In the slot that is found there now is a name. -/
lemma claim_named {name : Name F} (hname : name.isEmpty = false) :
    ((S.claim c name).names c).isEmpty = false := by
  unfold Server.claim names
  split_ifs with h
  · show (Function.update S.pool c _ c).remoteName.isEmpty = false
    rw [Function.update_self]
    exact hname
  · exact Bool.not_eq_true _ ▸ h

/-- Whether the other connections are live does not change. -/
lemma isLive_iff {grp : ConnectionGroup} {d : Nat}
    (hgrps : S'.grps = Function.update S.grps gid grp)
    (hd : d ∈ grp.live ↔ d ∈ (S.grps gid).live) : S'.IsLive K d ↔ S.IsLive K d := by
  have hgrp : ∀ g, d ∈ (S'.grps g).live ↔ d ∈ (S.grps g).live := by
    intro g
    rw [hgrps]
    by_cases hgid : g = gid
    · rw [hgid, Function.update_self, hd]
    · rw [Function.update_of_ne hgid]
  simp only [IsLive, hgrp]

lemma slots_fires {grp : ConnectionGroup} {b : Bool} (hinv : Inv K S)
    (h : Fires gid grp c b S S') (hslots : Slots (K.slice gid) grp S.names) :
    ∀ gid ∈ K.groupIds, Slots (K.slice gid) (S'.grps gid) S'.names := by
  intro gid' hg'
  rw [h.grps, h.names]
  by_cases hgid : gid' = gid
  · rw [hgid, Function.update_self]
    exact hslots
  · rw [Function.update_of_ne hgid]
    exact hinv.slots gid' hg'

/-- Behind the live connections there is no live one. -/
lemma not_isLive (hinv : Inv K S) (hg : gid ∈ K.groupIds) (hc : (S.grps gid).conns[i]? = some c)
    (hi : (S.grps gid).liveCnt ≤ i) : ¬S.IsLive K c := by
  have hslots := hinv.slots gid hg
  rintro ⟨gid', hg', hmem⟩
  obtain rfl := hinv.disjoint hg hg' (List.mem_of_getElem? hc)
    (ConnectionGroup.live_subset hmem)
  obtain ⟨j, hj⟩ := List.mem_iff_getElem?.mp hmem
  have hjlt : j < (S.grps gid).liveCnt := by
    rw [← ConnectionGroup.length_live hslots.live_le]
    exact (List.getElem?_eq_some_iff.mp hj).1
  rw [ConnectionGroup.live, List.getElem?_take_of_lt hjlt] at hj
  exact absurd (hslots.inj (K.slice_nodup gid) hj hc) (hjlt.trans_le hi).ne

/-- A connection goes live. -/
lemma logon (hinv : Inv K S) (hg : gid ∈ K.groupIds) (hc : (S.grps gid).conns[i]? = some c)
    (hi : (S.grps gid).liveCnt ≤ i) (hcn : (S.names c).isEmpty = false)
    (hfd : 0 ≤ (S'.pool c).ptcpConn.fdToClose)
    (h : Fires gid ((S.grps gid).goLive i) c true S S') : Inv K S' := by
  have hslots := hinv.slots gid hg
  have hlive := ConnectionGroup.goLive_live hi hc
  have hnot := hinv.not_isLive hg hc hi
  have hself : S'.IsLive K c := by
    refine ⟨gid, hg, ?_⟩
    rw [h.grps, Function.update_self, hlive]
    exact List.mem_append_right _ (List.mem_singleton.mpr rfl)
  have hother : ∀ d ≠ c, (S'.IsLive K d ↔ S.IsLive K d) := by
    intro d hd
    refine isLive_iff h.grps ?_
    rw [hlive, List.mem_append, List.mem_singleton, or_iff_left hd]
  have heven : (S.callbacks c).length % 2 = 0 := by
    have hodd := mt (hinv.odd_iff c).mp hnot
    omega
  refine ⟨hinv.slots_fires h (hslots.goLive hi hc hcn), fun d hd => ?_, fun d => ?_, fun d => ?_⟩ <;>
    by_cases hdc : d = c
  · rw [hdc]
    exact hfd
  · rw [h.fdToClose d hdc]
    exact hinv.fdToClose d ((hother d hdc).mp hd)
  · rw [hdc, h.self]
    exact (hinv.alternate c).append ⟨fun _ => heven, fun _ => rfl⟩
  · rw [h.other d hdc]
    exact hinv.alternate d
  · rw [hdc, h.self, List.length_append, List.length_singleton]
    exact ⟨fun _ => hself, fun _ => by omega⟩
  · rw [h.other d hdc, hother d hdc]
    exact hinv.odd_iff d

/-- A live connection is removed. -/
lemma removed (hinv : Inv K S) (hg : gid ∈ K.groupIds) (hc : (S.grps gid).conns[i]? = some c)
    (hi : i < (S.grps gid).liveCnt) (h : Fires gid ((S.grps gid).drop i) c false S S') :
    Inv K S' := by
  have hslots := hinv.slots gid hg
  have hlive := ConnectionGroup.drop_live hi hslots.live_le hc
  have hwas : S.IsLive K c := ⟨gid, hg, ConnectionGroup.mem_live hi hc⟩
  have hnot : ¬S'.IsLive K c := by
    rintro ⟨gid', hg', hmem⟩
    by_cases hgid : gid' = gid
    · rw [hgid, h.grps, Function.update_self] at hmem
      have hnodup := hlive.nodup_iff.mpr (hslots.live_nodup (K.slice_nodup gid))
      exact (List.nodup_cons.mp hnodup).1 hmem
    · rw [h.grps, Function.update_of_ne hgid] at hmem
      exact hgid (hinv.disjoint hg' hg (ConnectionGroup.live_subset hmem)
        (List.mem_of_getElem? hc))
  have hother : ∀ d ≠ c, (S'.IsLive K d ↔ S.IsLive K d) := by
    intro d hd
    refine isLive_iff h.grps ?_
    rw [← hlive.mem_iff, List.mem_cons, or_iff_right hd]
  have hodd := (hinv.odd_iff c).mpr hwas
  refine ⟨hinv.slots_fires h (hslots.drop hi hc), fun d hd => ?_, fun d => ?_, fun d => ?_⟩ <;>
    by_cases hdc : d = c
  · exact absurd (hdc ▸ hd) hnot
  · rw [h.fdToClose d hdc]
    exact hinv.fdToClose d ((hother d hdc).mp hd)
  · rw [hdc, h.self]
    exact (hinv.alternate c).append ⟨fun h => (nomatch h), fun h => by omega⟩
  · rw [h.other d hdc]
    exact hinv.alternate d
  · rw [hdc, h.self, List.length_append, List.length_singleton]
    exact ⟨fun h => by omega, fun h => absurd h hnot⟩
  · rw [h.other d hdc, hother d hdc]
    exact hinv.odd_iff d

lemma change (hinv : Inv K S) (h : Change K S S') : Inv K S' := by
  cases h with
  | quiet h => exact hinv.quiet h
  | taken hg hname hfind h => exact (hinv.claim hg hname hfind).quiet h
  | @logon gid i c name hg hname hfind hi hfd h =>
    have hgrps := claim_grps S c name
    have hclaimed := hinv.claim hg hname hfind
    rw [← hgrps] at hi h
    exact hclaimed.logon hg (by rw [hgrps]; exact hfind.getElem?) hi (claim_named hname) hfd h
  | removed hg hc hi h => exact hinv.removed hg hc hi h

/-- `Stop` forgets the names and empties the slots. -/
lemma stop (hinv : Inv K S) : Inv K (S.stop K) := by
  unfold Server.stop
  split_ifs with hfd
  · exact hinv
  refine ⟨fun gid hg => ?_, ?_, fun c k b hk => ?_, fun c => ?_⟩
  · obtain ⟨hperm, -, -, -⟩ := hinv.slots gid hg
    simp only [if_pos hg]
    have hname : ∀ c ∈ (S.grps gid).conns, (Server.names { S with
        pool := fun c => if K.groupIds.any fun gid => c ∈ (S.grps gid).conns then (S.pool c).release
          else S.pool c } c).isEmpty = true := by
      intro c hc
      have hany : (K.groupIds.any fun gid => decide (c ∈ (S.grps gid).conns)) = true :=
        List.any_eq_true.mpr ⟨gid, hg, decide_eq_true hc⟩
      show (ite _ _ _ : TcpShmConnection F).remoteName.isEmpty = true
      rw [if_pos hany]
      rfl
    refine ⟨hperm, Nat.zero_le _, ⟨0, le_refl 0, fun i c hc => ?_⟩, fun c hc d hd hcn => ?_⟩
    · have hempty := hname c (List.mem_of_getElem? hc)
      exact ⟨fun h => absurd (hempty.symm.trans h) (Bool.noConfusion), fun h => absurd h (Nat.not_lt_zero i)⟩
    · exact absurd ((hname c hc).symm.trans hcn) Bool.noConfusion
  · rintro c ⟨gid, hg, hc⟩
    simp [ConnectionGroup.live, if_pos hg] at hc
  · simp [callbacks] at hk
  · refine ⟨fun h => ?_, ?_⟩
    · simp [callbacks] at h
    · rintro ⟨gid, hg, hc⟩
      simp [ConnectionGroup.live, if_pos hg] at hc

end Inv

/-! ### Runs -/

lemma Step.change (hinv : Inv K S) (h : Step C R K S S') : Change K S S' := by
  cases h with
  | start fd => exact .quiet (SameTables.start S fd).quiet
  | accept accepted now => exact .quiet (SameTables.accept S accepted now).quiet
  | visit _ h => exact .of_visit h
  | turn now polls hg hi =>
    obtain ⟨c, hc⟩ := hinv.getElem? hg hi
    exact .of_turn hg hi hc now polls
  | call c e => exact .quiet (.of_keeps (e.keeps _))

lemma Steps.inv (hinv : Inv K S) (h : Steps C R K S S') : Inv K S' := by
  induction h with
  | refl => exact hinv
  | tail _ hstep ih => exact ih.change (hstep.change ih)

lemma Reaches.inv {serverName : Name F} (h : Reaches C R K (.new C K serverName) S) : Inv K S := by
  induction h with
  | refl => exact .new C K serverName
  | tail _ hstep ih =>
    rcases hstep with hstep | rfl
    · exact ih.change (hstep.change ih)
    · exact ih.stop

/-! ### A known client -/

lemma Change.names (h : Change K S S') (hc : (S.names c).isEmpty = false) :
    S'.names c = S.names c := by
  have hclaim : ∀ d name, (S.claim d name).names c = S.names c := by
    intro d name
    unfold Server.claim
    split_ifs with hempty
    · have hcd : c ≠ d := by
        rintro rfl
        exact absurd (hempty.symm.trans hc) Bool.noConfusion
      show (Function.update S.pool d _ c).remoteName = _
      rw [Function.update_of_ne hcd]
      rfl
    · rfl
  cases h with
  | quiet h => rw [h.names]
  | taken _ _ _ h => rw [h.names, hclaim]
  | logon _ _ _ _ _ h => rw [h.names, hclaim]
  | removed _ _ _ h => rw [h.names]

/-- A name that a slot has is found there. -/
lemma Inv.finds (hinv : Inv K S) (hg : gid ∈ K.groupIds) (hc : c ∈ (S.grps gid).conns)
    (hname : (S.names c).isEmpty = false) : ∃ i, S.Finds gid (S.names c) i c := by
  obtain ⟨i, hi⟩ := List.mem_iff_getElem?.mp hc
  have hslots := hinv.slots gid hg
  obtain ⟨m, -, hnamed⟩ := hslots.named
  refine ⟨i, hi, Or.inr rfl, fun j hj d hd => ?_⟩
  have hdn := (hnamed j d hd).mpr (hj.trans ((hnamed i c hi).mp hname))
  refine ⟨hdn, fun heq => ?_⟩
  have hdc := hslots.distinct d (List.mem_of_getElem? hd) c hc hdn heq
  exact hj.ne (hslots.inj (K.slice_nodup gid) hd (hdc ▸ hi))

/-- A client is matched to the connection that has its name until `Stop`. -/
theorem Steps.finds (hinv : Inv K S) (hg : gid ∈ K.groupIds) (hc : c ∈ (S.grps gid).conns)
    (hname : (S.names c).isEmpty = false) (h : Steps C R K S S') :
    ∃ i, S'.Finds gid (S.names c) i c := by
  have hkept : Inv K S' ∧ S'.names c = S.names c := by
    induction h with
    | refl => exact ⟨hinv, rfl⟩
    | tail _ hstep ih =>
      have hchange := hstep.change ih.1
      exact ⟨ih.1.change hchange, (hchange.names (ih.2 ▸ hname)).trans ih.2⟩
  rw [← hkept.2]
  refine hkept.1.finds hg ?_ (hkept.2 ▸ hname)
  exact (hkept.1.slots gid hg).perm.mem_iff.mpr ((hinv.slots gid hg).perm.mem_iff.mp hc)

end Server

end Tcpshm
