import Tcpshm.Login.Sync
import Tcpshm.Server.Run

/-!
# Sweeps and `PollCtl`

What one sweep reports and removes, and what holds of the slots whatever the server went through.
-/

namespace Tcpshm.Server

variable {F : LoginFormat} {C : Conf} {R : RingSize} {K : ServerConf} {S S' S'' : Server F}
  {gid : GroupId} {i c : Nat}

/-! ### One sweep -/

/-- The connection is closed when its turn comes. -/
def closing (C : Conf) (S : Server F) (gid : GroupId) (now : Int) (polls : Nat → Poll) (c : Nat) :
    Bool := (S.pollConn C gid now polls c).isClosed

/-- What the user is told about a closed connection. -/
def closedEvent (C : Conf) (S : Server F) (gid : GroupId) (now : Int) (polls : Nat → Poll)
    (c : Nat) : ServerEvent :=
  .clientDisconnected c (S.pollConn C gid now polls c).ptcpConn.closeReason
    (S.pollConn C gid now polls c).ptcpConn.closeErrno

/-- Of the connections `todo` the closed ones are reported and removed, and the others stay, as do
the connections `kept` and the other groups. -/
structure Swept (C : Conf) (gid : GroupId) (now : Int) (polls : Nat → Poll) (kept todo : List Nat)
    (S S' : Server F) : Prop where
  reported : ∃ closed : List Nat, closed.Perm (todo.filter (S.closing C gid now polls)) ∧
    S'.log = S.log ++ closed.map (S.closedEvent C gid now polls)
  live : (S'.grps gid).live.Perm (kept ++ todo.filter fun c => !S.closing C gid now polls c)
  other : ∀ gid' ≠ gid, S'.grps gid' = S.grps gid'

namespace Swept

variable {now : Int} {polls : Nat → Poll} {kept todo todo' : List Nat}

lemma perm (hperm : todo.Perm todo') (h : Swept C gid now polls kept todo S S') :
    Swept C gid now polls kept todo' S S' := by
  obtain ⟨⟨closed, hclosed, hlog⟩, hlive, hother⟩ := h
  exact ⟨⟨closed, hclosed.trans (hperm.filter _), hlog⟩,
    hlive.trans ((hperm.filter _).append_left kept), hother⟩

lemma closing_congr (hpool : S'.pool c = S.pool c) :
    S'.closing C gid now polls c = S.closing C gid now polls c := by
  unfold closing pollConn
  rw [hpool]

lemma closedEvent_congr (hpool : S'.pool c = S.pool c) :
    S'.closedEvent C gid now polls c = S.closedEvent C gid now polls c := by
  unfold closedEvent pollConn
  rw [hpool]

/-- The first connection is open and stays. -/
lemma stays (hopen : S.closing C gid now polls c = false) (hlog : S'.log = S.log)
    (hgrps : ∀ gid' ≠ gid, S'.grps gid' = S.grps gid') (hpool : ∀ d ∈ todo, S'.pool d = S.pool d)
    (h : Swept C gid now polls (kept ++ [c]) todo S' S'') :
    Swept C gid now polls kept (c :: todo) S S'' := by
  obtain ⟨⟨closed, hclosed, hlog'⟩, hlive, hother⟩ := h
  have hclosing : ∀ d ∈ todo, S'.closing C gid now polls d = S.closing C gid now polls d :=
    fun d hd => closing_congr (hpool d hd)
  rw [List.filter_congr hclosing] at hclosed
  rw [List.filter_congr fun d hd => congrArg not (hclosing d hd)] at hlive
  refine ⟨⟨closed, ?_, ?_⟩, ?_, fun gid' hg' => (hother gid' hg').trans (hgrps gid' hg')⟩
  · rw [List.filter_cons_of_neg (Bool.not_eq_true _ ▸ hopen)]
    exact hclosed
  · rw [hlog', hlog]
    refine congrArg _ (List.map_congr_left fun d hd => closedEvent_congr (hpool d ?_))
    exact List.mem_of_mem_filter (hclosed.mem_iff.mp hd)
  · rw [List.filter_cons_of_pos (by rw [hopen]; rfl)]
    rw [List.append_assoc, List.singleton_append] at hlive
    exact hlive

/-- The first connection is closed and goes. -/
lemma goes (hclosing : S.closing C gid now polls c = true)
    (hlog : S'.log = S.log ++ [S.closedEvent C gid now polls c])
    (hgrps : ∀ gid' ≠ gid, S'.grps gid' = S.grps gid') (hpool : ∀ d ∈ todo, S'.pool d = S.pool d)
    (h : Swept C gid now polls kept todo S' S'') :
    Swept C gid now polls kept (c :: todo) S S'' := by
  obtain ⟨⟨closed, hclosed, hlog'⟩, hlive, hother⟩ := h
  have hcongr : ∀ d ∈ todo, S'.closing C gid now polls d = S.closing C gid now polls d :=
    fun d hd => closing_congr (hpool d hd)
  rw [List.filter_congr hcongr] at hclosed
  rw [List.filter_congr fun d hd => congrArg not (hcongr d hd)] at hlive
  refine ⟨⟨c :: closed, ?_, ?_⟩, ?_, fun gid' hg' => (hother gid' hg').trans (hgrps gid' hg')⟩
  · rw [List.filter_cons_of_pos hclosing]
    exact hclosed.cons c
  · rw [hlog', hlog, List.append_assoc, List.singleton_append, List.map_cons]
    refine congrArg _ (congrArg _ (List.map_congr_left fun d hd => closedEvent_congr (hpool d ?_)))
    exact List.mem_of_mem_filter (hclosed.mem_iff.mp hd)
  · rw [List.filter_cons_of_neg (by rw [hclosing]; exact Bool.noConfusion)]
    exact hlive

end Swept

/-- A live connection has a descriptor to close. -/
lemma Inv.tryCloseFd (hinv : Inv K S) (hlive : S.IsLive K c) (now : Int) (polls : Nat → Poll) :
    (S.pollConn C gid now polls c).tryCloseFd.2 = S.closing C gid now polls c := by
  have hfd : 0 ≤ (S.pollConn C gid now polls c).ptcpConn.fdToClose := by
    rw [(pollConn_keeps S gid now polls c).ptcpConn.fdToClose]
    exact hinv.fdToClose c hlive
  unfold closing TcpShmConnection.isClosed PTCPConnection.isClosed TcpShmConnection.tryCloseFd
    PTCPConnection.tryCloseFd
  split_ifs with hclosed
  · exact (decide_eq_true hclosed.1).symm
  · exact (decide_eq_false fun h => hclosed ⟨h, hfd⟩).symm

lemma setConn_of_ne {d : Nat} (conn : TcpShmConnection F) (hd : d ≠ c) :
    (S.setConn c conn).pool d = S.pool d := by
  unfold setConn
  exact Function.update_of_ne hd ..

lemma disconnect_log (S : Server F) (gid : GroupId) (i c : Nat) (now : Int)
    (polls : Nat → Poll) :
    ((S.setConn c (S.pollConn C gid now polls c).tryCloseFd.1).disconnect gid i c).log =
      S.log ++ [S.closedEvent C gid now polls c] := by
  show S.log ++ [.clientDisconnected c _ _] = _
  rw [setConn_self]
  unfold closedEvent TcpShmConnection.tryCloseFd PTCPConnection.tryCloseFd
  split_ifs <;> rfl

/-- What a sweep has done once it got to `i`. -/
lemma sweepLoop_swept (hinv : Inv K S) (hg : gid ∈ K.groupIds) {n : Nat}
    (hn : i + n = (S.grps gid).liveCnt) (now : Int) (polls : Nat → Poll) :
    Swept C gid now polls ((S.grps gid).live.take i) ((S.grps gid).live.drop i) S
      (sweepLoop C gid now polls n i S) := by
  induction n generalizing i S with
  | zero =>
    have hlen : (S.grps gid).live.length ≤ i := by
      rw [ConnectionGroup.length_live (hinv.slots gid hg).live_le, ← hn]
      exact le_refl i
    rw [List.drop_eq_nil_of_le hlen, List.take_of_length_le hlen]
    exact ⟨⟨[], .refl _, (List.append_nil _).symm⟩, by simp [sweepLoop], fun _ _ => rfl⟩
  | succ n ih =>
    have hi : i < (S.grps gid).liveCnt := by omega
    obtain ⟨c, hc⟩ := hinv.getElem? hg hi
    have hslots := hinv.slots gid hg
    have hlive : S.IsLive K c := ⟨gid, hg, ConnectionGroup.mem_live hi hc⟩
    have hcons := ConnectionGroup.live_drop hi hslots.live_le hc
    have hne : ∀ d ∈ (S.grps gid).live.drop (i + 1), d ≠ c := by
      have hnodup := (hslots.live_nodup (K.slice_nodup gid)).sublist (List.drop_sublist i _)
      rw [hcons] at hnodup
      rintro d hd rfl
      exact (List.nodup_cons.mp hnodup).1 hd
    have hinv' := hinv.change (.of_turn (C := C) hg hi hc now polls)
    have hclosing : (S.pollConn C gid now polls c).tryCloseFd.2 = S.closing C gid now polls c :=
      hinv.tryCloseFd hlive now polls
    rw [hcons]
    unfold sweepLoop
    obtain ⟨hfd, hturn⟩ | ⟨hfd, hturn⟩ := turn_cases (C := C) hc now polls
    · rw [hturn] at hinv' ⊢
      have hnext := ih (i := i + 1) hinv' (by show i + 1 + n = (S.grps gid).liveCnt; omega)
      have htake : (S.grps gid).live.take (i + 1) = (S.grps gid).live.take i ++ [c] := by
        rw [List.take_add_one, ConnectionGroup.live, List.getElem?_take_of_lt hi, hc,
          Option.toList_some]
      have hgrps : (S.setConn c (S.pollConn C gid now polls c)).grps = S.grps := rfl
      rw [hgrps, htake] at hnext
      have hlog : (S.setConn c (S.pollConn C gid now polls c)).log = S.log := rfl
      exact .stays (hclosing.symm.trans hfd) hlog (fun _ _ => rfl)
        (fun d hd => setConn_of_ne _ (hne d hd)) hnext
    · rw [hturn] at hinv' ⊢
      have hgrp : (((S.setConn c (S.pollConn C gid now polls c).tryCloseFd.1).disconnect
          gid i c).grps gid) = (S.grps gid).drop i := Function.update_self ..
      have hcnt : ((S.grps gid).drop i).liveCnt = (S.grps gid).liveCnt - 1 := rfl
      have hnext := ih hinv' (i := i) (by rw [hgrp, hcnt]; omega)
      rw [hgrp, ConnectionGroup.drop_take hi hslots.live_le] at hnext
      refine .goes (hclosing.symm.trans hfd) (disconnect_log S gid i c now polls)
        (fun gid' hg' => Function.update_of_ne hg' ..) (fun d hd => ?_)
        (hnext.perm (ConnectionGroup.drop_live_drop hi hslots.live_le hc))
      exact setConn_of_ne (S := S) _ (hne d hd)

theorem sweep_swept (hinv : Inv K S) (hg : gid ∈ K.groupIds) (now : Int) (polls : Nat → Poll) :
    Swept C gid now polls [] (S.grps gid).live S (S.sweep C gid now polls) := by
  have h := sweepLoop_swept (C := C) (i := 0) hinv hg (Nat.zero_add _) now polls
  rw [List.take_zero, List.drop_zero] at h
  exact h

/-! ### `PollCtl` is a run -/

lemma turn_liveCnt (S : Server F) (gid : GroupId) (i : Nat) (now : Int) (polls : Nat → Poll) :
    ((S.turn C gid i now polls).2 = false ∧
        ((S.turn C gid i now polls).1.grps gid).liveCnt = (S.grps gid).liveCnt) ∨
      ((S.turn C gid i now polls).2 = true ∧
        ((S.turn C gid i now polls).1.grps gid).liveCnt = (S.grps gid).liveCnt - 1) := by
  unfold turn
  simp only
  split_ifs
  · refine Or.inr ⟨rfl, ?_⟩
    show (Function.update S.grps gid _ gid).liveCnt = _
    rw [Function.update_self]
    rfl
  · exact Or.inl ⟨rfl, rfl⟩

section

variable {r : Server F → Server F → Prop}

lemma sweepLoop_run (now : Int) (polls : Nat → Poll)
    (hr : ∀ (S : Server F) {i : Nat}, i < (S.grps gid).liveCnt → r S (S.turn C gid i now polls).1)
    {n : Nat} (hn : i + n = (S.grps gid).liveCnt) :
    Relation.ReflTransGen r S (sweepLoop C gid now polls n i S) := by
  induction n generalizing i S with
  | zero => exact .refl
  | succ n ih =>
    have hstep := hr S (show i < (S.grps gid).liveCnt by omega)
    have hcnt := turn_liveCnt (C := C) S gid i now polls
    unfold sweepLoop
    generalize S.turn C gid i now polls = t at hstep hcnt ⊢
    obtain ⟨S₁, _ | _⟩ := t
    · obtain ⟨-, hcnt⟩ := hcnt.resolve_right fun h => (nomatch h.1)
      exact .head hstep (ih (by rw [hcnt]; omega))
    · obtain ⟨-, hcnt⟩ := hcnt.resolve_left fun h => (nomatch h.1)
      exact .head hstep (ih (by rw [hcnt]; omega))

lemma sweepAll_run (env : PollEnv F)
    (hr : ∀ (S : Server F) {gid : GroupId} {i : Nat}, gid ∈ K.groupIds → i < (S.grps gid).liveCnt →
      r S (S.turn C gid i env.now env.polls).1)
    (gids : List GroupId) (hgids : gids ⊆ K.groupIds) (S : Server F) :
    Relation.ReflTransGen r S (gids.foldl (fun S gid => S.sweep C gid env.now env.polls) S) := by
  induction gids generalizing S with
  | nil => exact .refl
  | cons gid gids ih =>
    rw [List.cons_subset] at hgids
    have hloop := sweepLoop_run (S := S) env.now env.polls (fun S _ hi => hr S hgids.1 hi)
      (Nat.zero_add _)
    exact hloop.trans (ih hgids.2 _)

lemma visitAll_run (env : PollEnv F)
    (hr : ∀ {S S' : Server F} {i : Nat}, i < K.maxNewConnections →
      S.visit C K i env.now (env.recvs i) (env.logins i) = some S' → r S S')
    (is : List Nat) (his : ∀ i ∈ is, i < K.maxNewConnections)
    (h : is.foldlM (fun (S : Server F) i => S.visit C K i env.now (env.recvs i) (env.logins i)) S =
      some S') : Relation.ReflTransGen r S S' := by
  induction is generalizing S with
  | nil =>
    cases h
    exact .refl
  | cons i is ih =>
    rw [List.foldlM_cons] at h
    obtain ⟨S₁, hvisit, hrest⟩ := Option.bind_eq_some_iff.mp h
    rw [List.forall_mem_cons] at his
    exact .head (hr his.1 hvisit) (ih his.2 hrest)

/-- `PollCtl` is one `accept`, and then turns of its loops. -/
theorem pollCtl_run {env : PollEnv F}
    (hvisit : ∀ {S S' : Server F} {i : Nat}, i < K.maxNewConnections →
      S.visit C K i env.now (env.recvs i) (env.logins i) = some S' → r S S')
    (hturn : ∀ (S : Server F) {gid : GroupId} {i : Nat}, gid ∈ K.groupIds →
      i < (S.grps gid).liveCnt → r S (S.turn C gid i env.now env.polls).1)
    (h : S.pollCtl C K env = some S') :
    Relation.ReflTransGen r (S.accept K env.accepted env.now) S' := by
  obtain ⟨S₁, hall, rfl⟩ := Option.map_eq_some_iff.mp h
  have hrange : ∀ i ∈ List.range K.maxNewConnections, i < K.maxNewConnections :=
    fun i hi => List.mem_range.mp hi
  exact (visitAll_run env hvisit _ hrange hall).trans
    (sweepAll_run env hturn _ (fun _ h => h) S₁)

end

/-- `PollCtl` takes steps only. -/
theorem pollCtl_steps {env : PollEnv F} (h : S.pollCtl C K env = some S') : Steps C R K S S' := by
  have haccept : Step C R K S (S.accept K env.accepted env.now) := .accept S _ _
  exact .head haccept (pollCtl_run (fun hi hvisit => .visit hi hvisit)
    (fun S _ _ hg hi => .turn S env.now env.polls hg hi) h)

lemma Steps.reaches (h : Steps C R K S S') : Reaches C R K S S' :=
  Relation.ReflTransGen.mono (fun _ _ => Or.inl) _ _ h

/-! ### A server that does not listen -/

/-- Without a listening socket there is no new connection, and nothing was reported since. -/
structure Idle (K : ServerConf) (S : Server F) : Prop where
  availIdx_le : S.availIdx ≤ K.maxNewConnections
  beyond : ∀ i, K.maxNewConnections ≤ i → (S.newConns i).fd < 0
  stopped : S.listenfd < 0 → (∀ i, (S.newConns i).fd < 0) ∧ S.log = []

/-- The sockets that do not belong to the pool are the same. -/
structure SameSockets (S S' : Server F) : Prop where
  listenfd : S'.listenfd = S.listenfd
  newConns : S'.newConns = S.newConns
  availIdx : S'.availIdx = S.availIdx

lemma SameSockets.of_handleLogin {header : MsgHeader} {login : LoginMsg F} {fd now : Int}
    {env : HandleEnv} {out : ServerHandled F}
    (h : S.handleLogin C K header login fd now env = some out) : SameSockets S out.server := by
  have hclaim : ∀ c name, SameSockets S (S.claim c name) := by
    intro c name
    unfold claim
    split_ifs
    · exact ⟨rfl, rfl, rfl⟩
    · exact ⟨rfl, rfl, rfl⟩
  obtain ⟨-, -, hserver⟩ | ⟨i, c, -, -, -, hslot⟩ := handleLogin_cases h
  · rw [hserver]
    exact ⟨rfl, rfl, rfl⟩
  obtain ⟨-, -, hserver⟩ | ⟨-, m, -, -, hserver⟩ := hslot
  · rw [hserver]
    exact hclaim c _
  · rw [hserver]
    have hsame := hclaim c login.clientName
    cases m.event with
    | clientFileError errorMsg => exact ⟨hsame.listenfd, hsame.newConns, hsame.availIdx⟩
    | seqNumberMismatch n => exact ⟨hsame.listenfd, hsame.newConns, hsame.availIdx⟩
    | sendFailed => exact ⟨hsame.listenfd, hsame.newConns, hsame.availIdx⟩
    | clientLogon => exact ⟨hsame.listenfd, hsame.newConns, hsame.availIdx⟩

namespace Idle

lemma new (C : Conf) (K : ServerConf) (serverName : Name F) : Idle K (Server.new C K serverName) :=
  ⟨Nat.zero_le _, fun _ _ => neg_one_lt_zero, fun _ => ⟨fun _ => neg_one_lt_zero, rfl⟩⟩

/-- A step that touches new connections in use only, and reports something only while the server
listens. -/
lemma mono (h : Idle K S) (hidx : S'.availIdx ≤ K.maxNewConnections)
    (hlisten : S'.listenfd < 0 → S.listenfd < 0 ∧ S'.log = S.log)
    (hfds : ∀ i, (S'.newConns i).fd < 0 ∨ (S'.newConns i).fd = (S.newConns i).fd ∨
      (0 ≤ S.listenfd ∧ i < K.maxNewConnections ∧ 0 ≤ S'.listenfd)) : Idle K S' := by
  refine ⟨hidx, fun i hi => ?_, fun hfd => ⟨fun i => ?_, ?_⟩⟩
  · rcases hfds i with hneg | hsame | ⟨-, hlt, -⟩
    · exact hneg
    · rw [hsame]
      exact h.beyond i hi
    · exact absurd hlt (not_lt.mpr hi)
  · rcases hfds i with hneg | hsame | ⟨-, -, hpos⟩
    · exact hneg
    · rw [hsame]
      exact (h.stopped (hlisten hfd).1).1 i
    · exact absurd hfd (not_lt.mpr hpos)
  · rw [(hlisten hfd).2]
    exact (h.stopped (hlisten hfd).1).2

lemma start (h : Idle K S) (fd : Int) : Idle K (S.start fd) := by
  unfold Server.start
  split_ifs with hfd
  · exact h
  · exact h.mono h.availIdx_le (fun _ => ⟨not_le.mp hfd, rfl⟩) fun _ => Or.inr (Or.inl rfl)

lemma accept (h : Idle K S) (accepted now : Int) : Idle K (S.accept K accepted now) := by
  have hlt : S.availIdx ≠ K.maxNewConnections → S.availIdx < K.maxNewConnections :=
    fun hne => lt_of_le_of_ne h.availIdx_le hne
  unfold Server.accept
  simp only
  split_ifs with hne hlisten hfd hfd
  · exact absurd hfd (by decide)
  · refine h.mono h.availIdx_le (fun _ => ⟨hlisten, rfl⟩) fun i => ?_
    by_cases hi : i = S.availIdx
    · exact Or.inl (by rw [hi]; simp [Function.update_self])
    · exact Or.inr (Or.inl (by simp [Function.update_of_ne hi]))
  · refine h.mono (le_refl _) (fun h => ⟨h, rfl⟩) fun i => ?_
    by_cases hi : i = S.availIdx
    · exact Or.inr (Or.inr ⟨not_lt.mp hlisten, hi ▸ hlt hne, not_lt.mp hlisten⟩)
    · exact Or.inr (Or.inl (by simp [Function.update_of_ne hi]))
  · refine h.mono h.availIdx_le (fun h => ⟨h, rfl⟩) fun i => ?_
    by_cases hi : i = S.availIdx
    · exact Or.inl (by rw [hi]; simpa [Function.update_self] using hfd)
    · exact Or.inr (Or.inl (by simp [Function.update_of_ne hi]))
  · exact h

/-- A login happens on a new connection in use, and `HandleLogin` leaves the others alone. -/
lemma visit (h : Idle K S) {now : Int} {recv : LoginRecv F} {env : HandleEnv}
    (hi : i < K.maxNewConnections) (hvisit : S.visit C K i now recv env = some S') :
    Idle K S' := by
  obtain ⟨-, rfl⟩ | ⟨hfd, hcases⟩ := visit_cases hvisit
  · exact h.mono hi.le (fun hl => ⟨hl, rfl⟩) fun _ => Or.inr (Or.inl rfl)
  have hlisten : ¬S.listenfd < 0 := fun hl => absurd ((h.stopped hl).1 i) (not_lt.mpr hfd)
  have hfree : ∀ T : Server F, SameSockets S T → Idle K (T.freeNewConn i) := by
    intro T hT
    refine h.mono hi.le (fun hl => ?_) fun j => ?_
    · have hl' : T.listenfd < 0 := hl
      rw [hT.listenfd] at hl'
      exact absurd hl' hlisten
    · by_cases hj : j = i
      · exact Or.inl (by rw [hj]; simp [freeNewConn])
      · refine Or.inr (Or.inl ?_)
        rw [← hT.newConns]
        simp [freeNewConn, Function.update_of_ne hj]
  obtain rfl | rfl | ⟨header, login, out, hout, rfl⟩ := hcases
  · exact h
  · exact hfree S ⟨rfl, rfl, rfl⟩
  · exact hfree out.server (.of_handleLogin hout)

lemma turn (hinv : Inv K S) (h : Idle K S) (hg : gid ∈ K.groupIds)
    (hi : i < (S.grps gid).liveCnt) (now : Int) (polls : Nat → Poll) :
    Idle K (S.turn C gid i now polls).1 := by
  have hlisten : ¬S.listenfd < 0 := by
    intro hl
    obtain ⟨c, hc⟩ := hinv.getElem? hg hi
    have hodd := (hinv.odd_iff c).mpr ⟨gid, hg, ConnectionGroup.mem_live hi hc⟩
    rw [callbacks, (h.stopped hl).2] at hodd
    exact Nat.zero_ne_one hodd
  have hsame : SameSockets S (S.turn C gid i now polls).1 := by
    unfold Server.turn
    simp only
    split_ifs
    · exact ⟨rfl, rfl, rfl⟩
    · exact ⟨rfl, rfl, rfl⟩
  refine h.mono (hsame.availIdx ▸ h.availIdx_le) (fun hl => absurd (hsame.listenfd ▸ hl) hlisten)
    fun j => Or.inr (Or.inl ?_)
  rw [hsame.newConns]

lemma step (hinv : Inv K S) (h : Idle K S) (hstep : Step C R K S S') : Idle K S' := by
  cases hstep with
  | start fd => exact h.start fd
  | accept accepted now => exact h.accept accepted now
  | visit hi hvisit => exact h.visit hi hvisit
  | turn now polls hg hi => exact h.turn hinv hg hi now polls
  | call c e => exact h.mono h.availIdx_le (fun hl => ⟨hl, rfl⟩) fun _ => Or.inr (Or.inl rfl)

lemma stop (h : Idle K S) : Idle K (S.stop K) := by
  unfold Server.stop
  split_ifs with hfd
  · exact h
  have hfds : ∀ i, (if i < K.maxNewConnections then { S.newConns i with fd := -1 }
      else S.newConns i).fd < 0 := by
    intro i
    split_ifs with hi
    · exact neg_one_lt_zero
    · exact h.beyond i (not_lt.mp hi)
  exact ⟨Nat.zero_le _, fun i _ => hfds i, fun _ => ⟨hfds, rfl⟩⟩

end Idle

lemma Reaches.idle {serverName : Name F} (h : Reaches C R K (.new C K serverName) S) :
    Idle K S := by
  induction h with
  | refl => exact .new C K serverName
  | tail hreach hstep ih =>
    rcases hstep with hstep | rfl
    · exact ih.step (Reaches.inv hreach) hstep
    · exact ih.stop

/-! ### The slots over a whole run -/

/-- Whatever the server went through, also in the middle of a `PollCtl`: the slots of a group are
its own connections, the named ones in front and among them the live ones in front of the others; a
known client is matched to the same connection until `Stop`; since the last `Stop` the callbacks
about a connection alternate, where a `Stop` that finds no socket to close comes when there was
none; and a sweep reports and removes the closed connections. -/
theorem Reaches.slots_invariant {serverName : Name F} (h : Reaches C R K (.new C K serverName) S) :
    (∀ gid ∈ K.groupIds, Slots (K.slice gid) (S.grps gid) S.names) ∧
      (∀ gid ∈ K.groupIds, ∀ c ∈ (S.grps gid).conns, (S.names c).isEmpty = false →
        ∀ S', Steps C R K S S' → ∃ i, S'.findSlot gid (S.names c) = some i ∧
          (S'.grps gid).conns[i]? = some c) ∧
      (∀ c, Alternates (S.callbacks c)) ∧ (S.listenfd < 0 → S.log = []) ∧
      (∀ gid ∈ K.groupIds, ∀ now polls,
        Swept C gid now polls [] (S.grps gid).live S (S.sweep C gid now polls)) ∧
      ∀ env S', S.pollCtl C K env = some S' → Steps C R K S S' := by
  have hinv := h.inv
  refine ⟨hinv.slots, fun gid hg c hc hname S' hsteps => ?_, hinv.alternate,
    fun hl => (h.idle.stopped hl).2, fun gid hg now polls => sweep_swept hinv hg now polls,
    fun env S' hpoll => pollCtl_steps hpoll⟩
  obtain ⟨i, hi⟩ := hsteps.finds hinv hg hc hname
  exact ⟨i, findSlot_eq_some_iff.mpr ⟨c, hi⟩, hi.getElem?⟩

/-- Room for one connection over shared memory and for two over TCP. -/
def smallServer : ServerConf where
  maxNewConnections := 1
  maxShmConnsPerGrp := 1
  maxShmGrps := 1
  maxTcpConnsPerGrp := 2
  maxTcpGrps := 1
  newConnectionTimeout := 10

/-- Empty files, and the user accepts the client. -/
def smallEnv : HandleEnv where
  grpid := 0
  rejectMsg := ""
  files := ⟨.init fun _ => ⟨0, 0, 0⟩, TcpShmConnection.newShmq, TcpShmConnection.newShmq⟩
  errs := ⟨none, none, none⟩
  sendOk := true
  sends := []

/-- The login, in wire order, of a client that was not connected before. -/
def smallLogin (useShm : Bool) (clientName : Name shortNames) : LoginRecv shortNames :=
  .login (MsgHeader.convertByteOrder ⟨true, true⟩ ⟨8 + shortNames.loginMsgSize, 1, 0⟩)
    ⟨0, 0, useShm, clientName, clientName.clear⟩

def smallPoll : PollEnv shortNames where
  now := 0
  accepted := 5
  recvs := fun _ => smallLogin false clientC
  logins := fun _ => smallEnv
  polls := fun _ => ⟨[], .again, .again⟩

def smallStarted : Server shortNames :=
  (Server.new (hostConf true) smallServer serverS).start 3

/-- A client logs on. -/
theorem Reaches.slots_invariant_logon : ∃ S : Server shortNames,
    Reaches (hostConf true) ⟨64, by decide⟩ smallServer
      (.new (hostConf true) smallServer (shortName 115)) S ∧
    S.callbacks 1 = [true] ∧ Slots [1, 2] (S.grps ⟨false, 0⟩) S.names := by
  have hlogon : (smallStarted.pollCtl (hostConf true) smallServer smallPoll).any
      (fun S => decide (S.callbacks 1 = [true])) = true := by decide +kernel
  obtain ⟨S, hpoll, hcalls⟩ := (Option.any_eq_true _ _).mp hlogon
  have hsteps : Steps (hostConf true) ⟨64, by decide⟩ smallServer smallStarted S :=
    pollCtl_steps hpoll
  have hreach : Reaches (hostConf true) ⟨64, by decide⟩ smallServer
      (.new (hostConf true) smallServer (shortName 115)) S :=
    .head (Or.inl (.start _ 3)) hsteps.reaches
  exact ⟨S, hreach, of_decide_eq_true hcalls,
    (Reaches.slots_invariant hreach).1 ⟨false, 0⟩ (by decide)⟩

end Tcpshm.Server
