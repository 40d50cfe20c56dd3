import Tcpshm.Cluster.Basic
import Tcpshm.Server.Failed

/-!
# The connection of one client among the others

A client has at most one connection in its group, and what the server does with another connection
does not touch it.
-/

namespace Tcpshm.Server

variable {F : LoginFormat} {C : Conf} {R : RingSize} {K : ServerConf} {S S' S'' : Server F}
  {gid gid' : GroupId} {i c d : Nat} {name : Name F} {header : MsgHeader} {login : LoginMsg F}
  {fd now : Int} {env : HandleEnv}

/-! ### The slot -/

lemma mem_of_slot (h : S.slot gid name = some c) :
    c ∈ (S.grps gid).conns ∧ S.names c = name := by
  unfold slot at h
  have hfound := List.find?_some h
  exact ⟨List.mem_of_find?_eq_some h, of_decide_eq_true hfound⟩

lemma slot_eq_some_iff (hinv : Inv K S) (hg : gid ∈ K.groupIds) (hname : name.isEmpty = false) :
    S.slot gid name = some c ↔ c ∈ (S.grps gid).conns ∧ S.names c = name := by
  constructor
  · exact mem_of_slot
  · rintro ⟨hc, hcn⟩
    cases hfind : S.slot gid name with
    | none =>
      have hnone := List.find?_eq_none.mp hfind c hc
      exact absurd (decide_eq_true hcn) hnone
    | some d =>
      obtain ⟨hd, hdn⟩ := mem_of_slot hfind
      have hdc : d = c := by
        apply (hinv.slots gid hg).distinct d hd c hc
        · rw [hdn, hname]
        · rw [hdn, hcn]
      rw [hdc]

lemma connOf_of_slot (h : S.slot gid name = some c) :
    S.connOf C gid name = (S.pool c).ptcpConn := by simp [connOf, h]

lemma liveOf_of_slot (h : S.slot gid name = some c) :
    S.liveOf gid name = decide (c ∈ (S.grps gid).live) := by simp [liveOf, h]

lemma connOf_of_none (h : S.slot gid name = none) : S.connOf C gid name = .new C := by
  simp [connOf, h]

lemma liveOf_of_none (h : S.slot gid name = none) : S.liveOf gid name = false := by
  simp [liveOf, h]

/-- What a client's login finds. -/
lemma slot_of_finds (hinv : Inv K S) (hg : gid ∈ K.groupIds) (hname : name.isEmpty = false)
    (hfind : S.Finds gid name i c) : S.slot gid name = some c ∨
      (S.slot gid name = none ∧ (S.names c).isEmpty = true) := by
  have hc := List.mem_of_getElem? hfind.getElem?
  cases hslot : S.slot gid name with
  | none =>
    refine Or.inr ⟨rfl, ?_⟩
    rcases hfind.matched with hm | hm
    · exact hm
    · exact absurd hslot (by rw [(slot_eq_some_iff hinv hg hname).mpr ⟨hc, hm⟩]; simp)
  | some d =>
    obtain ⟨hd, hdn⟩ := mem_of_slot hslot
    obtain ⟨j, hj⟩ := hinv.finds hg hd (hdn ▸ hname)
    rw [hdn] at hj
    exact Or.inl (congrArg some (hj.unique hfind).2)

lemma mem_live_iff (hinv : Inv K S) (hg : gid ∈ K.groupIds) (hc : (S.grps gid).conns[i]? = some c) :
    c ∈ (S.grps gid).live ↔ i < (S.grps gid).liveCnt := by
  constructor
  · intro hmem
    by_contra hi
    exact hinv.not_isLive hg hc (not_lt.mp hi) ⟨gid, hg, hmem⟩
  · intro hi
    exact ConnectionGroup.mem_live hi hc

/-- A connection that keeps its name does not become the client's. -/
lemma slot_ne (hinv : Inv K S) (hinv' : Inv K S') (hg : gid ∈ K.groupIds)
    (hname : name.isEmpty = false) (hnames : S'.names d = S.names d)
    (hd : S.slot gid name ≠ some d) : S'.slot gid name ≠ some d := by
  intro hd'
  apply hd
  rw [slot_eq_some_iff hinv' hg hname, (hinv'.slots gid hg).perm.mem_iff, hnames] at hd'
  rw [slot_eq_some_iff hinv hg hname, (hinv.slots gid hg).perm.mem_iff]
  exact hd'

lemma liveOf_of_finds (hinv : Inv K S) (hg : gid ∈ K.groupIds) (hname : name.isEmpty = false)
    (hfind : S.Finds gid name i c) :
    S.liveOf gid name = decide (i < (S.grps gid).liveCnt) := by
  obtain hslot | ⟨hslot, hempty⟩ := slot_of_finds hinv hg hname hfind
  · rw [liveOf_of_slot hslot]
    exact decide_eq_decide.mpr (mem_live_iff hinv hg hfind.getElem?)
  · rw [liveOf_of_none hslot]
    refine (decide_eq_false fun hi => ?_).symm
    have hnamed := (hinv.slots gid hg).live_named hi hfind.getElem?
    exact absurd (hnamed.symm.trans hempty) Bool.false_ne_true

/-! ### Other connections -/

/-- Of the connections only `d` changes, and whether it is live. -/
structure Touches (d : Nat) (S S' : Server F) : Prop where
  serverName : S'.serverName = S.serverName
  pool : ∀ c ≠ d, S'.pool c = S.pool c
  live : ∀ gid, ∀ c ≠ d, c ∈ (S'.grps gid).live ↔ c ∈ (S.grps gid).live

namespace Touches

lemma trans (h : Touches d S S') (h' : Touches d S' S'') : Touches d S S'' := by
  refine ⟨h'.serverName.trans h.serverName, fun c hc => ?_, fun gid c hc => ?_⟩
  · rw [h'.pool c hc, h.pool c hc]
  · rw [h'.live gid c hc, h.live gid c hc]

lemma of_sameTables (d : Nat) (h : SameTables S S') : Touches d S S' := by
  refine ⟨h.serverName, fun c _ => by rw [h.pool], fun gid c _ => by rw [h.grps]⟩

lemma setConn (S : Server F) (c : Nat) (conn : TcpShmConnection F) :
    Touches c S (S.setConn c conn) :=
  ⟨rfl, fun _ hd => setConn_of_ne conn hd, fun _ _ _ => Iff.rfl⟩

lemma claim (S : Server F) (c : Nat) (name : Name F) : Touches c S (S.claim c name) := by
  unfold Server.claim
  split_ifs
  · exact setConn S c _
  · exact of_sameTables c ⟨rfl, rfl, rfl, rfl⟩

lemma setGrp {grp : ConnectionGroup}
    (h : ∀ e ≠ c, e ∈ grp.live ↔ e ∈ (S.grps gid).live) : Touches c S (S.setGrp gid grp) := by
  refine ⟨rfl, fun _ _ => rfl, fun gid' e he => ?_⟩
  show e ∈ (Function.update S.grps gid grp gid').live ↔ _
  by_cases hgid : gid' = gid
  · rw [hgid, Function.update_self]
    exact h e he
  · rw [Function.update_of_ne hgid]

lemma fire (hi : (S.grps gid).liveCnt ≤ i) (hc : (S.grps gid).conns[i]? = some c)
    (ev : LoginEvent) : Touches c S (S.fire gid i c ev) := by
  cases ev with
  | clientFileError errorMsg => exact ⟨rfl, fun _ _ => rfl, fun _ _ _ => Iff.rfl⟩
  | seqNumberMismatch n => exact ⟨rfl, fun _ _ => rfl, fun _ _ _ => Iff.rfl⟩
  | sendFailed => exact ⟨rfl, fun _ _ => rfl, fun _ _ _ => Iff.rfl⟩
  | clientLogon =>
    obtain ⟨hname, hpool, hlive⟩ := @setGrp F S gid c ((S.grps gid).goLive i) fun e he => by
      rw [ConnectionGroup.goLive_live hi hc, List.mem_append, List.mem_singleton, or_iff_left he]
    exact ⟨hname, hpool, hlive⟩

lemma disconnect (hi : i < (S.grps gid).liveCnt)
    (hle : (S.grps gid).liveCnt ≤ (S.grps gid).conns.length)
    (hc : (S.grps gid).conns[i]? = some c) : Touches c S (S.disconnect gid i c) := by
  obtain ⟨hname, hpool, hlive⟩ := @setGrp F S gid c ((S.grps gid).drop i) fun e he => by
    rw [← (ConnectionGroup.drop_live hi hle hc).mem_iff, List.mem_cons, or_iff_right he]
  exact ⟨hname, hpool, hlive⟩

/-- The connection of the client is another one. -/
lemma slot_eq (h : Touches d S S') (hinv : Inv K S) (hinv' : Inv K S') (hg : gid ∈ K.groupIds)
    (hname : name.isEmpty = false) (hd : S.slot gid name ≠ some d)
    (hd' : S'.slot gid name ≠ some d) : S'.slot gid name = S.slot gid name := by
  apply Option.ext
  intro c
  by_cases hcd : c = d
  · rw [hcd]
    exact iff_of_false hd' hd
  · rw [slot_eq_some_iff hinv hg hname, slot_eq_some_iff hinv' hg hname,
      (hinv.slots gid hg).perm.mem_iff, (hinv'.slots gid hg).perm.mem_iff, names, names,
      h.pool c hcd]

lemma connOf_eq (h : Touches d S S') (hslot : S'.slot gid name = S.slot gid name)
    (hd : S.slot gid name ≠ some d) : S'.connOf C gid name = S.connOf C gid name := by
  cases hc : S.slot gid name with
  | none => rw [connOf_of_none hc, connOf_of_none (hslot.trans hc)]
  | some c =>
    have hcd : c ≠ d := fun hcd => hd (hcd ▸ hc)
    rw [connOf_of_slot hc, connOf_of_slot (hslot.trans hc), h.pool c hcd]

lemma liveOf_eq (h : Touches d S S') (hslot : S'.slot gid name = S.slot gid name)
    (hd : S.slot gid name ≠ some d) : S'.liveOf gid name = S.liveOf gid name := by
  cases hc : S.slot gid name with
  | none => rw [liveOf_of_none hc, liveOf_of_none (hslot.trans hc)]
  | some c =>
    have hcd : c ≠ d := fun hcd => hd (hcd ▸ hc)
    rw [liveOf_of_slot hc, liveOf_of_slot (hslot.trans hc)]
    exact decide_eq_decide.mpr (h.live gid c hcd)

end Touches

/-! ### Logins and disconnects -/

lemma Finds.claim_names (h : S.Finds gid name i c) : (S.claim c name).names c = name := by
  unfold claim names
  split_ifs with hempty
  · rw [setConn_self]
  · rcases h.matched with hm | hm
    · exact absurd hm hempty
    · exact hm

/-- A login that gets a slot gives it its name, and touches nothing else. -/
lemma handleLogin_touches {out : ServerHandled F}
    (h : S.handleLogin C K header login fd now env = some out) :
    (out.logon = false ∧ out.server = S) ∨
      ∃ i c, S.Finds (env.group login) login.clientName i c ∧ Touches c S out.server ∧
        out.server.names c = login.clientName ∧ login.clientName.isEmpty = false := by
  obtain ⟨-, hlogon, hserver⟩ | ⟨i, c, -, hrefused, hfind, hslot⟩ := handleLogin_cases h
  · exact Or.inl ⟨hlogon, hserver⟩
  refine Or.inr ⟨i, c, hfind, ?_, ?_, named_of_not_refused hrefused⟩
  · obtain ⟨-, -, hserver⟩ | ⟨hi, m, -, -, hserver⟩ := hslot
    · rw [hserver]
      exact .claim S c login.clientName
    · rw [hserver]
      refine ((Touches.claim S c login.clientName).trans (.setConn _ c m.conn)).trans (.fire ?_ ?_ _)
      · show ((S.claim c login.clientName).grps _).liveCnt ≤ i
        rw [claim_grps]
        exact hi
      · show ((S.claim c login.clientName).grps _).conns[i]? = some c
        rw [claim_grps]
        exact hfind.getElem?
  · rw [handleLogin_names hslot]
    exact hfind.claim_names

/-- Beside a login a turn over the new connections does nothing to the tables. -/
lemma visit_sameTables_or {recv : LoginRecv F} (h : S.visit C K i now recv env = some S') :
    SameTables S S' ∨ ∃ header msg header' login out, recv = .login header msg ∧
      receiveLogin C header msg = some (header', login) ∧
      S.handleLogin C K header' login (S.newConns i).fd now env = some out ∧
      S' = out.server.freeNewConn i := by
  unfold visit at h
  by_cases hfd : (S.newConns i).fd < 0
  · rw [if_pos hfd] at h
    cases h
    exact Or.inl ⟨rfl, rfl, rfl, rfl⟩
  rw [if_neg hfd] at h
  cases recv with
  | again =>
    simp only at h
    split_ifs at h
    · cases h
      exact Or.inl ⟨rfl, rfl, rfl, rfl⟩
    · cases h
      exact Or.inl (.freeNewConn S i)
  | login header msg =>
    simp only at h
    cases hrecv : receiveLogin C header msg with
    | none =>
      rw [hrecv] at h
      cases h
      exact Or.inl (.freeNewConn S i)
    | some received =>
      rw [hrecv] at h
      obtain ⟨out, hout, rfl⟩ := Option.map_eq_some_iff.mp h
      exact Or.inr ⟨header, msg, _, _, out, rfl, hrecv, hout, rfl⟩
  | other =>
    cases h
    exact Or.inl (.freeNewConn S i)

lemma turn_touches (hinv : Inv K S) (hg : gid ∈ K.groupIds) (hi : i < (S.grps gid).liveCnt)
    (hc : (S.grps gid).conns[i]? = some c) (now : Int) (polls : Nat → Poll) :
    Touches c S (S.turn C gid i now polls).1 := by
  obtain ⟨-, hturn⟩ | ⟨-, hturn⟩ := turn_cases (C := C) hc now polls
  · rw [hturn]
    exact .setConn S c _
  · rw [hturn]
    exact (Touches.setConn S c _).trans (.disconnect hi (hinv.slots gid hg).live_le hc)

end Tcpshm.Server
