import Mathlib.Logic.Relation
import Tcpshm.TcpShmConn.Calls
import Tcpshm.Server.Group
import Tcpshm.Server.Login

/-!
# The slots of the server

Over any run of the control thread the slots of a group are its own connections, those with a name
first, and among them those that are live first of all.
-/

namespace Tcpshm

/-! ### One group -/

/-- The slots of a group whose own connections are `own`, where `name c` is the remote name of
connection `c`. -/
structure Slots {F : LoginFormat} (own : List Nat) (grp : ConnectionGroup) (name : Nat → Name F) :
    Prop where
  perm : grp.conns.Perm own
  live_le : grp.liveCnt ≤ grp.conns.length
  named : ∃ m, grp.liveCnt ≤ m ∧
    ∀ i c, grp.conns[i]? = some c → ((name c).isEmpty = false ↔ i < m)
  distinct : ∀ c ∈ grp.conns, ∀ d ∈ grp.conns, (name c).isEmpty = false → name c = name d → c = d

namespace Slots

variable {F : LoginFormat} {own : List Nat} {grp : ConnectionGroup} {name name' : Nat → Name F}
  {i c : Nat}

lemma congr (h : Slots own grp name) (hname : ∀ c ∈ grp.conns, name' c = name c) :
    Slots own grp name' := by
  obtain ⟨hperm, hlive, ⟨m, hm, hnamed⟩, hdistinct⟩ := h
  refine ⟨hperm, hlive, ⟨m, hm, fun i c hc => ?_⟩, fun c hc d hd => ?_⟩
  · rw [hname c (List.mem_of_getElem? hc)]
    exact hnamed i c hc
  · rw [hname c hc, hname d hd]
    exact hdistinct c hc d hd

lemma inj (hown : own.Nodup) (h : Slots own grp name) {i j : Nat} (hi : grp.conns[i]? = some c)
    (hj : grp.conns[j]? = some c) : i = j := by
  obtain ⟨hil, -⟩ := List.getElem?_eq_some_iff.mp hi
  exact (List.getElem?_inj hil (h.perm.nodup_iff.mpr hown)).mp (hi.trans hj.symm)

/-- An unused slot is found right behind the named ones. -/
lemma claim (hown : own.Nodup) (h : Slots own grp name) {clientName : Name F}
    (hne : clientName.isEmpty = false) (hc : grp.conns[i]? = some c)
    (hempty : (name c).isEmpty = true)
    (hfirst : ∀ j < i, ∀ d, grp.conns[j]? = some d →
      (name d).isEmpty = false ∧ name d ≠ clientName) :
    Slots own grp (Function.update name c clientName) := by
  have hinj := @inj F own grp name c hown h
  obtain ⟨hperm, hlive, ⟨m, hm, hnamed⟩, hdistinct⟩ := h
  have hil := (List.getElem?_eq_some_iff.mp hc).1
  have him : i = m := by
    refine le_antisymm (not_lt.mp fun hlt => ?_) (not_lt.mp fun hlt => ?_)
    · have hd := List.getElem?_eq_getElem (hlt.trans hil)
      exact lt_irrefl m ((hnamed m _ hd).mp (hfirst m hlt _ hd).1)
    · rw [(hnamed i c hc).mpr hlt] at hempty
      exact Bool.false_ne_true hempty
  have hother : ∀ d ∈ grp.conns, (name d).isEmpty = false → name d ≠ clientName := by
    intro d hd hd'
    obtain ⟨j, hj⟩ := List.mem_iff_getElem?.mp hd
    exact (hfirst j (him ▸ (hnamed j d hj).mp hd') d hj).2
  refine ⟨hperm, hlive, ⟨m + 1, hm.trans (Nat.le_succ m), fun j d hd => ?_⟩,
    fun x hx y hy hxn hxy => ?_⟩
  · by_cases hdc : d = c
    · subst hdc
      rw [Function.update_self, hinj hd hc, him]
      exact ⟨fun _ => Nat.lt_succ_self m, fun _ => hne⟩
    · have hjm : j ≠ m := by
        rintro rfl
        rw [him, hd] at hc
        exact hdc (Option.some.inj hc)
      rw [Function.update_of_ne hdc, hnamed j d hd, Nat.lt_succ_iff_lt_or_eq, or_iff_left hjm]
  · by_cases hxc : x = c <;> by_cases hyc : y = c
    · rw [hxc, hyc]
    · subst hxc
      rw [Function.update_self, Function.update_of_ne hyc] at hxy
      exact absurd hxy.symm (hother y hy (by rw [← hxy]; exact hne))
    · subst hyc
      rw [Function.update_self, Function.update_of_ne hxc] at hxy
      rw [Function.update_of_ne hxc] at hxn
      exact absurd hxy (hother x hx hxn)
    · rw [Function.update_of_ne hxc, Function.update_of_ne hyc] at hxy
      rw [Function.update_of_ne hxc] at hxn
      exact hdistinct x hx y hy hxn hxy

/-- Two named connections change places, and the border moves within the named ones. -/
lemma swap {j d n : Nat} (h : Slots own grp name) (hc : grp.conns[i]? = some c)
    (hd : grp.conns[j]? = some d) (hcn : (name c).isEmpty = false)
    (hdn : (name d).isEmpty = false) (hn : n ≤ grp.conns.length)
    (hnm : ∀ m, grp.liveCnt ≤ m → i < m → n ≤ m) :
    Slots own { grp.swap i j with liveCnt := n } name := by
  obtain ⟨hperm, hlive, ⟨m, hm, hnamed⟩, hdistinct⟩ := h
  have hswap := ConnectionGroup.swap_perm hc hd
  have him := (hnamed i c hc).mp hcn
  have hjm := (hnamed j d hd).mp hdn
  refine ⟨hswap.trans hperm, ?_, ⟨m, hnm m hm him, fun k e he => ?_⟩, fun x hx y hy => ?_⟩
  · show n ≤ (grp.swap i j).conns.length
    rw [ConnectionGroup.length_swap]
    exact hn
  · have he' : (grp.swap i j).conns[k]? = some e := he
    rw [ConnectionGroup.getElem?_swap hc hd] at he'
    rw [hnamed _ e he', ConnectionGroup.swap_lt_iff him hjm]
  · exact hdistinct x (hswap.mem_iff.mp hx) y (hswap.mem_iff.mp hy)

lemma live_named (h : Slots own grp name) (hi : i < grp.liveCnt) (hc : grp.conns[i]? = some c) :
    (name c).isEmpty = false := by
  obtain ⟨m, hm, hnamed⟩ := h.named
  exact (hnamed i c hc).mpr (hi.trans_le hm)

lemma goLive (h : Slots own grp name) (hi : grp.liveCnt ≤ i) (hc : grp.conns[i]? = some c)
    (hcn : (name c).isEmpty = false) : Slots own (grp.goLive i) name := by
  have hil := (List.getElem?_eq_some_iff.mp hc).1
  have hd := List.getElem?_eq_getElem (hi.trans_lt hil)
  refine h.swap hc hd hcn ?_ (Nat.succ_le_of_lt (hi.trans_lt hil)) fun m _ him =>
    Nat.succ_le_of_lt (hi.trans_lt him)
  obtain ⟨m, -, hnamed⟩ := h.named
  exact (hnamed _ _ hd).mpr (hi.trans_lt ((hnamed i c hc).mp hcn))

lemma drop (h : Slots own grp name) (hi : i < grp.liveCnt) (hc : grp.conns[i]? = some c) :
    Slots own (grp.drop i) name := by
  have hlast : grp.liveCnt - 1 < grp.liveCnt := Nat.sub_one_lt_of_lt hi
  have hd := List.getElem?_eq_getElem (hlast.trans_le h.live_le)
  exact h.swap hc hd (h.live_named hi hc) (h.live_named hlast hd) (hlast.le.trans h.live_le)
    fun m hm _ => hlast.le.trans hm

lemma live_nodup (hown : own.Nodup) (h : Slots own grp name) : grp.live.Nodup :=
  (h.perm.nodup_iff.mpr hown).sublist (List.take_sublist _ _)

end Slots

/-! ### The pool -/

namespace ServerConf

variable {K : ServerConf} {gid gid' : GroupId} {c : Nat}

lemma slice_nodup (K : ServerConf) (gid : GroupId) : (K.slice gid).Nodup := by
  unfold slice
  split_ifs
  · exact List.nodup_range'
  · exact List.nodup_range'

lemma mem_groupIds :
    gid ∈ K.groupIds ↔ gid.idx < if gid.useShm then K.maxShmGrps else K.maxTcpGrps := by
  obtain ⟨_ | _, idx⟩ := gid <;> simp [groupIds]

lemma eq_of_mem_range' {n i j c : Nat} (hi : c ∈ List.range' (i * n) n)
    (hj : c ∈ List.range' (j * n) n) : i = j := by
  rw [List.mem_range'_1] at hi hj
  rw [← Nat.succ_mul] at hi hj
  exact (Nat.div_eq_of_lt_le hi.1 hi.2).symm.trans (Nat.div_eq_of_lt_le hj.1 hj.2)

lemma shm_slice_lt {idx : Nat} (hidx : idx < K.maxShmGrps)
    (hc : c ∈ List.range' (idx * K.maxShmConnsPerGrp) K.maxShmConnsPerGrp) :
    c < K.maxShmGrps * K.maxShmConnsPerGrp := by
  rw [List.mem_range'_1, ← Nat.succ_mul] at hc
  exact hc.2.trans_le (Nat.mul_le_mul_right _ hidx)

/-- No connection is given to two groups. -/
theorem slice_disjoint (hg : gid ∈ K.groupIds) (hg' : gid' ∈ K.groupIds) (hc : c ∈ K.slice gid)
    (hc' : c ∈ K.slice gid') : gid = gid' := by
  rw [mem_groupIds] at hg hg'
  obtain ⟨_ | _, idx⟩ := gid <;> obtain ⟨_ | _, idx'⟩ := gid' <;>
    simp only [slice, if_true, Bool.false_eq_true, if_false] at hg hg' hc hc'
  · rw [List.mem_range'_1, Nat.add_assoc] at hc hc'
    have hsub : ∀ {j}, K.maxShmGrps * K.maxShmConnsPerGrp + j * K.maxTcpConnsPerGrp ≤ c ∧
        c < K.maxShmGrps * K.maxShmConnsPerGrp + (j * K.maxTcpConnsPerGrp + K.maxTcpConnsPerGrp) →
        c - K.maxShmGrps * K.maxShmConnsPerGrp ∈
          List.range' (j * K.maxTcpConnsPerGrp) K.maxTcpConnsPerGrp := by
      intro j hj
      rw [List.mem_range'_1]
      omega
    rw [eq_of_mem_range' (hsub hc) (hsub hc')]
  · have hlt := shm_slice_lt hg' hc'
    rw [List.mem_range'_1] at hc
    omega
  · have hlt := shm_slice_lt hg hc
    rw [List.mem_range'_1] at hc'
    omega
  · rw [eq_of_mem_range' hc hc']

end ServerConf

end Tcpshm
