import Mathlib.Logic.Equiv.Basic
import Tcpshm.Server.Basic

/-!
# Connection groups

The live connections of a group stand first. A logon and a disconnect swap two entries and move the
border between them.
-/

namespace Tcpshm.ConnectionGroup

variable {grp : ConnectionGroup} {i j k c d : Nat}

/-! ### Swapping -/

lemma getD_conns (hi : grp.conns[i]? = some c) : grp.conns.getD i 0 = c := by
  rw [List.getD_eq_getElem?_getD, hi, Option.getD_some]

lemma length_swap (i j : Nat) : (grp.swap i j).conns.length = grp.conns.length := by
  simp only [swap, List.length_set]

lemma swap_conns (hi : grp.conns[i]? = some c) (hj : grp.conns[j]? = some d) :
    (grp.swap i j).conns = (grp.conns.set i d).set j c := by
  rw [swap, getD_conns hi, getD_conns hj]

lemma swap_perm (hi : grp.conns[i]? = some c) (hj : grp.conns[j]? = some d) :
    (grp.swap i j).conns.Perm grp.conns := by
  rw [swap_conns hi hj]
  obtain ⟨hil, rfl⟩ := List.getElem?_eq_some_iff.mp hi
  obtain ⟨hjl, rfl⟩ := List.getElem?_eq_some_iff.mp hj
  exact List.set_set_perm hil hjl

lemma getElem?_swap (hi : grp.conns[i]? = some c) (hj : grp.conns[j]? = some d) (k : Nat) :
    (grp.swap i j).conns[k]? = grp.conns[Equiv.swap i j k]? := by
  have hil := (List.getElem?_eq_some_iff.mp hi).1
  have hjl := (List.getElem?_eq_some_iff.mp hj).1
  rw [swap_conns hi hj, List.getElem?_set, List.getElem?_set, Equiv.swap_apply_def, List.length_set]
  by_cases hki : k = i
  · subst hki
    by_cases hkj : k = j
    · subst hkj
      rw [if_pos rfl, if_pos hil, if_pos rfl, hi]
    · rw [if_neg (Ne.symm hkj), if_pos rfl, if_pos hil, if_pos rfl, hj]
  by_cases hkj : k = j
  · subst hkj
    rw [if_pos rfl, if_pos hjl, if_neg hki, if_pos rfl, hi]
  · rw [if_neg (Ne.symm hkj), if_neg (Ne.symm hki), if_neg hki, if_neg hkj]

lemma swap_lt_iff {m : Nat} (hi : i < m) (hj : j < m) : Equiv.swap i j k < m ↔ k < m := by
  rw [Equiv.swap_apply_def]
  split_ifs with h h'
  · simp only [h, hi, hj]
  · simp only [h', hi, hj]
  · rfl

/-! ### The live connections -/

lemma mem_live (hi : i < grp.liveCnt) (hc : grp.conns[i]? = some c) : c ∈ grp.live := by
  have h : grp.live[i]? = some c := by rw [live, List.getElem?_take_of_lt hi, hc]
  exact List.mem_of_getElem? h

lemma live_subset (h : c ∈ grp.live) : c ∈ grp.conns := List.mem_of_mem_take h

lemma length_live (h : grp.liveCnt ≤ grp.conns.length) : grp.live.length = grp.liveCnt := by
  rw [live, List.length_take, min_eq_left h]

lemma goLive_live (hi : grp.liveCnt ≤ i) (hc : grp.conns[i]? = some c) :
    (grp.goLive i).live = grp.live ++ [c] := by
  have hil := (List.getElem?_eq_some_iff.mp hc).1
  have hn : grp.liveCnt < grp.conns.length := hi.trans_lt hil
  have hd : grp.conns[grp.liveCnt]? = some grp.conns[grp.liveCnt] := List.getElem?_eq_getElem hn
  have hlast : (grp.swap i grp.liveCnt).conns[grp.liveCnt]? = some c := by
    rw [getElem?_swap hc hd, Equiv.swap_apply_right, hc]
  have htake : (grp.swap i grp.liveCnt).conns.take grp.liveCnt = grp.live := by
    rw [swap_conns hc hd, List.take_set_of_le (le_refl _), List.take_set_of_le hi, live]
  show (grp.swap i grp.liveCnt).conns.take (grp.liveCnt + 1) = grp.live ++ [c]
  rw [List.take_add_one, hlast, htake, Option.toList_some]

lemma drop_take (hi : i < grp.liveCnt) (hn : grp.liveCnt ≤ grp.conns.length) :
    (grp.drop i).live.take i = grp.live.take i := by
  have hc := List.getElem?_eq_getElem (hi.trans_le hn)
  have hd : grp.conns[grp.liveCnt - 1]? = some grp.conns[grp.liveCnt - 1] :=
    List.getElem?_eq_getElem (by omega)
  show ((grp.swap i (grp.liveCnt - 1)).conns.take (grp.liveCnt - 1)).take i = _
  rw [live, List.take_take, List.take_take, min_eq_left (by omega), min_eq_left hi.le,
    swap_conns hc hd, List.take_set_of_le (by omega), List.take_set_of_le (le_refl _)]

lemma drop_live (hi : i < grp.liveCnt) (hn : grp.liveCnt ≤ grp.conns.length)
    (hc : grp.conns[i]? = some c) : (c :: (grp.drop i).live).Perm grp.live := by
  have hd : grp.conns[grp.liveCnt - 1]? = some grp.conns[grp.liveCnt - 1] :=
    List.getElem?_eq_getElem (by omega)
  have hlast : (grp.swap i (grp.liveCnt - 1)).conns[grp.liveCnt - 1]? = some c := by
    rw [getElem?_swap hc hd, Equiv.swap_apply_right, hc]
  have htake : (grp.swap i (grp.liveCnt - 1)).conns.take grp.liveCnt =
      (grp.drop i).live ++ [c] := by
    show _ = (grp.swap i (grp.liveCnt - 1)).conns.take (grp.liveCnt - 1) ++ [c]
    obtain ⟨n, hcnt⟩ := Nat.exists_eq_add_one_of_ne_zero (Nat.ne_zero_of_lt hi)
    rw [hcnt, Nat.add_sub_cancel] at hlast ⊢
    rw [List.take_add_one, hlast, Option.toList_some]
  have hperm : ((grp.swap i (grp.liveCnt - 1)).conns.take grp.liveCnt).Perm grp.live := by
    have hget : ∀ {k d}, k < grp.liveCnt → grp.conns[k]? = some d → ∃ h : k < grp.live.length,
        grp.live[k] = d := by
      intro k d hk hd
      refine List.getElem?_eq_some_iff.mp ?_
      rw [live, List.getElem?_take_of_lt hk, hd]
    obtain ⟨hil, hic⟩ := hget hi hc
    obtain ⟨hjl, hjd⟩ := hget (Nat.sub_one_lt_of_lt hi) hd
    rw [swap_conns hc hd, List.take_set, List.take_set, ← hic, ← hjd]
    exact List.set_set_perm hil hjl
  rw [htake] at hperm
  exact (List.perm_append_singleton c _).symm.trans hperm

lemma live_drop (hi : i < grp.liveCnt) (hn : grp.liveCnt ≤ grp.conns.length)
    (hc : grp.conns[i]? = some c) : grp.live.drop i = c :: grp.live.drop (i + 1) := by
  have hil : i < grp.live.length := (length_live hn).symm ▸ hi
  have hget : grp.live[i] = c := by
    apply Option.some.inj
    rw [← List.getElem?_eq_getElem hil, live, List.getElem?_take_of_lt hi, hc]
  rw [List.drop_eq_getElem_cons hil, hget]

/-- What remains to be visited after a connection was removed. -/
lemma drop_live_drop (hi : i < grp.liveCnt) (hn : grp.liveCnt ≤ grp.conns.length)
    (hc : grp.conns[i]? = some c) :
    ((grp.drop i).live.drop i).Perm (grp.live.drop (i + 1)) := by
  have hperm := drop_live hi hn hc
  rw [← List.take_append_drop i grp.live, live_drop hi hn hc,
    ← List.take_append_drop i (grp.drop i).live, drop_take hi hn] at hperm
  have hmid : (grp.live.take i ++ c :: grp.live.drop (i + 1)).Perm
      (c :: (grp.live.take i ++ grp.live.drop (i + 1))) := List.perm_middle
  exact (List.perm_append_left_iff _).mp ((List.perm_cons c).mp (hperm.trans hmid))

end Tcpshm.ConnectionGroup
