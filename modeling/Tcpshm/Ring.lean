import Tcpshm.Memory

/-!
# Positions on a ring

An unbounded position `p` on a ring of `B` slots is the slot `p % B`. A stretch of positions that
does not run over the end of the ring is a stretch of slots, and positions less than a whole turn
apart are different slots.
-/

namespace Ring

variable {B p n i x y : Nat}

/-- The position of the next start of the ring after `p`. -/
def nextTurn (B p : Nat) : Nat := p + (B - p % B)

lemma mod_add_of_fits (h : p % B + n ≤ B) (hi : i < n) : (p + i) % B = p % B + i := by
  rw [Nat.add_mod, Nat.mod_eq_of_lt (show i < B by omega), Nat.mod_eq_of_lt (by omega)]

lemma nextTurn_mod (hB : 0 < B) : nextTurn B p % B = 0 := by
  have h := Nat.div_add_mod p B
  have hlt := Nat.mod_lt p hB
  have : nextTurn B p = B * (p / B + 1) := by
    rw [nextTurn, Nat.mul_add]
    omega
  rw [this, Nat.mul_mod_right]

lemma lt_nextTurn (hB : 0 < B) : p < nextTurn B p := by
  have := Nat.mod_lt p hB
  unfold nextTurn
  omega

lemma mod_ne_of_lt (h : x < y) (h' : y < x + B) : x % B ≠ y % B := by
  intro heq
  have hd : B ∣ y - x := (Nat.modEq_iff_dvd' h.le).mp heq
  have := Nat.le_of_dvd (by omega) hd
  omega

/-- Two stretches of the ring, one behind the other and within a turn, do not meet. -/
lemma disjoint_of_lt {k j : Nat} (hx : x % B + n ≤ B) (hy : y % B + k ≤ B) (h : x + n ≤ y)
    (h' : y + k ≤ x + B) (hi : i < n) (hj : j < k) : x % B + i ≠ y % B + j := by
  rw [← mod_add_of_fits hx hi, ← mod_add_of_fits hy hj]
  exact mod_ne_of_lt (by omega) (by omega)

end Ring
