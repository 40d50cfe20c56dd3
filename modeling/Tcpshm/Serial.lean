import Mathlib

/-!
# Serial number arithmetic

A 32-bit counter is compared through the sign of a 32-bit difference. When the counters stand for
unbounded ones that are less than `2 ^ 31` apart, the sign is that of the unbounded difference.
-/

namespace UInt32

/-- `static_cast<int>` of a 32-bit word. -/
def asInt (x : UInt32) : Int := x.toInt32.toInt

lemma asInt_eq (x : UInt32) :
    x.asInt = if x.toNat < 2 ^ 31 then (x.toNat : Int) else x.toNat - 2 ^ 32 := by
  have h : x.asInt = x.toBitVec.toInt := rfl
  rw [h, BitVec.toInt_eq_toNat_cond, UInt32.toNat_toBitVec]
  split_ifs <;> omega

lemma asInt_nonneg_iff (x : UInt32) : 0 ≤ x.asInt ↔ x.toNat < 2 ^ 31 := by
  have := x.toNat_lt
  rw [asInt_eq]
  split_ifs <;> omega

lemma asInt_nonpos_iff (x : UInt32) : x.asInt ≤ 0 ↔ x.toNat = 0 ∨ 2 ^ 31 ≤ x.toNat := by
  have := x.toNat_lt
  rw [asInt_eq]
  split_ifs <;> omega

lemma asInt_pos_iff (x : UInt32) : 0 < x.asInt ↔ 0 < x.toNat ∧ x.toNat < 2 ^ 31 := by
  have := x.toNat_lt
  rw [asInt_eq]
  split_ifs <;> omega

/-- A sum that fits is the sum of the values. -/
lemma toNat_add_of_lt {a b : UInt32} (h : a.toNat + b.toNat < 2 ^ 32) :
    (a + b).toNat = a.toNat + b.toNat := by
  rw [UInt32.toNat_add, Nat.mod_eq_of_lt h]

lemma toNat_sub_of_le' {a b : UInt32} (h : b.toNat ≤ a.toNat) :
    (a - b).toNat = a.toNat - b.toNat :=
  UInt32.toNat_sub_of_le a b (UInt32.le_iff_toNat_le.mpr h)

lemma toNat_ofNat_lt {n : Nat} (h : n < 2 ^ 32) : (UInt32.ofNat n).toNat = n := by
  rw [toNat_ofNat', Nat.mod_eq_of_lt h]

/-- `& -8` rounds down to a multiple of 8. -/
lemma toNat_and_neg_eight (a : UInt32) : (a &&& 0xFFFFFFF8).toNat = a.toNat / 8 * 8 := by
  have hmask : (0xFFFFFFF8 : UInt32).toNat = (2 ^ 29 - 1) <<< 3 := by decide
  have hshift : a.toNat / 8 * 8 = a.toNat >>> 3 <<< 3 := by
    rw [Nat.shiftRight_eq_div_pow, Nat.shiftLeft_eq]
  rw [UInt32.toNat_and, hmask, hshift]
  apply Nat.eq_of_testBit_eq
  intro i
  rw [Nat.testBit_and, Nat.testBit_shiftLeft, Nat.testBit_shiftLeft, Nat.testBit_shiftRight,
    Nat.testBit_two_pow_sub_one]
  by_cases hi : 3 ≤ i
  · by_cases hlt : i < 32
    · simp [hi, show i - 3 < 29 by omega]
    · have hfalse : a.toNat.testBit i = false :=
        Nat.testBit_lt_two_pow (a.toNat_lt.trans_le (Nat.pow_le_pow_right (by omega) (by omega)))
      simp [hi, hfalse]
  · simp [hi]

/-! ### Counters -/

/-- The distance between two counters is the distance of what they count. -/
lemma toNat_ofNat_sub_ofNat {a b : Nat} (h : b ≤ a) (h' : a < b + 2 ^ 32) :
    (UInt32.ofNat a - UInt32.ofNat b).toNat = a - b := by
  rw [UInt32.toNat_sub, toNat_ofNat', toNat_ofNat']
  omega

/-- Counters less than `2 ^ 31` apart compare as what they count. -/
lemma asInt_ofNat_sub_ofNat {a b : Nat} (h : a < b + 2 ^ 31) (h' : b ≤ a + 2 ^ 31) :
    (UInt32.ofNat a - UInt32.ofNat b).asInt = (a : Int) - b := by
  rw [asInt_eq, UInt32.toNat_sub, toNat_ofNat', toNat_ofNat']
  split_ifs <;> omega

lemma ofNat_succ (n : Nat) : UInt32.ofNat (n + 1) = UInt32.ofNat n + 1 :=
  UInt32.ofNat_add n 1

end UInt32
