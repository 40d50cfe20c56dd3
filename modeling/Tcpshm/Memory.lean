import Mathlib

/-!
# Flat memories

A memory is a total map from addresses to cells. Objects with a fixed extent live in a range of
addresses, and the lemmas below describe ranges: what a write leaves in a range it covers, and
that it leaves a disjoint range alone.
-/

/-- A memory of cells of type `α`. -/
abbrev Mem (α : Type*) := Nat → α

namespace Mem

variable {α β : Type*}

/-- The `n` cells from address `a` on. -/
def slice (m : Mem α) : Nat → Nat → List α
  | _, 0 => []
  | a, n + 1 => m a :: slice m (a + 1) n

/-- Store the cells `xs` from address `a` on. -/
def write (m : Mem α) (a : Nat) (xs : List α) : Mem α :=
  fun i => if a ≤ i then xs.getD (i - a) (m i) else m i

/-- `memmove` of `n` cells: the source is read before the destination is written. -/
def move (m : Mem α) (dst src n : Nat) : Mem α :=
  m.write dst (m.slice src n)

/-! ### Slices -/

@[simp] lemma slice_zero (m : Mem α) (a : Nat) : m.slice a 0 = [] := rfl

lemma slice_succ (m : Mem α) (a n : Nat) : m.slice a (n + 1) = m a :: m.slice (a + 1) n := rfl

@[simp] lemma length_slice (m : Mem α) (a n : Nat) : (m.slice a n).length = n := by
  induction n generalizing a with
  | zero => rfl
  | succ n ih => simp [slice_succ, ih]

lemma slice_add (m : Mem α) (a n k : Nat) :
    m.slice a (n + k) = m.slice a n ++ m.slice (a + n) k := by
  induction n generalizing a with
  | zero => simp
  | succ n ih =>
    rw [show n + 1 + k = (n + k) + 1 by omega, slice_succ, slice_succ, ih,
      show a + 1 + n = a + (n + 1) by omega, List.cons_append]

lemma getElem?_slice (m : Mem α) (a n i : Nat) :
    (m.slice a n)[i]? = if i < n then some (m (a + i)) else none := by
  induction n generalizing a i with
  | zero => simp
  | succ n ih =>
    cases i with
    | zero => simp [slice_succ]
    | succ i =>
      rw [slice_succ, List.getElem?_cons_succ, ih, show a + 1 + i = a + (i + 1) by omega]
      simp

lemma getElem_slice (m : Mem α) (a n i : Nat) (h : i < (m.slice a n).length) :
    (m.slice a n)[i] = m (a + i) := by
  have hi : i < n := by simpa using h
  have := getElem?_slice m a n i
  rw [if_pos hi, List.getElem?_eq_getElem h] at this
  exact Option.some.inj this

lemma slice_congr {m m' : Mem α} {a n : Nat} (h : ∀ i, a ≤ i → i < a + n → m i = m' i) :
    m.slice a n = m'.slice a n := by
  induction n generalizing a with
  | zero => rfl
  | succ n ih =>
    rw [slice_succ, slice_succ, h a (by omega) (by omega),
      ih fun i h₁ h₂ => h i (by omega) (by omega)]

lemma take_slice (m : Mem α) (a n k : Nat) (h : k ≤ n) : (m.slice a n).take k = m.slice a k := by
  obtain ⟨j, rfl⟩ := Nat.exists_eq_add_of_le h
  rw [slice_add, List.take_left' (length_slice m a k)]

lemma drop_slice (m : Mem α) (a n k : Nat) (h : k ≤ n) :
    (m.slice a n).drop k = m.slice (a + k) (n - k) := by
  obtain ⟨j, rfl⟩ := Nat.exists_eq_add_of_le h
  rw [slice_add, List.drop_left' (length_slice m a k), Nat.add_sub_cancel_left]

/-- A slice that spells out two lists is the first followed by the second. -/
lemma slice_eq_append {m : Mem α} {a n : Nat} {xs ys : List α} (h : m.slice a n = xs ++ ys) :
    m.slice a xs.length = xs ∧ m.slice (a + xs.length) (n - xs.length) = ys := by
  have hn : xs.length ≤ n := by
    have := congrArg List.length h
    simp at this
    omega
  rw [← take_slice m a n _ hn, ← drop_slice m a n _ hn, h]
  simp

lemma slice_append_slice {m : Mem α} {a n k : Nat} {xs ys : List α} (hx : m.slice a n = xs)
    (hy : m.slice (a + n) k = ys) : m.slice a (n + k) = xs ++ ys := by
  rw [slice_add, hx, hy]

/-! ### Writes -/

@[simp] lemma write_nil (m : Mem α) (a : Nat) : m.write a [] = m := by
  funext i
  simp [write]

lemma write_apply_of_lt {m : Mem α} {a i : Nat} {xs : List α} (h : i < a) :
    m.write a xs i = m i := by
  simp [write, Nat.not_le.mpr h]

lemma write_apply_of_le {m : Mem α} {a i : Nat} {xs : List α} (h : a + xs.length ≤ i) :
    m.write a xs i = m i := by
  have : xs.length ≤ i - a := by omega
  simp [write, List.getD, List.getElem?_eq_none this]

lemma write_apply_add {m : Mem α} {a i : Nat} {xs : List α} (h : i < xs.length) :
    m.write a xs (a + i) = xs[i] := by
  simp [write, List.getD, h]

@[simp] lemma write_singleton_self (m : Mem α) (a : Nat) (x : α) : m.write a [x] a = x := by
  simp [write]

lemma slice_write_self (m : Mem α) (a : Nat) (xs : List α) :
    (m.write a xs).slice a xs.length = xs := by
  apply List.ext_getElem (by simp)
  intro i _ hi
  rw [getElem_slice, write_apply_add hi]

/-- A range the write does not touch keeps its cells. -/
lemma slice_write_of_disjoint (m : Mem α) {a b n : Nat} {xs : List α}
    (h : b + n ≤ a ∨ a + xs.length ≤ b) : (m.write a xs).slice b n = m.slice b n := by
  apply slice_congr
  intro i h₁ h₂
  rcases h with h | h
  · exact write_apply_of_lt (by omega)
  · exact write_apply_of_le (by omega)

lemma write_append (m : Mem α) (a : Nat) (xs ys : List α) :
    m.write a (xs ++ ys) = (m.write a xs).write (a + xs.length) ys := by
  funext i
  by_cases h₁ : i < a
  · rw [write_apply_of_lt h₁, write_apply_of_lt (by omega), write_apply_of_lt h₁]
  by_cases h₂ : i < a + xs.length
  · obtain ⟨k, rfl⟩ := Nat.exists_eq_add_of_le (Nat.not_lt.mp h₁)
    have hk : k < xs.length := by omega
    rw [write_apply_add (by simp; omega), write_apply_of_lt h₂, write_apply_add hk,
      List.getElem_append_left hk]
  by_cases h₃ : i < a + (xs ++ ys).length
  · obtain ⟨k, rfl⟩ := Nat.exists_eq_add_of_le (Nat.not_lt.mp h₂)
    have hk : k < ys.length := by simp at h₃; omega
    rw [write_apply_add (a := a + xs.length) hk, Nat.add_assoc,
      write_apply_add (by simp; omega), List.getElem_append_right (by omega)]
    simp
  · have h₄ : a + xs.length + ys.length ≤ i := by simp at h₃; omega
    rw [write_apply_of_le (by omega), write_apply_of_le h₄, write_apply_of_le (by omega)]

/-- Rewriting a range with a list of the same length forgets the first write. -/
lemma write_write (m : Mem α) (a : Nat) {xs ys : List α} (h : xs.length = ys.length) :
    (m.write a xs).write a ys = m.write a ys := by
  funext i
  by_cases h₁ : i < a
  · rw [write_apply_of_lt h₁, write_apply_of_lt h₁, write_apply_of_lt h₁]
  by_cases h₂ : i < a + ys.length
  · obtain ⟨k, rfl⟩ := Nat.exists_eq_add_of_le (Nat.not_lt.mp h₁)
    rw [write_apply_add (by omega), write_apply_add (by omega)]
  · rw [write_apply_of_le (by omega), write_apply_of_le (by omega), write_apply_of_le (by omega)]

/-! ### Moves -/

lemma slice_move_self (m : Mem α) (dst src n : Nat) :
    (m.move dst src n).slice dst n = m.slice src n := by
  have := slice_write_self m dst (m.slice src n)
  rwa [length_slice] at this

end Mem
