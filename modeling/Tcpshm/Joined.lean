import Mathlib.Data.List.Basic

/-!
# Two texts joined by a separator

The joined text does not always tell what it was joined from: it can be cut at any separator in it.
-/

namespace Joined

variable {α : Type*} {sep : α} {a b c d : List α}

/-- `a` and `b` with `sep` in between. -/
def join (sep : α) (a b : List α) : List α := a ++ sep :: b

/-- `c` and `d` are `a` and `b` with a part of `b`, up to a separator in it, moved to `a`. -/
def Moves (sep : α) (a b c d : List α) : Prop := ∃ m, c = join sep a m ∧ b = join sep m d

/-- The same text, cut at the same separator, at a later one or at an earlier one. -/
def Confused (sep : α) (a b c d : List α) : Prop :=
  (a = c ∧ b = d) ∨ Moves sep a b c d ∨ Moves sep c d a b

theorem join_eq_iff : join sep a b = join sep c d ↔ Confused sep a b c d := by
  unfold Confused Moves join
  rw [List.append_eq_append_iff]
  constructor
  · rintro (⟨m, hc, hb⟩ | ⟨m, ha, hd⟩)
    · cases m with
      | nil =>
        simp only [List.append_nil, List.nil_append, List.cons.injEq, true_and] at hc hb
        exact Or.inl ⟨hc.symm, hb⟩
      | cons x m =>
        obtain ⟨rfl, rfl⟩ := List.cons.inj hb
        exact Or.inr (Or.inl ⟨m, hc, rfl⟩)
    · cases m with
      | nil =>
        simp only [List.append_nil, List.nil_append, List.cons.injEq, true_and] at ha hd
        exact Or.inl ⟨ha, hd.symm⟩
      | cons x m =>
        obtain ⟨rfl, rfl⟩ := List.cons.inj hd
        exact Or.inr (Or.inr ⟨m, ha, rfl⟩)
  · rintro (⟨rfl, rfl⟩ | ⟨m, rfl, rfl⟩ | ⟨m, rfl, rfl⟩)
    · exact Or.inl ⟨[], by simp⟩
    · exact Or.inl ⟨_, rfl, rfl⟩
    · exact Or.inr ⟨_, rfl, rfl⟩

/-- No part can be moved out of a text without separators. -/
lemma Confused.eq_of_not_mem (hb : sep ∉ b) (hd : sep ∉ d) (h : Confused sep a b c d) :
    a = c ∧ b = d := by
  rcases h with h | ⟨m, -, rfl⟩ | ⟨m, -, rfl⟩
  · exact h
  · exact absurd (List.mem_append_right m List.mem_cons_self) hb
  · exact absurd (List.mem_append_right m List.mem_cons_self) hd

end Joined
