import Mathlib.Data.List.Basic
import Mathlib.Data.List.Induction
import Mathlib.Data.List.Nodup
import Mathlib.Logic.Function.Basic

/-!
# Descriptors and who holds them

A table says which descriptors are open, and as what. The numbers are used again, so that closing
one twice may close another one's. Where every open descriptor has exactly one holder, a holder can
open a free descriptor, hand its own on, and close it.
-/

namespace Descriptors

variable {κ δ η : Type*}

/-- A descriptor is opened as a `k`, or it is closed. -/
inductive Event (κ δ : Type*) where
  | opened (k : κ) (fd : δ)
  | closed (fd : δ)
deriving DecidableEq

def Event.fd : Event κ δ → δ
  | .opened _ fd => fd
  | .closed fd => fd

/-! ### Histories -/

/-- Nothing happens to `fd`. -/
def Untouched (es : List (Event κ δ)) (fd : δ) : Prop := ∀ e ∈ es, e.fd ≠ fd

/-- What happens to `fd` first is that it is closed, and it is not closed again before it is opened
again. -/
def ClosedOnce (es : List (Event κ δ)) (fd : δ) : Prop :=
  ∃ mid post, es = mid ++ .closed fd :: post ∧ Untouched mid fd ∧
    ∀ mid' post', post = mid' ++ .closed fd :: post' → ∃ k, Event.opened k fd ∈ mid'

/-- What happened to `fd` last is that it was opened as a `k`. -/
def OpenAs (es : List (Event κ δ)) (k : κ) (fd : δ) : Prop :=
  ∃ pre post, es = pre ++ .opened k fd :: post ∧ Untouched post fd

/-- The last event counts, where it is about the descriptor. -/
lemma openAs_append_singleton {es : List (Event κ δ)} {e : Event κ δ} {k : κ} {fd : δ} :
    OpenAs (es ++ [e]) k fd ↔ e = .opened k fd ∨ (e.fd ≠ fd ∧ OpenAs es k fd) := by
  constructor
  · rintro ⟨pre, post, heq, hpost⟩
    rcases List.eq_nil_or_concat post with rfl | ⟨post, e', rfl⟩
    · exact Or.inl (List.singleton_inj.mp (List.append_inj' heq rfl).2)
    · rw [List.concat_eq_append, ← List.cons_append, ← List.append_assoc] at heq
      obtain ⟨rfl, he⟩ := List.append_inj' heq rfl
      obtain rfl := List.singleton_inj.mp he
      exact Or.inr ⟨hpost e (by simp), pre, post, rfl, fun e' he' => hpost e' (by simp [he'])⟩
  · rintro (rfl | ⟨hfd, pre, post, rfl, hpost⟩)
    · exact ⟨es, [], rfl, fun e he => absurd he List.not_mem_nil⟩
    · refine ⟨pre, post ++ [e], by simp, fun e' he' => ?_⟩
      rcases List.mem_append.mp he' with he' | he'
      · exact hpost e' he'
      · rw [List.mem_singleton.mp he']
        exact hfd

/-! ### Tables -/

/-- What is open, and as what. -/
abbrev Table (κ δ : Type*) := δ → Option κ

section Run

variable [DecidableEq δ]

/-- A descriptor that is open is not opened again, and only one that is open is closed. -/
def step (t : Table κ δ) : Event κ δ → Option (Table κ δ)
  | .opened k fd => if (t fd).isNone then some (Function.update t fd (some k)) else none
  | .closed fd => if (t fd).isSome then some (Function.update t fd none) else none

def run (t : Table κ δ) (es : List (Event κ δ)) : Option (Table κ δ) := es.foldlM step t

variable {t t' : Table κ δ} {es es' : List (Event κ δ)} {e : Event κ δ} {k : κ} {fd : δ}

@[simp] lemma run_nil (t : Table κ δ) : run t [] = some t := rfl

lemma run_cons (t : Table κ δ) (e : Event κ δ) (es : List (Event κ δ)) :
    run t (e :: es) = (step t e).bind (run · es) := rfl

lemma run_append (t : Table κ δ) (es es' : List (Event κ δ)) :
    run t (es ++ es') = (run t es).bind (run · es') := by
  rw [run, List.foldlM_append]
  rfl

lemma step_of_ne (h : step t e = some t') (hfd : e.fd ≠ fd) : t' fd = t fd := by
  cases e with
  | opened k fd' =>
    simp only [step] at h
    split_ifs at h
    cases h
    exact Function.update_of_ne (Ne.symm hfd) _ _
  | closed fd' =>
    simp only [step] at h
    split_ifs at h
    cases h
    exact Function.update_of_ne (Ne.symm hfd) _ _

lemma step_opened (h : step t (.opened k fd) = some t') : t fd = none ∧ t' fd = some k := by
  simp only [step, Option.isNone_iff_eq_none] at h
  split_ifs at h with hfree
  cases h
  exact ⟨hfree, Function.update_self ..⟩

lemma step_closed (h : step t (.closed fd) = some t') : (t fd).isSome = true ∧ t' fd = none := by
  simp only [step] at h
  split_ifs at h with hopen
  cases h
  exact ⟨hopen, Function.update_self ..⟩

/-- What is not opened stays closed. -/
lemma run_none (h : run t es = some t') (ht : t fd = none) (hes : ∀ k, Event.opened k fd ∉ es) :
    t' fd = none := by
  induction es generalizing t with
  | nil =>
    cases h
    exact ht
  | cons e es ih =>
    rw [run_cons] at h
    obtain ⟨t₁, hstep, hrun⟩ := Option.bind_eq_some_iff.mp h
    refine ih hrun ?_ fun k hk => hes k (List.mem_cons_of_mem e hk)
    by_cases hfd : e.fd = fd
    · cases e with
      | opened k fd' =>
        obtain rfl : fd' = fd := hfd
        exact absurd List.mem_cons_self (hes k)
      | closed fd' =>
        obtain rfl : fd' = fd := hfd
        exact (step_closed hstep).2
    · rw [step_of_ne hstep hfd, ht]

/-- A closed descriptor is not closed before it is opened. -/
lemma run_reopened (h : run t es = some t') (ht : t fd = none) {mid post : List (Event κ δ)}
    (heq : es = mid ++ .closed fd :: post) : ∃ k, Event.opened k fd ∈ mid := by
  rw [heq, run_append] at h
  obtain ⟨t₁, hmid, hrest⟩ := Option.bind_eq_some_iff.mp h
  rw [run_cons] at hrest
  obtain ⟨t₂, hclose, -⟩ := Option.bind_eq_some_iff.mp hrest
  by_contra hno
  have hnone := run_none hmid ht fun k hk => hno ⟨k, hk⟩
  have hopen := (step_closed hclose).1
  rw [hnone] at hopen
  cases hopen

/-- An open descriptor stays so, or is closed once. -/
theorem run_of_open (h : run t es = some t') (ht : t fd = some k) :
    (Untouched es fd ∧ t' fd = some k) ∨ (ClosedOnce es fd ∧ ¬ Untouched es fd) := by
  induction es generalizing t with
  | nil =>
    cases h
    exact Or.inl ⟨fun e he => absurd he List.not_mem_nil, ht⟩
  | cons e es ih =>
    rw [run_cons] at h
    obtain ⟨t₁, hstep, hrun⟩ := Option.bind_eq_some_iff.mp h
    by_cases hfd : e.fd = fd
    · cases e with
      | opened k' fd' =>
        obtain rfl : fd' = fd := hfd
        rw [(step_opened hstep).1] at ht
        cases ht
      | closed fd' =>
        obtain rfl : fd' = fd := hfd
        have hnone := (step_closed hstep).2
        refine Or.inr ⟨⟨[], es, rfl, ?_, ?_⟩, ?_⟩
        · exact fun e he => absurd he List.not_mem_nil
        · exact fun mid' post' heq => run_reopened hrun hnone heq
        · exact fun hno => hno _ List.mem_cons_self rfl
    · have ht₁ : t₁ fd = some k := (step_of_ne hstep hfd).trans ht
      rcases ih hrun ht₁ with ⟨hun, ht'⟩ | ⟨⟨mid, post, heq, hmid, hpost⟩, hun⟩
      · refine Or.inl ⟨fun e' he' => ?_, ht'⟩
        rcases List.mem_cons.mp he' with rfl | he'
        · exact hfd
        · exact hun e' he'
      · refine Or.inr ⟨⟨e :: mid, post, by rw [heq, List.cons_append], ?_, hpost⟩, ?_⟩
        · intro e' he'
          rcases List.mem_cons.mp he' with rfl | he'
          · exact hfd
          · exact hmid e' he'
        · exact fun hno => hun fun e' he' => hno e' (List.mem_cons_of_mem e he')

/-- From where nothing is open, the table tells the last event. -/
theorem run_openAs (h : run (fun _ => none) es = some t) : t fd = some k ↔ OpenAs es k fd := by
  induction es using List.reverseRecOn generalizing t with
  | nil =>
    cases h
    constructor
    · exact fun hno => (nomatch hno)
    · rintro ⟨pre, post, heq, -⟩
      exact absurd (congrArg List.length heq) (by simp)
  | append_singleton es e ih =>
    rw [run_append] at h
    obtain ⟨t₁, hrun, hlast⟩ := Option.bind_eq_some_iff.mp h
    rw [run_cons] at hlast
    obtain ⟨t₂, hstep, hnil⟩ := Option.bind_eq_some_iff.mp hlast
    obtain rfl : t₂ = t := Option.some.inj hnil
    rw [openAs_append_singleton, ← ih hrun]
    by_cases hfd : e.fd = fd
    · cases e with
      | opened k' fd' =>
        obtain rfl : fd' = fd := hfd
        rw [(step_opened hstep).2]
        simp [Event.fd]
      | closed fd' =>
        obtain rfl : fd' = fd := hfd
        rw [(step_closed hstep).2]
        simp [Event.fd]
    · rw [step_of_ne hstep hfd]
      constructor
      · exact fun ht => Or.inr ⟨hfd, ht⟩
      · rintro (rfl | ⟨-, ht⟩)
        · exact absurd rfl hfd
        · exact ht

end Run

/-! ### Holders -/

/-- Every open descriptor has exactly one holder, and that is of its kind. -/
structure Owns (kind : η → κ) (holds : η → Option δ) (t : Table κ δ) : Prop where
  unique : ∀ h h' fd, holds h = some fd → holds h' = some fd → h = h'
  open_iff : ∀ k fd, t fd = some k ↔ ∃ h, kind h = k ∧ holds h = some fd

namespace Owns

variable {kind : η → κ} {holds : η → Option δ} {t : Table κ δ} {x y : η} {fd : δ}

lemma none (kind : η → κ) : Owns (δ := δ) kind (fun _ => Option.none) fun _ => Option.none := by
  refine ⟨fun _ _ _ h => (nomatch h), fun k fd => ⟨fun h => (nomatch h), ?_⟩⟩
  rintro ⟨h, -, hno⟩
  exact (nomatch hno)

lemma isOpen (h : Owns kind holds t) (hx : holds x = some fd) : t fd = some (kind x) :=
  (h.open_iff _ _).mpr ⟨x, rfl, hx⟩

variable [DecidableEq η]

/-- The holder hands its descriptor on, to one of the same kind that holds nothing. -/
lemma moved (h : Owns kind holds t) (hx : holds x = some fd) (hy : holds y = Option.none)
    (hkind : kind y = kind x) :
    Owns kind (Function.update (Function.update holds x Option.none) y (some fd)) t := by
  have hxy : x ≠ y := by
    rintro rfl
    rw [hx] at hy
    cases hy
  -- who holds `fd'` now
  have hholds : ∀ z fd', Function.update (Function.update holds x Option.none) y (some fd) z =
      some fd' ↔ (z = y ∧ fd = fd') ∨ (z ≠ y ∧ z ≠ x ∧ holds z = some fd') := by
    intro z fd'
    by_cases hzy : z = y
    · rw [hzy, Function.update_self]
      simp
    · rw [Function.update_of_ne hzy]
      by_cases hzx : z = x
      · rw [hzx, Function.update_self]
        simp [hxy]
      · rw [Function.update_of_ne hzx]
        simp [hzy, hzx]
  refine ⟨fun z z' fd' hz hz' => ?_, fun k fd' => ?_⟩
  · rw [hholds] at hz hz'
    rcases hz with ⟨rfl, rfl⟩ | ⟨-, hzx, hz⟩
    · rcases hz' with ⟨rfl, -⟩ | ⟨-, hz'x, hz'⟩
      · rfl
      · exact absurd (h.unique _ _ _ hz' hx) hz'x
    · rcases hz' with ⟨rfl, rfl⟩ | ⟨-, -, hz'⟩
      · exact absurd (h.unique _ _ _ hz hx) hzx
      · exact h.unique _ _ _ hz hz'
  · rw [h.open_iff]
    simp only [hholds]
    constructor
    · rintro ⟨z, hk, hz⟩
      by_cases hzx : z = x
      · subst hzx
        rw [hx] at hz
        exact ⟨y, hkind.trans hk, Or.inl ⟨rfl, Option.some.inj hz⟩⟩
      · refine ⟨z, hk, Or.inr ⟨?_, hzx, hz⟩⟩
        rintro rfl
        rw [hy] at hz
        cases hz
    · rintro ⟨z, hk, ⟨rfl, rfl⟩ | ⟨-, -, hz⟩⟩
      · exact ⟨x, hkind.symm.trans hk, hx⟩
      · exact ⟨z, hk, hz⟩

variable [DecidableEq δ]

/-- One that holds nothing opens a descriptor that is not open. -/
lemma opened (h : Owns kind holds t) (hx : holds x = Option.none) (hfd : t fd = Option.none) :
    ∃ t', step t (.opened (kind x) fd) = some t' ∧
      Owns kind (Function.update holds x (some fd)) t' := by
  have hstep : step t (.opened (kind x) fd) = some (Function.update t fd (some (kind x))) := by
    rw [step, hfd]
    rfl
  have hother : ∀ z, holds z ≠ some fd := by
    intro z hz
    rw [h.isOpen hz] at hfd
    cases hfd
  refine ⟨_, hstep, fun z z' fd' hz hz' => ?_, fun k fd' => ?_⟩
  · by_cases hzx : z = x <;> by_cases hz'x : z' = x
    · rw [hzx, hz'x]
    · rw [hzx, Function.update_self] at hz
      rw [Function.update_of_ne hz'x, ← hz] at hz'
      exact absurd hz' (hother z')
    · rw [hz'x, Function.update_self] at hz'
      rw [Function.update_of_ne hzx, ← hz'] at hz
      exact absurd hz (hother z)
    · rw [Function.update_of_ne hzx] at hz
      rw [Function.update_of_ne hz'x] at hz'
      exact h.unique _ _ _ hz hz'
  · by_cases hf : fd' = fd
    · subst hf
      rw [Function.update_self]
      constructor
      · intro hk
        exact ⟨x, Option.some.inj hk, Function.update_self ..⟩
      · rintro ⟨z, hk, hz⟩
        by_cases hzx : z = x
        · rw [← hk, hzx]
        · rw [Function.update_of_ne hzx] at hz
          exact absurd hz (hother z)
    · rw [Function.update_of_ne hf, h.open_iff]
      constructor
      · rintro ⟨z, hk, hz⟩
        refine ⟨z, hk, ?_⟩
        rw [Function.update_of_ne, hz]
        rintro rfl
        rw [hx] at hz
        cases hz
      · rintro ⟨z, hk, hz⟩
        by_cases hzx : z = x
        · rw [hzx, Function.update_self] at hz
          exact absurd (Option.some.inj hz).symm hf
        · rw [Function.update_of_ne hzx] at hz
          exact ⟨z, hk, hz⟩

/-- The holder closes its descriptor. -/
lemma closed (h : Owns kind holds t) (hx : holds x = some fd) :
    ∃ t', step t (.closed fd) = some t' ∧ Owns kind (Function.update holds x Option.none) t' := by
  have hstep : step t (.closed fd) = some (Function.update t fd Option.none) := by
    rw [step, h.isOpen hx]
    rfl
  have hholds : ∀ z fd', Function.update holds x Option.none z = some fd' ↔
      z ≠ x ∧ holds z = some fd' := by
    intro z fd'
    by_cases hzx : z = x
    · rw [hzx, Function.update_self]
      simp
    · rw [Function.update_of_ne hzx]
      simp [hzx]
  refine ⟨_, hstep, fun z z' fd' hz hz' => ?_, fun k fd' => ?_⟩
  · rw [hholds] at hz hz'
    exact h.unique _ _ _ hz.2 hz'.2
  · simp only [hholds]
    by_cases hf : fd' = fd
    · subst hf
      rw [Function.update_self]
      constructor
      · exact fun hno => (nomatch hno)
      · rintro ⟨z, -, hzx, hz⟩
        exact absurd (h.unique _ _ _ hz hx) hzx
    · rw [Function.update_of_ne hf, h.open_iff]
      constructor
      · rintro ⟨z, hk, hz⟩
        refine ⟨z, hk, ?_, hz⟩
        rintro rfl
        rw [hx] at hz
        exact hf (Option.some.inj hz).symm
      · rintro ⟨z, hk, -, hz⟩
        exact ⟨z, hk, hz⟩

/-- Some holders close what they hold, one after the other. -/
lemma closedAll (h : Owns kind holds t) (xs : List η) (hxs : xs.Nodup) :
    ∃ t', run t ((xs.filterMap holds).map .closed) = some t' ∧
      Owns kind (fun x => if x ∈ xs then Option.none else holds x) t' := by
  induction xs generalizing holds t with
  | nil => exact ⟨t, rfl, by simpa using h⟩
  | cons x xs ih =>
    rw [List.nodup_cons] at hxs
    obtain ⟨hx, hxs⟩ := hxs
    cases hfd : holds x with
    | none =>
      obtain ⟨t', hrun, ho⟩ := ih h hxs
      rw [List.filterMap_cons_none hfd]
      refine ⟨t', hrun, ?_⟩
      convert ho using 2 with y
      by_cases hy : y = x
      · simp [hy, hx, hfd]
      · simp [hy]
    | some fd =>
      obtain ⟨t₁, hstep, ho₁⟩ := h.closed hfd
      obtain ⟨t', hrun, ho⟩ := ih ho₁ hxs
      have hsame : xs.filterMap (Function.update holds x Option.none) = xs.filterMap holds := by
        refine List.filterMap_congr fun y hy => Function.update_of_ne ?_ _ _
        rintro rfl
        exact hx hy
      rw [hsame] at hrun
      rw [List.filterMap_cons_some hfd, List.map_cons, run_cons, hstep]
      refine ⟨t', hrun, ?_⟩
      convert ho using 2 with y
      by_cases hy : y = x
      · simp [hy]
      · simp [hy]

end Owns

end Descriptors
