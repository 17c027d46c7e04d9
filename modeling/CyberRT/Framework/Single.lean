import Mathlib.Logic.Function.Basic

/-! # One of a kind

    Things of many kinds are spread over many places: `n k p` is how often
    the kind `k` is found at the place `p`. A kind is single when it is found once
    altogether. Things come, go and move one at a time. -/

namespace CyberRT.Framework

universe u v

variable {K : Type u} {P : Type v}

/-- It is not found anywhere. -/
def Nowhere (n : P → Nat) : Prop :=
  ∀ q, n q = 0

theorem Nowhere.mono {n n' : P → Nat} (h : Nowhere n) (hle : ∀ q, n' q ≤ n q) : Nowhere n' := by
  intro q
  have hq := hle q
  rw [h q] at hq
  exact Nat.le_zero.mp hq

variable [DecidableEq P]

/-- It is found once, at one place. -/
def Single (n : P → Nat) : Prop :=
  ∃ p, ∀ q, n q = if q = p then 1 else 0

theorem Single.not_nowhere {n : P → Nat} (h : Single n) : ¬ Nowhere n := by
  intro hno
  obtain ⟨p, hp⟩ := h
  have hone := hp p
  rw [hno p, if_pos rfl] at hone
  exact Nat.zero_ne_one hone

variable [DecidableEq K]

/-- In `n'` there is one more of the kind `k`, at the place `p`. -/
def OneMore (n n' : K → P → Nat) (k : K) (p : P) : Prop :=
  ∀ x q, n' x q = n x q + if x = k ∧ q = p then 1 else 0

/-! ## Section 1: One comes or goes -/

namespace OneMore

variable {n n' : K → P → Nat} {k : K} {p : P}

theorem other (h : OneMore n n' k p) {x : K} (hx : x ≠ k) : n' x = n x := by
  funext q
  rw [h x q, if_neg fun hxq => hx hxq.1, Nat.add_zero]

theorem self (h : OneMore n n' k p) (q : P) : n' k q = n k q + if q = p then 1 else 0 := by
  rw [h k q]
  by_cases hq : q = p
  · rw [if_pos ⟨rfl, hq⟩, if_pos hq]
  · rw [if_neg fun hkq => hq hkq.2, if_neg hq]

/-- **Put**: the first one comes. -/
theorem put (h : OneMore n n' k p) (hno : Nowhere (n k)) : Single (n' k) := by
  refine ⟨p, fun q => ?_⟩
  rw [h.self q, hno q, Nat.zero_add]

/-- **Take**: the only one goes. -/
theorem take (h : OneMore n n' k p) (hone : Single (n' k)) : Nowhere (n k) := by
  obtain ⟨p₀, hp₀⟩ := hone
  have hp : p = p₀ := by
    by_contra hne
    have hself := h.self p
    rw [hp₀ p, if_neg hne, if_pos rfl] at hself
    exact Nat.succ_ne_zero _ hself.symm
  intro q
  have hq := h.self q
  rw [hp₀ q, hp] at hq
  omega

theorem nowhere (h : OneMore n n' k p) {x : K} (hno : Nowhere (n' x)) : Nowhere (n x) := by
  apply hno.mono
  intro q
  rw [h x q]
  exact Nat.le_add_right _ _

theorem not_nowhere (h : OneMore n n' k p) : ¬ Nowhere (n' k) := by
  intro hno
  have hself := h.self p
  rw [hno p, if_pos rfl] at hself
  exact Nat.succ_ne_zero _ hself.symm

end OneMore

/-! ## Section 2: What is kept -/

/-- The kinds that are to be kept stay single, and none comes from nowhere. -/
structure Keeps (kept : K → Prop) (n n' : K → P → Nat) : Prop where
  single  : ∀ x, kept x → Single (n x) → Single (n' x)
  nowhere : ∀ x, Nowhere (n x) → Nowhere (n' x)

namespace Keeps

variable {kept : K → Prop} {n n' m : K → P → Nat} {k : K} {p p' : P}

omit [DecidableEq K] in
theorem of_eq (heq : n' = n) : Keeps kept n n' := by
  rw [heq]
  exact ⟨fun _ _ hone => hone, fun _ hno => hno⟩

/-- **Move**: one goes from `p` to `p'`; `m` is what is found in between. -/
theorem move (htake : OneMore m n k p) (hput : OneMore m n' k p') : Keeps kept n n' := by
  constructor
  · intro x _ hone
    by_cases hx : x = k
    · subst hx
      exact hput.put (htake.take hone)
    · rw [hput.other hx, ← htake.other hx]
      exact hone
  · intro x hno
    by_cases hx : x = k
    · subst hx
      exact absurd hno htake.not_nowhere
    · rw [hput.other hx, ← htake.other hx]
      exact hno

/-- **Drop**: one goes whose kind need not be kept. -/
theorem drop (htake : OneMore n' n k p) (hk : ¬ kept k) : Keeps kept n n' := by
  constructor
  · intro x hkept hone
    have hx : x ≠ k := fun heq => hk (heq ▸ hkept)
    rw [← htake.other hx]
    exact hone
  · exact fun x hno => htake.nowhere hno

end Keeps

end CyberRT.Framework
