import Mathlib.Logic.Equiv.Defs

/-! # Ownership of addresses

    Claims on addresses, such as a field that holds a pointer or a local
    variable that has the only copy of one. Memory is well kept when no two
    claims have one address and every claimed address is live. Claims may be
    handed on, come with fresh addresses and go when the address is freed. -/

namespace CyberRT.Framework

universe u v

variable {C : Type u} {A : Type v}

/-- Each address has one claim at most, and is live while it has one. -/
structure Owned (claims : C → A → Prop) (live : A → Prop) : Prop where
  alone : ∀ {c c' a}, claims c a → claims c' a → c = c'
  live  : ∀ {c a}, claims c a → live a

namespace Owned

variable {claims claims' fresh : C → A → Prop} {live live' : A → Prop}

/-- **Hand over**: claims are renamed, and some may be given up. -/
theorem move (h : Owned claims live) (σ : Equiv.Perm C)
    (hclaims : ∀ c a, claims' c a → claims (σ c) a) : Owned claims' live where
  alone hc hc' := σ.injective (h.alone (hclaims _ _ hc) (hclaims _ _ hc'))
  live hc := h.live (hclaims _ _ hc)

/-- **Allocation**: new claims have addresses that were not live. -/
theorem allocate (h : Owned claims live)
    (hclaims : ∀ c a, claims' c a → claims c a ∨ fresh c a)
    (hdead : ∀ c a, fresh c a → ¬ live a)
    (hfresh : ∀ c c' a, fresh c a → fresh c' a → c = c')
    (hlive : ∀ c a, claims c a ∨ fresh c a → live' a) : Owned claims' live' where
  alone {c c' a} hc hc' := by
    -- an old claim and a new one have no address in common
    rcases hclaims c a hc with hold | hnew
    · rcases hclaims c' a hc' with hold' | hnew'
      · exact h.alone hold hold'
      · exact absurd (h.live hold) (hdead c' a hnew')
    · rcases hclaims c' a hc' with hold' | hnew'
      · exact absurd (h.live hold') (hdead c a hnew)
      · exact hfresh c c' a hnew hnew'
  live {c a} hc := hlive c a (hclaims c a hc)

/-- **Deletion**: the address of a claim that is given up may be freed. -/
theorem free (h : Owned claims live) {gone : C} {freed : A} (hgone : claims gone freed)
    (hclaims : ∀ c a, claims' c a → claims c a ∧ c ≠ gone)
    (hlive : ∀ a, a ≠ freed → live a → live' a) : Owned claims' live' where
  alone hc hc' := h.alone (hclaims _ _ hc).1 (hclaims _ _ hc').1
  live {c a} hc := by
    obtain ⟨hold, hne⟩ := hclaims c a hc
    refine hlive a ?_ (h.live hold)
    rintro rfl
    exact hne (h.alone hold hgone)

end Owned

end CyberRT.Framework
