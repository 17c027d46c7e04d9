import CyberRT.Framework.System

/-! # Components over a shared state

    Any number of copies of one component run in parallel. A copy sees the
    shared state and its own local state, and each of its steps changes
    nothing else.

    * **Parallel composition**: a step of the whole is a step of one copy.
    * **Rely-guarantee**: what a copy knows survives the steps of the
      others as soon as every step of every copy keeps a common relation
      between the shared states before and after it. -/

namespace CyberRT.Framework

universe u v w x

/-- One component: the steps it can take on a shared and a local state. -/
structure Component (σ : Type u) (ℓ : Type v) (β : Type w) where
  initShared : σ → Prop
  initLocal  : ℓ → Prop
  gate       : β → σ → ℓ → Prop
  effect     : β → σ → ℓ → σ × ℓ

/-- The shared state and the local state of every copy. -/
structure Global (σ : Type u) (ℓ : Type v) (Tid : Type x) where
  shared : σ
  loc    : Tid → ℓ

namespace Component

variable {σ : Type u} {ℓ : Type v} {β : Type w} {Tid : Type x}

section parallel
variable [DecidableEq Tid]

/-- Copies of `c`, one for each `Tid`. -/
def parallel (c : Component σ ℓ β) : System (Global σ ℓ Tid) (Tid × β) where
  init := fun s => c.initShared s.shared ∧ ∀ t, c.initLocal (s.loc t)
  action := fun a =>
    { gate   := fun s => c.gate a.2 s.shared (s.loc a.1)
      effect := fun s =>
        { shared := (c.effect a.2 s.shared (s.loc a.1)).1
          loc    := Function.update s.loc a.1 (c.effect a.2 s.shared (s.loc a.1)).2 } }

instance decidableParallel (c : Component σ ℓ β) [h : ∀ b g l, Decidable (c.gate b g l)]
    (a : Tid × β) (s : Global σ ℓ Tid) : Decidable ((c.parallel.action a).gate s) :=
  h a.2 s.shared (s.loc a.1)

/-- The runs in which every step of a copy meets `ok`. -/
def parallelOk (c : Component σ ℓ β) (ok : β → σ → ℓ → Prop) :
    System (Global σ ℓ Tid) (Tid × β) :=
  c.parallel.restrict fun s a => ok a.2 s.shared (s.loc a.1)

instance decidableParallelOk (c : Component σ ℓ β) (ok : β → σ → ℓ → Prop)
    [h : ∀ b g l, Decidable (c.gate b g l)] [hok : ∀ b g l, Decidable (ok b g l)]
    (a : Tid × β) (s : Global σ ℓ Tid) : Decidable (((c.parallelOk ok).action a).gate s) :=
  have := h a.2 s.shared (s.loc a.1)
  have := hok a.2 s.shared (s.loc a.1)
  inferInstanceAs (Decidable (_ ∧ _))

end parallel

/-- What it takes for `I` to hold of the shared state and `L` of every
    local state: each step keeps `I`, the relation `R`, and its own `L`;
    and `L` is stable under `R`. -/
structure RelyGuarantee (c : Component σ ℓ β) (ok : β → σ → ℓ → Prop)
    (I : σ → Prop) (L : σ → ℓ → Prop) (R : σ → σ → Prop) : Prop where
  initShared : ∀ g, c.initShared g → I g
  initLocal  : ∀ g l, c.initLocal l → L g l
  stable     : ∀ g g' l, I g → R g g' → L g l → L g' l
  guarantee  : ∀ b g l, I g → L g l → c.gate b g l → ok b g l → R g (c.effect b g l).1
  shared     : ∀ b g l, I g → L g l → c.gate b g l → ok b g l → I (c.effect b g l).1
  own        : ∀ b g l, I g → L g l → c.gate b g l → ok b g l →
    L (c.effect b g l).1 (c.effect b g l).2

variable [DecidableEq Tid] {c : Component σ ℓ β} {ok : β → σ → ℓ → Prop}

/-- **Rely-guarantee rule**. -/
theorem RelyGuarantee.reachable {I : σ → Prop} {L : σ → ℓ → Prop} {R : σ → σ → Prop}
    (h : RelyGuarantee c ok I L R) {s : Global σ ℓ Tid} (hs : (c.parallelOk ok).Reachable s) :
    I s.shared ∧ ∀ t, L s.shared (s.loc t) := by
  apply System.invariant _ _ hs
  · intro s hi
    exact ⟨h.initShared _ hi.1, fun t => h.initLocal _ _ (hi.2 t)⟩
  · intro s a hinv hg
    obtain ⟨hI, hL⟩ := hinv
    obtain ⟨hgate, hok⟩ := hg
    have hR := h.guarantee a.2 s.shared (s.loc a.1) hI (hL a.1) hgate hok
    refine ⟨h.shared a.2 _ _ hI (hL a.1) hgate hok, ?_⟩
    intro t
    show L _ (Function.update s.loc a.1 _ t)
    by_cases ht : t = a.1
    · -- the copy that moved
      rw [ht, Function.update_self]
      exact h.own a.2 _ _ hI (hL a.1) hgate hok
    · rw [Function.update_of_ne ht]
      exact h.stable _ _ _ hI hR (hL t)

end Component

end CyberRT.Framework
