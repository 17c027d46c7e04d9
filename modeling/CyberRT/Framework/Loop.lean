import Mathlib.Data.Nat.Init

/-! # Loops

    A loop as its body: from the state before a pass either to the state
    before the next one or to the result. `loop` counts the passes, so that
    a loop that never returns has a meaning too.

    A loop ends if a measure falls at every pass it really makes, and never
    ends if its states stay in a set from which every pass goes on. A loop
    whose states are known pass by pass returns at the first that does. -/

namespace CyberRT.Framework

universe u v

variable {σ : Type u} {ρ : Type v}

/-! ## Section 1: Passes -/

/-- The result, if the given number of passes is enough for it. -/
def loop (body : σ → σ ⊕ ρ) : Nat → σ → Option ρ
  | 0,          _ => none
  | passes + 1, s =>
    match body s with
    | .inl s' => loop body passes s'
    | .inr r  => some r

/-- `t` is the state before some pass of the loop that starts in `s`. -/
inductive Visits (body : σ → σ ⊕ ρ) (s : σ) : σ → Prop where
  | start : Visits body s s
  | next {t t' : σ} (ht : Visits body s t) (hbody : body t = .inl t') : Visits body s t'

variable {body : σ → σ ⊕ ρ} {s t : σ}

/-- The passes after the first one. -/
theorem Visits.of_first {s' : σ} (hbody : body s = .inl s') (h : Visits body s' t) :
    Visits body s t := by
  induction h with
  | start             => exact .next .start hbody
  | next _ hbody' ih  => exact .next ih hbody'

/-! ## Section 2: Ending -/

/-- The result comes out of a pass that the loop makes. -/
theorem visits_of_loop {passes : Nat} {r : ρ} (h : loop body passes s = some r) :
    ∃ t, Visits body s t ∧ body t = .inr r := by
  induction passes generalizing s with
  | zero => cases h
  | succ passes ih =>
    unfold loop at h
    cases hbody : body s with
    | inl s' =>
      rw [hbody] at h
      obtain ⟨t, ht, hr⟩ := ih h
      exact ⟨t, ht.of_first hbody, hr⟩
    | inr r' =>
      rw [hbody] at h
      exact ⟨s, .start, by rw [hbody, Option.some.inj h]⟩

/-- A loop ends if the measure falls at every pass, after as many passes as
    the measure says. -/
theorem loop_ends (μ : σ → Nat)
    (h : ∀ t t', Visits body s t → body t = .inl t' → μ t' < μ t) {passes : Nat}
    (hpasses : μ s < passes) : ∃ r, loop body passes s = some r := by
  induction passes generalizing s with
  | zero => omega
  | succ passes ih =>
    unfold loop
    cases hbody : body s with
    | inr r => exact ⟨r, rfl⟩
    | inl s' =>
      have hfalls := h s s' .start hbody
      have hrest : ∀ t t', Visits body s' t → body t = .inl t' → μ t' < μ t :=
        fun t t' ht => h t t' (ht.of_first hbody)
      exact ih hrest (by omega)

/-- A loop never ends if its states stay in a set from which it goes on. -/
theorem loop_never {I : σ → Prop} (hstep : ∀ t, I t → ∃ t', body t = .inl t' ∧ I t')
    (hs : I s) (passes : Nat) : loop body passes s = none := by
  induction passes generalizing s with
  | zero => rfl
  | succ passes ih =>
    obtain ⟨s', hbody, hs'⟩ := hstep s hs
    unfold loop
    rw [hbody]
    exact ih hs'

/-! ## Section 3: Passes in a row -/

/-- The states before the passes the loop makes, the last one included. -/
def passStates (body : σ → σ ⊕ ρ) : Nat → σ → List σ
  | 0,          _ => []
  | passes + 1, s =>
    match body s with
    | .inl s' => s :: passStates body passes s'
    | .inr _  => [s]

/-- **Passes in a row**: if the first `m` passes go on along `st` and the
    next one returns, the loop returns there, however many more it had. -/
theorem loop_of_states (st : Nat → σ) {m : Nat} {r : ρ}
    (hgo : ∀ k, k < m → body (st k) = .inl (st (k + 1))) (hend : body (st m) = .inr r)
    {passes : Nat} (hpasses : m < passes) :
    loop body passes (st 0) = some r ∧
      passStates body passes (st 0) = (List.range (m + 1)).map st := by
  induction m generalizing st passes with
  | zero =>
    obtain ⟨passes, rfl⟩ := Nat.exists_eq_succ_of_ne_zero (Nat.ne_of_gt hpasses)
    unfold loop passStates
    rw [hend]
    exact ⟨rfl, rfl⟩
  | succ m ih =>
    obtain ⟨passes, rfl⟩ := Nat.exists_eq_succ_of_ne_zero (Nat.ne_of_gt (Nat.zero_lt_of_lt hpasses))
    have hrest := ih (fun k => st (k + 1)) (fun k hk => hgo (k + 1) (by omega)) hend
      (Nat.lt_of_succ_lt_succ hpasses)
    unfold loop passStates
    rw [hgo 0 (Nat.succ_pos m), List.range_succ_eq_map, List.map_cons, List.map_map]
    exact ⟨hrest.1, congrArg (List.cons (st 0)) hrest.2⟩

end CyberRT.Framework
