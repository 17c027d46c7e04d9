import Mathlib.Logic.Function.Basic

/-! # Try-locks

    Locks that are taken by a test-and-set and never waited for. Who holds
    a lock is read off the holders: `holds h` is the lock `h` has taken and
    not released, if any. -/

namespace CyberRT.Framework

universe u v

variable {H : Type u} {R : Type v}

/-- A held lock is set, and has one holder. -/
structure TryLocks (locked : R → Bool) (holds : H → Option R) : Prop where
  locked : ∀ h r, holds h = some r → locked r = true
  unique : ∀ h h' r, holds h = some r → holds h' = some r → h = h'

namespace TryLocks

variable {locked : R → Bool} {holds holds' : H → Option R}

theorem free (h : ∀ x, holds x = none) : TryLocks locked holds := by
  refine ⟨?_, ?_⟩
  · intro x r hx
    rw [h x] at hx
    cases hx
  · intro x x' r hx
    rw [h x] at hx
    cases hx

/-- Nobody holds a lock that is not set. -/
theorem not_held (hl : TryLocks locked holds) {r : R} (hr : locked r = false) (h : H) :
    holds h ≠ some r := by
  intro hh
  rw [hl.locked h r hh] at hr
  cases hr

variable [DecidableEq R]

/-- **Acquire**: the test-and-set of a lock that is not set. -/
theorem acquire (hl : TryLocks locked holds) {h : H} {r : R} (hr : locked r = false)
    (hself : holds' h = some r) (hothers : ∀ x, x ≠ h → holds' x = holds x) :
    TryLocks (Function.update locked r true) holds' := by
  have hother {x : H} (hx : holds' x = some r) : x = h := by
    by_contra hne
    rw [hothers x hne] at hx
    exact hl.not_held hr x hx
  refine ⟨?_, ?_⟩
  · intro x r' hx
    by_cases hr' : r' = r
    · rw [hr', Function.update_self]
    · rw [Function.update_of_ne hr']
      have hne : x ≠ h := by
        intro heq
        rw [heq, hself] at hx
        exact hr' (Option.some.inj hx).symm
      rw [hothers x hne] at hx
      exact hl.locked x r' hx
  · intro x x' r' hx hx'
    by_cases hr' : r' = r
    · subst hr'
      rw [hother hx, hother hx']
    · have hne {y : H} (hy : holds' y = some r') : y ≠ h := by
        intro heq
        rw [heq, hself] at hy
        exact hr' (Option.some.inj hy).symm
      rw [hothers x (hne hx)] at hx
      rw [hothers x' (hne hx')] at hx'
      exact hl.unique x x' r' hx hx'

/-- **Release**: the holder clears its lock. -/
theorem release (hl : TryLocks locked holds) {h : H} {r : R} (hheld : holds h = some r)
    (hself : holds' h = none) (hothers : ∀ x, x ≠ h → holds' x = holds x) :
    TryLocks (Function.update locked r false) holds' := by
  have hne {x : H} {r' : R} (hx : holds' x = some r') : x ≠ h := by
    intro heq
    rw [heq, hself] at hx
    cases hx
  refine ⟨?_, ?_⟩
  · intro x r' hx
    have hxh := hne hx
    rw [hothers x hxh] at hx
    have hr' : r' ≠ r := by
      intro heq
      rw [heq] at hx
      exact hxh (hl.unique x h r hx hheld)
    rw [Function.update_of_ne hr']
    exact hl.locked x r' hx
  · intro x x' r' hx hx'
    rw [hothers x (hne hx)] at hx
    rw [hothers x' (hne hx')] at hx'
    exact hl.unique x x' r' hx hx'

omit [DecidableEq R] in
/-- Nobody takes or releases a lock. -/
theorem frame (hl : TryLocks locked holds) (h : ∀ x, holds' x = holds x) :
    TryLocks locked holds' := by
  have heq : holds' = holds := funext h
  rw [heq]
  exact hl

end TryLocks

/-- A set lock has a holder. -/
def Taken (locked : R → Bool) (holds : H → Option R) : Prop :=
  ∀ r, locked r = true → ∃ h, holds h = some r

namespace Taken

variable {locked : R → Bool} {holds holds' : H → Option R}

theorem frame (hl : Taken locked holds) (h : ∀ x, holds' x = holds x) : Taken locked holds' := by
  have heq : holds' = holds := funext h
  rw [heq]
  exact hl

variable [DecidableEq R]

/-- **Acquire**, by somebody who holds nothing. -/
theorem acquire (hl : Taken locked holds) {h : H} {r : R} (hnone : holds h = none)
    (hself : holds' h = some r) (hothers : ∀ x, x ≠ h → holds' x = holds x) :
    Taken (Function.update locked r true) holds' := by
  intro r' hr'
  by_cases heq : r' = r
  · rw [heq]
    exact ⟨h, hself⟩
  · rw [Function.update_of_ne heq] at hr'
    obtain ⟨x, hx⟩ := hl r' hr'
    have hne : x ≠ h := by
      intro heq
      rw [heq, hnone] at hx
      cases hx
    refine ⟨x, ?_⟩
    rw [hothers x hne]
    exact hx

/-- **Release**. -/
theorem release (hl : Taken locked holds) {h : H} {r : R} (hheld : holds h = some r)
    (hothers : ∀ x, x ≠ h → holds' x = holds x) :
    Taken (Function.update locked r false) holds' := by
  intro r' hr'
  have heq : r' ≠ r := by
    intro heq
    rw [heq, Function.update_self] at hr'
    cases hr'
  rw [Function.update_of_ne heq] at hr'
  obtain ⟨x, hx⟩ := hl r' hr'
  have hne : x ≠ h := by
    intro hxh
    rw [hxh, hheld] at hx
    exact heq (Option.some.inj hx).symm
  refine ⟨x, ?_⟩
  rw [hothers x hne]
  exact hx

end Taken

end CyberRT.Framework
