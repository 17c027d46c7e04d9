import Mathlib.Tactic.ByContra

/-! # Counted objects

    An object is deleted by its last holder. A holder lets go in two steps:
    it lowers the count, and then it looks whether the count is zero. The
    count is the number of holders, but of two holders that lower it before
    either of them looks, both may see zero.

    The numbers are those of one object: its count, its holders, those that
    have lowered the count and not looked yet, those that have seen zero and
    not deleted yet, and its deletions. -/

namespace CyberRT.Framework

/-- The count is right, at most one is on the way to deleting the object, and
    the object is not on the way as long as somebody holds it. -/
structure Counted (count holders looking deleting deleted : Nat) : Prop where
  count_eq : count = holders
  one      : looking + deleting + deleted ≤ 1
  spent    : 0 < deleting + deleted → holders = 0

namespace Counted

variable {count holders looking deleting deleted : Nat}

/-- **Liveness** of an object that is held, looked at or to be deleted. -/
theorem live (h : Counted count holders looking deleting deleted)
    (hreferred : 0 < holders + looking + deleting) : deleted = 0 := by
  obtain ⟨_, hone, hspent⟩ := h
  by_contra hdeleted
  have hnone : holders = 0 := hspent (by omega)
  omega

theorem deleted_le_one (h : Counted count holders looking deleting deleted) : deleted ≤ 1 := by
  have hone := h.one
  omega

/-- A new object with its holders. -/
theorem make (holders : Nat) : Counted holders holders 0 0 0 := by
  constructor <;> omega

/-- **Let go**, first step: nobody else has lowered the count and not looked
    yet. -/
theorem lower (h : Counted count (holders + 1) 0 deleting deleted) :
    Counted (count - 1) holders 1 deleting deleted := by
  obtain ⟨hcount, hone, hspent⟩ := h
  have hnone : deleting + deleted = 0 := by
    by_contra hne
    have := hspent (by omega)
    omega
  exact ⟨by omega, by omega, by omega⟩

/-- **Let go**, second step: there are other holders. -/
theorem leave (h : Counted count holders (looking + 1) deleting deleted) :
    Counted count holders looking deleting deleted := by
  obtain ⟨hcount, hone, hspent⟩ := h
  exact ⟨hcount, by omega, hspent⟩

/-- **Let go**, second step: the count is zero. -/
theorem decideDelete (h : Counted 0 holders (looking + 1) deleting deleted) :
    Counted 0 holders looking (deleting + 1) deleted := by
  obtain ⟨hcount, hone, hspent⟩ := h
  exact ⟨hcount, by omega, by omega⟩

theorem delete (h : Counted count holders looking (deleting + 1) deleted) :
    Counted count holders looking deleting (deleted + 1) := by
  obtain ⟨hcount, hone, hspent⟩ := h
  exact ⟨hcount, by omega, by omega⟩

end Counted

end CyberRT.Framework
