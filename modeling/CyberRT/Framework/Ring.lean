import Mathlib.Data.List.Nodup
import Mathlib.Data.Nat.ModEq
import Mathlib.Logic.Function.Basic

/-! # Ring arithmetic

    Sequence numbers stored modulo the number of slots of a ring. Two
    numbers less than a whole lap apart never share a slot, and two
    numbers at most a lap apart share one only when they are equal or
    exactly a lap apart. A walk of one lap comes by every slot once.

    A ring that is written one position after the other keeps a window of
    what was written: the end of a growing log. -/

namespace CyberRT.Framework.Ring

/-- Numbers less than a lap apart lie in different slots. -/
theorem mod_ne_of_lt_lap {n a b : Nat} (hab : a < b) (hlt : b < a + n) : a % n ≠ b % n := by
  intro h
  have hdvd : n ∣ b - a := (Nat.modEq_iff_dvd' (Nat.le_of_lt hab)).mp h
  have hle := Nat.le_of_dvd (by omega) hdvd
  omega

/-- Distinct numbers of one window of at most a lap lie in different slots. -/
theorem mod_ne_of_window {n lo a b : Nat} (ha : lo ≤ a) (ha' : a < lo + n)
    (hb : lo ≤ b) (hb' : b < lo + n) (hne : a ≠ b) : a % n ≠ b % n := by
  rcases Nat.lt_or_gt_of_ne hne with hlt | hlt
  · exact mod_ne_of_lt_lap hlt (by omega)
  · exact (mod_ne_of_lt_lap hlt (by omega)).symm

/-- The full test: a number at most a lap ahead and in another slot is
    less than a lap ahead. -/
theorem lt_lap_of_mod_ne {n a b : Nat} (hle : b ≤ a + n) (hne : b % n ≠ a % n) : b < a + n := by
  rcases Nat.lt_or_eq_of_le hle with h | h
  · exact h
  · rw [h, Nat.add_mod_right] at hne
    exact absurd rfl hne

/-- A walk of one lap comes by every slot. -/
theorem exists_mod_eq {n i : Nat} (hi : i < n) (start : Nat) :
    ∃ k, k < n ∧ (start + k) % n = i := by
  have hstart := Nat.mod_lt start (Nat.zero_lt_of_lt hi)
  refine ⟨(i + (n - start % n)) % n, Nat.mod_lt _ (Nat.zero_lt_of_lt hi), ?_⟩
  rw [Nat.add_mod_mod, ← Nat.mod_add_mod,
    show start % n + (i + (n - start % n)) = i + n by omega, Nat.add_mod_right,
    Nat.mod_eq_of_lt hi]

/-- A walk of at most one lap comes by no slot twice. -/
theorem nodup_walk {n len : Nat} (hlen : len ≤ n) (start : Nat) :
    ((List.range len).map fun k => (start + k) % n).Nodup := by
  refine List.Nodup.map_on ?_ List.nodup_range
  intro a ha b hb heq
  rw [List.mem_range] at ha hb
  by_contra hne
  have hlow : start ≤ start + a := Nat.le_add_right start a
  have hlow' : start ≤ start + b := Nat.le_add_right start b
  exact mod_ne_of_window hlow (by omega) hlow' (by omega) (by omega) heq

/-! ## Windows -/

section window
variable {T : Type} {cells : Nat → T} {n lo : Nat} {log : List T}

/-- The ring of `n` cells holds the entries of `log` after position `lo`;
    positions are counted from 1. -/
def Window (n : Nat) (cells : Nat → T) (lo : Nat) (log : List T) : Prop :=
  ∀ p, lo < p → p ≤ log.length → log[p - 1]? = some (cells (p % n))

theorem Window.nil : Window n cells lo [] := by
  intro p hlo hp
  have hzero : p ≤ 0 := hp
  omega

/-- **Push**: the next entry goes into the cell of its position, at the
    cost of what is a lap behind it. -/
theorem Window.push (h : Window n cells lo log) {lo' : Nat} (hlo : lo ≤ lo')
    (hlap : log.length + 1 ≤ lo' + n) (v : T) :
    Window n (Function.update cells ((log.length + 1) % n) v) lo' (log ++ [v]) := by
  intro p hp hp'
  rw [List.length_append, List.length_singleton] at hp'
  by_cases hnew : p = log.length + 1
  · subst hnew
    rw [Function.update_self, Nat.add_sub_cancel, List.getElem?_concat_length]
  · have hne : p % n ≠ (log.length + 1) % n :=
      mod_ne_of_window hp (by omega) (by omega) (by omega) hnew
    rw [Function.update_of_ne hne, List.getElem?_append_left (by omega)]
    exact h p (by omega) (by omega)

end window

end CyberRT.Framework.Ring
