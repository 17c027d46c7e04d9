import Mathlib.Order.Bounds.Basic
import Mathlib.Order.BoundedOrder.Basic
import Mathlib.Data.List.Induction

/-! # Bounds kept in one variable

    A program that keeps the least value it has seen in one variable needs a
    value of that variable that says "nothing seen yet". When the bottom of
    the order plays this part, seeing the bottom looks like having seen
    nothing, and the values before it are forgotten.

    * `leastSeen`: the minimum so far, reset by a bottom.
    * `firstSeen`: the first value, where a bottom does not count.
    * `greatestSeen`: the maximum so far; here the bottom does no harm.

    Each is compared with the extremum it stands for, of one list of values
    and of values that come in groups. -/

namespace CyberRT.Framework

universe u

variable {α : Type u} [LinearOrder α] [OrderBot α]

/-- The values of a list. -/
def valuesOf (xs : List α) : Set α := {x | x ∈ xs}

omit [LinearOrder α] [OrderBot α] in
theorem valuesOf_concat (xs : List α) (x : α) : valuesOf (xs ++ [x]) = insert x (valuesOf xs) := by
  ext y
  simp [valuesOf, or_comm]

/-! ## Section 1: The least value -/

/-- The minimum so far, where the bottom stands for "none". -/
def leastSeen (xs : List α) : α := xs.foldl (fun b x => if b = ⊥ then x else min b x) ⊥

theorem leastSeen_concat (xs : List α) (x : α) :
    leastSeen (xs ++ [x]) = if leastSeen xs = ⊥ then x else min (leastSeen xs) x := by
  rw [leastSeen, List.foldl_append]
  rfl

/-- Only a bottom that was seen last shows as one. -/
theorem leastSeen_concat_eq_bot (xs : List α) (x : α) : leastSeen (xs ++ [x]) = ⊥ ↔ x = ⊥ := by
  rw [leastSeen_concat]
  split
  · exact Iff.rfl
  · next hne =>
    rw [min_eq_bot]
    exact or_iff_right hne

/-- Without bottoms it is the minimum. -/
theorem isLeast_leastSeen {xs : List α} (hne : xs ≠ []) (hbot : ⊥ ∉ xs) :
    IsLeast (valuesOf xs) (leastSeen xs) := by
  induction xs using List.reverseRecOn with
  | nil => exact absurd rfl hne
  | append_singleton xs x ih =>
    have hxs : ⊥ ∉ xs := fun h => hbot (List.mem_append_left [x] h)
    rw [leastSeen_concat, valuesOf_concat]
    rcases List.eq_nil_or_concat xs with rfl | ⟨ys, y, rfl⟩
    · -- the first value
      rw [show leastSeen ([] : List α) = ⊥ from rfl, if_pos rfl]
      simp [valuesOf]
    · have hy : y ≠ ⊥ := by
        rintro rfl
        exact hxs (by simp)
      have hseen : leastSeen (ys.concat y) ≠ ⊥ := by
        rw [List.concat_eq_append, Ne, leastSeen_concat_eq_bot]
        exact hy
      rw [if_neg hseen, min_comm]
      exact (ih (by simp) hxs).insert x

/-- It is the minimum unless a bottom was seen and something after it. -/
theorem isLeast_leastSeen_iff {xs : List α} (hne : xs ≠ []) :
    IsLeast (valuesOf xs) (leastSeen xs) ↔ (⊥ ∈ xs → xs.getLast? = some ⊥) := by
  by_cases hbot : ⊥ ∈ xs
  · rcases List.eq_nil_or_concat xs with rfl | ⟨ys, y, rfl⟩
    · exact absurd rfl hne
    rw [List.concat_eq_append] at hbot ⊢
    have hlast : (ys ++ [y]).getLast? = some ⊥ ↔ leastSeen (ys ++ [y]) = ⊥ := by
      rw [leastSeen_concat_eq_bot]
      simp
    constructor
    · intro hleast _
      exact hlast.mpr (le_bot_iff.mp (hleast.2 hbot))
    · intro h
      rw [hlast.mp (h hbot)]
      exact ⟨hbot, fun _ _ => bot_le⟩
  · exact iff_of_true (isLeast_leastSeen hne hbot) fun h => absurd h hbot

/-! ## Section 2: The first value -/

/-- The first value that is not the bottom, from `start` on. -/
def firstSeen (start : α) (xs : List α) : α := xs.foldl (fun b x => if b = ⊥ then x else b) start

theorem firstSeen_of_ne_bot {start : α} (h : start ≠ ⊥) (xs : List α) :
    firstSeen start xs = start := by
  induction xs with
  | nil => rfl
  | cons x xs ih =>
    rw [firstSeen, List.foldl_cons, if_neg h]
    exact ih

theorem firstSeen_cons (x : α) (xs : List α) : firstSeen ⊥ (x :: xs) = firstSeen x xs := by
  rw [firstSeen, List.foldl_cons, if_pos rfl]
  rfl

theorem firstSeen_concat (start : α) (xs : List α) (x : α) :
    firstSeen start (xs ++ [x]) = if firstSeen start xs = ⊥ then x else firstSeen start xs := by
  rw [firstSeen, List.foldl_append]
  rfl

/-- Nothing is seen of a list of bottoms only. -/
theorem firstSeen_bot_eq_bot (xs : List α) : firstSeen ⊥ xs = ⊥ ↔ ∀ x ∈ xs, x = ⊥ := by
  induction xs with
  | nil => exact iff_of_true rfl nofun
  | cons x xs ih =>
    rw [firstSeen_cons, List.forall_mem_cons]
    by_cases hx : x = ⊥
    · rw [hx, ih]
      exact (and_iff_right rfl).symm
    · rw [firstSeen_of_ne_bot hx]
      exact iff_of_false hx fun h => hx h.1

/-- Where the minimum of values seen one after the other is the first of
    them. -/
def LeastFirst (start : α) (xs : List α) : Prop :=
  if start = ⊥ then
    (∀ x ∈ xs, x = ⊥) ∨ ((∀ x ∈ xs, x ≠ ⊥) ∧ ∀ x ∈ xs.head?, ∀ y ∈ xs, x ≤ y)
  else IsLeast (valuesOf xs) start

theorem isLeast_firstSeen_iff (start : α) {xs : List α} (hne : xs ≠ []) :
    IsLeast (valuesOf xs) (firstSeen start xs) ↔ LeastFirst start xs := by
  unfold LeastFirst
  by_cases hstart : start = ⊥
  swap
  · rw [if_neg hstart, firstSeen_of_ne_bot hstart]
  rw [if_pos hstart, hstart]
  obtain ⟨x, xs, rfl⟩ := List.exists_cons_of_ne_nil hne
  constructor
  · intro hleast
    by_cases hbot : ⊥ ∈ x :: xs
    · exact .inl ((firstSeen_bot_eq_bot _).mp (le_bot_iff.mp (hleast.2 hbot)))
    · have hx : x ≠ ⊥ := by
        rintro rfl
        exact hbot List.mem_cons_self
      rw [firstSeen_cons, firstSeen_of_ne_bot hx] at hleast
      refine .inr ⟨fun y hy heq => hbot (heq ▸ hy), ?_⟩
      rintro y ⟨⟩ z hz
      exact hleast.2 hz
  · rintro (hall | ⟨hnone, hhead⟩)
    · rw [(firstSeen_bot_eq_bot _).mpr hall]
      refine ⟨?_, fun _ _ => bot_le⟩
      rw [← hall x List.mem_cons_self]
      exact List.mem_cons_self
    · rw [firstSeen_cons, firstSeen_of_ne_bot (hnone x List.mem_cons_self)]
      exact ⟨List.mem_cons_self, fun y hy => hhead x rfl y hy⟩

/-! ## Section 3: The greatest value -/

/-- The maximum so far. -/
def greatestSeen (xs : List α) : α := xs.foldl max ⊥

theorem greatestSeen_concat (xs : List α) (x : α) :
    greatestSeen (xs ++ [x]) = max (greatestSeen xs) x := by
  rw [greatestSeen, List.foldl_append]
  rfl

theorem isGreatest_greatestSeen {xs : List α} (hne : xs ≠ []) :
    IsGreatest (valuesOf xs) (greatestSeen xs) := by
  induction xs using List.reverseRecOn with
  | nil => exact absurd rfl hne
  | append_singleton xs x ih =>
    rw [greatestSeen_concat, valuesOf_concat, max_comm]
    by_cases hxs : xs = []
    · subst hxs
      rw [show greatestSeen ([] : List α) = ⊥ from rfl, max_bot_right]
      simp [valuesOf]
    · exact (ih hxs).insert x

/-! ## Section 4: Values in groups -/

omit [OrderBot α] in
/-- The least of the least values is the least of all. -/
theorem isLeast_flatten_iff {xss : List (List α)} {f : List α → α}
    (hf : ∀ xs ∈ xss, IsLeast (valuesOf xs) (f xs)) (x : α) :
    IsLeast (valuesOf xss.flatten) x ↔ IsLeast (valuesOf (xss.map f)) x := by
  have hmem : ∀ xs ∈ xss, f xs ∈ xss.flatten := fun xs hxs =>
    List.mem_flatten.mpr ⟨xs, hxs, (hf xs hxs).1⟩
  constructor
  · intro hx
    obtain ⟨xs, hxs, hin⟩ := List.mem_flatten.mp hx.1
    have heq : f xs = x := le_antisymm ((hf xs hxs).2 hin) (hx.2 (hmem xs hxs))
    refine ⟨List.mem_map.mpr ⟨xs, hxs, heq⟩, ?_⟩
    intro y hy
    obtain ⟨ys, hys, rfl⟩ := List.mem_map.mp hy
    exact hx.2 (hmem ys hys)
  · intro hx
    obtain ⟨xs, hxs, heq⟩ := List.mem_map.mp hx.1
    refine ⟨heq ▸ hmem xs hxs, ?_⟩
    intro y hy
    obtain ⟨ys, hys, hin⟩ := List.mem_flatten.mp hy
    have hle : x ≤ f ys := hx.2 (List.mem_map.mpr ⟨ys, hys, rfl⟩)
    exact hle.trans ((hf ys hys).2 hin)

/-- `LeastFirst` of the least values of groups, said of their members. -/
def LeastInFirst (start : α) (xss : List (List α)) : Prop :=
  if start = ⊥ then
    (∀ xs ∈ xss, ⊥ ∈ xs) ∨
      ((∀ xs ∈ xss, ⊥ ∉ xs) ∧ ∀ xs ∈ xss.head?, ∀ y ∈ xss.flatten, ∃ x ∈ xs, x ≤ y)
  else IsLeast (valuesOf xss.flatten) start

theorem leastFirst_map_iff {xss : List (List α)} {f : List α → α}
    (hf : ∀ xs ∈ xss, IsLeast (valuesOf xs) (f xs)) (start : α) :
    LeastFirst start (xss.map f) ↔ LeastInFirst start xss := by
  have hbot : ∀ xs ∈ xss, f xs = ⊥ ↔ ⊥ ∈ xs := by
    intro xs hxs
    constructor
    · intro heq
      exact heq ▸ (hf xs hxs).1
    · intro hin
      exact le_bot_iff.mp ((hf xs hxs).2 hin)
  unfold LeastFirst LeastInFirst
  by_cases hstart : start = ⊥
  swap
  · rw [if_neg hstart, if_neg hstart]
    exact (isLeast_flatten_iff hf start).symm
  rw [if_pos hstart, if_pos hstart, List.forall_mem_map, List.forall_mem_map]
  refine or_congr (forall₂_congr hbot) (and_congr (forall₂_congr fun xs hxs => ?_) ?_)
  · exact not_congr (hbot xs hxs)
  · -- the least value of the first group against all values
    cases xss with
    | nil => exact iff_of_true nofun nofun
    | cons xs xss =>
      have hfirst := hf xs List.mem_cons_self
      constructor
      · rintro h zs ⟨⟩ y hy
        obtain ⟨ys, hys, hin⟩ := List.mem_flatten.mp hy
        have hle : f xs ≤ f ys := h (f xs) rfl (f ys) (List.mem_map.mpr ⟨ys, hys, rfl⟩)
        exact ⟨f xs, hfirst.1, hle.trans ((hf ys hys).2 hin)⟩
      · rintro h z ⟨⟩ y hy
        obtain ⟨ys, hys, rfl⟩ := List.mem_map.mp hy
        obtain ⟨x, hx, hle⟩ := h xs rfl (f ys) (List.mem_flatten.mpr ⟨ys, hys, (hf ys hys).1⟩)
        exact (hfirst.2 hx).trans hle

omit [OrderBot α] in
/-- The greatest value of one group is the greatest of all when no value of
    another group is greater. -/
theorem isGreatest_flatten_iff {xss : List (List α)} {xs : List α} {x : α} (hxs : xs ∈ xss)
    (hx : IsGreatest (valuesOf xs) x) :
    IsGreatest (valuesOf xss.flatten) x ↔ ∀ y ∈ xss.flatten, ∃ z ∈ xs, y ≤ z := by
  constructor
  · intro hall y hy
    exact ⟨x, hx.1, hall.2 hy⟩
  · intro hall
    refine ⟨List.mem_flatten.mpr ⟨xs, hxs, hx.1⟩, ?_⟩
    intro y hy
    obtain ⟨z, hz, hle⟩ := hall y hy
    exact hle.trans (hx.2 hz)

end CyberRT.Framework
