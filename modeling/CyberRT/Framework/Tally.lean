import Mathlib.Data.Fintype.Card
import Mathlib.Algebra.BigOperators.Group.Finset.Piecewise
import Mathlib.Algebra.Order.BigOperators.Group.Finset

/-! # Counting threads

    How many threads of a finite family stand at a given place, and how
    that number changes when one thread moves. -/

namespace CyberRT.Framework

universe u v

variable {Tid : Type u} {L : Type v} [Fintype Tid]

/-- The number of threads whose local state satisfies `P`. -/
def tally (P : L → Prop) [DecidablePred P] (loc : Tid → L) : Nat :=
  (Finset.univ.filter (fun t => P (loc t))).card

section
variable {P : L → Prop} [DecidablePred P] {loc : Tid → L}

theorem tally_eq_zero_iff : tally P loc = 0 ↔ ∀ t, ¬ P (loc t) := by
  simp [tally, Finset.card_eq_zero, Finset.filter_eq_empty_iff]

theorem tally_pos {t : Tid} (h : P (loc t)) : 0 < tally P loc := by
  rcases Nat.eq_zero_or_pos (tally P loc) with hz | hp
  · exact absurd h (tally_eq_zero_iff.mp hz t)
  · exact hp

/-- At most one thread is there: any two threads there are the same. -/
theorem eq_of_tally_le_one (h : tally P loc ≤ 1) {t u : Tid} (ht : P (loc t)) (hu : P (loc u)) :
    t = u := by
  apply Finset.card_le_one.mp h
  · exact Finset.mem_filter.mpr ⟨Finset.mem_univ t, ht⟩
  · exact Finset.mem_filter.mpr ⟨Finset.mem_univ u, hu⟩

/-- **One thread moves**: the tally changes by that thread alone. -/
theorem tally_update [DecidableEq Tid] (P : L → Prop) [DecidablePred P] (loc : Tid → L) (t : Tid)
    (l : L) :
    tally P (Function.update loc t l) + (if P (loc t) then 1 else 0) =
      tally P loc + (if P l then 1 else 0) := by
  have hrest : ∀ u ∈ Finset.univ.erase t,
      (if P (Function.update loc t l u) then 1 else 0) = if P (loc u) then 1 else 0 := by
    intro u hu
    rw [Function.update_of_ne (Finset.ne_of_mem_erase hu)]
  have hmem : t ∈ Finset.univ := Finset.mem_univ t
  simp only [tally, Finset.card_filter]
  rw [← Finset.add_sum_erase _ _ hmem, ← Finset.add_sum_erase Finset.univ _ hmem,
    Finset.sum_congr rfl hrest, Function.update_self]
  omega

theorem tally_congr {Q : L → Prop} [DecidablePred Q] (h : ∀ t, P (loc t) ↔ Q (loc t)) :
    tally P loc = tally Q loc := by
  unfold tally
  rw [Finset.filter_congr fun t _ => h t]

theorem tally_update_of_iff [DecidableEq Tid] {P : L → Prop} [DecidablePred P] {loc : Tid → L}
    {t : Tid} {l : L} (h : P l ↔ P (loc t)) : tally P (Function.update loc t l) = tally P loc := by
  have := tally_update P loc t l
  simp only [h] at this
  omega

theorem tally_update_enter [DecidableEq Tid] {P : L → Prop} [DecidablePred P] {loc : Tid → L}
    {t : Tid} {l : L} (h : ¬ P (loc t)) (h' : P l) :
    tally P (Function.update loc t l) = tally P loc + 1 := by
  have := tally_update P loc t l
  rw [if_neg h, if_pos h'] at this
  omega

theorem tally_update_leave [DecidableEq Tid] {P : L → Prop} [DecidablePred P] {loc : Tid → L}
    {t : Tid} {l : L} (h : P (loc t)) (h' : ¬ P l) :
    tally P (Function.update loc t l) + 1 = tally P loc := by
  have := tally_update P loc t l
  rw [if_pos h, if_neg h'] at this
  omega

end

section
variable {P : L → Prop} [DecidablePred P] {loc loc' : Tid → L}

theorem tally_mono (h : ∀ t, P (loc t) → P (loc' t)) : tally P loc ≤ tally P loc' := by
  apply Finset.card_le_card
  intro t
  simpa using h t

/-- One thread moves and does not leave. -/
theorem tally_mono_of_one {t : Tid} (hother : ∀ u, u ≠ t → loc' u = loc u)
    (h : P (loc t) → P (loc' t)) : tally P loc ≤ tally P loc' := by
  apply tally_mono
  intro u
  by_cases hu : u = t
  · rw [hu]
    exact h
  · rw [hother u hu]
    exact id

/-- All but one thread stay. -/
theorem tally_le_succ [DecidableEq Tid] (t : Tid) (h : ∀ u, u ≠ t → P (loc u) → P (loc' u)) :
    tally P loc ≤ tally P loc' + 1 := by
  have hsub : Finset.univ.filter (fun u => P (loc u)) ⊆
      insert t (Finset.univ.filter fun u => P (loc' u)) := by
    intro u hu
    simp only [Finset.mem_filter, Finset.mem_univ, true_and, Finset.mem_insert] at hu ⊢
    by_cases hut : u = t
    · exact .inl hut
    · exact .inr (h u hut hu)
  exact (Finset.card_le_card hsub).trans (Finset.card_insert_le _ _)

/-- All threads stay and one comes. -/
theorem succ_tally_le {t : Tid} (ht : ¬ P (loc t)) (ht' : P (loc' t))
    (h : ∀ u, P (loc u) → P (loc' u)) : tally P loc + 1 ≤ tally P loc' := by
  apply Finset.card_lt_card
  rw [Finset.ssubset_iff_of_subset]
  · exact ⟨t, by simpa using ht', by simpa using ht⟩
  · intro u
    simpa using h u

end

/-! ## Sums

    What the threads of a finite family add to one counter. -/

/-- What all threads together add. -/
def total (f : L → Int) (loc : Tid → L) : Int := ∑ t, f (loc t)

section
variable {f : L → Int} {loc : Tid → L}

theorem total_update [DecidableEq Tid] (f : L → Int) (loc : Tid → L) (t : Tid) (l : L) :
    total f (Function.update loc t l) = total f loc - f (loc t) + f l := by
  have hrest : ∀ u ∈ Finset.univ.erase t, f (Function.update loc t l u) = f (loc u) := by
    intro u hu
    rw [Function.update_of_ne (Finset.ne_of_mem_erase hu)]
  have hmem : t ∈ Finset.univ := Finset.mem_univ t
  unfold total
  rw [← Finset.add_sum_erase _ _ hmem, ← Finset.add_sum_erase Finset.univ _ hmem,
    Finset.sum_congr rfl hrest, Function.update_self]
  omega

/-- Only one thread adds something. -/
theorem total_of_alone {t : Tid} (h : ∀ u, u ≠ t → f (loc u) = 0) : total f loc = f (loc t) :=
  Finset.sum_eq_single t (fun u _ hu => h u hu) fun ht => absurd (Finset.mem_univ t) ht

theorem total_of_zero (h : ∀ t, f (loc t) = 0) : total f loc = 0 :=
  Finset.sum_eq_zero fun t _ => h t

/-- Nothing negative adds up to nothing. -/
theorem eq_zero_of_total (hnonneg : ∀ t, 0 ≤ f (loc t)) (h : total f loc = 0) (t : Tid) :
    f (loc t) = 0 :=
  (Finset.sum_eq_zero_iff_of_nonneg fun t _ => hnonneg t).mp h t (Finset.mem_univ t)

end

/-! ## Lock words

    A reader-writer lock kept in one integer: it counts the readers, and a
    single writer is -1. -/

structure RwLock (word : Int) (readers writers : Nat) : Prop where
  word_eq    : word = readers - writers
  writers_le : writers ≤ 1
  exclusive  : 0 < writers → readers = 0

namespace RwLock

variable {word : Int} {readers writers : Nat}

theorem free : RwLock 0 0 0 := ⟨by omega, by omega, by omega⟩

/-- A writer gets in only when nobody is inside. -/
theorem lockWrite (h : RwLock word readers writers) (hfree : word = 0) :
    RwLock (-1) readers (writers + 1) := by
  obtain ⟨hword, hle, hexcl⟩ := h
  have hwriters : writers = 0 := by omega
  exact ⟨by omega, by omega, fun _ => by omega⟩

theorem no_writer (h : RwLock word readers writers) (hword : 0 ≤ word) : writers = 0 := by
  obtain ⟨hword, hle, hexcl⟩ := h
  omega

theorem unlockWrite (h : RwLock word readers (writers + 1)) :
    RwLock (word + 1) readers writers := by
  obtain ⟨hword, hle, hexcl⟩ := h
  exact ⟨by omega, by omega, fun _ => hexcl (by omega)⟩

/-- A reader gets in when no writer is inside. -/
theorem lockRead (h : RwLock word readers writers) (hword : 0 ≤ word) :
    RwLock (word + 1) (readers + 1) writers := by
  have hwriters := h.no_writer hword
  obtain ⟨hword, hle, hexcl⟩ := h
  exact ⟨by omega, by omega, by omega⟩

theorem unlockRead (h : RwLock word (readers + 1) writers) :
    RwLock (word - 1) readers writers := by
  obtain ⟨hword, hle, hexcl⟩ := h
  exact ⟨by omega, by omega, by omega⟩

end RwLock

end CyberRT.Framework
