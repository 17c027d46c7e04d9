import Mathlib.Data.List.TakeWhile

/-! # Lines of a stream

    `getline` takes what stands before the next delimiter and drops the
    delimiter. It fails at the end of the stream, so that a delimiter at the
    very end opens no further line. `getlines` is the loop around it.

    What is joined with a delimiter comes back from the loop if no part has
    the delimiter in it and none is empty. -/

namespace CyberRT.Framework

universe u

variable {α : Type u} [DecidableEq α] {d : α} {s l : List α}

/-! ## Section 1: One line -/

/-- The next line and the stream behind it. -/
def getline (d : α) : List α → Option (List α × List α)
  | []     => none
  | c :: s => some ((c :: s).takeWhile (· ≠ d), ((c :: s).dropWhile (· ≠ d)).drop 1)

@[simp] theorem getline_nil : getline d [] = none := rfl

theorem getline_of_ne_nil (hs : s ≠ []) :
    getline d s = some (s.takeWhile (· ≠ d), (s.dropWhile (· ≠ d)).drop 1) := by
  cases s with
  | nil      => exact absurd rfl hs
  | cons c s => rfl

theorem ne_of_not_mem (hl : d ∉ l) : ∀ c ∈ l, (decide (c ≠ d)) = true := by
  intro c hc
  have hne : c ≠ d := fun h => hl (h ▸ hc)
  exact decide_eq_true hne

/-- A line with a delimiter behind it. -/
theorem getline_line (hl : d ∉ l) : getline d (l ++ d :: s) = some (l, s) := by
  rw [getline_of_ne_nil (by simp),
    List.takeWhile_append_of_pos (ne_of_not_mem hl),
    List.dropWhile_append_of_pos (ne_of_not_mem hl)]
  simp

/-- The last line. -/
theorem getline_last (hl : d ∉ l) (hne : l ≠ []) : getline d l = some (l, []) := by
  have htake := List.takeWhile_eq_self_iff.mpr (ne_of_not_mem hl)
  have hdrop := List.dropWhile_eq_nil_iff.mpr (ne_of_not_mem hl)
  rw [getline_of_ne_nil hne, htake, hdrop]
  simp

/-- Every call that succeeds takes something from the stream. -/
theorem getline_shorter {rest : List α} (h : getline d s = some (l, rest)) :
    rest.length < s.length := by
  cases s with
  | nil => cases h
  | cons c s =>
    have hrest : ((c :: s).dropWhile (· ≠ d)).drop 1 = rest := congrArg Prod.snd (Option.some.inj h)
    have hdrop := (List.dropWhile_sublist (l := c :: s) (· ≠ d)).length_le
    rw [← hrest, List.length_drop]
    simp only [List.length_cons] at hdrop ⊢
    omega

/-! ## Section 2: All lines -/

/-- The loop `while (getline(ss, l, d))`, with what it collects. -/
def getlines (d : α) (s : List α) : List (List α) :=
  match _h : getline d s with
  | none           => []
  | some (l, rest) => l :: getlines d rest
termination_by s.length
decreasing_by exact getline_shorter ‹_›

theorem getlines_of_none (h : getline d s = none) : getlines d s = [] := by
  unfold getlines
  split
  · rfl
  · rename_i h'
    rw [h] at h'
    cases h'

theorem getlines_of_some {rest : List α} (h : getline d s = some (l, rest)) :
    getlines d s = l :: getlines d rest := by
  rw [getlines]
  split
  · rename_i h'
    rw [h] at h'
    cases h'
  · rename_i h'
    rw [h] at h'
    cases h'
    rfl

@[simp] theorem getlines_nil : getlines d [] = [] := getlines_of_none getline_nil

/-- A stream without a delimiter is one line. -/
theorem getlines_single (hl : d ∉ l) (hne : l ≠ []) : getlines d l = [l] := by
  rw [getlines_of_some (getline_last hl hne), getlines_nil]

theorem getlines_line (hl : d ∉ l) : getlines d (l ++ d :: s) = l :: getlines d s :=
  getlines_of_some (getline_line hl)

/-- The loop takes apart what was joined. -/
theorem getlines_intercalate {ls : List (List α)} (hd : ∀ l ∈ ls, d ∉ l) (hne : [] ∉ ls) :
    getlines d ([d].intercalate ls) = ls := by
  induction ls with
  | nil => exact getlines_nil
  | cons l ls ih =>
    have hl : d ∉ l := hd l List.mem_cons_self
    have hls : ∀ l ∈ ls, d ∉ l := fun l h => hd l (List.mem_cons_of_mem _ h)
    have hrest : [] ∉ ls := fun h => hne (List.mem_cons_of_mem _ h)
    cases ls with
    | nil =>
      have hlne : l ≠ [] := fun h => hne (h ▸ List.mem_cons_self)
      simpa [List.intercalate] using getlines_single hl hlne
    | cons l' ls =>
      -- the rest of the lines stands behind the delimiter
      have hjoin : [d].intercalate (l :: l' :: ls) = l ++ d :: [d].intercalate (l' :: ls) := by
        simp [List.intercalate]
      rw [hjoin, getlines_line hl, ih hls hrest]

end CyberRT.Framework
