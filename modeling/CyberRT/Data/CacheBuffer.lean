import CyberRT.Framework.Ring

/-! # The cache buffer

    A ring of `size + 1` cells with a head and a tail that only grow. When
    it is full, `Fill` overwrites and moves both. `Head()` to `Tail()` are
    the positions that can be read; they count the filled values from 1.

    `head_` and `tail_` are unbounded here; `CacheBuffer64` has their 64
    bits. `Fill` is the branch without a fusion callback; what a callback
    does instead is in the fusion model. -/

namespace CyberRT.Data

open CyberRT.Framework

/-! ## Section 1: Model -/

structure CacheBuffer (T : Type) where
  head     : Nat
  tail     : Nat
  capacity : Nat
  buffer   : Nat → T

namespace CacheBuffer

variable {T : Type}

/-- `CacheBuffer(size)`. -/
def new [Inhabited T] (size : Nat) : CacheBuffer T := ⟨0, 0, size + 1, fun _ => default⟩

def getIndex (b : CacheBuffer T) (pos : Nat) : Nat := pos % b.capacity

/-- `at(pos)`. -/
def get (b : CacheBuffer T) (pos : Nat) : T := b.buffer (b.getIndex pos)

/-- `Head()`. -/
def first (b : CacheBuffer T) : Nat := b.head + 1

def size (b : CacheBuffer T) : Nat := b.tail - b.head

def back (b : CacheBuffer T) : T := b.buffer (b.getIndex b.tail)

def empty (b : CacheBuffer T) : Bool := b.tail = 0

def full (b : CacheBuffer T) : Bool := b.capacity - 1 = b.tail - b.head

def fill (b : CacheBuffer T) (value : T) : CacheBuffer T :=
  if b.full then
    { b with
      buffer := Function.update b.buffer (b.getIndex b.head) value
      head   := b.head + 1
      tail   := b.tail + 1 }
  else
    { b with
      buffer := Function.update b.buffer (b.getIndex (b.tail + 1)) value
      tail   := b.tail + 1 }

/-! ## Section 2: What a buffer stands for -/

/-- The buffer keeps the last `size` values of `log`, all that was filled. -/
structure Keeps (size : Nat) (log : List T) (b : CacheBuffer T) : Prop where
  capacity : b.capacity = size + 1
  head     : b.head = log.length - size
  tail     : b.tail = log.length
  window   : Ring.Window (size + 1) b.buffer b.head log

variable {size : Nat} {log : List T} {b : CacheBuffer T}

theorem keeps_new [Inhabited T] (size : Nat) : Keeps size [] (new size : CacheBuffer T) :=
  ⟨rfl, (Nat.zero_sub size).symm, rfl, Ring.Window.nil⟩

theorem Keeps.full_iff (h : Keeps size log b) : b.full = true ↔ size ≤ log.length := by
  unfold full
  rw [decide_eq_true_iff, h.capacity, h.head, h.tail]
  omega

/-- **Fill**: the buffer keeps the last values of the longer log. -/
theorem Keeps.fill (h : Keeps size log b) (value : T) :
    Keeps size (log ++ [value]) (b.fill value) := by
  have hlen : (log ++ [value]).length = log.length + 1 := List.length_append
  have hwindow := h.window
  rw [h.head] at hwindow
  by_cases hfull : b.full = true
  · have hle := h.full_iff.mp hfull
    -- the head's cell is the cell of the new position, a lap ahead
    have hcell : b.getIndex b.head = (log.length + 1) % (size + 1) := by
      have hpos : log.length + 1 = b.head + (size + 1) := by
        rw [h.head]
        omega
      rw [hpos, Nat.add_mod_right, getIndex, h.capacity]
    unfold CacheBuffer.fill
    rw [if_pos hfull]
    refine ⟨h.capacity, ?_, ?_, ?_⟩
    · show b.head + 1 = _
      rw [h.head, hlen]
      omega
    · show b.tail + 1 = _
      rw [h.tail, hlen]
    · show Ring.Window _ (Function.update b.buffer (b.getIndex b.head) value) (b.head + 1) _
      rw [hcell, h.head]
      exact hwindow.push (by omega) (by omega) value
  · have hlt : log.length < size := by
      rw [h.full_iff] at hfull
      omega
    unfold CacheBuffer.fill
    rw [if_neg hfull]
    refine ⟨h.capacity, ?_, ?_, ?_⟩
    · show b.head = _
      rw [h.head, hlen]
      omega
    · show b.tail + 1 = _
      rw [h.tail, hlen]
    · show Ring.Window _ (Function.update b.buffer (b.getIndex (b.tail + 1)) value) b.head _
      rw [getIndex, h.capacity, h.tail, h.head]
      exact hwindow.push (Nat.le_refl _) (by omega) value

theorem Keeps.empty_iff (h : Keeps size log b) : b.empty = true ↔ log = [] := by
  unfold empty
  rw [decide_eq_true_iff, h.tail, List.length_eq_zero_iff]

/-- **At**: what is read between head and tail is what was filled there. -/
theorem Keeps.get (h : Keeps size log b) {p : Nat} (hfirst : b.first ≤ p)
    (htail : p ≤ b.tail) : log[p - 1]? = some (b.get p) := by
  rw [h.tail] at htail
  unfold CacheBuffer.get getIndex
  rw [h.capacity]
  exact h.window p hfirst htail

/-- The last value is there, whatever has wrapped. -/
theorem Keeps.back (h : Keeps size log b) (hsize : 1 ≤ size) (hne : log ≠ []) :
    log.getLast? = some b.back := by
  have hpos : 0 < log.length := List.length_pos_iff.mpr hne
  have hlast := h.get (p := b.tail) (by unfold first; rw [h.head, h.tail]; omega) (Nat.le_refl _)
  rw [h.tail] at hlast
  rw [List.getLast?_eq_getElem?, hlast]
  unfold CacheBuffer.get CacheBuffer.back
  rw [h.tail]

end CacheBuffer

end CyberRT.Data
