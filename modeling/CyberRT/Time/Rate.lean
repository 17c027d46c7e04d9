import Mathlib.Data.Int.Order.Basic

/-! # Rate

    `Rate::Sleep` ends the cycle at the end that was expected of it. A cycle
    that took longer makes the next ones shorter, unless it took a whole
    cycle more: then the lost time is dropped.

    Times are in nanoseconds; the wrap-around of `Time` and `Duration` is
    left out. -/

namespace CyberRT.Time

structure Rate where
  start             : Int
  expectedCycleTime : Int
  actualCycleTime   : Int
  deriving DecidableEq

namespace Rate

/-- `Rate(nanoseconds)`, with the clock at `now`. -/
def new (now nanoseconds : Int) : Rate := ⟨now, nanoseconds, 0⟩

/-- The end of the cycle; a backward jump of the clock starts it anew. -/
def expectedEnd (r : Rate) (now : Int) : Int :=
  if now < r.start then now + r.expectedCycleTime else r.start + r.expectedCycleTime

/-- `Sleep`, with the clock at `now`: the new state and the time `SleepUntil`
    is called with, if it is. -/
def sleep (r : Rate) (now : Int) : Rate × Option Int :=
  if r.expectedEnd now - now < 0 then
    -- more than a full extra cycle resets the cycle
    if r.expectedEnd now + r.expectedCycleTime < now then
      ({ r with start := now, actualCycleTime := now - r.start }, none)
    else
      ({ r with start := r.expectedEnd now, actualCycleTime := now - r.start }, none)
  else
    ({ r with start := r.expectedEnd now, actualCycleTime := now - r.start },
      some (r.expectedEnd now))

variable {r : Rate} {now : Int}

theorem expectedEnd_le (r : Rate) (now : Int) :
    r.expectedEnd now ≤ now + r.expectedCycleTime := by
  unfold expectedEnd
  split
  · exact Int.le_refl _
  · omega

theorem expectedEnd_forward (h : r.start ≤ now) :
    r.expectedEnd now = r.start + r.expectedCycleTime :=
  if_neg (Int.not_lt.mpr h)

@[simp] theorem sleep_expectedCycleTime (r : Rate) (now : Int) :
    (r.sleep now).1.expectedCycleTime = r.expectedCycleTime := by
  unfold sleep
  split
  · split
    · rfl
    · rfl
  · rfl

/-- The thread sleeps up to the end of the cycle and at most for a cycle,
    whatever the clock does. -/
theorem sleep_some {deadline : Int} (h : (r.sleep now).2 = some deadline) :
    (r.sleep now).1.start = deadline ∧ now ≤ deadline ∧
      deadline ≤ now + r.expectedCycleTime := by
  have hle := r.expectedEnd_le now
  unfold sleep at h ⊢
  by_cases hlate : r.expectedEnd now - now < 0
  · rw [if_pos hlate] at h
    split at h
    · cases h
    · cases h
  · rw [if_neg hlate] at h ⊢
    obtain rfl := Option.some.inj h
    refine ⟨rfl, ?_, hle⟩
    omega

/-- Without a backward jump the cycle advances by its time at least, and is
    at most one behind the clock. -/
theorem sleep_start (hpos : 0 ≤ r.expectedCycleTime) (hforward : r.start ≤ now) :
    r.start + r.expectedCycleTime ≤ (r.sleep now).1.start ∧
      now - r.expectedCycleTime ≤ (r.sleep now).1.start ∧
      ((r.sleep now).2 = none → (r.sleep now).1.start ≤ now) := by
  unfold sleep
  rw [expectedEnd_forward hforward]
  split
  · split
    · refine ⟨?_, ?_, fun _ => Int.le_refl now⟩
      · show r.start + r.expectedCycleTime ≤ now
        omega
      · show now - r.expectedCycleTime ≤ now
        omega
    · refine ⟨Int.le_refl _, ?_, fun _ => ?_⟩
      · show now - r.expectedCycleTime ≤ r.start + r.expectedCycleTime
        omega
      · show r.start + r.expectedCycleTime ≤ now
        omega
  · refine ⟨Int.le_refl _, ?_, nofun⟩
    show now - r.expectedCycleTime ≤ r.start + r.expectedCycleTime
    omega

/-- A cycle that ends in time. -/
theorem sleep_inTime (hforward : r.start ≤ now) (htime : now ≤ r.start + r.expectedCycleTime) :
    (r.sleep now).1.start = r.start + r.expectedCycleTime ∧
      (r.sleep now).2 = some (r.start + r.expectedCycleTime) := by
  unfold sleep
  rw [expectedEnd_forward hforward, if_neg (by omega)]
  exact ⟨rfl, rfl⟩

end Rate

end CyberRT.Time
