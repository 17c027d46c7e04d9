import Mathlib.Data.List.Basic
import Mathlib.Data.List.Induction
import Mathlib.Data.List.TakeWhile
import CyberRT.Timer.TimingWheel

/-! # The next duration of a periodic timer

    After each call the periodic callback computes how long its task waits
    for the next one: the period without the time of the call, corrected by
    the error that has accumulated since the first call. `InitTimerTask`
    checks that a period fits into the two wheels. What a callback computes
    is not checked: calls that come too early add to the next duration.

    Times are `uint64_t` nanoseconds, the accumulated error is an `int64_t`
    and wraps. `llround` of a quotient is taken as exact. -/

namespace CyberRT.Timer

/-! ## Section 1: The periodic callback -/

/-- One call: when the user's callback starts and when it ends. -/
structure Execution where
  start     : Nat
  finish    : Nat
  start_le  : start ≤ finish
  finish_lt : finish < 2 ^ 64

/-- The fields of a `TimerTask` that the periodic callback uses. -/
structure PeriodicTask where
  intervalMs         : Nat
  nextFireDurationMs : Nat
  accumulatedErrorNs : Int
  lastExecuteTimeNs  : Nat

/-- `InitTimerTask` of a periodic timer. -/
def initTimerTask (period : Nat) : Option PeriodicTask :=
  if period = 0 then none
  else if timerMaxIntervalMs ≤ period then none
  else some
    { intervalMs         := period
      nextFireDurationMs := period
      accumulatedErrorNs := 0
      lastExecuteTimeNs  := 0 }

/-- `llround(ns / 1000000)`: halves are rounded away from zero. -/
def llroundMs (ns : Int) : Int :=
  if 0 ≤ ns then (ns + 500000) / 1000000 else -((-ns + 500000) / 1000000)

/-- `execute_time_ms`. -/
def Execution.timeMs (e : Execution) : Nat := (llroundMs (e.finish - e.start : Nat)).toNat

/-- The integer the callback rearms the timer with if it takes the last
    branch but one; the code computes it as a `uint64_t`. -/
def PeriodicTask.rearmMs (task : PeriodicTask) (executeTimeMs : Nat) : Int :=
  task.intervalMs - executeTimeMs - llroundMs task.accumulatedErrorNs

/-- What follows the call of the user's callback, up to `AddTask`. -/
def PeriodicTask.callback (task : PeriodicTask) (e : Execution) : PeriodicTask :=
  let task :=
    if task.lastExecuteTimeNs = 0 then task
    else
      { task with
        accumulatedErrorNs := (task.accumulatedErrorNs +
          (e.start - task.lastExecuteTimeNs - task.intervalMs * 1000000)).bmod (2 ^ 64) }
  let task := { task with lastExecuteTimeNs := e.start }
  if task.intervalMs ≤ e.timeMs then { task with nextFireDurationMs := 1 }
  else if llroundMs task.accumulatedErrorNs ≤ (task.intervalMs - e.timeMs - 1 : Nat) then
    { task with nextFireDurationMs := (task.rearmMs e.timeMs % 2 ^ 64).toNat }
  else { task with nextFireDurationMs := 1 }

/-- The task after these calls. -/
def PeriodicTask.run (task : PeriodicTask) (es : List Execution) : PeriodicTask :=
  es.foldl callback task

/-! ## Section 2: The accumulated error -/

/-- **Lag**: how much later than planned the last call has started, if the
    first one is on time. A start at 0 is not told from no start at all. -/
def lagNs (period : Nat) (es : List Execution) : Int :=
  match es.dropWhile (·.start = 0) with
  | []            => 0
  | first :: rest =>
    (((rest.getLastD first).start : Int) - first.start -
      rest.length * (period * 1000000)).bmod (2 ^ 64)

/-- The times of a run do not decrease. -/
def NonDecreasing (es : List Execution) : Prop := es.Pairwise fun a b => a.finish ≤ b.start

variable {period : Nat} {task : PeriodicTask} {es : List Execution} {e : Execution}

theorem initTimerTask_eq_some (h : initTimerTask period = some task) :
    task.intervalMs = period ∧ task.accumulatedErrorNs = 0 ∧ task.lastExecuteTimeNs = 0 ∧
      period < timerMaxIntervalMs := by
  unfold initTimerTask at h
  split at h
  · cases h
  split at h
  · cases h
  · next hlt =>
    cases h
    exact ⟨rfl, rfl, rfl, Nat.lt_of_not_le hlt⟩

@[simp] theorem callback_intervalMs (task : PeriodicTask) (e : Execution) :
    (task.callback e).intervalMs = task.intervalMs := by
  unfold PeriodicTask.callback
  split <;> dsimp only <;> split <;> try rfl
  all_goals split <;> rfl

@[simp] theorem callback_lastExecuteTimeNs (task : PeriodicTask) (e : Execution) :
    (task.callback e).lastExecuteTimeNs = e.start := by
  unfold PeriodicTask.callback
  split <;> dsimp only <;> split <;> try rfl
  all_goals split <;> rfl

theorem callback_accumulatedErrorNs (task : PeriodicTask) (e : Execution) :
    (task.callback e).accumulatedErrorNs =
      if task.lastExecuteTimeNs = 0 then task.accumulatedErrorNs
      else (task.accumulatedErrorNs +
        (e.start - task.lastExecuteTimeNs - task.intervalMs * 1000000)).bmod (2 ^ 64) := by
  unfold PeriodicTask.callback
  split <;> dsimp only <;> split <;> try rfl
  all_goals split <;> rfl

theorem run_concat (task : PeriodicTask) (es : List Execution) (e : Execution) :
    task.run (es ++ [e]) = (task.run es).callback e := List.foldl_concat ..

theorem run_intervalMs (task : PeriodicTask) (es : List Execution) :
    (task.run es).intervalMs = task.intervalMs := by
  induction es using List.reverseRecOn with
  | nil => rfl
  | append_singleton es e ih => rw [run_concat, callback_intervalMs, ih]

theorem run_lastExecuteTimeNs (task : PeriodicTask) (first : Execution)
    (front rest : List Execution) :
    (task.run (front ++ first :: rest)).lastExecuteTimeNs = (rest.getLastD first).start := by
  induction rest using List.reverseRecOn with
  | nil => rw [run_concat, callback_lastExecuteTimeNs]; rfl
  | append_singleton rest e _ =>
    rw [← List.cons_append, ← List.append_assoc, run_concat, callback_lastExecuteTimeNs,
      List.getLastD_concat]

/-- The last call of a run that has begun at a nonzero time. -/
theorem last_ne_zero {first : Execution} {rest : List Execution}
    (hmono : NonDecreasing (first :: rest)) (hfirst : first.start ≠ 0) :
    (rest.getLastD first).start ≠ 0 := by
  rcases List.eq_nil_or_concat rest with rfl | ⟨rest, e, rfl⟩
  · exact hfirst
  · rw [List.concat_eq_append, List.getLastD_concat]
    have hle := (List.pairwise_cons.mp hmono).1 e (by simp)
    have := first.start_le
    omega

theorem lagNs_of_zeros (h : es.dropWhile (·.start = 0) = []) (e : Execution) :
    lagNs period es = 0 ∧ lagNs period (es ++ [e]) = 0 := by
  refine ⟨by rw [lagNs, h], ?_⟩
  rw [lagNs, List.dropWhile_append, h]
  by_cases hzero : e.start = 0
  · simp [hzero]
  · simp [hzero]

theorem lagNs_concat {first : Execution} {rest : List Execution}
    (h : es.dropWhile (·.start = 0) = first :: rest) (e : Execution) :
    lagNs period (es ++ [e]) =
      (lagNs period es + (e.start - (rest.getLastD first).start - period * 1000000)).bmod
        (2 ^ 64) := by
  have hdrop : (es ++ [e]).dropWhile (·.start = 0) = first :: (rest ++ [e]) := by
    rw [List.dropWhile_append, h]
    rfl
  rw [lagNs, hdrop, lagNs, h]
  dsimp only
  rw [Int.bmod_add_bmod, List.getLastD_concat, List.length_append, List.length_singleton]
  congr 1
  push_cast
  ring

/-- **Telescoping**: the accumulated error is the lag of the last call. -/
theorem run_accumulatedErrorNs (hinit : initTimerTask period = some task)
    (hmono : NonDecreasing es) : (task.run es).accumulatedErrorNs = lagNs period es := by
  obtain ⟨hinterval, herror, hstart, -⟩ := initTimerTask_eq_some hinit
  -- induction on the calls; calls at time 0 count as none
  induction es using List.reverseRecOn with
  | nil => exact herror
  | append_singleton es e ih =>
    have hmono' : NonDecreasing es := hmono.sublist (List.sublist_append_left es [e])
    rw [run_concat, callback_accumulatedErrorNs, ih hmono', run_intervalMs, hinterval]
    have hsplit := List.takeWhile_append_dropWhile (p := (·.start = 0)) (l := es)
    rcases hdrop : es.dropWhile (·.start = 0) with _ | ⟨first, rest⟩
    · -- no call has left a time behind
      have hlast : (task.run es).lastExecuteTimeNs = 0 := by
        rcases List.eq_nil_or_concat es with rfl | ⟨es, e', rfl⟩
        · exact hstart
        · rw [List.concat_eq_append] at hdrop ⊢
          rw [run_concat, callback_lastExecuteTimeNs]
          have hzero := List.dropWhile_eq_nil_iff.mp hdrop e' (by simp)
          exact of_decide_eq_true hzero
      rw [if_pos hlast, (lagNs_of_zeros hdrop e).1, (lagNs_of_zeros hdrop e).2]
    · have hfirst : first.start ≠ 0 := by
        have hnot := List.head_dropWhile_not (fun e : Execution => decide (e.start = 0)) (l := es)
          (by rw [hdrop]; exact List.cons_ne_nil _ _)
        simp only [hdrop, List.head_cons, decide_eq_false_iff_not] at hnot
        exact hnot
      rw [hdrop] at hsplit
      have hlast := run_lastExecuteTimeNs task first (es.takeWhile (·.start = 0)) rest
      rw [hsplit] at hlast
      have hbegun : NonDecreasing (first :: rest) :=
        hmono'.sublist (hsplit ▸ List.sublist_append_right _ _)
      rw [hlast, if_neg (last_ne_zero hbegun hfirst), lagNs_concat hdrop]

/-! ## Section 3: The range -/

/-- **Property** of the next duration: the unsigned difference, where it is
    taken, has not wrapped, and the duration is in range. `AddTask` then
    finds a place for it in one of the wheels, wherever the work wheel is. -/
structure InRange (task : PeriodicTask) (e : Execution) : Prop where
  unwrapped : (task.nextFireDurationMs : Int) = 1 ∨
    (task.nextFireDurationMs : Int) = task.rearmMs e.timeMs
  one_le    : 1 ≤ task.nextFireDurationMs
  le_max    : task.nextFireDurationMs ≤ timerMaxIntervalMs
  wheels    : ∀ current : Fin workWheelSize,
    (current.val + task.nextFireDurationMs) / workWheelSize ≤ assistantWheelSize

/-- **Condition**: the last call has taken as long as the period, or it has
    not started so early that what is left of the period and its lead are
    more than the wheels hold. -/
def StartsInTime (period : Nat) (es : List Execution) (e : Execution) : Prop :=
  period ≤ e.timeMs ∨ -llroundMs (lagNs period es) ≤ timerMaxIntervalMs - (period - e.timeMs)

theorem callback_nextFireDurationMs (task : PeriodicTask) (e : Execution) :
    (task.callback e).nextFireDurationMs =
      if task.intervalMs ≤ e.timeMs then 1
      else if llroundMs (task.callback e).accumulatedErrorNs ≤
          (task.intervalMs - e.timeMs - 1 : Nat) then
        ((task.callback e).rearmMs e.timeMs % 2 ^ 64).toNat
      else 1 := by
  unfold PeriodicTask.callback PeriodicTask.rearmMs
  by_cases hbusy : task.intervalMs ≤ e.timeMs
  · by_cases hfirst : task.lastExecuteTimeNs = 0 <;> simp only [hfirst, hbusy, if_true, if_false]
  · by_cases hfirst : task.lastExecuteTimeNs = 0 <;> simp only [hfirst, hbusy, if_true, if_false]
    all_goals split <;> rfl

/-- An `int64_t` of nanoseconds in milliseconds. -/
theorem llroundMs_bmod (x : Int) : -(2 ^ 44) ≤ llroundMs (x.bmod (2 ^ 64)) := by
  have hle : -(2 ^ 63 : Int) ≤ x.bmod (2 ^ 64) := by
    have := Int.le_bmod (x := x) (m := 2 ^ 64) (by decide)
    omega
  unfold llroundMs
  split <;> omega

/-- Placing a task needs a turn of the assistant wheel at most. -/
theorem wheels_of_le_max {duration : Nat} (h : duration ≤ timerMaxIntervalMs)
    (current : Fin workWheelSize) :
    (current.val + duration) / workWheelSize ≤ assistantWheelSize := by
  have := current.isLt
  unfold timerMaxIntervalMs workWheelSize assistantWheelSize at *
  omega

/-- **Step lemma**. -/
theorem inRange_iff (hinit : initTimerTask period = some task)
    (hmono : NonDecreasing (es ++ [e])) :
    InRange (task.run (es ++ [e])) e ↔ StartsInTime period (es ++ [e]) e := by
  obtain ⟨hinterval, -, -, hperiod⟩ := initTimerTask_eq_some hinit
  have herror := run_accumulatedErrorNs hinit hmono
  have hnext := callback_nextFireDurationMs (task.run es) e
  have hrearm : (task.run (es ++ [e])).rearmMs e.timeMs =
      period - e.timeMs - llroundMs (lagNs period (es ++ [e])) := by
    rw [PeriodicTask.rearmMs, herror, run_intervalMs, hinterval]
  have hlag : -(2 ^ 44) ≤ llroundMs (lagNs period (es ++ [e])) := by
    unfold lagNs
    split
    · decide
    · exact llroundMs_bmod _
  rw [← run_concat, herror, run_intervalMs, hinterval, hrearm] at hnext
  have hrange : InRange (task.run (es ++ [e])) e ↔
      ((task.run (es ++ [e])).nextFireDurationMs = 1 ∨
        ((task.run (es ++ [e])).nextFireDurationMs : Int) = period - e.timeMs -
          llroundMs (lagNs period (es ++ [e]))) ∧
      1 ≤ (task.run (es ++ [e])).nextFireDurationMs ∧
      (task.run (es ++ [e])).nextFireDurationMs ≤ timerMaxIntervalMs := by
    constructor
    · intro h
      have hunwrapped := h.unwrapped
      rw [hrearm] at hunwrapped
      exact ⟨by omega, h.one_le, h.le_max⟩
    · rintro ⟨hunwrapped, hone, hmax⟩
      exact ⟨by rw [hrearm]; omega, hone, hmax, wheels_of_le_max hmax⟩
  have hmax : timerMaxIntervalMs = 32768 := rfl
  rw [hmax] at hperiod
  rw [hrange, StartsInTime, hnext, hmax]
  -- from here on it is about the lead and the time the call has taken
  clear hrange hnext hrearm herror hinit hinterval
  generalize llroundMs (lagNs period (es ++ [e])) = lead at *
  generalize e.timeMs = executeTimeMs at *
  split
  · omega
  · split <;> omega

/-- **Rearming**: over a run of a periodic timer every next duration is in
    range if and only if no call starts too early. -/
theorem rearm_inRange_iff (hinit : initTimerTask period = some task) (hmono : NonDecreasing es) :
    (∀ before e, before ++ [e] <+: es → InRange (task.run (before ++ [e])) e) ↔
      ∀ before e, before ++ [e] <+: es → StartsInTime period (before ++ [e]) e := by
  have hstep : ∀ before e, before ++ [e] <+: es →
      (InRange (task.run (before ++ [e])) e ↔ StartsInTime period (before ++ [e]) e) :=
    fun before e hpre => inRange_iff hinit (hmono.sublist hpre.sublist)
  exact forall_congr' fun before => forall_congr' fun e => imp_congr_right (hstep before e)

/-- A call, and one 102 ms behind it. -/
def firstCall : Execution := ⟨1000, 2000, by decide, by decide⟩
def lateCall : Execution := ⟨102001000, 102002000, by decide, by decide⟩

/-- Two calls at the same time. -/
def twoCalls : List Execution := [⟨1, 1, by decide, by decide⟩, ⟨1, 1, by decide, by decide⟩]

def task100 : PeriodicTask := ⟨100, 100, 0, 0⟩

/-- A timer of 100 ms with a second call that is 2 ms late. -/
theorem rearm_inRange_late : InRange (task100.run [firstCall, lateCall]) lateCall := by
  have hmono : NonDecreasing [firstCall, lateCall] := by
    simp [NonDecreasing, firstCall, lateCall]
  have hinit : initTimerTask 100 = some task100 := rfl
  apply (rearm_inRange_iff hinit hmono).mpr _ [firstCall] lateCall (List.prefix_refl _)
  intro before e hpre
  have hlength := hpre.length_le
  rcases before with _ | ⟨x, _ | ⟨y, before⟩⟩
  · simp only [List.nil_append, List.cons_prefix_cons] at hpre
    rw [hpre.1]
    exact .inr (by decide)
  · simp only [List.cons_append, List.nil_append, List.cons_prefix_cons] at hpre
    rw [hpre.1, hpre.2.1]
    exact .inr (by decide)
  · simp only [List.length_append, List.length_cons, List.length_nil] at hlength
    omega

/-- A timer of 32767 ms that is called twice at the same time waits for
    twice the period. -/
theorem rearm_tooLong :
    NonDecreasing twoCalls ∧
    (initTimerTask 32767).map (fun task => (task.run twoCalls).nextFireDurationMs) = some 65534 ∧
    timerMaxIntervalMs < 65534 := by
  refine ⟨?_, by decide, by decide⟩
  simp [NonDecreasing, twoCalls]

end CyberRT.Timer
