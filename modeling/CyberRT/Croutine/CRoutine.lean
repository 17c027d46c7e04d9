import Mathlib.Logic.Function.Basic

/-! # Coroutines

    The part of `CRoutine` the scheduler and its notifiers share: the
    routine's state and the update flag.

    `updated_` is an atomic flag that is *set* when nothing is pending:
    `SetUpdateFlag` clears it, `UpdateState` sets it again and learns
    whether it was clear. -/

namespace CyberRT.Croutine

/-! ## Section 1: Data -/

inductive RoutineState where
  | ready
  | finished
  | sleep
  | ioWait
  | dataWait
  deriving DecidableEq

structure CRoutine where
  state   : RoutineState
  updated : Bool
  deriving DecidableEq

namespace CRoutine

/-- A routine as the constructor leaves it. -/
def new : CRoutine := ⟨.ready, true⟩

/-- The update flag is raised. -/
def Raised (cr : CRoutine) : Prop := cr.updated = false

instance (cr : CRoutine) : Decidable cr.Raised := inferInstanceAs (Decidable (_ = _))

/-! ## Section 2: Operations -/

/-- The states in which `NotifyProcessor` raises the update flag and
    `UpdateState` honours it. -/
def waits (state : RoutineState) : Bool := state = .dataWait || state = .ioWait

/-- `SetUpdateFlag`. -/
def setUpdateFlag (cr : CRoutine) : CRoutine := { cr with updated := false }

/-- `set_state`. -/
def setState (cr : CRoutine) (state : RoutineState) : CRoutine := { cr with state := state }

/-- The `test_and_set` of `UpdateState`. -/
def testAndSet (cr : CRoutine) : CRoutine := { cr with updated := true }

/-- What `UpdateState` does to the state once it found the flag raised. -/
def becomeReady (cr : CRoutine) : CRoutine :=
  if waits cr.state then { cr with state := .ready } else cr

/-- `UpdateState` as one step; `expired` says that the wake time is over. -/
def updateState (cr : CRoutine) (expired : Bool) : CRoutine :=
  if cr.state = .sleep ∧ expired = true then cr.setState .ready
  else if cr.Raised then cr.testAndSet.becomeReady
  else cr

@[simp] theorem setUpdateFlag_state (cr : CRoutine) : cr.setUpdateFlag.state = cr.state := rfl
@[simp] theorem setUpdateFlag_raised (cr : CRoutine) : cr.setUpdateFlag.Raised := rfl
@[simp] theorem testAndSet_state (cr : CRoutine) : cr.testAndSet.state = cr.state := rfl
@[simp] theorem setState_state (cr : CRoutine) (state : RoutineState) :
    (cr.setState state).state = state := rfl
@[simp] theorem setState_updated (cr : CRoutine) (state : RoutineState) :
    (cr.setState state).updated = cr.updated := rfl

theorem becomeReady_not_waits (cr : CRoutine) : waits cr.becomeReady.state = false := by
  unfold becomeReady
  split
  · rfl
  · rename_i hwaits
    exact Bool.eq_false_iff.mpr hwaits

theorem becomeReady_state_ne_dataWait (cr : CRoutine) : cr.becomeReady.state ≠ .dataWait := by
  intro hstate
  have hwaits := becomeReady_not_waits cr
  rw [hstate] at hwaits
  cases hwaits

end CRoutine

end CyberRT.Croutine
