import CyberRT.Framework.System
import Mathlib.Data.List.Count
import Mathlib.Tactic.Ring
import Mathlib.Algebra.Order.Ring.Nat

/-! # The hierarchical timing wheel

    `TimingWheel` keeps the pending timer tasks in two wheels of buckets.
    The work wheel has one bucket per millisecond tick; the assistant
    wheel has one bucket per turn of the work wheel and is emptied into
    the work wheel (`Cascade`) each time the work index wraps to zero.

    A bucket holds weak pointers: a task is named by its `TaskId`, and
    `tasks` says which tasks some `shared_ptr` still keeps alive. -/

namespace CyberRT.Timer

open CyberRT.Framework

/-! ## Section 1: Model -/

/-- `WORK_WHEEL_SIZE`. -/
abbrev workWheelSize : Nat := 512

/-- `ASSISTANT_WHEEL_SIZE`. -/
abbrev assistantWheelSize : Nat := 64

instance : NeZero workWheelSize := ⟨by decide⟩

instance : NeZero assistantWheelSize := ⟨by decide⟩

/-- `TIMER_MAX_INTERVAL_MS`. -/
abbrev timerMaxIntervalMs : Nat := workWheelSize * assistantWheelSize

/-- The identity of a `TimerTask` object. -/
abbrev TaskId : Type := Nat

/-- The fields of a `TimerTask` the wheel reads and writes. The remainder
    is only ever written through `GetWorkWheelIndex`. -/
structure TimerTask where
  remainderIntervalMs : Fin workWheelSize
  nextFireDurationMs  : Nat

/-- State of the `TimingWheel`. `tasks id = none` is an expired weak pointer. -/
structure TimingWheel where
  running                    : Bool
  workWheel                  : Fin workWheelSize → List TaskId
  assistantWheel             : Fin assistantWheelSize → List TaskId
  currentWorkWheelIndex      : Fin workWheelSize
  currentAssistantWheelIndex : Fin assistantWheelSize
  tasks                      : TaskId → Option TimerTask

def getWorkWheelIndex (index : Nat) : Fin workWheelSize :=
  ⟨index &&& (workWheelSize - 1), Nat.lt_succ_of_le Nat.and_le_right⟩

def getAssistantWheelIndex (index : Nat) : Fin assistantWheelSize :=
  ⟨index &&& (assistantWheelSize - 1), Nat.lt_succ_of_le Nat.and_le_right⟩

namespace TimingWheel

/-- `work_wheel_[k].AddTask(task)`. -/
def pushWork (w : TimingWheel) (k : Fin workWheelSize) (id : TaskId) : TimingWheel :=
  { w with workWheel := Function.update w.workWheel k (w.workWheel k ++ [id]) }

/-- `assistant_wheel_[j].AddTask(task)`. -/
def pushAssistant (w : TimingWheel) (j : Fin assistantWheelSize) (id : TaskId) : TimingWheel :=
  { w with assistantWheel := Function.update w.assistantWheel j (w.assistantWheel j ++ [id]) }

/-- `Tick`: the live tasks of the current bucket, handed to `Async` in
    order, and the wheel with that bucket erased. -/
def tick (w : TimingWheel) : List TaskId × TimingWheel :=
  ((w.workWheel w.currentWorkWheelIndex).filter (fun id => (w.tasks id).isSome),
    { w with workWheel := Function.update w.workWheel w.currentWorkWheelIndex [] })

/-- `AddTask(task, current_work_wheel_index)`. The sum is a `uint64_t`. -/
def addTaskAt (w : TimingWheel) (id : TaskId) (task : TimerTask)
    (current : Fin workWheelSize) : TimingWheel :=
  let w := { w with running := true }
  let workWheelIndex := (current.val + task.nextFireDurationMs) % 2 ^ 64
  if h : workWheelIndex < workWheelSize then
    w.pushWork ⟨workWheelIndex, h⟩ id
  else
    let realWorkWheelIndex := getWorkWheelIndex workWheelIndex
    let w := { w with
      tasks := Function.update w.tasks id
        (some { task with remainderIntervalMs := realWorkWheelIndex }) }
    let assistantTicks := workWheelIndex / workWheelSize
    if assistantTicks = 1 ∧ realWorkWheelIndex ≠ w.currentWorkWheelIndex then
      w.pushWork realWorkWheelIndex id
    else
      w.pushAssistant
        (getAssistantWheelIndex (w.currentAssistantWheelIndex.val + assistantTicks)) id

/-- `AddTask(task)`, run as one step. The caller holds a `shared_ptr`, so
    the branch of an expired task is never taken. -/
def addTask (w : TimingWheel) (id : TaskId) : TimingWheel :=
  match w.tasks id with
  | some task => w.addTaskAt id task w.currentWorkWheelIndex
  | none      => w

/-- One entry of `Cascade`'s loop. -/
def cascadeEntry (w : TimingWheel) (id : TaskId) : TimingWheel :=
  match w.tasks id with
  | some task => w.pushWork task.remainderIntervalMs id
  | none      => w

/-- `Cascade(assistant_wheel_index)`. -/
def cascade (w : TimingWheel) (j : Fin assistantWheelSize) : TimingWheel :=
  let w' := (w.assistantWheel j).foldl cascadeEntry w
  { w' with assistantWheel := Function.update w'.assistantWheel j [] }

/-- The part of `TickFunc`'s loop body after `rate.Sleep()`. -/
def advance (w : TimingWheel) : TimingWheel :=
  let w := { w with
    currentWorkWheelIndex := getWorkWheelIndex (w.currentWorkWheelIndex.val + 1) }
  if w.currentWorkWheelIndex.val = 0 then
    let j := getAssistantWheelIndex (w.currentAssistantWheelIndex.val + 1)
    { w with currentAssistantWheelIndex := j }.cascade j
  else w

end TimingWheel

/-! ## Section 2: The tick loop as a system -/

/-- Where `TickFunc` is between two of its steps: about to `Tick`, or in
    `rate.Sleep()` after it. -/
inductive Phase where
  | beforeTick
  | asleep
  deriving DecidableEq

/-- The tick thread. `advances` and `handed` are history: how often the
    work index was advanced, and at which counts a `Tick` handed each task
    to `Async`. -/
structure TickLoop where
  wheel    : TimingWheel
  phase    : Phase
  advances : Nat
  handed   : TaskId → List Nat

/-- `Tick` and the index advance of `TickFunc`, a call of `AddTask` by
    another thread, and a write to a task object by its owner, who may
    also create it (`some`) or drop the last pointer to it (`none`). -/
inductive Label where
  | tick
  | advance
  | addTask (id : TaskId)
  | owner (id : TaskId) (task : Option TimerTask)

/-- The step neither adds the task `id` again nor writes to it. -/
def Label.spares (id : TaskId) : Label → Prop
  | .tick        => True
  | .advance     => True
  | .addTask i   => i ≠ id
  | .owner i _   => i ≠ id

/-- `AddTask(id)` at a moment when the tick thread is between its steps. -/
def TickLoop.add (s : TickLoop) (id : TaskId) : TickLoop :=
  { s with wheel := s.wheel.addTask id }

/-- `TickFunc` running against the other users of the wheel. -/
def tickFunc : System TickLoop Label where
  init := fun s =>
    s.wheel.running = false ∧ s.phase = .beforeTick ∧ s.advances = 0 ∧
    s.wheel.currentWorkWheelIndex.val = 0 ∧ s.wheel.currentAssistantWheelIndex.val = 0 ∧
    (∀ k, s.wheel.workWheel k = []) ∧ (∀ j, s.wheel.assistantWheel j = []) ∧
    (∀ id, s.handed id = [])
  action := fun
    | .tick =>
      { gate   := fun s => s.wheel.running = true ∧ s.phase = .beforeTick
        effect := fun s =>
          { s with
            wheel  := s.wheel.tick.2
            phase  := .asleep
            handed := fun id =>
              s.handed id ++ List.replicate (s.wheel.tick.1.count id) s.advances } }
    | .advance =>
      { gate   := fun s => s.wheel.running = true ∧ s.phase = .asleep
        effect := fun s =>
          { s with
            wheel    := s.wheel.advance
            phase    := .beforeTick
            advances := s.advances + 1 } }
    | .addTask id =>
      { gate   := fun s => (s.wheel.tasks id).isSome
        effect := fun s => s.add id }
    | .owner id task =>
      { gate   := fun _ => True
        effect := fun s =>
          { s with wheel := { s.wheel with tasks := Function.update s.wheel.tasks id task } } }

/-! ## Section 3: Index arithmetic -/

@[simp] theorem getWorkWheelIndex_val (n : Nat) :
    (getWorkWheelIndex n).val = n % workWheelSize :=
  Nat.and_two_pow_sub_one_eq_mod n 9

@[simp] theorem getAssistantWheelIndex_val (n : Nat) :
    (getAssistantWheelIndex n).val = n % assistantWheelSize :=
  Nat.and_two_pow_sub_one_eq_mod n 6

namespace TimingWheel

/-! ## Section 4: What each operation does to a bucket -/

@[simp] theorem pushWork_tasks (w : TimingWheel) (k : Fin workWheelSize) (id : TaskId) :
    (w.pushWork k id).tasks = w.tasks := rfl

@[simp] theorem pushWork_assistantWheel (w : TimingWheel) (k : Fin workWheelSize)
    (id : TaskId) : (w.pushWork k id).assistantWheel = w.assistantWheel := rfl

@[simp] theorem pushWork_current (w : TimingWheel) (k : Fin workWheelSize) (id : TaskId) :
    (w.pushWork k id).currentWorkWheelIndex = w.currentWorkWheelIndex := rfl

@[simp] theorem pushWork_currentAssistant (w : TimingWheel) (k : Fin workWheelSize)
    (id : TaskId) :
    (w.pushWork k id).currentAssistantWheelIndex = w.currentAssistantWheelIndex := rfl

@[simp] theorem pushWork_running (w : TimingWheel) (k : Fin workWheelSize) (id : TaskId) :
    (w.pushWork k id).running = w.running := rfl

theorem pushWork_count (w : TimingWheel) (k k' : Fin workWheelSize) (id id' : TaskId) :
    ((w.pushWork k id).workWheel k').count id' =
      (w.workWheel k').count id' + if k' = k ∧ id = id' then 1 else 0 := by
  by_cases hk : k' = k
  · subst hk
    simp [pushWork, List.count_singleton]
  · simp [pushWork, hk]

theorem pushAssistant_count (w : TimingWheel) (j j' : Fin assistantWheelSize)
    (id id' : TaskId) :
    ((w.pushAssistant j id).assistantWheel j').count id' =
      (w.assistantWheel j').count id' + if j' = j ∧ id = id' then 1 else 0 := by
  by_cases hj : j' = j
  · subst hj
    simp [pushAssistant, List.count_singleton]
  · simp [pushAssistant, hj]

/-- `Tick` hands over each entry of a live task in the current bucket. -/
theorem tick_handed_count (w : TimingWheel) (id : TaskId) :
    w.tick.1.count id =
      if (w.tasks id).isSome then (w.workWheel w.currentWorkWheelIndex).count id else 0 := by
  by_cases h : (w.tasks id).isSome
  · simp [tick, List.count_filter, h]
  · rw [if_neg h]
    exact List.count_eq_zero_of_not_mem (by simp [tick, h])

theorem tick_count (w : TimingWheel) (k : Fin workWheelSize) (id : TaskId) :
    (w.tick.2.workWheel k).count id =
      if k = w.currentWorkWheelIndex then 0 else (w.workWheel k).count id := by
  by_cases hk : k = w.currentWorkWheelIndex <;> simp [tick, hk]

@[simp] theorem cascadeEntry_tasks (w : TimingWheel) (id : TaskId) :
    (w.cascadeEntry id).tasks = w.tasks := by
  unfold cascadeEntry; split <;> rfl

@[simp] theorem cascadeEntry_assistantWheel (w : TimingWheel) (id : TaskId) :
    (w.cascadeEntry id).assistantWheel = w.assistantWheel := by
  unfold cascadeEntry; split <;> rfl

@[simp] theorem cascadeEntry_current (w : TimingWheel) (id : TaskId) :
    (w.cascadeEntry id).currentWorkWheelIndex = w.currentWorkWheelIndex := by
  unfold cascadeEntry; split <;> rfl

@[simp] theorem cascadeEntry_currentAssistant (w : TimingWheel) (id : TaskId) :
    (w.cascadeEntry id).currentAssistantWheelIndex = w.currentAssistantWheelIndex := by
  unfold cascadeEntry; split <;> rfl

@[simp] theorem cascadeEntry_running (w : TimingWheel) (id : TaskId) :
    (w.cascadeEntry id).running = w.running := by
  unfold cascadeEntry; split <;> rfl

/-- What the loop of `Cascade` leaves alone. -/
theorem cascade_frame (ids : List TaskId) (w : TimingWheel) :
    (ids.foldl cascadeEntry w).tasks = w.tasks ∧
    (ids.foldl cascadeEntry w).assistantWheel = w.assistantWheel ∧
    (ids.foldl cascadeEntry w).currentWorkWheelIndex = w.currentWorkWheelIndex ∧
    (ids.foldl cascadeEntry w).currentAssistantWheelIndex = w.currentAssistantWheelIndex ∧
    (ids.foldl cascadeEntry w).running = w.running := by
  induction ids generalizing w with
  | nil => simp
  | cons id ids ih => simpa using ih (w.cascadeEntry id)

/-- The loop of `Cascade` moves every entry of a live task into the bucket
    of the task's remainder. -/
theorem cascade_fold_count (ids : List TaskId) (w : TimingWheel) (k : Fin workWheelSize)
    (id : TaskId) :
    ((ids.foldl cascadeEntry w).workWheel k).count id =
      (w.workWheel k).count id +
        if (w.tasks id).map (·.remainderIntervalMs) = some k then ids.count id else 0 := by
  induction ids generalizing w with
  | nil => simp
  | cons i ids ih =>
    rw [List.foldl_cons, ih, cascadeEntry_tasks]
    by_cases hi : i = id
    · subst hi
      cases ht : w.tasks i with
      | none => simp [cascadeEntry, ht]
      | some task =>
        by_cases hk : task.remainderIntervalMs = k
        · simp [cascadeEntry, ht, hk, pushWork_count]; omega
        · have hk' : k ≠ task.remainderIntervalMs := fun h => hk h.symm
          simp [cascadeEntry, ht, hk, hk', pushWork_count]
    · have hsame : ((w.cascadeEntry i).workWheel k).count id = (w.workWheel k).count id := by
        unfold cascadeEntry
        split
        · simp [pushWork_count, hi]
        · rfl
      rw [hsame, List.count_cons_of_ne hi]

theorem cascade_count (w : TimingWheel) (j : Fin assistantWheelSize)
    (k : Fin workWheelSize) (id : TaskId) :
    ((w.cascade j).workWheel k).count id =
      (w.workWheel k).count id +
        if (w.tasks id).map (·.remainderIntervalMs) = some k
          then (w.assistantWheel j).count id else 0 :=
  cascade_fold_count (w.assistantWheel j) w k id

theorem cascade_assistantWheel (w : TimingWheel) (j : Fin assistantWheelSize) :
    (w.cascade j).assistantWheel = Function.update w.assistantWheel j [] := by
  simp only [cascade, (cascade_frame (w.assistantWheel j) w).2.1]

@[simp] theorem cascade_tasks (w : TimingWheel) (j : Fin assistantWheelSize) :
    (w.cascade j).tasks = w.tasks :=
  (cascade_frame (w.assistantWheel j) w).1

@[simp] theorem cascade_current (w : TimingWheel) (j : Fin assistantWheelSize) :
    (w.cascade j).currentWorkWheelIndex = w.currentWorkWheelIndex :=
  (cascade_frame (w.assistantWheel j) w).2.2.1

@[simp] theorem cascade_currentAssistant (w : TimingWheel) (j : Fin assistantWheelSize) :
    (w.cascade j).currentAssistantWheelIndex = w.currentAssistantWheelIndex :=
  (cascade_frame (w.assistantWheel j) w).2.2.2.1

@[simp] theorem cascade_running (w : TimingWheel) (j : Fin assistantWheelSize) :
    (w.cascade j).running = w.running :=
  (cascade_frame (w.assistantWheel j) w).2.2.2.2

@[simp] theorem advance_tasks (w : TimingWheel) : w.advance.tasks = w.tasks := by
  unfold advance; dsimp only; split <;> simp

@[simp] theorem advance_running (w : TimingWheel) : w.advance.running = w.running := by
  unfold advance; dsimp only; split <;> simp

@[simp] theorem advance_current (w : TimingWheel) :
    w.advance.currentWorkWheelIndex =
      getWorkWheelIndex (w.currentWorkWheelIndex.val + 1) := by
  unfold advance; dsimp only; split <;> simp

end TimingWheel

end CyberRT.Timer
