import CyberRT.Timer.TimingWheel

/-! # A timer on the timing wheel

    The `Start` and `Stop` calls of one `Timer`, the tick thread of the
    `TimingWheel`, and the workers of the `TaskManager` that execute what
    `Tick` has handed to `Async`, in reality mode.

    * `task_` is a plain `shared_ptr`, so the calls (that of `~Timer`
      included) come one after the other. They may come from the user's
      callback.
    * `owners` are the `shared_ptr`s to a task; a weak pointer is expired
      when there are none.
    * `AddTask` first reads the work index, which `TickFunc` may advance
      before the task is in its bucket. The bucket's mutex is left out: what
      is added during `Tick` goes behind what `Tick` looks at.
    * The task queue refuses what does not fit. Other tasks come and go.

    How long the user's callback takes, and with it the duration until the
    next occurrence, is open. -/

namespace CyberRT.Timer.TimerRuns

open CyberRT.Framework

/-! ## Section 1: State -/

structure TimerOption where
  period  : Nat
  oneshot : Bool

/-- A `shared_ptr` to a task: `task_`, that of `Tick`, or that of the
    periodic callback a worker executes. -/
inductive Owner (Wid : Type) where
  | timer
  | tick
  | worker (w : Wid)
  deriving DecidableEq

/-- Where the tick thread stands. In `locked` it has a `shared_ptr` to the
    task of the bucket's first entry and a copy of its callback, in
    `handed` it has called `Async`. -/
inductive TickPc where
  | beforeTick
  | locked (id : TaskId)
  | handed (id : TaskId)
  | asleep
  deriving DecidableEq

/-- What is in the task queue: a callback of the timer, copied from the
    task `id`, or something else. -/
inductive Item where
  | callback (id : TaskId)
  | other
  deriving DecidableEq

/-- Where a worker stands with a callback copied from the task `id`. In
    `call` the next step calls the user's callback, in `running` it runs. -/
inductive WorkerPc where
  | idle
  | other
  | check (id : TaskId)
  | call (id : TaskId)
  | running (id : TaskId)
  | addTask (id : TaskId)
  | pushTask (id : TaskId) (current : Fin workWheelSize)
  | added (id : TaskId)
  deriving DecidableEq

/-- Where the call of `Start` or `Stop` that is in progress stands. -/
inductive CallerPc where
  | idle
  | startExchange
  | initTimerTask
  | addTask (id : TaskId)
  | pushTask (id : TaskId) (current : Fin workWheelSize)
  | stopExchange
  | stopReset
  | stopReturn
  deriving DecidableEq

/-- `stopped` and `late` are history: a `Stop` that found the timer started
    has returned and no `Start` has begun since; a call of the user's
    callback has begun while `stopped`. -/
structure State (Wid : Type) where
  wheel    : TimingWheel
  tick     : TickPc
  owners   : TaskId → List (Owner Wid)
  nextTask : TaskId
  queue    : List Item
  workers  : Wid → WorkerPc
  started  : Bool
  task     : Option TaskId
  caller   : CallerPc
  stopped  : Bool
  late     : Bool

/-! ## Section 2: Model -/

section model
variable {Wid : Type}

/-- `ite = bucket.task_list().erase(ite)` in `Tick`. -/
def popCurrent (w : TimingWheel) : TimingWheel :=
  { w with
    workWheel := Function.update w.workWheel w.currentWorkWheelIndex
      (w.workWheel w.currentWorkWheelIndex).tail }

/-- `AddTask(task, current_work_wheel_index)` of a task that is alive. -/
def pushTask (w : TimingWheel) (id : TaskId) (current : Fin workWheelSize) : TimingWheel :=
  match w.tasks id with
  | some task => w.addTaskAt id task current
  | none      => w

/-- Assignment of `next_fire_duration_ms`. -/
def setDuration (w : TimingWheel) (id : TaskId) (duration : Nat) : TimingWheel :=
  { w with
    tasks := Function.update w.tasks id
      ((w.tasks id).map fun task => { task with nextFireDurationMs := duration }) }

variable [DecidableEq Wid]

def State.setWorker (s : State Wid) (w : Wid) (pc : WorkerPc) : State Wid :=
  { s with workers := Function.update s.workers w pc }

/-- A `shared_ptr` is made. -/
def State.own (s : State Wid) (o : Owner Wid) (id : TaskId) : State Wid :=
  { s with owners := Function.update s.owners id (o :: s.owners id) }

/-- A `shared_ptr` is dropped; the last one takes the task with it. -/
def State.disown (s : State Wid) (o : Owner Wid) (id : TaskId) : State Wid :=
  let left := (s.owners id).erase o
  { s with
    owners := Function.update s.owners id left
    wheel  :=
      if left = [] then { s.wheel with tasks := Function.update s.wheel.tasks id none }
      else s.wheel }

/-- `task_.reset()`. -/
def State.reset (s : State Wid) : State Wid :=
  match s.task with
  | some id => { s.disown .timer id with task := none }
  | none    => s

/-- `task_.reset(new TimerTask(timer_id_))` of `InitTimerTask`. -/
def State.resetNew (s : State Wid) (period : Nat) : State Wid :=
  let id := s.nextTask
  { s.reset with
    wheel    := { s.reset.wheel with
      tasks := Function.update s.reset.wheel.tasks id (some ⟨0, period⟩) }
    owners   := Function.update s.reset.owners id [.timer]
    nextTask := id + 1
    task     := some id }

inductive Label (Wid : Type) where
  -- `TickFunc`
  | tickLock (id : TaskId)
  | tickAsync (id : TaskId)
  | tickErase (id : TaskId)
  | tickDone
  | advance
  -- `Start`
  | start
  | startExchange
  | initTimerTask
  | startIndex (id : TaskId)
  | startPush (id : TaskId) (current : Fin workWheelSize)
  -- `Stop`
  | stop
  | stopExchange
  | stopReset
  | stopReturn
  -- the workers and the other users of the task queue
  | enqueueOther
  | dequeue (w : Wid) (item : Item)
  | otherDone (w : Wid)
  | check (w : Wid) (id : TaskId)
  | call (w : Wid) (id : TaskId)
  | callbackReturn (w : Wid) (id : TaskId) (duration : Nat)
  | workerIndex (w : Wid) (id : TaskId)
  | workerPush (w : Wid) (id : TaskId) (current : Fin workWheelSize)
  | callbackDone (w : Wid) (id : TaskId)

/-- The timer with the option `opt`, on a running wheel. -/
def timer (opt : TimerOption) (taskQueueSize : Nat) : System (State Wid) (Label Wid) where
  init := fun s =>
    s.wheel.running = true ∧ (∀ k, s.wheel.workWheel k = []) ∧
    (∀ j, s.wheel.assistantWheel j = []) ∧ (∀ id, s.wheel.tasks id = none) ∧
    s.tick = .beforeTick ∧ (∀ id, s.owners id = []) ∧ (∀ id, Item.callback id ∉ s.queue) ∧
    (∀ w, s.workers w = .idle ∨ s.workers w = .other) ∧ s.started = false ∧ s.task = none ∧
    s.caller = .idle ∧ s.stopped = false ∧ s.late = false
  action := fun
    | .tickLock id =>
      { gate   := fun s => s.wheel.running = true ∧ s.tick = .beforeTick ∧
          (s.wheel.workWheel s.wheel.currentWorkWheelIndex).head? = some id
        effect := fun s =>
          if (s.wheel.tasks id).isSome then { s.own .tick id with tick := .locked id }
          else { s with wheel := popCurrent s.wheel } }
    | .tickAsync id =>
      -- a full queue drops the callback
      { gate   := fun s => s.tick = .locked id
        effect := fun s =>
          if s.queue.length < taskQueueSize then
            { s with tick := .handed id, queue := s.queue ++ [.callback id] }
          else { s with tick := .handed id } }
    | .tickErase id =>
      { gate   := fun s => s.tick = .handed id
        effect := fun s =>
          State.disown { s with wheel := popCurrent s.wheel, tick := .beforeTick } .tick id }
    | .tickDone =>
      { gate   := fun s => s.tick = .beforeTick ∧
          s.wheel.workWheel s.wheel.currentWorkWheelIndex = []
        effect := fun s => { s with tick := .asleep } }
    | .advance =>
      { gate   := fun s => s.tick = .asleep
        effect := fun s => { s with wheel := s.wheel.advance, tick := .beforeTick } }
    | .start =>
      { gate   := fun s => s.caller = .idle
        effect := fun s => { s with caller := .startExchange, stopped := false } }
    | .startExchange =>
      { gate   := fun s => s.caller = .startExchange
        effect := fun s =>
          if s.started then { s with caller := .idle }
          else { s with started := true, caller := .initTimerTask } }
    | .initTimerTask =>
      { gate   := fun s => s.caller = .initTimerTask
        effect := fun s =>
          if opt.period = 0 ∨ timerMaxIntervalMs ≤ opt.period then { s with caller := .idle }
          else { s.resetNew opt.period with caller := .addTask s.nextTask } }
    | .startIndex id =>
      { gate   := fun s => s.caller = .addTask id
        effect := fun s => { s with caller := .pushTask id s.wheel.currentWorkWheelIndex } }
    | .startPush id current =>
      { gate   := fun s => s.caller = .pushTask id current
        effect := fun s => { s with wheel := pushTask s.wheel id current, caller := .idle } }
    | .stop =>
      { gate   := fun s => s.caller = .idle
        effect := fun s => { s with caller := .stopExchange } }
    | .stopExchange =>
      { gate   := fun s => s.caller = .stopExchange
        effect := fun s =>
          if s.started then { s with started := false, caller := .stopReset }
          else { s with caller := .idle } }
    | .stopReset =>
      { gate   := fun s => s.caller = .stopReset
        effect := fun s => { s.reset with caller := .stopReturn } }
    | .stopReturn =>
      { gate   := fun s => s.caller = .stopReturn
        effect := fun s => { s with caller := .idle, stopped := true } }
    | .enqueueOther =>
      { gate   := fun _ => True
        effect := fun s =>
          if s.queue.length < taskQueueSize then { s with queue := s.queue ++ [.other] } else s }
    | .dequeue w item =>
      { gate   := fun s => s.workers w = .idle ∧ s.queue.head? = some item
        effect := fun s =>
          { s.setWorker w (match item with | .callback id => .check id | .other => .other) with
            queue := s.queue.tail } }
    | .otherDone w =>
      { gate   := fun s => s.workers w = .other
        effect := fun s => s.setWorker w .idle }
    | .check w id =>
      -- a one-shot callback is the user's own, a periodic one looks whether
      -- its task is alive
      { gate   := fun s => s.workers w = .check id
        effect := fun s =>
          if s.wheel.running = false then s.setWorker w .idle
          else if opt.oneshot then s.setWorker w (.call id)
          else if (s.wheel.tasks id).isSome then (s.setWorker w (.call id)).own (.worker w) id
          else s.setWorker w .idle }
    | .call w id =>
      { gate   := fun s => s.workers w = .call id
        effect := fun s => { s.setWorker w (.running id) with late := s.late || s.stopped } }
    | .callbackReturn w id duration =>
      { gate   := fun s => s.workers w = .running id
        effect := fun s =>
          if opt.oneshot then s.setWorker w .idle
          else { s.setWorker w (.addTask id) with wheel := setDuration s.wheel id duration } }
    | .workerIndex w id =>
      { gate   := fun s => s.workers w = .addTask id
        effect := fun s => s.setWorker w (.pushTask id s.wheel.currentWorkWheelIndex) }
    | .workerPush w id current =>
      { gate   := fun s => s.workers w = .pushTask id current
        effect := fun s =>
          { s.setWorker w (.added id) with wheel := pushTask s.wheel id current } }
    | .callbackDone w id =>
      { gate   := fun s => s.workers w = .added id
        effect := fun s => (s.setWorker w .idle).disown (.worker w) id }

end model

end CyberRT.Timer.TimerRuns
