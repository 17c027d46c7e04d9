import CyberRT.Framework.System
import CyberRT.Croutine.CRoutine

/-! # The task manager

    `TaskManager` runs `n` worker routines over one task queue. A worker
    dequeues and runs tasks until it finds the queue empty, and then hangs
    up in `DATA_WAIT`. `Enqueue` inserts a task and then notifies every
    worker in turn: `NotifyProcessor` loads the worker's state and raises
    its update flag if the worker waits. A processor that acquires a
    suspended worker runs `UpdateState` on it and resumes it when it is
    `READY`.

    Every load and store of the routine's state and flag is one step, and
    so is every queue operation. A task may yield, sleep or wait for I/O. -/

namespace CyberRT.Task

open CyberRT.Framework CyberRT.Croutine

/-! ## Section 1: State -/

/-- Where a worker routine stands. `swapOut` follows the `set_state` of a
    `Yield`; a `suspended` worker is on no processor; an `updating` one is
    held by a processor between the two halves of `UpdateState`, a
    `resuming` one by a processor that found it `READY`. -/
inductive WorkerPc where
  | loop
  | dequeue
  | hangUp
  | task
  | swapOut
  | suspended
  | updating
  | resuming
  | returned
  deriving DecidableEq

/-- A worker routine. `inTask` tells where it goes on when it is resumed:
    in the task it was running, or in the worker function's loop. -/
structure Worker where
  pc     : WorkerPc
  cr     : CRoutine
  inTask : Bool

/-- Where an `Enqueue` call stands. From `checkDataWait` to `notify` it
    works on the worker of index `next`. -/
inductive EnqueuePc where
  | idle
  | checkStop
  | insert
  | checkDataWait
  | checkIoWait
  | setUpdateFlag
  | notify
  deriving DecidableEq

/-- A caller of `Enqueue`. -/
structure Enqueuer (T : Type) where
  pc   : EnqueuePc
  task : T
  next : Nat

structure State (n : Nat) (Eid T : Type) where
  stop      : Bool
  taskQueue : List T
  workers   : Fin n → Worker
  enqueuers : Eid → Enqueuer T

/-! ## Section 2: Model -/

section model
variable {n : Nat} {Eid T : Type} [DecidableEq Eid]

def State.setWorker (s : State n Eid T) (w : Fin n) (x : Worker) : State n Eid T :=
  { s with workers := Function.update s.workers w x }

def State.setEnqueuer (s : State n Eid T) (e : Eid) (x : Enqueuer T) : State n Eid T :=
  { s with enqueuers := Function.update s.enqueuers e x }

/-- What `NextRoutine` does after `UpdateState`: keep the worker if it is
    `READY`, else release it. -/
def Worker.released (x : Worker) : Worker :=
  if x.cr.state = .ready then { x with pc := .resuming } else { x with pc := .suspended }

/-- The call goes on with the worker of index `next`, or returns after the
    last one. -/
def Enqueuer.notifyFrom (n : Nat) (x : Enqueuer T) (next : Nat) : Enqueuer T :=
  if next < n then { x with pc := .checkDataWait, next := next } else { x with pc := .idle }

inductive Label (n : Nat) (Eid T : Type) where
  | shutdown
  | enqueue (e : Eid) (task : T)
  | checkStop (e : Eid)
  | insert (e : Eid)
  | checkDataWait (e : Eid) (w : Fin n)
  | checkIoWait (e : Eid) (w : Fin n)
  | setUpdateFlag (e : Eid) (w : Fin n)
  | notify (e : Eid)
  | loop (w : Fin n)
  | dequeue (w : Fin n)
  | hangUp (w : Fin n)
  | taskYield (w : Fin n)
  | taskSleep (w : Fin n)
  | taskIoWait (w : Fin n)
  | taskDone (w : Fin n)
  | swapOut (w : Fin n)
  | wakeUp (w : Fin n)
  | testAndSet (w : Fin n)
  | becomeReady (w : Fin n)
  | resume (w : Fin n)

/-- The task manager with `n` workers and a task queue of `taskQueueSize`. -/
def taskManager (n taskQueueSize : Nat) : System (State n Eid T) (Label n Eid T) where
  init := fun s =>
    s.stop = false ∧ s.taskQueue = [] ∧
    (∀ w, s.workers w = ⟨.suspended, .new, false⟩) ∧ (∀ e, (s.enqueuers e).pc = .idle)
  action := fun
    | .shutdown =>
      { gate   := fun _ => True
        effect := fun s => { s with stop := true } }
    | .enqueue e task =>
      { gate   := fun s => (s.enqueuers e).pc = .idle
        effect := fun s => s.setEnqueuer e ⟨.checkStop, task, 0⟩ }
    | .checkStop e =>
      { gate   := fun s => (s.enqueuers e).pc = .checkStop
        effect := fun s =>
          if s.stop then
            s.setEnqueuer e { s.enqueuers e with pc := .idle }
          else
            s.setEnqueuer e { s.enqueuers e with pc := .insert } }
    | .insert e =>
      -- a full queue drops the task, and the workers are notified all the same
      { gate   := fun s => (s.enqueuers e).pc = .insert
        effect := fun s =>
          let x := s.enqueuers e
          if s.taskQueue.length < taskQueueSize then
            { s.setEnqueuer e (x.notifyFrom n 0) with taskQueue := s.taskQueue ++ [x.task] }
          else
            s.setEnqueuer e (x.notifyFrom n 0) }
    | .checkDataWait e w =>
      { gate   := fun s => (s.enqueuers e).pc = .checkDataWait ∧ (s.enqueuers e).next = w.val
        effect := fun s =>
          if (s.workers w).cr.state = .dataWait then
            s.setEnqueuer e { s.enqueuers e with pc := .setUpdateFlag }
          else
            s.setEnqueuer e { s.enqueuers e with pc := .checkIoWait } }
    | .checkIoWait e w =>
      { gate   := fun s => (s.enqueuers e).pc = .checkIoWait ∧ (s.enqueuers e).next = w.val
        effect := fun s =>
          if (s.workers w).cr.state = .ioWait then
            s.setEnqueuer e { s.enqueuers e with pc := .setUpdateFlag }
          else
            s.setEnqueuer e { s.enqueuers e with pc := .notify } }
    | .setUpdateFlag e w =>
      { gate   := fun s => (s.enqueuers e).pc = .setUpdateFlag ∧ (s.enqueuers e).next = w.val
        effect := fun s =>
          let x := s.workers w
          (s.setEnqueuer e { s.enqueuers e with pc := .notify }).setWorker w
            { x with cr := x.cr.setUpdateFlag } }
    | .notify e =>
      -- `ClassicContext::Notify`: the processors are not part of this model
      { gate   := fun s => (s.enqueuers e).pc = .notify
        effect := fun s =>
          s.setEnqueuer e ((s.enqueuers e).notifyFrom n ((s.enqueuers e).next + 1)) }
    | .loop w =>
      { gate   := fun s => (s.workers w).pc = .loop
        effect := fun s =>
          let x := s.workers w
          if s.stop then
            s.setWorker w { x with pc := .returned, cr := x.cr.setState .finished }
          else
            s.setWorker w { x with pc := .dequeue } }
    | .dequeue w =>
      { gate   := fun s => (s.workers w).pc = .dequeue
        effect := fun s =>
          let x := s.workers w
          match s.taskQueue with
          | []        => s.setWorker w { x with pc := .hangUp }
          | _ :: rest => { s.setWorker w { x with pc := .task } with taskQueue := rest } }
    | .hangUp w =>
      { gate   := fun s => (s.workers w).pc = .hangUp
        effect := fun s =>
          let x := s.workers w
          s.setWorker w { pc := .swapOut, cr := x.cr.setState .dataWait, inTask := false } }
    | .taskYield w =>
      { gate   := fun s => (s.workers w).pc = .task
        effect := fun s => s.setWorker w { s.workers w with pc := .swapOut, inTask := true } }
    | .taskSleep w =>
      { gate   := fun s => (s.workers w).pc = .task
        effect := fun s =>
          let x := s.workers w
          s.setWorker w { pc := .swapOut, cr := x.cr.setState .sleep, inTask := true } }
    | .taskIoWait w =>
      { gate   := fun s => (s.workers w).pc = .task
        effect := fun s =>
          let x := s.workers w
          s.setWorker w { pc := .swapOut, cr := x.cr.setState .ioWait, inTask := true } }
    | .taskDone w =>
      { gate   := fun s => (s.workers w).pc = .task
        effect := fun s => s.setWorker w { s.workers w with pc := .loop } }
    | .swapOut w =>
      { gate   := fun s => (s.workers w).pc = .swapOut
        effect := fun s => s.setWorker w { s.workers w with pc := .suspended } }
    | .wakeUp w =>
      -- `UpdateState` past the routine's wake time: the flag is not looked at
      { gate   := fun s => (s.workers w).pc = .suspended ∧ (s.workers w).cr.state = .sleep
        effect := fun s =>
          let x := s.workers w
          s.setWorker w { x with pc := .resuming, cr := x.cr.setState .ready } }
    | .testAndSet w =>
      { gate   := fun s => (s.workers w).pc = .suspended
        effect := fun s =>
          let x := s.workers w
          if x.cr.Raised then
            s.setWorker w { x with pc := .updating, cr := x.cr.testAndSet }
          else
            s.setWorker w x.released }
    | .becomeReady w =>
      { gate   := fun s => (s.workers w).pc = .updating
        effect := fun s =>
          let x := s.workers w
          s.setWorker w ({ x with cr := x.cr.becomeReady } : Worker).released }
    | .resume w =>
      { gate   := fun s => (s.workers w).pc = .resuming
        effect := fun s =>
          let x := s.workers w
          s.setWorker w { x with pc := if x.inTask then .task else .loop } }

end model

end CyberRT.Task
