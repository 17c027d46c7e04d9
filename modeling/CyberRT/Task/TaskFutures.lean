import CyberRT.Base.BlockingQueue

/-! # Futures and their tasks

    `TaskManager::Enqueue` and `ThreadPool::Enqueue` pack a function into a
    task, test `stop_`, insert the task into a bounded queue and return the
    task's future. Workers take tasks from the queue until `stop_` is set.

    The two differ when they are stopped: the thread pool returns an invalid
    future, the task manager a valid one whose task nobody has. Neither looks
    at what the insertion returned.

    The queue takes its own steps, those of a bounded queue with a
    `BlockWaitStrategy`. `NotifyTask` and the routine of a worker that hangs
    up do not touch it; a worker that found nothing goes on whenever it
    likes. -/

namespace CyberRT.Task.Futures

open CyberRT.Framework CyberRT.Base

/-! ## Section 1: State -/

inductive Owner where
  | taskManager
  | threadPool
  deriving DecidableEq

/-- A packaged task: the function, and the call that has made the task. -/
structure PackagedTask (Tid F : Type) where
  caller : Tid
  number : Nat
  func   : F
  deriving DecidableEq

/-- What the queue holds: a `std::function`, which is empty by default. -/
abbrev Element (Tid F : Type) := Option (PackagedTask Tid F)

/-- Where a thread stands, named by the next step. In `inserting`,
    `dequeuing` and `breaking` it is inside the queue. -/
inductive Pc where
  | idle
  | checkStop
  | insert
  | inserting
  | loopTest
  | dequeue
  | dequeuing
  | hangUp
  | run
  | finished
  | exchange
  | breakAllWait
  | breaking
  | join
  deriving DecidableEq

/-- A thread. `task` is the task of its `Enqueue` call, `calls` the number of
    calls it has made, and `future` what the last one returned: the valid
    future of a task, or an invalid one. -/
structure Local (Tid F : Type) where
  pc     : Pc
  task   : Element Tid F
  calls  : Nat
  future : Option (Element Tid F)

structure State (Tid F : Type) where
  stop  : Bool
  queue : BlockingQueue.State Tid (Element Tid F)
  loc   : Tid → Local Tid F

/-- The worker loop's places. -/
def Pc.works : Pc → Bool
  | .loopTest | .dequeue | .dequeuing | .hangUp | .run => true
  | _ => false

/-! ## Section 2: Model -/

section model
variable {Tid F : Type} [DecidableEq Tid]

def State.setLoc (s : State Tid F) (t : Tid) (l : Local Tid F) : State Tid F :=
  { s with loc := Function.update s.loc t l }

/-- The queue's steps that are not calls. Calls are made by the steps below. -/
def Inner : BlockingQueue.Label Tid (Element Tid F) → Prop
  | .queue (.callEnqueue _ _) | .queue (.callDequeue _ _) | .waitEnqueue _ _
  | .waitDequeue _ _ | .breakAllWait _ => False
  | _ => True

inductive Label (Tid F : Type) where
  | queue (a : BlockingQueue.Label Tid (Element Tid F))
  | enqueue (t : Tid) (func : F)
  | checkStop (t : Tid)
  | insert (t : Tid)
  | inserted (t : Tid)
  | work (t : Tid)
  | loopTest (t : Tid)
  | dequeue (t : Tid)
  | dequeued (t : Tid)
  | hangUp (t : Tid)
  | run (t : Tid)
  | shutdown (t : Tid)
  | exchange (t : Tid)
  | breakAllWait (t : Tid)
  | broken (t : Tid)
  | join (t : Tid)

/-- The queue's operation that a worker takes tasks with. -/
def Owner.dequeue (t : Tid) : Owner → BlockingQueue.Label Tid (Element Tid F)
  | .taskManager => .queue (.callDequeue t none)
  | .threadPool  => .waitDequeue t none

/-- What a worker's call of the queue returned. -/
def Owner.returned (s : BlockingQueue.State Tid (Element Tid F)) (t : Tid) : Owner → Option Bool
  | .taskManager => (s.queue.loc t).ret
  | .threadPool  => (s.waiters t).ret

/-- The thread is back from the queue. -/
def Back (s : BlockingQueue.State Tid (Element Tid F)) (t : Tid) : Prop :=
  (s.waiters t).pc = .outside ∧ (s.queue.loc t).pc = .idle

/-- A task manager or a thread pool with a queue of `size` tasks. -/
def enqueuer (owner : Owner) (size : Nat) : System (State Tid F) (Label Tid F) where
  init := fun s => s.stop = false ∧ (BlockingQueue.blockingQueue size).init s.queue ∧
    ∀ t, (s.loc t).pc = .idle ∧ (s.loc t).future = none
  action := fun
    | .queue a =>
      { gate   := fun s => ((BlockingQueue.blockingQueue size).action a).gate s.queue ∧ Inner a
        effect := fun s =>
          { s with queue := ((BlockingQueue.blockingQueue size).action a).effect s.queue } }
    | .enqueue t func =>
      { gate   := fun s => (s.loc t).pc = .idle ∧ Back s.queue t
        effect := fun s =>
          let l := s.loc t
          s.setLoc t ⟨.checkStop, some ⟨t, l.calls, func⟩, l.calls + 1, none⟩ }
    | .checkStop t =>
      { gate   := fun s => (s.loc t).pc = .checkStop
        effect := fun s =>
          let l := s.loc t
          if s.stop then
            match owner with
            | .taskManager => s.setLoc t { l with pc := .idle, future := some l.task }
            | .threadPool  => s.setLoc t { l with pc := .idle, future := some none }
          else
            s.setLoc t { l with pc := .insert } }
    | .insert t =>
      { gate   := fun s => (s.loc t).pc = .insert ∧
          ((BlockingQueue.blockingQueue size).action
            (.queue (.callEnqueue t (s.loc t).task))).gate s.queue
        effect := fun s =>
          { s.setLoc t { s.loc t with pc := .inserting } with
            queue := ((BlockingQueue.blockingQueue size).action
              (.queue (.callEnqueue t (s.loc t).task))).effect s.queue } }
    | .inserted t =>
      -- whatever `Enqueue` of the queue returned
      { gate   := fun s => (s.loc t).pc = .inserting ∧ Back s.queue t
        effect := fun s => s.setLoc t { s.loc t with pc := .idle, future := some (s.loc t).task } }
    | .work t =>
      { gate   := fun s => (s.loc t).pc = .idle ∧ Back s.queue t
        effect := fun s => s.setLoc t { s.loc t with pc := .loopTest } }
    | .loopTest t =>
      { gate   := fun s => (s.loc t).pc = .loopTest
        effect := fun s =>
          if s.stop then
            s.setLoc t { s.loc t with pc := .finished }
          else
            s.setLoc t { s.loc t with pc := .dequeue } }
    | .dequeue t =>
      { gate   := fun s => (s.loc t).pc = .dequeue ∧
          ((BlockingQueue.blockingQueue size).action (owner.dequeue t)).gate s.queue
        effect := fun s =>
          { s.setLoc t { s.loc t with pc := .dequeuing } with
            queue :=
              ((BlockingQueue.blockingQueue size).action (owner.dequeue t)).effect s.queue } }
    | .dequeued t =>
      { gate   := fun s => (s.loc t).pc = .dequeuing ∧ Back s.queue t
        effect := fun s =>
          if owner.returned s.queue t = some true then
            s.setLoc t { s.loc t with pc := .run }
          else
            match owner with
            | .taskManager => s.setLoc t { s.loc t with pc := .hangUp }
            | .threadPool  => s.setLoc t { s.loc t with pc := .loopTest } }
    | .hangUp t =>
      { gate   := fun s => (s.loc t).pc = .hangUp
        effect := fun s => s.setLoc t { s.loc t with pc := .loopTest } }
    | .run t =>
      { gate   := fun s => (s.loc t).pc = .run
        effect := fun s => s.setLoc t { s.loc t with pc := .loopTest } }
    | .shutdown t =>
      { gate   := fun s => (s.loc t).pc = .idle ∧ Back s.queue t
        effect := fun s => s.setLoc t { s.loc t with pc := .exchange } }
    | .exchange t =>
      -- only the thread pool's destructor goes on, and only the first time
      { gate   := fun s => (s.loc t).pc = .exchange
        effect := fun s =>
          let pc := if owner = .threadPool ∧ s.stop = false then .breakAllWait else .idle
          { s.setLoc t { s.loc t with pc := pc } with stop := true } }
    | .breakAllWait t =>
      { gate   := fun s => (s.loc t).pc = .breakAllWait ∧
          ((BlockingQueue.blockingQueue size).action (.breakAllWait t)).gate s.queue
        effect := fun s =>
          { s.setLoc t { s.loc t with pc := .breaking } with
            queue := ((BlockingQueue.blockingQueue size).action
              (.breakAllWait t)).effect s.queue } }
    | .broken t =>
      { gate   := fun s => (s.loc t).pc = .breaking ∧ Back s.queue t
        effect := fun s => s.setLoc t { s.loc t with pc := .join } }
    | .join t =>
      { gate   := fun s => (s.loc t).pc = .join ∧ ∀ u, (s.loc u).pc.works = false
        effect := fun s => s.setLoc t { s.loc t with pc := .idle } }

instance decidableBack (s : BlockingQueue.State Tid (Element Tid F)) (t : Tid) :
    Decidable (Back s t) :=
  inferInstanceAs (Decidable (_ ∧ _))

instance decidableInner : ∀ a : BlockingQueue.Label Tid (Element Tid F), Decidable (Inner a)
  | .queue (.callEnqueue _ _) | .queue (.callDequeue _ _) | .waitEnqueue _ _
  | .waitDequeue _ _ | .breakAllWait _ => .isFalse not_false
  | .queue (.enqLoadTail _) | .queue (.enqLoadHead _) | .queue (.enqCasTail _)
  | .queue (.enqCasTailFail _) | .queue (.enqWrite _) | .queue (.enqCasCommit _)
  | .queue (.enqCasCommitFail _) | .queue (.enqNotify _) | .queue (.deqLoadHead _)
  | .queue (.deqLoadCommit _) | .queue (.deqRead _) | .queue (.deqCasHead _)
  | .queue (.deqCasHeadFail _) | .notifyOne _ _ | .testFlag _ | .attempted _ | .lock _
  | .wait _ | .relock _ | .unlock _ | .setFlag _ | .notifyAll _ => .isTrue trivial

instance decidableGate [Fintype Tid] (owner : Owner) (size : Nat) (s : State Tid F) :
    ∀ a : Label Tid F, Decidable (((enqueuer owner size).action a).gate s)
  | .queue a => inferInstanceAs (Decidable (_ ∧ Inner a))
  | .enqueue t _ | .work t | .shutdown t =>
    inferInstanceAs (Decidable ((s.loc t).pc = .idle ∧ Back s.queue t))
  | .checkStop t => inferInstanceAs (Decidable ((s.loc t).pc = .checkStop))
  | .insert t =>
    inferInstanceAs (Decidable ((s.loc t).pc = .insert ∧
      ((BlockingQueue.blockingQueue size).action
        (.queue (.callEnqueue t (s.loc t).task))).gate s.queue))
  | .inserted t => inferInstanceAs (Decidable ((s.loc t).pc = .inserting ∧ Back s.queue t))
  | .loopTest t => inferInstanceAs (Decidable ((s.loc t).pc = .loopTest))
  | .dequeue t =>
    inferInstanceAs (Decidable ((s.loc t).pc = .dequeue ∧
      ((BlockingQueue.blockingQueue size).action (owner.dequeue t)).gate s.queue))
  | .dequeued t => inferInstanceAs (Decidable ((s.loc t).pc = .dequeuing ∧ Back s.queue t))
  | .hangUp t => inferInstanceAs (Decidable ((s.loc t).pc = .hangUp))
  | .run t => inferInstanceAs (Decidable ((s.loc t).pc = .run))
  | .exchange t => inferInstanceAs (Decidable ((s.loc t).pc = .exchange))
  | .breakAllWait t =>
    inferInstanceAs (Decidable ((s.loc t).pc = .breakAllWait ∧
      ((BlockingQueue.blockingQueue size).action (.breakAllWait t)).gate s.queue))
  | .broken t => inferInstanceAs (Decidable ((s.loc t).pc = .breaking ∧ Back s.queue t))
  | .join t =>
    inferInstanceAs (Decidable ((s.loc t).pc = .join ∧ ∀ u, (s.loc u).pc.works = false))

/-- The state after construction, with every thread outside. -/
def initial : State Tid F where
  stop  := false
  queue := BlockingQueue.initial
  loc   := fun _ => ⟨.idle, none, 0, none⟩

theorem initial_init (owner : Owner) (size : Nat) :
    (enqueuer owner size).init (initial : State Tid F) :=
  ⟨rfl, BlockingQueue.initial_init size, fun _ => ⟨rfl, rfl⟩⟩

/-! ## Section 3: Small lemmas -/

@[simp] theorem setLoc_queue (s : State Tid F) (t : Tid) (l : Local Tid F) :
    (s.setLoc t l).queue = s.queue := rfl

@[simp] theorem setLoc_loc (s : State Tid F) (t : Tid) (l : Local Tid F) :
    (s.setLoc t l).loc = Function.update s.loc t l := rfl

end model

end CyberRT.Task.Futures
