import CyberRT.Scheduler.SchedulerChoreography

/-! # The pool of the choreography scheduler

    The processors of the pool scan the run queues of the default group
    (`Processor::Run`, `ClassicContext::NextRoutine`, `Resume`, `Wait`),
    while any number of callers dispatch, notify and remove routines and
    the scheduler may be shut down.

    * A `NextRoutine` that finds nothing and the `Wait` after it are one
      step, `nextRoutineWait`. A scan that finds a routine takes as many
      steps as it needs.
    * The mutex of an id is held from the first step of a call on, the
      registry lock within one step. Run queues are read-locked while they
      are scanned and write-locked while `RemoveCRoutine` waits for a
      routine; `DispatchTask` write-locks a queue within one step.
    * `notify_one` wakes some waiting processor if there is one. Nobody
      wakes up for no reason; a timed wait may end at any moment.
    * The processor of a choreography context may take any routine of its
      queue at any time; its wait is timed and plays no part.

    What follows an access to `pctxs_` that is none of a choreography
    context is not described: the call stays where it is. -/

namespace CyberRT.Scheduler.ChoreographyPool

open CyberRT.Framework CyberRT.Croutine
open SchedulerChoreography (Conf ChoreographyContext defaultGroupName)

/-! ## Section 1: State -/

/-- A queue of a choreography context, or a run queue of the pool. -/
inductive Queue where
  | context (k : Nat)
  | pool (prio : Nat)
  deriving DecidableEq

/-- Where a processor of the pool stands. In `scanFrom k` the priorities
    below `k` are still to be scanned. In `scan`, `update` and `release` it
    holds the read lock of priority `i`, with the routines `rest` to come;
    from `update` to `release` and from `resume` on it has acquired `r`. -/
inductive ProcessorPc (Rid : Type) where
  | run
  | nextRoutine
  | scanFrom (k : Nat)
  | scan (i : Nat) (rest : List Rid)
  | update (i : Nat) (rest : List Rid) (r : Rid)
  | release (i : Nat) (rest : List Rid) (r : Rid)
  | resume (r : Rid)
  | running (r : Rid)
  | resumed (r : Rid)
  | blocked
  | timedBlocked
  | exited
  deriving DecidableEq

/-- A processor of the pool and its context: `stop_` and `need_sleep_` are
    the context's, `running_` the processor's. -/
structure Processor (Rid : Type) where
  pc        : ProcessorPc Rid
  running   : Bool
  stop      : Bool
  needSleep : Bool

/-- Where a caller of the scheduler stands, named by the next step. -/
inductive CallerPc (Rid Id : Type) where
  | idle
  -- `DispatchTask`
  | lockDispatch (r : Rid)
  | assign (r : Rid)
  | register (r : Rid)
  | choose (r : Rid)
  | insertContext (r : Rid) (k : Nat)
  | insertPool (r : Rid) (prio : Nat)
  | unlockDispatch (r : Rid)
  -- `NotifyProcessor`
  | find (i : Id)
  | notify (r : Rid)
  -- `RemoveCRoutine`
  | lockRemove (i : Id)
  | erase (i : Id)
  | lockQueue (i : Id) (q : Queue)
  | search (i : Id) (q : Queue)
  | acquire (i : Id) (q : Queue) (r : Rid)
  | eraseQueue (i : Id) (q : Queue) (r : Rid)
  | release (i : Id) (q : Queue) (r : Rid)
  | unlockQueue (i : Id) (q : Queue)
  | unlockRemove (i : Id)
  | fault
  deriving DecidableEq

/-- The pool and what it shares with the rest of the scheduler. `rq` holds
    the run queues of the default group, `contextHolds` the routine that
    the processor of a choreography context has acquired, `shutting` the
    contexts whose `Shutdown` has still to notify. -/
structure State (Pid Cid Rid Id : Type) where
  stop         : Bool
  idMutex      : Id → Option Cid
  idCr         : Id → Option Rid
  rq           : Nat → List Rid
  contexts     : Nat → ChoreographyContext Rid
  contextHolds : Nat → Option Rid
  routines     : Rid → CRoutine
  forceStop    : Rid → Bool
  locked       : Rid → Bool
  processorId  : Rid → BitVec 32
  priority     : Rid → Nat
  groupName    : Rid → String
  processors   : Pid → Processor Rid
  shutting     : Pid → Bool
  callers      : Cid → CallerPc Rid Id

/-- The priority whose read lock the processor holds. -/
def ProcessorPc.reads {Rid : Type} : ProcessorPc Rid → Option Nat
  | .scan i _ | .update i _ _ | .release i _ _ => some i
  | _ => none

/-- The routine the processor has acquired. -/
def ProcessorPc.holds {Rid : Type} : ProcessorPc Rid → Option Rid
  | .update _ _ r | .release _ _ r | .resume r | .running r | .resumed r => some r
  | _ => none

/-- The processor is in the condition wait, timed or untimed. -/
def ProcessorPc.waiting {Rid : Type} : ProcessorPc Rid → Bool
  | .blocked | .timedBlocked => true
  | _ => false

/-- A processor that leaves the condition wait goes back to its loop. -/
def Processor.woken {Rid : Type} (x : Processor Rid) : Processor Rid :=
  match x.pc with
  | .blocked      => { x with pc := .run }
  | .timedBlocked => { x with pc := .run, needSleep := false }
  | _             => x

/-- The queue whose write lock the caller holds. -/
def CallerPc.writes {Rid Id : Type} : CallerPc Rid Id → Option Queue
  | .search _ q | .acquire _ q _ | .eraseQueue _ q _ | .release _ q _ | .unlockQueue _ q => some q
  | _ => none

/-- The caller holds the write lock of a run queue of the pool. -/
def CallerPc.writesPool {Rid Id : Type} (pc : CallerPc Rid Id) : Bool :=
  match pc.writes with
  | some (.pool _) => true
  | _              => false

/-- The routine the caller has acquired. -/
def CallerPc.holds {Rid Id : Type} : CallerPc Rid Id → Option Rid
  | .eraseQueue _ _ r | .release _ _ r => some r
  | _ => none

/-! ## Section 2: Model -/

section model
variable {Pid Cid Rid Id : Type}

def State.queue (s : State Pid Cid Rid Id) : Queue → List Rid
  | .context k => (s.contexts k).crQueue.map Prod.snd
  | .pool prio => s.rq prio

/-- A queue is free for writing. -/
def State.writable (s : State Pid Cid Rid Id) (q : Queue) : Prop :=
  (∀ p, (s.processors p).pc.reads.map Queue.pool ≠ some q) ∧
  ∀ c, (s.callers c).writes ≠ some q

/-- The routines of all run queues in the order `NextRoutine` scans them. -/
def State.scanOrder (s : State Pid Cid Rid Id) : List Rid :=
  (List.range maxPrio).reverse.flatMap s.rq

variable [DecidableEq Pid] [DecidableEq Cid] [DecidableEq Rid] [DecidableEq Id]

def State.setProcessor (s : State Pid Cid Rid Id) (p : Pid) (x : Processor Rid) :
    State Pid Cid Rid Id :=
  { s with processors := Function.update s.processors p x }

def State.setPc (s : State Pid Cid Rid Id) (p : Pid) (pc : ProcessorPc Rid) :
    State Pid Cid Rid Id :=
  s.setProcessor p { s.processors p with pc := pc }

def State.setCaller (s : State Pid Cid Rid Id) (c : Cid) (pc : CallerPc Rid Id) :
    State Pid Cid Rid Id :=
  { s with callers := Function.update s.callers c pc }

def State.setRoutine (s : State Pid Cid Rid Id) (r : Rid) (cr : CRoutine) :
    State Pid Cid Rid Id :=
  { s with routines := Function.update s.routines r cr }

def State.setLocked (s : State Pid Cid Rid Id) (r : Rid) (locked : Bool) :
    State Pid Cid Rid Id :=
  { s with locked := Function.update s.locked r locked }

def State.setStopped (s : State Pid Cid Rid Id) (r : Rid) : State Pid Cid Rid Id :=
  { s with forceStop := Function.update s.forceStop r true }

def State.setContext (s : State Pid Cid Rid Id) (k : Nat) (ctx : ChoreographyContext Rid) :
    State Pid Cid Rid Id :=
  { s with contexts := Function.update s.contexts k ctx }

/-- Removal of the first routine with the id from a queue. -/
def State.eraseQueue (id : Rid → Id) (i : Id) (s : State Pid Cid Rid Id) :
    Queue → State Pid Cid Rid Id
  | .context k => s.setContext k ((s.contexts k).removeCRoutine id i)
  | .pool prio =>
    { s with rq := Function.update s.rq prio ((s.rq prio).eraseP fun x => id x = i) }

/-- A `NextRoutine` that finds nothing, with the routines as it leaves them
    and `need_sleep_`. No result: it finds a routine. -/
def nextRoutine (locked expired : Rid → Bool) :
    List Rid → (Rid → CRoutine) → Bool → Option ((Rid → CRoutine) × Bool)
  | [],        routines, needSleep => some (routines, needSleep)
  | r :: rest, routines, needSleep =>
    if locked r then nextRoutine locked expired rest routines needSleep
    else
      let cr := (routines r).updateState (expired r)
      if cr.state = .ready then none
      else
        nextRoutine locked expired rest (Function.update routines r cr)
          (needSleep || cr.state = .sleep)

inductive Label (Pid Cid Rid Id : Type) where
  -- `Processor::Run`, `NextRoutine`, `Resume` and `Release`
  | run (p : Pid)
  | nextRoutineStopped (p : Pid)
  | nextRoutine (p : Pid)
  | readQueue (p : Pid) (k : Nat)
  | leaveQueue (p : Pid) (i : Nat)
  | acquire (p : Pid) (i : Nat) (rest : List Rid) (r : Rid)
  | acquireFail (p : Pid) (i : Nat) (rest : List Rid) (r : Rid)
  | updateState (p : Pid) (i : Nat) (rest : List Rid) (r : Rid) (expired : Bool)
  | release (p : Pid) (i : Nat) (rest : List Rid) (r : Rid)
  | resume (p : Pid) (r : Rid)
  | setState (p : Pid) (r : Rid) (state : RoutineState)
  | swapOut (p : Pid) (r : Rid)
  | releaseResumed (p : Pid) (r : Rid)
  -- `NextRoutine` that finds nothing, and `Wait`
  | nextRoutineWait (p : Pid) (expired : Rid → Bool)
  | timeout (p : Pid)
  -- the processor of a choreography context
  | contextAcquire (k : Nat) (r : Rid) (expired : Bool)
  | contextSetState (k : Nat) (r : Rid) (state : RoutineState)
  | contextRelease (k : Nat) (r : Rid)
  -- `DispatchTask`
  | dispatchTask (c : Cid) (r : Rid)
  | lockDispatch (c : Cid) (r : Rid)
  | assign (c : Cid) (r : Rid)
  | register (c : Cid) (r : Rid)
  | choose (c : Cid) (r : Rid)
  | insertContext (c : Cid) (r : Rid) (k : Nat)
  | insertPool (c : Cid) (r : Rid) (prio : Nat)
  | unlockDispatch (c : Cid) (r : Rid)
  -- `NotifyProcessor`
  | notifyProcessor (c : Cid) (i : Id)
  | find (c : Cid) (i : Id)
  | notifyContext (c : Cid) (r : Rid)
  | notifyOne (c : Cid) (r : Rid) (p : Option Pid)
  -- `RemoveCRoutine`
  | removeCRoutine (c : Cid) (i : Id)
  | lockRemove (c : Cid) (i : Id)
  | erase (c : Cid) (i : Id)
  | lockQueue (c : Cid) (i : Id) (q : Queue)
  | search (c : Cid) (i : Id) (q : Queue)
  | acquireRemove (c : Cid) (i : Id) (q : Queue) (r : Rid)
  | eraseQueue (c : Cid) (i : Id) (q : Queue) (r : Rid)
  | releaseRemove (c : Cid) (i : Id) (q : Queue) (r : Rid)
  | unlockQueue (c : Cid) (i : Id) (q : Queue)
  | unlockRemove (c : Cid) (i : Id)
  -- `Shutdown`
  | schedulerStop
  | stop (p : Pid)
  | exchange (p : Pid)
  | notifyAll (p : Pid)

/-- `pctxs_[pid]` is a choreography context. -/
def HasContext (conf : Conf Rid Id) (pid : BitVec 32) : Prop :=
  0 ≤ pid.toInt ∧ pid < conf.procNum

instance (conf : Conf Rid Id) (pid : BitVec 32) : Decidable (HasContext conf pid) :=
  inferInstanceAs (Decidable (_ ∧ _))

/-- Where `RemoveCRoutine` goes on after the routine has left the registry.
    A priority beyond the last one makes `at` throw; a group other than the
    default one has no routines. -/
def State.afterErase (conf : Conf Rid Id) (s : State Pid Cid Rid Id) (i : Id) (r : Rid) :
    CallerPc Rid Id :=
  if s.processorId r = -1 then
    if s.groupName r = defaultGroupName ∧ s.priority r < maxPrio then
      .lockQueue i (.pool (s.priority r))
    else .unlockRemove i
  else if HasContext conf (s.processorId r) then
    .lockQueue i (.context (s.processorId r).toNat)
  else .fault

/-- The pool, the processors of the contexts and the callers. -/
def choreographyPool (conf : Conf Rid Id) :
    System (State Pid Cid Rid Id) (Label Pid Cid Rid Id) where
  init := fun s =>
    s.stop = false ∧ (∀ i, s.idMutex i = none) ∧ (∀ i, s.idCr i = none) ∧ (∀ prio, s.rq prio = []) ∧
    (∀ k, s.contexts k = ⟨[], false⟩) ∧ (∀ k, s.contextHolds k = none) ∧
    (∀ r, s.routines r = .new) ∧ (∀ r, s.forceStop r = false) ∧ (∀ r, s.locked r = false) ∧
    (∀ p, s.processors p = ⟨.run, true, false, false⟩) ∧ (∀ p, s.shutting p = false) ∧
    ∀ c, s.callers c = .idle
  action := fun
    | .run p =>
      { gate   := fun s => (s.processors p).pc = .run
        effect := fun s =>
          if (s.processors p).running then s.setPc p .nextRoutine else s.setPc p .exited }
    | .nextRoutineStopped p =>
      -- `NextRoutine` and `Wait` of a context that is shut down return at once
      { gate   := fun s => (s.processors p).pc = .nextRoutine ∧ (s.processors p).stop = true
        effect := fun s => s.setPc p .run }
    | .nextRoutine p =>
      { gate   := fun s => (s.processors p).pc = .nextRoutine ∧ (s.processors p).stop = false
        effect := fun s => s.setPc p (.scanFrom maxPrio) }
    | .readQueue p k =>
      { gate   := fun s => (s.processors p).pc = .scanFrom (k + 1) ∧
          ∀ c, (s.callers c).writes ≠ some (.pool k)
        effect := fun s => s.setPc p (.scan k (s.rq k)) }
    | .leaveQueue p i =>
      { gate   := fun s => (s.processors p).pc = .scan i []
        effect := fun s => s.setPc p (.scanFrom i) }
    | .acquire p i rest r =>
      { gate   := fun s => (s.processors p).pc = .scan i (r :: rest) ∧ s.locked r = false
        effect := fun s => (s.setPc p (.update i rest r)).setLocked r true }
    | .acquireFail p i rest r =>
      { gate   := fun s => (s.processors p).pc = .scan i (r :: rest) ∧ s.locked r = true
        effect := fun s => s.setPc p (.scan i rest) }
    | .updateState p i rest r expired =>
      { gate   := fun s => (s.processors p).pc = .update i rest r
        effect := fun s =>
          let cr := (s.routines r).updateState expired
          (s.setPc p (if cr.state = .ready then .resume r else .release i rest r)).setRoutine r cr }
    | .release p i rest r =>
      { gate   := fun s => (s.processors p).pc = .release i rest r
        effect := fun s =>
          let x := s.processors p
          (s.setProcessor p { x with
            pc        := .scan i rest
            needSleep := x.needSleep || (s.routines r).state = .sleep }).setLocked r false }
    | .resume p r =>
      -- a stopped routine is finished without being swapped in
      { gate   := fun s => (s.processors p).pc = .resume r
        effect := fun s =>
          if s.forceStop r then
            (s.setPc p (.resumed r)).setRoutine r ((s.routines r).setState .finished)
          else if (s.routines r).state ≠ .ready then s.setPc p (.resumed r)
          else s.setPc p (.running r) }
    | .setState p r state =>
      { gate   := fun s => (s.processors p).pc = .running r
        effect := fun s => s.setRoutine r ((s.routines r).setState state) }
    | .swapOut p r =>
      { gate   := fun s => (s.processors p).pc = .running r
        effect := fun s => s.setPc p (.resumed r) }
    | .releaseResumed p r =>
      { gate   := fun s => (s.processors p).pc = .resumed r
        effect := fun s => (s.setPc p .run).setLocked r false }
    | .nextRoutineWait p expired =>
      { gate   := fun s =>
          (s.processors p).pc = .nextRoutine ∧ (s.processors p).stop = false ∧
          (∀ c, (s.callers c).writesPool = false) ∧
          (nextRoutine s.locked expired s.scanOrder s.routines (s.processors p).needSleep).isSome
        effect := fun s =>
          let x := s.processors p
          match nextRoutine s.locked expired s.scanOrder s.routines x.needSleep with
          | none => s
          | some (routines, needSleep) =>
            let pc := if needSleep then .timedBlocked else .blocked
            { s.setProcessor p { x with pc := pc, needSleep := needSleep } with
              routines := routines } }
    | .timeout p =>
      { gate   := fun s => (s.processors p).pc = .timedBlocked
        effect := fun s => s.setProcessor p (s.processors p).woken }
    | .contextAcquire k r expired =>
      { gate   := fun s =>
          r ∈ s.queue (.context k) ∧ s.locked r = false ∧ s.contextHolds k = none
        effect := fun s =>
          { (s.setLocked r true).setRoutine r ((s.routines r).updateState expired) with
            contextHolds := Function.update s.contextHolds k (some r) } }
    | .contextSetState k r state =>
      { gate   := fun s => s.contextHolds k = some r
        effect := fun s => s.setRoutine r ((s.routines r).setState state) }
    | .contextRelease k r =>
      { gate   := fun s => s.contextHolds k = some r
        effect := fun s =>
          { s.setLocked r false with
            contextHolds := Function.update s.contextHolds k none } }
    | .dispatchTask c r =>
      { gate   := fun s => s.callers c = .idle
        effect := fun s => s.setCaller c (.lockDispatch r) }
    | .lockDispatch c r =>
      { gate   := fun s => s.callers c = .lockDispatch r ∧ s.idMutex (conf.id r) = none
        effect := fun s =>
          { s.setCaller c (.assign r) with
            idMutex := Function.update s.idMutex (conf.id r) (some c) } }
    | .assign c r =>
      { gate   := fun s => s.callers c = .assign r
        effect := fun s =>
          match conf.crConf r with
          | none      => s.setCaller c (.register r)
          | some task =>
            { s.setCaller c (.register r) with
              priority    := Function.update s.priority r task.prio
              processorId := Function.update s.processorId r
                (task.processor.getD (s.processorId r)) } }
    | .register c r =>
      { gate   := fun s => s.callers c = .register r
        effect := fun s =>
          if (s.idCr (conf.id r)).isSome then s.setCaller c (.unlockDispatch r)
          else
            { s.setCaller c (.choose r) with
              idCr := Function.update s.idCr (conf.id r) (some r) } }
    | .choose c r =>
      { gate   := fun s => s.callers c = .choose r
        effect := fun s =>
          if s.processorId r < conf.procNum then
            s.setCaller c (.insertContext r (s.processorId r).toNat)
          else
            let prio := min (s.priority r) (maxPrio - 1)
            { s.setCaller c (.insertPool r prio) with
              priority  := Function.update s.priority r prio
              groupName := Function.update s.groupName r defaultGroupName } }
    | .insertContext c r k =>
      { gate   := fun s => s.callers c = .insertContext r k ∧ s.writable (.context k)
        effect := fun s =>
          (s.setCaller c (.unlockDispatch r)).setContext k
            ((s.contexts k).enqueue (s.priority r) r) }
    | .insertPool c r prio =>
      { gate   := fun s => s.callers c = .insertPool r prio ∧ s.writable (.pool prio)
        effect := fun s =>
          { s.setCaller c (.unlockDispatch r) with
            rq := Function.update s.rq prio (s.rq prio ++ [r]) } }
    | .unlockDispatch c r =>
      { gate   := fun s => s.callers c = .unlockDispatch r
        effect := fun s =>
          { s.setCaller c .idle with idMutex := Function.update s.idMutex (conf.id r) none } }
    | .notifyProcessor c i =>
      { gate   := fun s => s.callers c = .idle
        effect := fun s => if s.stop then s else s.setCaller c (.find i) }
    | .find c i =>
      { gate   := fun s => s.callers c = .find i
        effect := fun s =>
          match s.idCr i with
          | none   => s.setCaller c .idle
          | some r =>
            let cr := s.routines r
            (s.setCaller c (.notify r)).setRoutine r
              (if CRoutine.waits cr.state then cr.setUpdateFlag else cr) }
    | .notifyContext c r =>
      { gate   := fun s => s.callers c = .notify r ∧ s.processorId r ≠ -1
        effect := fun s =>
          if HasContext conf (s.processorId r) then
            let k := (s.processorId r).toNat
            (s.setCaller c .idle).setContext k (s.contexts k).notify
          else s.setCaller c .fault }
    | .notifyOne c r p =>
      -- the processors of the pool wait for the default group only
      { gate   := fun s => s.callers c = .notify r ∧ s.processorId r = -1 ∧
          match p with
          | some p => s.groupName r = defaultGroupName ∧ (s.processors p).pc.waiting = true
          | none   => s.groupName r = defaultGroupName →
              ∀ p, (s.processors p).pc.waiting = false
        effect := fun s =>
          match p with
          | some p => (s.setCaller c .idle).setProcessor p (s.processors p).woken
          | none   => s.setCaller c .idle }
    | .removeCRoutine c i =>
      { gate   := fun s => s.callers c = .idle
        effect := fun s => s.setCaller c (.lockRemove i) }
    | .lockRemove c i =>
      { gate   := fun s => s.callers c = .lockRemove i ∧ s.idMutex i = none
        effect := fun s =>
          { s.setCaller c (.erase i) with idMutex := Function.update s.idMutex i (some c) } }
    | .erase c i =>
      { gate   := fun s => s.callers c = .erase i
        effect := fun s =>
          match s.idCr i with
          | none   => s.setCaller c (.unlockRemove i)
          | some r =>
            { (s.setCaller c (s.afterErase conf i r)).setStopped r with
              idCr := Function.update s.idCr i none } }
    | .lockQueue c i q =>
      { gate   := fun s => s.callers c = .lockQueue i q ∧ s.writable q
        effect := fun s => s.setCaller c (.search i q) }
    | .search c i q =>
      { gate   := fun s => s.callers c = .search i q
        effect := fun s =>
          match (s.queue q).find? (fun r => conf.id r = i) with
          | none   => s.setCaller c (.unlockQueue i q)
          | some r => (s.setCaller c (.acquire i q r)).setStopped r }
    | .acquireRemove c i q r =>
      { gate   := fun s => s.callers c = .acquire i q r ∧ s.locked r = false
        effect := fun s => (s.setCaller c (.eraseQueue i q r)).setLocked r true }
    | .eraseQueue c i q r =>
      { gate   := fun s => s.callers c = .eraseQueue i q r
        effect := fun s => (s.setCaller c (.release i q r)).eraseQueue conf.id i q }
    | .releaseRemove c i q r =>
      { gate   := fun s => s.callers c = .release i q r
        effect := fun s => (s.setCaller c (.unlockQueue i q)).setLocked r false }
    | .unlockQueue c i q =>
      { gate   := fun s => s.callers c = .unlockQueue i q
        effect := fun s => s.setCaller c (.unlockRemove i) }
    | .unlockRemove c i =>
      { gate   := fun s => s.callers c = .unlockRemove i
        effect := fun s =>
          { s.setCaller c .idle with idMutex := Function.update s.idMutex i none } }
    | .schedulerStop =>
      { gate   := fun _ => True
        effect := fun s => { s with stop := true } }
    | .stop p =>
      { gate   := fun _ => True
        effect := fun s => s.setProcessor p { s.processors p with running := false } }
    | .exchange p =>
      { gate   := fun _ => True
        effect := fun s =>
          { s.setProcessor p { s.processors p with stop := true } with
            shutting := Function.update s.shutting p true } }
    | .notifyAll p =>
      { gate   := fun s => s.shutting p = true
        effect := fun s =>
          { s with
            processors := fun q => (s.processors q).woken
            shutting   := Function.update s.shutting p false } }

end model

end CyberRT.Scheduler.ChoreographyPool
