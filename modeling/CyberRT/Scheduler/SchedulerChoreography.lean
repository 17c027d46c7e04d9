import CyberRT.Framework.System
import CyberRT.Croutine.CRoutine
import CyberRT.Scheduler.ClassicContext

/-! # The choreography scheduler

    `SchedulerChoreography` puts a routine into the queue of one of its
    `ChoreographyContext`s, or into a run queue of the default group, which
    the `ClassicContext`s of the pool scan. Its calls come one after the
    other, and a removal waits until no processor has the routine.

    An access to `pctxs_` beyond its end, a `ClassicContext` that is used as
    a `ChoreographyContext` and an `at` beyond the last priority are faults;
    nothing is said about what follows them. -/

namespace CyberRT.Scheduler.SchedulerChoreography

open CyberRT.Framework CyberRT.Croutine

/-! ## Section 1: Contexts -/

/-- The queue of a `ChoreographyContext` by descending priority, and
    whether it was notified since `NextRoutine` last found nothing. -/
structure ChoreographyContext (Rid : Type) where
  crQueue  : List (Nat × Rid)
  notified : Bool
  deriving DecidableEq

namespace ChoreographyContext

variable {Rid Id : Type}

/-- `Enqueue`: behind the routines of the same or a higher priority. -/
def enqueue (ctx : ChoreographyContext Rid) (prio : Nat) (r : Rid) : ChoreographyContext Rid :=
  { ctx with
    crQueue := ctx.crQueue.takeWhile (fun x => prio ≤ x.1) ++
      (prio, r) :: ctx.crQueue.dropWhile (fun x => prio ≤ x.1) }

/-- `Notify`. -/
def notify (ctx : ChoreographyContext Rid) : ChoreographyContext Rid :=
  { ctx with notified := true }

/-- `RemoveCRoutine`, the removal of the first routine with the id. -/
def removeCRoutine [DecidableEq Id] (id : Rid → Id) (i : Id) (ctx : ChoreographyContext Rid) :
    ChoreographyContext Rid :=
  { ctx with crQueue := ctx.crQueue.eraseP (fun x => id x.2 = i) }

end ChoreographyContext

/-- A context of `pctxs_`. -/
inductive Context (Rid : Type) where
  | choreography (ctx : ChoreographyContext Rid)
  | classic
  deriving DecidableEq

inductive Fault where
  | outOfRange
  | notChoreography
  deriving DecidableEq

/-! ## Section 2: State -/

structure ChoreographyTask where
  processor : Option (BitVec 32)
  prio      : Nat

/-- What is fixed: the routines' ids and their tasks in `cr_confs_`, the
    number of choreography processors and that of pool processors. -/
structure Conf (Rid Id : Type) where
  id           : Rid → Id
  crConf       : Rid → Option ChoreographyTask
  procNum      : BitVec 32
  taskPoolSize : Nat

/-- `DEFAULT_GROUP_NAME`. -/
def defaultGroupName : String := "default_grp"

/-- Whom a call of `Notify` was for. -/
inductive Notice where
  | context (pid : Nat)
  | group (groupName : String)
  deriving DecidableEq

/-- `notices` and `dispatched` are history: the `Notify` calls made so far,
    and the routines for which `DispatchTask` has returned true and
    `RemoveCRoutine` was not called since. -/
structure State (Rid Id : Type) where
  idCr        : Id → Option Rid
  pctxs       : List (Context Rid)
  crGroup     : String → Nat → List Rid
  routines    : Rid → CRoutine
  forceStop   : Rid → Bool
  processorId : Rid → BitVec 32
  priority    : Rid → Nat
  groupName   : Rid → String
  notices     : List Notice
  dispatched  : Rid → Bool
  fault       : Option Fault

/-! ## Section 3: Model -/

section model
variable {Rid Id : Type}

/-- `CreateProcessor`. -/
def createProcessor (conf : Conf Rid Id) : List (Context Rid) :=
  List.replicate conf.procNum.toNat (.choreography ⟨[], false⟩) ++
  List.replicate conf.taskPoolSize .classic

/-- `pctxs_[pid]` as a `ChoreographyContext`, with its position. -/
def choreographyAt (pctxs : List (Context Rid)) :
    Int → Except Fault (Nat × ChoreographyContext Rid)
  | .ofNat k   =>
    match pctxs[k]? with
    | some (.choreography ctx) => .ok (k, ctx)
    | some .classic            => .error .notChoreography
    | none                     => .error .outOfRange
  | .negSucc _ => .error .outOfRange

def State.setContext (s : State Rid Id) (k : Nat) (ctx : ChoreographyContext Rid) :
    State Rid Id :=
  { s with pctxs := s.pctxs.set k (.choreography ctx) }

def State.setGroup (s : State Rid Id) (groupName : String) (prio : Nat) (queue : List Rid) :
    State Rid Id :=
  { s with
    crGroup := Function.update s.crGroup groupName
      (Function.update (s.crGroup groupName) prio queue) }

variable [DecidableEq Rid] [DecidableEq Id]

def State.setUpdateFlag (s : State Rid Id) (r : Rid) : State Rid Id :=
  { s with routines := Function.update s.routines r (s.routines r).setUpdateFlag }

def State.stop (s : State Rid Id) (r : Rid) : State Rid Id :=
  { s with forceStop := Function.update s.forceStop r true }

/-- The part of `DispatchTask` that assigns the configuration. -/
def State.assign (conf : Conf Rid Id) (s : State Rid Id) (r : Rid) : State Rid Id :=
  match conf.crConf r with
  | none      => s
  | some task =>
    { s with
      priority    := Function.update s.priority r task.prio
      processorId := Function.update s.processorId r (task.processor.getD (s.processorId r)) }

/-- The part of `DispatchTask` that enqueues a routine of the pool. -/
def State.enqueuePool (s : State Rid Id) (r : Rid) : State Rid Id :=
  let prio := min (s.priority r) (maxPrio - 1)
  { s.setGroup defaultGroupName prio (s.crGroup defaultGroupName prio ++ [r]) with
    priority  := Function.update s.priority r prio
    groupName := Function.update s.groupName r defaultGroupName }

/-- The part of `DispatchTask` that enqueues the routine. -/
def State.enqueue (conf : Conf Rid Id) (s : State Rid Id) (r : Rid) :
    Except Fault (State Rid Id) :=
  let pid := s.processorId r
  if pid < conf.procNum then do
    let (k, ctx) ← choreographyAt s.pctxs pid.toNat
    return s.setContext k (ctx.enqueue (s.priority r) r)
  else return s.enqueuePool r

/-- `DispatchTask`. -/
def dispatchTask (conf : Conf Rid Id) (s : State Rid Id) (r : Rid) :
    Except Fault (State Rid Id × Bool) :=
  let s := s.assign conf r
  if (s.idCr (conf.id r)).isSome then return (s, false)
  else do
    let s ← State.enqueue conf
      { s with idCr := Function.update s.idCr (conf.id r) (some r) } r
    return (s, true)

/-- The part of `RemoveCRoutine` that takes the routine out of its queue. -/
def State.dequeue (conf : Conf Rid Id) (s : State Rid Id) (i : Id) (prio : Nat)
    (pid : BitVec 32) (groupName : String) : Except Fault (State Rid Id × Bool) :=
  if pid = -1 then
    if maxPrio ≤ prio then .error .outOfRange
    else
      let queue := s.crGroup groupName prio
      match queue.find? (fun x => conf.id x = i) with
      | none   => return (s, false)
      | some r =>
        return ((s.stop r).setGroup groupName prio (queue.eraseP fun x => conf.id x = i), true)
  else do
    let (k, ctx) ← choreographyAt s.pctxs pid.toInt
    match ctx.crQueue.find? (fun x => conf.id x.2 = i) with
    | none   => return (s, true)
    | some x => return ((s.stop x.2).setContext k (ctx.removeCRoutine conf.id i), true)

/-- `RemoveCRoutine`. -/
def removeCRoutine (conf : Conf Rid Id) (s : State Rid Id) (i : Id) :
    Except Fault (State Rid Id × Bool) :=
  match s.idCr i with
  | none   => return (s, false)
  | some r =>
    State.dequeue conf { s.stop r with idCr := Function.update s.idCr i none } i (s.priority r)
      (s.processorId r) (s.groupName r)

/-- `NotifyProcessor`. -/
def notifyProcessor (s : State Rid Id) (i : Id) : Except Fault (State Rid Id × Bool) :=
  match s.idCr i with
  | none   => return (s, false)
  | some r =>
    let s := if CRoutine.waits (s.routines r).state then s.setUpdateFlag r else s
    if s.processorId r ≠ -1 then do
      let (k, ctx) ← choreographyAt s.pctxs (s.processorId r).toInt
      return ({ s.setContext k ctx.notify with notices := s.notices ++ [.context k] }, true)
    else
      return ({ s with notices := s.notices ++ [.group (s.groupName r)] }, true)

inductive Label (Rid Id : Type) where
  | dispatchTask (r : Rid)
  | notifyProcessor (i : Id)
  | removeCRoutine (i : Id)
  -- a routine stores its state
  | setState (r : Rid) (state : RoutineState)
  -- `NextRoutine` of a choreography context finds nothing
  | clearNotified (k : Nat) (ctx : ChoreographyContext Rid)

/-- The scheduler and the calls made to it. -/
def schedulerChoreography (conf : Conf Rid Id) : System (State Rid Id) (Label Rid Id) where
  init := fun s =>
    (∀ i, s.idCr i = none) ∧ s.pctxs = createProcessor conf ∧ (∀ g prio, s.crGroup g prio = []) ∧
    s.notices = [] ∧ (∀ r, s.dispatched r = false) ∧ s.fault = none
  action := fun
    | .dispatchTask r =>
      { gate   := fun s => s.fault = none
        effect := fun s =>
          match dispatchTask conf s r with
          | .error fault     => { s with fault := some fault }
          | .ok (s', false)  => s'
          | .ok (s', true)   =>
            { s' with dispatched := Function.update s'.dispatched r true } }
    | .notifyProcessor i =>
      { gate   := fun s => s.fault = none
        effect := fun s =>
          match notifyProcessor s i with
          | .error fault => { s with fault := some fault }
          | .ok (s', _)  => s' }
    | .removeCRoutine i =>
      { gate   := fun s => s.fault = none
        effect := fun s =>
          match removeCRoutine conf s i with
          | .error fault => { s with fault := some fault }
          | .ok (s', _)  =>
            { s' with dispatched := fun r => s'.dispatched r && conf.id r ≠ i } }
    | .setState r state =>
      { gate   := fun s => s.fault = none
        effect := fun s =>
          { s with routines := Function.update s.routines r ((s.routines r).setState state) } }
    | .clearNotified k ctx =>
      { gate   := fun s => s.fault = none ∧ s.pctxs[k]? = some (.choreography ctx)
        effect := fun s => s.setContext k { ctx with notified := false } }

end model

end CyberRT.Scheduler.SchedulerChoreography
