import CyberRT.Framework.System
import CyberRT.Croutine.CRoutine
import CyberRT.Scheduler.ClassicContext

/-! # The classic scheduler

    The registry `id_cr_`, the run queues of all groups, and who works on
    them: the callers of `DispatchTask` and `RemoveCRoutine` and the
    processors (`Processor::Run`, `NextRoutine`, `Resume`, `Release`).

    * A call holds the mutex of its id from its first step on. The registry
      lock is held within one step. The lock of a run queue is read-held by
      a processor while it scans the queue and write-held by
      `RemoveCRoutine` while it waits for the routine; `DispatchTask` write-holds
      it within one step.
    * `Acquire`, `UpdateState`, the start of `Resume`, what the resumed
      routine stores as its state, the swap and `Release` are one step each.
    * Anybody may raise a routine's update flag at any time.

    Routines are objects; several may have the same id. `removed` is
    history: the routines for which a `RemoveCRoutine` has returned true.
    Going to sleep and waking up are in the model of one group. -/

namespace CyberRT.Scheduler.SchedulerClassic

open CyberRT.Framework CyberRT.Croutine

/-! ## Section 1: State -/

/-- What is fixed: the routines' ids, the tasks of `cr_confs_` with their
    group and priority, `groups(0)`, and the groups of the processors. -/
structure Conf (Pid Rid Id G : Type) where
  id         : Rid → Id
  crConf     : Rid → Option (G × Nat)
  firstGroup : G
  group      : Pid → G

/-- Where a processor stands. In `scanFrom k` the priorities below `k` are
    still to be scanned. In `scan`, `update` and `release` it holds the read
    lock of priority `i`, with the routines `rest` to come; from `update` to
    `release` and from `resume` on it has acquired `r`. -/
inductive ProcessorPc (Rid : Type) where
  | run
  | scanFrom (k : Nat)
  | scan (i : Nat) (rest : List Rid)
  | update (i : Nat) (rest : List Rid) (r : Rid)
  | release (i : Nat) (rest : List Rid) (r : Rid)
  | resume (r : Rid)
  | running (r : Rid)
  | resumed (r : Rid)
  deriving DecidableEq

/-- Where a caller of the scheduler stands, named by the next step, with
    its local variables: the id, the group and the priority it works on. -/
inductive CallerPc (Rid Id G : Type) where
  | idle
  | lockDispatch (r : Rid)
  | register (r : Rid)
  | configure (r : Rid)
  | insert (r : Rid)
  | unlockDispatch (r : Rid) (ret : Bool)
  | notify (r : Rid)
  | lockRemove (i : Id)
  | erase (i : Id)
  | lockQueue (i : Id) (g : G) (prio : Nat)
  | search (i : Id) (g : G) (prio : Nat)
  | acquire (i : Id) (g : G) (prio : Nat) (r : Rid)
  | eraseQueue (i : Id) (g : G) (prio : Nat) (r : Rid)
  | release (i : Id) (g : G) (prio : Nat) (r : Rid)
  | unlockQueue (i : Id) (g : G) (prio : Nat) (found : Option Rid)
  | unlockRemove (i : Id) (found : Option Rid)
  deriving DecidableEq

structure State (Pid Cid Rid Id G : Type) where
  idMutex    : Id → Option Cid
  idCr       : Id → Option Rid
  rq         : G → Nat → List Rid
  routines   : Rid → CRoutine
  priority   : Rid → Nat
  groupName  : Rid → G
  forceStop  : Rid → Bool
  locked     : Rid → Bool
  processors : Pid → ProcessorPc Rid
  callers    : Cid → CallerPc Rid Id G
  removed    : Rid → Bool

/-- The priority whose read lock the processor holds. -/
def ProcessorPc.reads {Rid : Type} : ProcessorPc Rid → Option Nat
  | .scan i _ | .update i _ _ | .release i _ _ => some i
  | _ => none

/-- The routine the processor has acquired. -/
def ProcessorPc.holds {Rid : Type} : ProcessorPc Rid → Option Rid
  | .update _ _ r | .release _ _ r | .resume r | .running r | .resumed r => some r
  | _ => none

/-- The run queue whose write lock the caller holds. -/
def CallerPc.writes {Rid Id G : Type} : CallerPc Rid Id G → Option (G × Nat)
  | .search _ g prio | .acquire _ g prio _ | .eraseQueue _ g prio _ | .release _ g prio _
  | .unlockQueue _ g prio _ => some (g, prio)
  | _ => none

/-- The routine the caller has acquired. -/
def CallerPc.holds {Rid Id G : Type} : CallerPc Rid Id G → Option Rid
  | .eraseQueue _ _ _ r | .release _ _ _ r => some r
  | _ => none

/-- The id whose mutex the caller holds. -/
def CallerPc.holdsId {Rid Id G : Type} (id : Rid → Id) : CallerPc Rid Id G → Option Id
  | .register r | .configure r | .insert r | .unlockDispatch r _ => some (id r)
  | .erase i | .lockQueue i _ _ | .search i _ _ | .acquire i _ _ _ | .eraseQueue i _ _ _
  | .release i _ _ _ | .unlockQueue i _ _ _ | .unlockRemove i _ => some i
  | .idle | .lockDispatch _ | .notify _ | .lockRemove _ => none

/-! ## Section 2: Model -/

section model
variable {Pid Cid Rid Id G : Type}

/-- The run queue of a group and a priority is free for writing. -/
def State.writable (conf : Conf Pid Rid Id G) (s : State Pid Cid Rid Id G) (g : G)
    (prio : Nat) : Prop :=
  (∀ p, conf.group p = g → (s.processors p).reads ≠ some prio) ∧
  ∀ c, (s.callers c).writes ≠ some (g, prio)

variable [DecidableEq Pid] [DecidableEq Cid] [DecidableEq Rid] [DecidableEq Id] [DecidableEq G]

def State.setPc (s : State Pid Cid Rid Id G) (p : Pid) (pc : ProcessorPc Rid) :
    State Pid Cid Rid Id G :=
  { s with processors := Function.update s.processors p pc }

def State.setCaller (s : State Pid Cid Rid Id G) (c : Cid) (pc : CallerPc Rid Id G) :
    State Pid Cid Rid Id G :=
  { s with callers := Function.update s.callers c pc }

def State.setRq (s : State Pid Cid Rid Id G) (g : G) (prio : Nat) (queue : List Rid) :
    State Pid Cid Rid Id G :=
  { s with rq := Function.update s.rq g (Function.update (s.rq g) prio queue) }

inductive Label (Pid Cid Rid Id G : Type) where
  -- `DispatchTask`
  | dispatchTask (c : Cid) (r : Rid)
  | lockDispatch (c : Cid) (r : Rid)
  | register (c : Cid) (r : Rid)
  | configure (c : Cid) (r : Rid)
  | insert (c : Cid) (r : Rid)
  | unlockDispatch (c : Cid) (r : Rid) (ret : Bool)
  | notify (c : Cid) (r : Rid)
  -- `RemoveCRoutine`
  | removeCRoutine (c : Cid) (i : Id)
  | lockRemove (c : Cid) (i : Id)
  | erase (c : Cid) (i : Id)
  | lockQueue (c : Cid) (i : Id) (g : G) (prio : Nat)
  | search (c : Cid) (i : Id) (g : G) (prio : Nat)
  | acquireRemove (c : Cid) (i : Id) (g : G) (prio : Nat) (r : Rid)
  | eraseQueue (c : Cid) (i : Id) (g : G) (prio : Nat) (r : Rid)
  | releaseRemove (c : Cid) (i : Id) (g : G) (prio : Nat) (r : Rid)
  | unlockQueue (c : Cid) (i : Id) (g : G) (prio : Nat) (found : Option Rid)
  | unlockRemove (c : Cid) (i : Id) (found : Option Rid)
  -- `NextRoutine`, `Resume` and `Release`
  | nextRoutine (p : Pid)
  | readQueue (p : Pid) (k : Nat)
  | leaveQueue (p : Pid) (i : Nat)
  | scanned (p : Pid)
  | acquire (p : Pid) (i : Nat) (rest : List Rid) (r : Rid)
  | acquireFail (p : Pid) (i : Nat) (rest : List Rid) (r : Rid)
  | updateState (p : Pid) (i : Nat) (rest : List Rid) (r : Rid) (expired : Bool)
  | release (p : Pid) (i : Nat) (rest : List Rid) (r : Rid)
  | resume (p : Pid) (r : Rid)
  | setState (p : Pid) (r : Rid) (state : RoutineState)
  | swapOut (p : Pid) (r : Rid)
  | releaseResumed (p : Pid) (r : Rid)
  -- `SetUpdateFlag`
  | setUpdateFlag (r : Rid)

/-- The scheduler with its callers and processors. -/
def schedulerClassic (conf : Conf Pid Rid Id G) :
    System (State Pid Cid Rid Id G) (Label Pid Cid Rid Id G) where
  init := fun s =>
    (∀ i, s.idMutex i = none) ∧ (∀ i, s.idCr i = none) ∧ (∀ g prio, s.rq g prio = []) ∧
    (∀ r, s.routines r = .new) ∧ (∀ r, s.forceStop r = false) ∧ (∀ r, s.locked r = false) ∧
    (∀ p, s.processors p = .run) ∧ (∀ c, s.callers c = .idle) ∧ ∀ r, s.removed r = false
  action := fun
    | .dispatchTask c r =>
      { gate   := fun s => s.callers c = .idle
        effect := fun s => s.setCaller c (.lockDispatch r) }
    | .lockDispatch c r =>
      { gate   := fun s => s.callers c = .lockDispatch r ∧ s.idMutex (conf.id r) = none
        effect := fun s =>
          { s.setCaller c (.register r) with
            idMutex := Function.update s.idMutex (conf.id r) (some c) } }
    | .register c r =>
      { gate   := fun s => s.callers c = .register r
        effect := fun s =>
          if (s.idCr (conf.id r)).isSome then
            s.setCaller c (.unlockDispatch r false)
          else
            { s.setCaller c (.configure r) with
              idCr := Function.update s.idCr (conf.id r) (some r) } }
    | .configure c r =>
      { gate   := fun s => s.callers c = .configure r
        effect := fun s =>
          match conf.crConf r with
          | some (g, prio) =>
            { s.setCaller c (.insert r) with
              priority  := Function.update s.priority r (min prio (maxPrio - 1))
              groupName := Function.update s.groupName r g }
          | none =>
            { s.setCaller c (.insert r) with
              priority  := Function.update s.priority r (min (s.priority r) (maxPrio - 1))
              groupName := Function.update s.groupName r conf.firstGroup } }
    | .insert c r =>
      { gate   := fun s =>
          s.callers c = .insert r ∧ s.writable conf (s.groupName r) (s.priority r)
        effect := fun s =>
          (s.setCaller c (.unlockDispatch r true)).setRq (s.groupName r) (s.priority r)
            (s.rq (s.groupName r) (s.priority r) ++ [r]) }
    | .unlockDispatch c r ret =>
      { gate   := fun s => s.callers c = .unlockDispatch r ret
        effect := fun s =>
          { s.setCaller c (if ret then .notify r else .idle) with
            idMutex := Function.update s.idMutex (conf.id r) none } }
    | .notify c r =>
      { gate   := fun s => s.callers c = .notify r
        effect := fun s => s.setCaller c .idle }
    | .removeCRoutine c i =>
      { gate   := fun s => s.callers c = .idle
        effect := fun s => s.setCaller c (.lockRemove i) }
    | .lockRemove c i =>
      { gate   := fun s => s.callers c = .lockRemove i ∧ s.idMutex i = none
        effect := fun s =>
          { s.setCaller c (.erase i) with idMutex := Function.update s.idMutex i (some c) } }
    | .erase c i =>
      { gate   := fun s => s.callers c = .erase i
        effect := fun s =>
          match s.idCr i with
          | none   => s.setCaller c (.unlockRemove i none)
          | some r =>
            { s.setCaller c (.lockQueue i (s.groupName r) (s.priority r)) with
              forceStop := Function.update s.forceStop r true
              idCr      := Function.update s.idCr i none } }
    | .lockQueue c i g prio =>
      { gate   := fun s => s.callers c = .lockQueue i g prio ∧ s.writable conf g prio
        effect := fun s => s.setCaller c (.search i g prio) }
    | .search c i g prio =>
      { gate   := fun s => s.callers c = .search i g prio
        effect := fun s =>
          match (s.rq g prio).find? (fun r => conf.id r = i) with
          | none   => s.setCaller c (.unlockQueue i g prio none)
          | some r =>
            { s.setCaller c (.acquire i g prio r) with
              forceStop := Function.update s.forceStop r true } }
    | .acquireRemove c i g prio r =>
      { gate   := fun s => s.callers c = .acquire i g prio r ∧ s.locked r = false
        effect := fun s =>
          { s.setCaller c (.eraseQueue i g prio r) with
            locked := Function.update s.locked r true } }
    | .eraseQueue c i g prio r =>
      { gate   := fun s => s.callers c = .eraseQueue i g prio r
        effect := fun s =>
          (s.setCaller c (.release i g prio r)).setRq g prio
            ((s.rq g prio).eraseP (fun x => conf.id x = i)) }
    | .releaseRemove c i g prio r =>
      { gate   := fun s => s.callers c = .release i g prio r
        effect := fun s =>
          { s.setCaller c (.unlockQueue i g prio (some r)) with
            locked := Function.update s.locked r false } }
    | .unlockQueue c i g prio found =>
      { gate   := fun s => s.callers c = .unlockQueue i g prio found
        effect := fun s => s.setCaller c (.unlockRemove i found) }
    | .unlockRemove c i found =>
      -- true is returned when the routine was found
      { gate   := fun s => s.callers c = .unlockRemove i found
        effect := fun s =>
          { s.setCaller c .idle with
            idMutex := Function.update s.idMutex i none
            removed := fun r => s.removed r || found = some r } }
    | .nextRoutine p =>
      { gate   := fun s => s.processors p = .run
        effect := fun s => s.setPc p (.scanFrom maxPrio) }
    | .readQueue p k =>
      { gate   := fun s => s.processors p = .scanFrom (k + 1) ∧
          ∀ c, (s.callers c).writes ≠ some (conf.group p, k)
        effect := fun s => s.setPc p (.scan k (s.rq (conf.group p) k)) }
    | .leaveQueue p i =>
      { gate   := fun s => s.processors p = .scan i []
        effect := fun s => s.setPc p (.scanFrom i) }
    | .scanned p =>
      { gate   := fun s => s.processors p = .scanFrom 0
        effect := fun s => s.setPc p .run }
    | .acquire p i rest r =>
      { gate   := fun s => s.processors p = .scan i (r :: rest) ∧ s.locked r = false
        effect := fun s =>
          { s.setPc p (.update i rest r) with locked := Function.update s.locked r true } }
    | .acquireFail p i rest r =>
      { gate   := fun s => s.processors p = .scan i (r :: rest) ∧ s.locked r = true
        effect := fun s => s.setPc p (.scan i rest) }
    | .updateState p i rest r expired =>
      { gate   := fun s => s.processors p = .update i rest r
        effect := fun s =>
          let cr := (s.routines r).updateState expired
          { s.setPc p (if cr.state = .ready then .resume r else .release i rest r) with
            routines := Function.update s.routines r cr } }
    | .release p i rest r =>
      { gate   := fun s => s.processors p = .release i rest r
        effect := fun s =>
          { s.setPc p (.scan i rest) with locked := Function.update s.locked r false } }
    | .resume p r =>
      -- a stopped routine is finished without being swapped in
      { gate   := fun s => s.processors p = .resume r
        effect := fun s =>
          if s.forceStop r then
            { s.setPc p (.resumed r) with
              routines := Function.update s.routines r ((s.routines r).setState .finished) }
          else if (s.routines r).state ≠ .ready then s.setPc p (.resumed r)
          else s.setPc p (.running r) }
    | .setState p r state =>
      { gate   := fun s => s.processors p = .running r
        effect := fun s =>
          { s with routines := Function.update s.routines r ((s.routines r).setState state) } }
    | .swapOut p r =>
      { gate   := fun s => s.processors p = .running r
        effect := fun s => s.setPc p (.resumed r) }
    | .releaseResumed p r =>
      { gate   := fun s => s.processors p = .resumed r
        effect := fun s =>
          { s.setPc p .run with locked := Function.update s.locked r false } }
    | .setUpdateFlag r =>
      { gate   := fun _ => True
        effect := fun s =>
          { s with routines := Function.update s.routines r (s.routines r).setUpdateFlag } }

end model

end CyberRT.Scheduler.SchedulerClassic
