import CyberRT.Framework.System
import CyberRT.Croutine.CRoutine

/-! # Processors of a classic group

    One group of the classic scheduler: the run queues of the group, the
    processors that scan them (`Processor::Run`, `NextRoutine`, `Wait`) and
    the callers of `DispatchTask`, `NotifyProcessor`, `Shutdown` and
    `Processor::Stop`.

    * A scan goes through the priorities from high to low and holds the
      queue's read lock while it is in a queue, so nothing is inserted there.
    * `Acquire`, the parts of `UpdateState`, the loads and stores of a
      routine's state and `Release` are one step each.
    * `Wait` checks the stop flag and then blocks. The group's mutex is taken
      by waiting processors only, never by a notifier, so it orders nothing
      here and is left out.
    * `notify_one` wakes some waiting processor if there is one. A blocked
      processor may also wake for no reason.

    Time is abstract: a sleeping routine's wake time may pass at any moment,
    and a timed wait may end at any moment. -/

namespace CyberRT.Scheduler

open CyberRT.Framework CyberRT.Croutine

/-! ## Section 1: State -/

def maxPrio : Nat := 20

/-- Where a processor stands. In `scanFrom k` the priorities below `k` are
    still to be scanned. From `scan i rest` to `release i rest r` it holds
    the read lock of priority `i`, with the routines `rest` to come; in
    `update` to `release` it has acquired `r`. -/
inductive ProcessorPc (Rid : Type) where
  | run
  | nextRoutine
  | scanFrom (k : Nat)
  | scan (i : Nat) (rest : List Rid)
  | update (i : Nat) (rest : List Rid) (r : Rid)
  | becomeReady (i : Nat) (rest : List Rid) (r : Rid)
  | notReady (i : Nat) (rest : List Rid) (r : Rid)
  | release (i : Nat) (rest : List Rid) (r : Rid)
  | resume (r : Rid)
  | resumed (r : Rid)
  | wait
  | block
  | blocked
  | timedBlocked
  | exited
  deriving DecidableEq

/-- A processor and its context: `stop_` and `need_sleep_` are the
    context's, `running_` the processor's. -/
structure Processor (Rid : Type) where
  pc        : ProcessorPc Rid
  running   : Bool
  stop      : Bool
  needSleep : Bool

/-- Where a caller of the scheduler stands, with its arguments. -/
inductive CallerPc (Pid Rid : Type) where
  | idle
  | register (r : Rid) (prio : Nat)
  | insert (r : Rid) (prio : Nat)
  | find (r : Rid)
  | checkDataWait (r : Rid)
  | checkIoWait (r : Rid)
  | setUpdateFlag (r : Rid)
  | notify (r : Rid)
  | exchange (p : Pid)
  | notifyAll (p : Pid)
  deriving DecidableEq

/-- The group. `idCr` is the registry `id_cr_`, `rq` the run queue of each
    priority, `locked` the routines' `lock_`, `stop` the scheduler's `stop_`. -/
structure State (Pid Cid Rid : Type) where
  stop       : Bool
  idCr       : Rid → Bool
  rq         : Nat → List Rid
  routines   : Rid → CRoutine
  locked     : Rid → Bool
  processors : Pid → Processor Rid
  callers    : Cid → CallerPc Pid Rid

/-- The processor holds the read lock of priority `i`. -/
def ProcessorPc.reads {Rid : Type} (i : Nat) : ProcessorPc Rid → Prop
  | .scan j _ | .update j _ _ | .becomeReady j _ _ | .notReady j _ _ | .release j _ _ => j = i
  | _ => False

instance {Rid : Type} (i : Nat) (pc : ProcessorPc Rid) : Decidable (pc.reads i) := by
  cases pc <;> unfold ProcessorPc.reads <;> infer_instance

/-- The processor is in the condition wait, timed or untimed. -/
def ProcessorPc.waiting {Rid : Type} : ProcessorPc Rid → Bool
  | .blocked | .timedBlocked => true
  | _ => false

/-- A processor that leaves the condition wait goes back to its loop. -/
def Processor.woken {Rid : Type} (x : Processor Rid) : Processor Rid :=
  match x.pc with
  | .blocked      => { x with pc := .run }
  | .timedBlocked => { x with pc := .run, needSleep := false }
  | _             => x

/-! ## Section 2: Model -/

section model
variable {Pid Cid Rid : Type} [DecidableEq Pid] [DecidableEq Cid] [DecidableEq Rid]

def State.setProcessor (s : State Pid Cid Rid) (p : Pid) (x : Processor Rid) :
    State Pid Cid Rid :=
  { s with processors := Function.update s.processors p x }

def State.setPc (s : State Pid Cid Rid) (p : Pid) (pc : ProcessorPc Rid) : State Pid Cid Rid :=
  s.setProcessor p { s.processors p with pc := pc }

def State.setCaller (s : State Pid Cid Rid) (c : Cid) (pc : CallerPc Pid Rid) :
    State Pid Cid Rid :=
  { s with callers := Function.update s.callers c pc }

def State.setRoutine (s : State Pid Cid Rid) (r : Rid) (cr : CRoutine) : State Pid Cid Rid :=
  { s with routines := Function.update s.routines r cr }

def State.setLocked (s : State Pid Cid Rid) (r : Rid) (locked : Bool) : State Pid Cid Rid :=
  { s with locked := Function.update s.locked r locked }

inductive Label (Pid Cid Rid : Type) where
  -- `Processor::Run` and `NextRoutine`
  | run (p : Pid)
  | nextRoutine (p : Pid)
  | lockQueue (p : Pid) (k : Nat)
  | unlockQueue (p : Pid) (i : Nat)
  | scanned (p : Pid)
  | acquire (p : Pid) (i : Nat) (rest : List Rid) (r : Rid)
  | acquireFail (p : Pid) (i : Nat) (rest : List Rid) (r : Rid)
  | wakeSleep (p : Pid) (i : Nat) (rest : List Rid) (r : Rid)
  | testAndSet (p : Pid) (i : Nat) (rest : List Rid) (r : Rid)
  | becomeReady (p : Pid) (i : Nat) (rest : List Rid) (r : Rid)
  | checkSleep (p : Pid) (i : Nat) (rest : List Rid) (r : Rid)
  | release (p : Pid) (i : Nat) (rest : List Rid) (r : Rid)
  | setState (p : Pid) (r : Rid) (state : RoutineState)
  | swapOut (p : Pid) (r : Rid)
  | releaseResumed (p : Pid) (r : Rid)
  -- `Wait`
  | wait (p : Pid)
  | block (p : Pid)
  | wake (p : Pid)
  -- `DispatchTask` and `NotifyProcessor`
  | dispatchTask (c : Cid) (r : Rid) (prio : Nat)
  | register (c : Cid) (r : Rid) (prio : Nat)
  | insert (c : Cid) (r : Rid) (prio : Nat)
  | notifyProcessor (c : Cid) (r : Rid)
  | find (c : Cid) (r : Rid)
  | checkDataWait (c : Cid) (r : Rid)
  | checkIoWait (c : Cid) (r : Rid)
  | setUpdateFlag (c : Cid) (r : Rid)
  | notifyOne (c : Cid) (r : Rid) (p : Option Pid)
  -- `Shutdown`, of the scheduler, of a processor and of a context
  | schedulerStop
  | stop (c : Cid) (p : Pid)
  | shutdown (c : Cid) (p : Pid)
  | exchange (c : Cid) (p : Pid)
  | notifyAll (c : Cid) (p : Pid)

/-- Where the scan goes on once `UpdateState` has returned the routine's state. -/
def afterUpdate (cr : CRoutine) (i : Nat) (rest : List Rid) (r : Rid) : ProcessorPc Rid :=
  if cr.state = .ready then .resume r else .notReady i rest r

/-- One group of processors and its callers. -/
def classicGroup : System (State Pid Cid Rid) (Label Pid Cid Rid) where
  init := fun s =>
    s.stop = false ∧ (∀ r, s.idCr r = false) ∧ (∀ i, s.rq i = []) ∧
    (∀ r, s.routines r = .new) ∧ (∀ r, s.locked r = false) ∧
    (∀ p, s.processors p = ⟨.run, true, false, false⟩) ∧ (∀ c, s.callers c = .idle)
  action := fun
    | .run p =>
      { gate   := fun s => (s.processors p).pc = .run
        effect := fun s =>
          if (s.processors p).running then s.setPc p .nextRoutine else s.setPc p .exited }
    | .nextRoutine p =>
      { gate   := fun s => (s.processors p).pc = .nextRoutine
        effect := fun s =>
          if (s.processors p).stop then s.setPc p .wait else s.setPc p (.scanFrom maxPrio) }
    | .lockQueue p k =>
      { gate   := fun s => (s.processors p).pc = .scanFrom (k + 1)
        effect := fun s => s.setPc p (.scan k (s.rq k)) }
    | .unlockQueue p i =>
      { gate   := fun s => (s.processors p).pc = .scan i []
        effect := fun s => s.setPc p (.scanFrom i) }
    | .scanned p =>
      { gate   := fun s => (s.processors p).pc = .scanFrom 0
        effect := fun s => s.setPc p .wait }
    | .acquire p i rest r =>
      { gate   := fun s => (s.processors p).pc = .scan i (r :: rest) ∧ s.locked r = false
        effect := fun s => (s.setPc p (.update i rest r)).setLocked r true }
    | .acquireFail p i rest r =>
      { gate   := fun s => (s.processors p).pc = .scan i (r :: rest) ∧ s.locked r = true
        effect := fun s => s.setPc p (.scan i rest) }
    | .wakeSleep p i rest r =>
      -- `UpdateState` past the wake time: the flag is not looked at
      { gate   := fun s => (s.processors p).pc = .update i rest r ∧ (s.routines r).state = .sleep
        effect := fun s =>
          (s.setPc p (.resume r)).setRoutine r ((s.routines r).setState .ready) }
    | .testAndSet p i rest r =>
      { gate   := fun s => (s.processors p).pc = .update i rest r
        effect := fun s =>
          if (s.routines r).Raised then
            (s.setPc p (.becomeReady i rest r)).setRoutine r (s.routines r).testAndSet
          else
            s.setPc p (afterUpdate (s.routines r) i rest r) }
    | .becomeReady p i rest r =>
      { gate   := fun s => (s.processors p).pc = .becomeReady i rest r
        effect := fun s =>
          let cr := (s.routines r).becomeReady
          (s.setPc p (afterUpdate cr i rest r)).setRoutine r cr }
    | .checkSleep p i rest r =>
      { gate   := fun s => (s.processors p).pc = .notReady i rest r
        effect := fun s =>
          let x := s.processors p
          s.setProcessor p { x with
            pc        := .release i rest r
            needSleep := x.needSleep || (s.routines r).state = .sleep } }
    | .release p i rest r =>
      { gate   := fun s => (s.processors p).pc = .release i rest r
        effect := fun s => (s.setPc p (.scan i rest)).setLocked r false }
    | .setState p r state =>
      -- the resumed routine stores its own state
      { gate   := fun s => (s.processors p).pc = .resume r
        effect := fun s => s.setRoutine r ((s.routines r).setState state) }
    | .swapOut p r =>
      { gate   := fun s => (s.processors p).pc = .resume r
        effect := fun s => s.setPc p (.resumed r) }
    | .releaseResumed p r =>
      { gate   := fun s => (s.processors p).pc = .resumed r
        effect := fun s => (s.setPc p .run).setLocked r false }
    | .wait p =>
      { gate   := fun s => (s.processors p).pc = .wait
        effect := fun s =>
          if (s.processors p).stop then s.setPc p .run else s.setPc p .block }
    | .block p =>
      { gate   := fun s => (s.processors p).pc = .block
        effect := fun s =>
          if (s.processors p).needSleep then s.setPc p .timedBlocked else s.setPc p .blocked }
    | .wake p =>
      -- the time is over, or for no reason
      { gate   := fun s => (s.processors p).pc.waiting = true
        effect := fun s => s.setProcessor p (s.processors p).woken }
    | .dispatchTask c r prio =>
      { gate   := fun s => s.callers c = .idle
        effect := fun s => s.setCaller c (.register r prio) }
    | .register c r prio =>
      { gate   := fun s => s.callers c = .register r prio
        effect := fun s =>
          if s.idCr r then
            s.setCaller c .idle
          else
            { s.setCaller c (.insert r prio) with idCr := Function.update s.idCr r true } }
    | .insert c r prio =>
      { gate   := fun s => s.callers c = .insert r prio ∧
          ∀ p, ¬ (s.processors p).pc.reads (min prio (maxPrio - 1))
        effect := fun s =>
          let prio := min prio (maxPrio - 1)
          { s.setCaller c (.notify r) with rq := Function.update s.rq prio (s.rq prio ++ [r]) } }
    | .notifyProcessor c r =>
      { gate   := fun s => s.callers c = .idle
        effect := fun s => if s.stop then s else s.setCaller c (.find r) }
    | .find c r =>
      { gate   := fun s => s.callers c = .find r
        effect := fun s =>
          if s.idCr r then s.setCaller c (.checkDataWait r) else s.setCaller c .idle }
    | .checkDataWait c r =>
      { gate   := fun s => s.callers c = .checkDataWait r
        effect := fun s =>
          if (s.routines r).state = .dataWait then s.setCaller c (.setUpdateFlag r)
          else s.setCaller c (.checkIoWait r) }
    | .checkIoWait c r =>
      { gate   := fun s => s.callers c = .checkIoWait r
        effect := fun s =>
          if (s.routines r).state = .ioWait then s.setCaller c (.setUpdateFlag r)
          else s.setCaller c (.notify r) }
    | .setUpdateFlag c r =>
      { gate   := fun s => s.callers c = .setUpdateFlag r
        effect := fun s =>
          (s.setCaller c (.notify r)).setRoutine r (s.routines r).setUpdateFlag }
    | .notifyOne c r p =>
      { gate   := fun s => s.callers c = .notify r ∧
          match p with
          | some p => (s.processors p).pc.waiting = true
          | none   => ∀ p, (s.processors p).pc.waiting = false
        effect := fun s =>
          match p with
          | some p => (s.setCaller c .idle).setProcessor p (s.processors p).woken
          | none   => s.setCaller c .idle }
    | .schedulerStop =>
      { gate   := fun _ => True
        effect := fun s => { s with stop := true } }
    | .stop c p =>
      { gate   := fun s => s.callers c = .idle
        effect := fun s =>
          (s.setCaller c (.exchange p)).setProcessor p
            { s.processors p with running := false } }
    | .shutdown c p =>
      { gate   := fun s => s.callers c = .idle
        effect := fun s => s.setCaller c (.exchange p) }
    | .exchange c p =>
      { gate   := fun s => s.callers c = .exchange p
        effect := fun s =>
          (s.setCaller c (.notifyAll p)).setProcessor p { s.processors p with stop := true } }
    | .notifyAll c p =>
      { gate   := fun s => s.callers c = .notifyAll p
        effect := fun s =>
          { s.setCaller c .idle with processors := fun q => (s.processors q).woken } }

end model

end CyberRT.Scheduler
