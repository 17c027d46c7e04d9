import CyberRT.Framework.System
import CyberRT.Croutine.CRoutine

/-! # The poll handler

    A routine that calls `Block` becomes the handler's routine, leaves a
    one-shot request with the poller and yields in `IO_WAIT`. The poller's
    thread answers the request with `ResponseCallback`, which stores the
    response and notifies the handler's routine if it finds it in `IO_WAIT`.

    * Each load and store is one step, and so is each critical section of the
      poller. A callback holds the poller's lock for reading, so nobody
      registers or unregisters while it runs.
    * A request has no timeout: only an event of the fd answers it. An event
      is reported once for each time the fd is armed.
    * The routines are in the registry, and the scheduler does not stop. -/

namespace CyberRT.Io.PollHandler

open CyberRT.Framework CyberRT.Croutine

/-! ## Section 1: State -/

/-- Where a routine stands: named by its next step, outside `Block` (`idle`),
    swapped out in it (`suspended`) or in the hands of a processor that found
    the update flag raised (`updating`). -/
inductive RoutinePc where
  | idle
  | exchange
  | register
  | setState
  | swapOut
  | suspended
  | updating
  | readResponse
  | endBlock
  deriving DecidableEq

/-- A routine, with the argument and the result of its `Block`. -/
structure Routine where
  pc     : RoutinePc
  cr     : CRoutine
  isRead : Bool
  result : Option Bool

/-- Where the poller's thread stands, named by the next step: an event that
    is to be answered (`respond`), `ResponseCallback`, `NotifyProcessor`. -/
inductive PollerPc (Cid : Type) where
  | idle
  | respond (rsp : BitVec 32)
  | testBlocking (rsp : BitVec 32)
  | testRoutine (rsp : BitVec 32)
  | storeResponse (rsp : BitVec 32)
  | loadRoutine
  | testState (c : Cid)
  | loadId
  | checkDataWait (c : Cid)
  | checkIoWait (c : Cid)
  | setUpdateFlag (c : Cid)
  deriving DecidableEq

/-- A callback is in progress. -/
def PollerPc.inCallback {Cid : Type} : PollerPc Cid → Bool
  | .idle | .respond _ => false
  | _ => true

/-- The handler, its fd with the poller, and the routines. `ctrl` is the
    operation that is pending for the fd: whether it is to be armed.
    `unblocks` counts the calls of `Unblock` that have yet to unregister.
    `current` and `delivered` are history: the routine of the `Block` that
    registered last, until it goes on, and whether the poller has called back
    since then. -/
structure State (Cid : Type) where
  isBlocking : Bool
  routine    : Option Cid
  response   : BitVec 32
  requested  : Bool
  ctrl       : Option Bool
  armed      : Bool
  pollerPc   : PollerPc Cid
  unblocks   : Nat
  routines   : Cid → Routine
  current    : Option Cid
  delivered  : Bool

/-! ## Section 2: Model -/

section model
variable {Cid : Type} [DecidableEq Cid]

def State.setRoutine (s : State Cid) (c : Cid) (x : Routine) : State Cid :=
  { s with routines := Function.update s.routines c x }

def State.setPoller (s : State Cid) (pc : PollerPc Cid) : State Cid := { s with pollerPc := pc }

/-- `EPOLLIN` or `EPOLLOUT`. -/
def targetEvents (isRead : Bool) : BitVec 32 := if isRead then 1 else 4

inductive Label (Cid : Type) where
  -- `Block`
  | check (c : Cid) (isRead : Bool)
  | checkOutside
  | exchange (c : Cid)
  | register (c : Cid)
  | registerFails (c : Cid)
  | setState (c : Cid)
  | swapOut (c : Cid)
  | readResponse (c : Cid)
  | endBlock (c : Cid)
  -- `UpdateState` and `Resume`
  | testAndSet (c : Cid)
  | becomeReady (c : Cid)
  | resume (c : Cid)
  -- `Unblock`
  | unblock
  | unregister
  -- `HandleChanges` and `Poll`
  | handleChanges
  | report (rsp : BitVec 32)
  | respond (rsp : BitVec 32)
  -- `ResponseCallback` and `NotifyProcessor`
  | testBlocking (rsp : BitVec 32)
  | testRoutine (rsp : BitVec 32)
  | storeResponse (rsp : BitVec 32)
  | loadRoutine (c : Cid)
  | testState (c : Cid)
  | loadId (c : Cid)
  | checkDataWait (c : Cid)
  | checkIoWait (c : Cid)
  | setUpdateFlag (c : Cid)

/-- The handler, the poller's thread and the routines and other threads that
    call `Block` and `Unblock`. -/
def pollHandler : System (State Cid) (Label Cid) where
  init := fun s =>
    s.isBlocking = false ∧ s.routine = none ∧ s.requested = false ∧ s.ctrl = none ∧
    s.armed = false ∧ s.pollerPc = .idle ∧ s.unblocks = 0 ∧ s.current = none ∧
    s.delivered = false ∧ ∀ c, (s.routines c).pc = .idle ∧ (s.routines c).cr = .new
  action := fun
    | .check c isRead =>
      { gate   := fun s => (s.routines c).pc = .idle
        effect := fun s =>
          { s.setRoutine c { s.routines c with pc := .exchange, isRead := isRead, result := none }
            with routine := some c } }
    | .checkOutside =>
      -- `Block` outside of a routine fails, after the store
      { gate   := fun _ => True
        effect := fun s => { s with routine := none } }
    | .exchange c =>
      { gate   := fun s => (s.routines c).pc = .exchange
        effect := fun s =>
          if s.isBlocking then
            s.setRoutine c { s.routines c with pc := .idle, result := some false }
          else
            { s.setRoutine c { s.routines c with pc := .register } with isBlocking := true } }
    | .register c =>
      { gate   := fun s => (s.routines c).pc = .register ∧ s.pollerPc.inCallback = false
        effect := fun s =>
          { s.setRoutine c { s.routines c with pc := .setState } with
            requested := true, ctrl := some true, current := some c, delivered := false } }
    | .registerFails c =>
      -- the poller is shut down
      { gate   := fun s => (s.routines c).pc = .register
        effect := fun s =>
          { s.setRoutine c { s.routines c with pc := .idle, result := some false } with
            isBlocking := false } }
    | .setState c =>
      { gate   := fun s => (s.routines c).pc = .setState
        effect := fun s =>
          s.setRoutine c { s.routines c with
            pc := .swapOut, cr := (s.routines c).cr.setState .ioWait } }
    | .swapOut c =>
      { gate   := fun s => (s.routines c).pc = .swapOut
        effect := fun s => s.setRoutine c { s.routines c with pc := .suspended } }
    | .testAndSet c =>
      { gate   := fun s => (s.routines c).pc = .suspended
        effect := fun s =>
          let x := s.routines c
          s.setRoutine c { x with
            pc := if x.cr.Raised then .updating else .suspended, cr := x.cr.testAndSet } }
    | .becomeReady c =>
      { gate   := fun s => (s.routines c).pc = .updating
        effect := fun s =>
          s.setRoutine c { s.routines c with
            pc := .suspended, cr := (s.routines c).cr.becomeReady } }
    | .resume c =>
      { gate   := fun s => (s.routines c).pc = .suspended ∧ (s.routines c).cr.state = .ready
        effect := fun s =>
          { s.setRoutine c { s.routines c with pc := .readResponse } with
            current := if s.current = some c then none else s.current } }
    | .readResponse c =>
      { gate   := fun s => (s.routines c).pc = .readResponse
        effect := fun s =>
          let x := s.routines c
          s.setRoutine c { x with
            pc := .endBlock, result := some (s.response &&& targetEvents x.isRead != 0) } }
    | .endBlock c =>
      { gate   := fun s => (s.routines c).pc = .endBlock
        effect := fun s =>
          { s.setRoutine c { s.routines c with pc := .idle } with isBlocking := false } }
    | .unblock =>
      { gate   := fun _ => True
        effect := fun s => { s with isBlocking := false, unblocks := s.unblocks + 1 } }
    | .unregister =>
      { gate   := fun s => 0 < s.unblocks ∧ s.pollerPc.inCallback = false
        effect := fun s =>
          if s.requested then
            { s with unblocks := s.unblocks - 1, requested := false, ctrl := some false }
          else
            { s with unblocks := s.unblocks - 1 } }
    | .handleChanges =>
      { gate   := fun s => s.pollerPc = .idle
        effect := fun s => { s with armed := s.ctrl.getD s.armed, ctrl := none } }
    | .report rsp =>
      { gate   := fun s => s.pollerPc = .idle ∧ s.armed = true
        effect := fun s => { s.setPoller (.respond rsp) with armed := false } }
    | .respond rsp =>
      { gate   := fun s => s.pollerPc = .respond rsp
        effect := fun s =>
          if s.requested then
            { s.setPoller (.testBlocking rsp) with delivered := true }
          else
            s.setPoller .idle }
    | .testBlocking rsp =>
      { gate   := fun s => s.pollerPc = .testBlocking rsp
        effect := fun s => s.setPoller (if s.isBlocking then .testRoutine rsp else .idle) }
    | .testRoutine rsp =>
      { gate   := fun s => s.pollerPc = .testRoutine rsp
        effect := fun s =>
          s.setPoller (if s.routine.isSome then .storeResponse rsp else .idle) }
    | .storeResponse rsp =>
      { gate   := fun s => s.pollerPc = .storeResponse rsp
        effect := fun s => { s.setPoller .loadRoutine with response := rsp } }
    | .loadRoutine c =>
      { gate   := fun s => s.pollerPc = .loadRoutine ∧ s.routine = some c
        effect := fun s => s.setPoller (.testState c) }
    | .testState c =>
      { gate   := fun s => s.pollerPc = .testState c
        effect := fun s =>
          s.setPoller (if (s.routines c).cr.state = .ioWait then .loadId else .idle) }
    | .loadId c =>
      { gate   := fun s => s.pollerPc = .loadId ∧ s.routine = some c
        effect := fun s => s.setPoller (.checkDataWait c) }
    | .checkDataWait c =>
      { gate   := fun s => s.pollerPc = .checkDataWait c
        effect := fun s =>
          s.setPoller (if (s.routines c).cr.state = .dataWait then .setUpdateFlag c
            else .checkIoWait c) }
    | .checkIoWait c =>
      { gate   := fun s => s.pollerPc = .checkIoWait c
        effect := fun s =>
          s.setPoller (if (s.routines c).cr.state = .ioWait then .setUpdateFlag c else .idle) }
    | .setUpdateFlag c =>
      { gate   := fun s => s.pollerPc = .setUpdateFlag c
        effect := fun s =>
          { s.setRoutine c { s.routines c with cr := (s.routines c).cr.setUpdateFlag } with
            pollerPc := .idle } }

instance decidableGate (s : State Cid) :
    ∀ a : Label Cid, Decidable ((pollHandler.action a).gate s)
  | .check c _         => inferInstanceAs (Decidable ((s.routines c).pc = .idle))
  | .checkOutside      => .isTrue trivial
  | .exchange c        => inferInstanceAs (Decidable ((s.routines c).pc = .exchange))
  | .register c        =>
    inferInstanceAs (Decidable ((s.routines c).pc = .register ∧ s.pollerPc.inCallback = false))
  | .registerFails c   => inferInstanceAs (Decidable ((s.routines c).pc = .register))
  | .setState c        => inferInstanceAs (Decidable ((s.routines c).pc = .setState))
  | .swapOut c         => inferInstanceAs (Decidable ((s.routines c).pc = .swapOut))
  | .readResponse c    => inferInstanceAs (Decidable ((s.routines c).pc = .readResponse))
  | .endBlock c        => inferInstanceAs (Decidable ((s.routines c).pc = .endBlock))
  | .testAndSet c      => inferInstanceAs (Decidable ((s.routines c).pc = .suspended))
  | .becomeReady c     => inferInstanceAs (Decidable ((s.routines c).pc = .updating))
  | .resume c          =>
    inferInstanceAs (Decidable ((s.routines c).pc = .suspended ∧ (s.routines c).cr.state = .ready))
  | .unblock           => .isTrue trivial
  | .unregister        =>
    inferInstanceAs (Decidable (0 < s.unblocks ∧ s.pollerPc.inCallback = false))
  | .handleChanges     => inferInstanceAs (Decidable (s.pollerPc = .idle))
  | .report _          => inferInstanceAs (Decidable (s.pollerPc = .idle ∧ s.armed = true))
  | .respond rsp       => inferInstanceAs (Decidable (s.pollerPc = .respond rsp))
  | .testBlocking rsp  => inferInstanceAs (Decidable (s.pollerPc = .testBlocking rsp))
  | .testRoutine rsp   => inferInstanceAs (Decidable (s.pollerPc = .testRoutine rsp))
  | .storeResponse rsp => inferInstanceAs (Decidable (s.pollerPc = .storeResponse rsp))
  | .loadRoutine c     =>
    inferInstanceAs (Decidable (s.pollerPc = .loadRoutine ∧ s.routine = some c))
  | .testState c       => inferInstanceAs (Decidable (s.pollerPc = .testState c))
  | .loadId c          => inferInstanceAs (Decidable (s.pollerPc = .loadId ∧ s.routine = some c))
  | .checkDataWait c   => inferInstanceAs (Decidable (s.pollerPc = .checkDataWait c))
  | .checkIoWait c     => inferInstanceAs (Decidable (s.pollerPc = .checkIoWait c))
  | .setUpdateFlag c   => inferInstanceAs (Decidable (s.pollerPc = .setUpdateFlag c))

/-- Every routine outside `Block`, and nothing left with the poller. -/
def initial : State Cid where
  isBlocking := false
  routine    := none
  response   := 0
  requested  := false
  ctrl       := none
  armed      := false
  pollerPc   := .idle
  unblocks   := 0
  routines   := fun _ => ⟨.idle, .new, false, none⟩
  current    := none
  delivered  := false

theorem initial_init : pollHandler.init (initial : State Cid) :=
  ⟨rfl, rfl, rfl, rfl, rfl, rfl, rfl, rfl, rfl, fun _ => ⟨rfl, rfl⟩⟩

end model

end CyberRT.Io.PollHandler
