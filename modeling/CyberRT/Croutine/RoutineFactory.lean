import CyberRT.Framework.System
import CyberRT.Croutine.CRoutine
import CyberRT.Data.ChannelBuffer

/-! # Reader routines

    A routine built by `CreateRoutineFactory` on a single-channel visitor:
    it stores `DATA_WAIT`, fetches, and either runs the callback and yields
    `READY`, or yields as it is. The scheduler lets it go on when
    `UpdateState` says `READY`; `DataDispatcher::Dispatch` fills the buffer
    and then notifies through `NotifyProcessor`.

    * Stores and loads of the routine's state and of the update flag, a
      `Fill` and a `TryFetch` are one step each.
    * The routine is in the registry, its notification is registered with
      the visitor, and neither the scheduler nor the process shuts down.
    * The processors that look for the routine are not part of this model:
      any of them may call `UpdateState` while the routine is suspended. -/

namespace CyberRT.Croutine

open CyberRT.Framework CyberRT.Data

/-! ## Section 1: State -/

/-- Where the routine stands: named by its next step, or swapped out
    (`suspended`), or in the hands of a processor (`updating`, `resuming`). -/
inductive ReaderPc where
  | setDataWait
  | tryFetch
  | callback
  | yieldReady
  | swapOut
  | suspended
  | updating
  | resuming
  deriving DecidableEq

/-- The routine; `inCallback` is set while it is swapped out within the
    callback. -/
structure Reader where
  pc         : ReaderPc
  cr         : CRoutine
  inCallback : Bool

/-- Where a thread stands in `Dispatch`, named by the next step. -/
inductive DispatchPc (M : Type) where
  | idle
  | fill (msg : M)
  | checkDataWait
  | checkIoWait
  | setUpdateFlag
  | notify
  deriving DecidableEq

structure State (Did M : Type) where
  buffer       : CacheBuffer M
  nextMsgIndex : Nat
  reader       : Reader
  dispatchers  : Did → DispatchPc M

/-! ## Section 2: Model -/

section model
variable {Did M : Type}

/-- What `NextRoutine` does after `UpdateState`: keep the routine if it is
    `READY`, else release it. -/
def Reader.released (x : Reader) : Reader :=
  if x.cr.state = .ready then { x with pc := .resuming } else { x with pc := .suspended }

/-- `Yield(state)` in the callback: the store, with the swap to come. -/
def Reader.yield (x : Reader) (state : RoutineState) : Reader :=
  { pc := .swapOut, cr := x.cr.setState state, inCallback := true }

variable [DecidableEq Did]

def State.setDispatcher (s : State Did M) (d : Did) (pc : DispatchPc M) : State Did M :=
  { s with dispatchers := Function.update s.dispatchers d pc }

inductive Label (Did M : Type) where
  -- `Dispatch` and `NotifyProcessor`
  | dispatch (d : Did) (msg : M)
  | fill (d : Did) (msg : M)
  | checkDataWait (d : Did)
  | checkIoWait (d : Did)
  | setUpdateFlag (d : Did)
  | notify (d : Did)
  -- the routine
  | setDataWait
  | tryFetch
  | callbackSleep
  | callbackYield
  | callbackIoWait
  | callbackReturn
  | yieldReady
  | swapOut
  -- `UpdateState` and `Resume`
  | wakeUp
  | testAndSet
  | becomeReady
  | resume

/-- One reader routine and the threads that dispatch on its channel. -/
def readerRoutine [Inhabited M] (queueSize : Nat) : System (State Did M) (Label Did M) where
  init := fun s =>
    s.buffer = .new queueSize ∧ s.nextMsgIndex = 0 ∧ s.reader = ⟨.suspended, .new, false⟩ ∧
    ∀ d, s.dispatchers d = .idle
  action := fun
    | .dispatch d msg =>
      { gate   := fun s => s.dispatchers d = .idle
        effect := fun s => s.setDispatcher d (.fill msg) }
    | .fill d msg =>
      { gate   := fun s => s.dispatchers d = .fill msg
        effect := fun s => { s.setDispatcher d .checkDataWait with buffer := s.buffer.fill msg } }
    | .checkDataWait d =>
      { gate   := fun s => s.dispatchers d = .checkDataWait
        effect := fun s =>
          if s.reader.cr.state = .dataWait then s.setDispatcher d .setUpdateFlag
          else s.setDispatcher d .checkIoWait }
    | .checkIoWait d =>
      { gate   := fun s => s.dispatchers d = .checkIoWait
        effect := fun s =>
          if s.reader.cr.state = .ioWait then s.setDispatcher d .setUpdateFlag
          else s.setDispatcher d .notify }
    | .setUpdateFlag d =>
      { gate   := fun s => s.dispatchers d = .setUpdateFlag
        effect := fun s =>
          { s.setDispatcher d .notify with
            reader := { s.reader with cr := s.reader.cr.setUpdateFlag } } }
    | .notify d =>
      { gate   := fun s => s.dispatchers d = .notify
        effect := fun s => s.setDispatcher d .idle }
    | .setDataWait =>
      { gate   := fun s => s.reader.pc = .setDataWait
        effect := fun s =>
          { s with reader := { s.reader with
              pc := .tryFetch, cr := s.reader.cr.setState .dataWait } } }
    | .tryFetch =>
      { gate   := fun s => s.reader.pc = .tryFetch
        effect := fun s =>
          match s.buffer.fetch s.nextMsgIndex with
          | some (index, _) =>
            { s with nextMsgIndex := index + 1, reader := { s.reader with pc := .callback } }
          | none            =>
            -- `Yield()`: the state stays `DATA_WAIT`
            { s with reader := { s.reader with pc := .swapOut, inCallback := false } } }
    | .callbackSleep =>
      { gate   := fun s => s.reader.pc = .callback
        effect := fun s => { s with reader := s.reader.yield .sleep } }
    | .callbackYield =>
      { gate   := fun s => s.reader.pc = .callback
        effect := fun s =>
          { s with reader := { s.reader with pc := .swapOut, inCallback := true } } }
    | .callbackIoWait =>
      { gate   := fun s => s.reader.pc = .callback
        effect := fun s => { s with reader := s.reader.yield .ioWait } }
    | .callbackReturn =>
      { gate   := fun s => s.reader.pc = .callback
        effect := fun s => { s with reader := { s.reader with pc := .yieldReady } } }
    | .yieldReady =>
      { gate   := fun s => s.reader.pc = .yieldReady
        effect := fun s =>
          { s with reader := ⟨.swapOut, s.reader.cr.setState .ready, false⟩ } }
    | .swapOut =>
      { gate   := fun s => s.reader.pc = .swapOut
        effect := fun s => { s with reader := { s.reader with pc := .suspended } } }
    | .wakeUp =>
      -- `UpdateState` past the routine's wake time: the flag is not looked at
      { gate   := fun s => s.reader.pc = .suspended ∧ s.reader.cr.state = .sleep
        effect := fun s =>
          { s with reader := { s.reader with
              pc := .resuming, cr := s.reader.cr.setState .ready } } }
    | .testAndSet =>
      { gate   := fun s => s.reader.pc = .suspended
        effect := fun s =>
          if s.reader.cr.Raised then
            { s with reader := { s.reader with pc := .updating, cr := s.reader.cr.testAndSet } }
          else
            { s with reader := s.reader.released } }
    | .becomeReady =>
      { gate   := fun s => s.reader.pc = .updating
        effect := fun s =>
          { s with reader :=
              ({ s.reader with cr := s.reader.cr.becomeReady } : Reader).released } }
    | .resume =>
      { gate   := fun s => s.reader.pc = .resuming
        effect := fun s =>
          { s with reader := { s.reader with
              pc := if s.reader.inCallback then .callback else .setDataWait } } }

instance decidableGate [Inhabited M] [DecidableEq M] (queueSize : Nat) (a : Label Did M)
    (s : State Did M) : Decidable (((readerRoutine queueSize).action a).gate s) :=
  match a with
  | .dispatch _ _ | .fill _ _ | .checkDataWait _ | .checkIoWait _ | .setUpdateFlag _
  | .notify _ | .setDataWait | .tryFetch | .callbackSleep | .callbackYield | .callbackIoWait
  | .callbackReturn | .yieldReady | .swapOut | .testAndSet | .becomeReady | .resume =>
    inferInstanceAs (Decidable (_ = _))
  | .wakeUp => inferInstanceAs (Decidable (_ ∧ _))

end model

end CyberRT.Croutine
