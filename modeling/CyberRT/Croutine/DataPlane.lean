import CyberRT.Framework.System
import CyberRT.Croutine.RoutineFactory

/-! # The data plane of a process

    All readers and all dispatching threads of one process. A reader is a
    single-channel `DataVisitor` together with the routine that
    `CreateRoutineFactory` makes for it. It is set up step by step while
    other threads dispatch: the visitor's constructor adds the buffer to
    `DataDispatcher` and the notifier to `DataNotifier`, and then
    `Scheduler::CreateTask` dispatches the routine first and registers the
    notification after that.

    * `Dispatch` works on copies of the two maps' entries. It takes each
      buffer by `weak_ptr::lock`, so a buffer is there as long as its
      visitor or some dispatching thread owns it.
    * A lookup, a load, a store, a `Fill` and a `TryFetch` are one step
      each.
    * The notifier's callback is a plain `std::function`. Its assignment in
      `RegisterNotifyCallback` has a beginning and an end, and `Notify` tests
      it and calls it afterwards, all of this without a lock. What comes of a
      test or a call in the middle of the assignment is not defined, so the
      results are about runs without one (`NoRace`).
    * The scheduler is the classic one and is not stopped; task names are
      not used twice.

    `due` (what was dispatched on the reader's channel since its buffer is
    in the map), `announced` (some of it since the notification is
    registered), `filled` and `fetched` are history. -/

namespace CyberRT.Croutine.DataPlane

open CyberRT.Framework CyberRT.Data

/-! ## Section 1: Maps by channel id -/

/-- `buffers_map_` and `notifies_map_`. -/
abbrev ChannelMap (K X : Type) := K → Option (List X)

namespace ChannelMap
variable {K X : Type}

/-- What a lookup copies. -/
def entries (m : ChannelMap K X) (k : K) : List X := (m k).getD []

theorem entries_of_none {m : ChannelMap K X} {k : K} (h : m k = none) : m.entries k = [] := by
  rw [entries, h]
  rfl

theorem entries_of_some {m : ChannelMap K X} {k : K} {xs : List X} (h : m k = some xs) :
    m.entries k = xs := by
  rw [entries, h]
  rfl

variable [DecidableEq K]

/-- `AddBuffer` and `AddNotifier`: `emplace`, or `emplace_back` on the entry
    found. -/
def add (m : ChannelMap K X) (k : K) (x : X) : ChannelMap K X :=
  match m k with
  | none    => Function.update m k (some [x])
  | some xs => Function.update m k (some (xs ++ [x]))

theorem add_eq (m : ChannelMap K X) (k : K) (x : X) :
    m.add k x = Function.update m k (some (m.entries k ++ [x])) := by
  unfold add entries
  split
  · next hnone =>
    rw [hnone]
    rfl
  · next xs hsome =>
    rw [hsome]
    rfl

theorem entries_add (m : ChannelMap K X) (k k' : K) (x : X) :
    (m.add k x).entries k' = if k' = k then m.entries k ++ [x] else m.entries k' := by
  rw [entries, add_eq]
  by_cases hk : k' = k
  · rw [if_pos hk, hk, Function.update_self]
    rfl
  · rw [if_neg hk, Function.update_of_ne hk, entries]

end ChannelMap

/-! ## Section 2: State -/

structure VisitorConfig (K : Type) where
  channelId : K
  queueSize : Nat

/-- How far a reader has been set up, named by the last step. -/
inductive Stage where
  | unborn
  | addBuffer
  | addNotifier
  | dispatchTask
  | assignCallback
  | registerNotifyCallback
  | removeTask
  | destroyed
  deriving DecidableEq

namespace Stage

/-- The buffer is in `buffers_map_`. -/
def hasBuffer : Stage → Bool
  | unborn => false
  | _      => true

/-- The notifier is in `notifies_map_`. -/
def hasNotifier : Stage → Bool
  | unborn | addBuffer => false
  | _                  => true

/-- The notifier has its callback. It is never taken out again. -/
def hasCallback : Stage → Bool
  | registerNotifyCallback | removeTask | destroyed => true
  | _                                               => false

/-- The routine is in `id_cr_`. -/
def inRegistry : Stage → Bool
  | dispatchTask | assignCallback | registerNotifyCallback => true
  | _                                                      => false

end Stage

/-- One reader: its visitor's buffer with the threads that own it besides
    the visitor, and its routine. -/
structure Endpoint (Did M : Type) where
  stage        : Stage
  lockers      : List Did
  buffer       : CacheBuffer M
  nextMsgIndex : Nat
  reader       : Reader
  due          : List (Did × M)
  announced    : Bool
  filled       : List (Did × M)
  fetched      : List (Fetched M)

/-- Where a thread stands in `Dispatch` on channel `k`, named by the next
    step; `rest` is what is left of the copied buffers or notifiers. -/
inductive DispatchPc (K R M : Type) where
  | idle
  | isShutdown (k : K) (msg : M)
  | findBuffers (k : K) (msg : M)
  | lock (k : K) (msg : M) (r : R) (rest : List R)
  | fill (k : K) (msg : M) (r : R) (rest : List R)
  | release (k : K) (msg : M) (r : R) (rest : List R)
  | findNotifiers (k : K)
  | callback (k : K) (r : R) (rest : List R)
  | call (k : K) (r : R) (rest : List R)
  | findTask (k : K) (r : R) (rest : List R)
  | checkDataWait (k : K) (r : R) (rest : List R)
  | checkIoWait (k : K) (r : R) (rest : List R)
  | setUpdateFlag (k : K) (r : R) (rest : List R)
  | notify (k : K) (r : R) (rest : List R)
  deriving DecidableEq

structure State (Did K R M : Type) where
  isShutdown  : Bool
  buffersMap  : ChannelMap K R
  notifiesMap : ChannelMap K R
  endpoints   : R → Endpoint Did M
  dispatchers : Did → DispatchPc K R M

/-! ## Section 3: One reader -/

namespace Endpoint
variable {Did M : Type}

/-- The buffer as `weak_ptr::lock` finds it: somebody owns it. -/
def Alive (e : Endpoint Did M) : Prop :=
  e.stage ≠ .destroyed ∨ e.lockers ≠ []

instance [DecidableEq Did] (e : Endpoint Did M) : Decidable e.Alive :=
  inferInstanceAs (Decidable (_ ∨ _))

/-- `d` dispatches `msg` on the channel of the buffer. -/
def addDue (e : Endpoint Did M) (d : Did) (msg : M) : Endpoint Did M :=
  { e with
    due       := e.due ++ [(d, msg)]
    announced := e.announced || decide (e.stage = .registerNotifyCallback) }

/-- `Fill` by thread `d`. -/
def fill (e : Endpoint Did M) (d : Did) (msg : M) : Endpoint Did M :=
  { e with buffer := e.buffer.fill msg, filled := e.filled ++ [(d, msg)] }

/-- The routine with its visitor, for the steps of the routine itself. -/
def view (e : Endpoint Did M) : Croutine.State Did M :=
  ⟨e.buffer, e.nextMsgIndex, e.reader, fun _ => .idle⟩

/-- What a step of the routine gets out of the buffer. -/
def fetchedBy (e : Endpoint Did M) : Croutine.Label Did M → List (Fetched M)
  | .tryFetch =>
    match e.buffer.fetch e.nextMsgIndex with
    | some (index, m) => [⟨index, m, e.filled.length⟩]
    | none            => []
  | _         => []

variable [DecidableEq Did] [Inhabited M]

/-- A step of the routine. -/
def routine (e : Endpoint Did M) (queueSize : Nat) (a : Croutine.Label Did M) :
    Endpoint Did M :=
  let s := ((readerRoutine queueSize).action a).effect e.view
  { e with
    buffer       := s.buffer
    nextMsgIndex := s.nextMsgIndex
    reader       := s.reader
    fetched      := e.fetched ++ e.fetchedBy a }

end Endpoint

/-- The steps of the routine and of the processor that runs it. -/
def ofRoutine {Did M : Type} : Croutine.Label Did M → Bool
  | .dispatch _ _ | .fill _ _ | .checkDataWait _ | .checkIoWait _ | .setUpdateFlag _
  | .notify _ => false
  | _         => true

/-! ## Section 4: Model -/

section model
variable {Did K R M : Type}

/-- The loop over the copied buffers. -/
def DispatchPc.nextBuffer (k : K) (msg : M) : List R → DispatchPc K R M
  | []        => .findNotifiers k
  | r :: rest => .lock k msg r rest

/-- The loop over the copied notifiers. -/
def DispatchPc.nextNotifier (k : K) : List R → DispatchPc K R M
  | []        => .idle
  | r :: rest => .callback k r rest

variable [DecidableEq Did] [DecidableEq K] [DecidableEq R]

def State.setDispatcher (s : State Did K R M) (d : Did) (pc : DispatchPc K R M) :
    State Did K R M :=
  { s with dispatchers := Function.update s.dispatchers d pc }

def State.setEndpoint (s : State Did K R M) (r : R) (e : Endpoint Did M) : State Did K R M :=
  { s with endpoints := Function.update s.endpoints r e }

/-- The reader has gone on to the next stage. -/
def State.setStage (s : State Did K R M) (r : R) (stage : Stage) : State Did K R M :=
  s.setEndpoint r { s.endpoints r with stage := stage }

/-- `d` looks up the buffers of channel `k` for `msg`. -/
def State.markDue (conf : R → VisitorConfig K) (s : State Did K R M) (d : Did) (k : K)
    (msg : M) : State Did K R M :=
  { s with endpoints := fun r =>
      if (conf r).channelId = k ∧ (s.endpoints r).stage.hasBuffer = true then
        (s.endpoints r).addDue d msg
      else s.endpoints r }

/-- The next step of a thread in `Dispatch`. -/
def State.advance (conf : R → VisitorConfig K) (s : State Did K R M) (d : Did) :
    State Did K R M :=
  match s.dispatchers d with
  | .idle => s
  | .isShutdown k msg =>
    if s.isShutdown then s.setDispatcher d .idle else s.setDispatcher d (.findBuffers k msg)
  | .findBuffers k msg =>
    match s.buffersMap k with
    | none         => (s.markDue conf d k msg).setDispatcher d .idle
    | some buffers => (s.markDue conf d k msg).setDispatcher d (.nextBuffer k msg buffers)
  | .lock k msg r rest =>
    if (s.endpoints r).Alive then
      (s.setEndpoint r { s.endpoints r with lockers := d :: (s.endpoints r).lockers }).setDispatcher
        d (.fill k msg r rest)
    else s.setDispatcher d (.nextBuffer k msg rest)
  | .fill k msg r rest =>
    (s.setEndpoint r ((s.endpoints r).fill d msg)).setDispatcher d (.release k msg r rest)
  | .release k msg r rest =>
    (s.setEndpoint r
      { s.endpoints r with lockers := (s.endpoints r).lockers.erase d }).setDispatcher
        d (.nextBuffer k msg rest)
  | .findNotifiers k =>
    match s.notifiesMap k with
    | none           => s.setDispatcher d .idle
    | some notifiers => s.setDispatcher d (.nextNotifier k notifiers)
  | .callback k r rest =>
    if (s.endpoints r).stage.hasCallback then s.setDispatcher d (.call k r rest)
    else s.setDispatcher d (.nextNotifier k rest)
  | .call k r rest => s.setDispatcher d (.findTask k r rest)
  | .findTask k r rest =>
    if (s.endpoints r).stage.inRegistry then s.setDispatcher d (.checkDataWait k r rest)
    else s.setDispatcher d (.nextNotifier k rest)
  | .checkDataWait k r rest =>
    if (s.endpoints r).reader.cr.state = .dataWait then
      s.setDispatcher d (.setUpdateFlag k r rest)
    else s.setDispatcher d (.checkIoWait k r rest)
  | .checkIoWait k r rest =>
    if (s.endpoints r).reader.cr.state = .ioWait then
      s.setDispatcher d (.setUpdateFlag k r rest)
    else s.setDispatcher d (.notify k r rest)
  | .setUpdateFlag k r rest =>
    (s.setEndpoint r { s.endpoints r with
      reader := { (s.endpoints r).reader with
        cr := (s.endpoints r).reader.cr.setUpdateFlag } }).setDispatcher d (.notify k r rest)
  | .notify k _ rest => s.setDispatcher d (.nextNotifier k rest)

inductive Label (Did K R M : Type) where
  -- setting up a reader, and its end
  | addBuffer (r : R)
  | addNotifier (r : R)
  | dispatchTask (r : R)
  | assignCallback (r : R)
  | registerNotifyCallback (r : R)
  | removeTask (r : R)
  | destroy (r : R)
  | routine (r : R) (a : Croutine.Label Did M)
  -- `Dispatch`
  | shutdown
  | dispatch (d : Did) (k : K) (msg : M)
  | advance (d : Did)

variable [Inhabited M]

/-- A reader whose constructor has not run. -/
def Endpoint.unborn (queueSize : Nat) : Endpoint Did M :=
  ⟨.unborn, [], .new queueSize, 0, ⟨.suspended, .new, false⟩, [], false, [], []⟩

/-- The readers with their configurations and the dispatching threads. -/
def dataPlane (conf : R → VisitorConfig K) :
    System (State Did K R M) (Label Did K R M) where
  init := fun s =>
    s.isShutdown = false ∧ s.buffersMap = (fun _ => none) ∧ s.notifiesMap = (fun _ => none) ∧
    (∀ r, s.endpoints r = .unborn (conf r).queueSize) ∧ ∀ d, s.dispatchers d = .idle
  action := fun
    | .addBuffer r =>
      { gate   := fun s => (s.endpoints r).stage = .unborn
        effect := fun s =>
          { s.setStage r .addBuffer with
            buffersMap := s.buffersMap.add (conf r).channelId r } }
    | .addNotifier r =>
      { gate   := fun s => (s.endpoints r).stage = .addBuffer
        effect := fun s =>
          { s.setStage r .addNotifier with
            notifiesMap := s.notifiesMap.add (conf r).channelId r } }
    | .dispatchTask r =>
      { gate   := fun s => (s.endpoints r).stage = .addNotifier
        effect := fun s => s.setStage r .dispatchTask }
    | .assignCallback r =>
      { gate   := fun s => (s.endpoints r).stage = .dispatchTask
        effect := fun s => s.setStage r .assignCallback }
    | .registerNotifyCallback r =>
      { gate   := fun s => (s.endpoints r).stage = .assignCallback
        effect := fun s => s.setStage r .registerNotifyCallback }
    | .removeTask r =>
      -- `RemoveCRoutine` waits until no processor has the routine
      { gate   := fun s =>
          (s.endpoints r).stage = .registerNotifyCallback ∧
          (s.endpoints r).reader.pc = .suspended
        effect := fun s => s.setStage r .removeTask }
    | .destroy r =>
      { gate   := fun s => (s.endpoints r).stage = .removeTask
        effect := fun s => s.setStage r .destroyed }
    | .routine r a =>
      { gate   := fun s =>
          (s.endpoints r).stage.inRegistry = true ∧ ofRoutine a = true ∧
          ((readerRoutine (conf r).queueSize).action a).gate (s.endpoints r).view
        effect := fun s =>
          s.setEndpoint r ((s.endpoints r).routine (conf r).queueSize a) }
    | .shutdown =>
      { gate   := fun _ => True
        effect := fun s => { s with isShutdown := true } }
    | .dispatch d k msg =>
      { gate   := fun s => s.dispatchers d = .idle
        effect := fun s => s.setDispatcher d (.isShutdown k msg) }
    | .advance d =>
      { gate   := fun s => s.dispatchers d ≠ .idle
        effect := fun s => s.advance conf d }

instance decidableGate [DecidableEq M] (conf : R → VisitorConfig K) (a : Label Did K R M)
    (s : State Did K R M) : Decidable (((dataPlane conf).action a).gate s) :=
  match a with
  | .addBuffer _ | .addNotifier _ | .dispatchTask _ | .assignCallback _
  | .registerNotifyCallback _ | .destroy _ | .dispatch _ _ _ =>
    inferInstanceAs (Decidable (_ = _))
  | .removeTask _ => inferInstanceAs (Decidable (_ ∧ _))
  | .routine r a =>
    have := Croutine.decidableGate (conf r).queueSize a (s.endpoints r).view
    inferInstanceAs (Decidable (_ ∧ _ ∧ _))
  | .shutdown => inferInstanceAs (Decidable True)
  | .advance _ => inferInstanceAs (Decidable (¬ _ = _))

/-- No thread tests or calls a callback that is just being assigned. -/
def NoRace (s : State Did K R M) : Label Did K R M → Prop
  | .advance d =>
    match s.dispatchers d with
    | .callback _ r _ | .call _ r _ => (s.endpoints r).stage ≠ .assignCallback
    | _                             => True
  | _ => True

instance (s : State Did K R M) (a : Label Did K R M) : Decidable (NoRace s a) := by
  unfold NoRace
  split
  · split
    · infer_instance
    · infer_instance
    · exact instDecidableTrue
  · exact instDecidableTrue

end model

end CyberRT.Croutine.DataPlane
