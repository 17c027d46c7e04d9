import CyberRT.Framework.Parallel
import CyberRT.Transport.Shm.ShmConf

/-! # Segment objects on one channel key

    `Segment` objects of several processes create, open, remap, recreate
    and destroy shared memory under one key, and take block locks in it.

    The shared state is the kernel's registry. Exclusive creation fails
    while the key is taken; a removed segment gives up the key at once and
    stays with the objects attached to it; every `shmget`, `shmat` and
    `shmctl` may also fail for a reason of its own. Each system call and
    each access to shared memory is a step. A pointer is the `shmid` it
    points into, an address a `shmid` and an offset. -/

namespace CyberRT.Transport.Shm.Segment

open CyberRT.Framework

/-! ## Section 1: Kernel -/

/-- One shared memory segment: what the kernel knows of it, its `State`
    and the lock words of its blocks. `conf` is history, the configuration
    of the `Segment` object that created it; the kernel keeps the size. A
    fresh segment is zeroed, so its ceiling is 0 until the `State` is
    constructed. -/
structure SharedMemory where
  conf           : ShmConf
  nattch         : Nat
  removed        : Bool
  needRemap      : Bool
  wroteNum       : Nat
  referenceCount : Nat
  ceilingMsgSize : Nat
  lockNum        : Nat → Int

def SharedMemory.size (m : SharedMemory) : Nat := m.conf.managedShmSize

def SharedMemory.zeroed (conf : ShmConf) : SharedMemory where
  conf           := conf
  nattch         := 0
  removed        := false
  needRemap      := false
  wroteNum       := 0
  referenceCount := 0
  ceilingMsgSize := 0
  lockNum        := fun _ => 0

/-- `key` is the segment registered under the channel key, `next` the
    `shmid` the next creation returns. -/
structure Kernel where
  key  : Option Nat
  shms : Nat → SharedMemory
  next : Nat

namespace Kernel

def modify (g : Kernel) (k : Nat) (f : SharedMemory → SharedMemory) : Kernel :=
  { g with shms := Function.update g.shms k (f (g.shms k)) }

/-- `shmget(id_, size, IPC_CREAT | IPC_EXCL)` with the key free. -/
def create (g : Kernel) (conf : ShmConf) : Kernel where
  key  := some g.next
  shms := Function.update g.shms g.next (SharedMemory.zeroed conf)
  next := g.next + 1

/-- `shmctl(k, IPC_RMID)`. -/
def rmid (g : Kernel) (k : Nat) : Kernel :=
  { g.modify k (fun m => { m with removed := true }) with
    key := if g.key = some k then none else g.key }

def shmat (g : Kernel) (k : Nat) : Kernel :=
  g.modify k fun m => { m with nattch := m.nattch + 1 }

def shmdt (g : Kernel) (k : Nat) : Kernel :=
  g.modify k fun m => { m with nattch := m.nattch - 1 }

/-- A removed segment goes away with its last attachment. -/
def Exists (g : Kernel) (k : Nat) : Prop := (g.shms k).removed = false ∨ 0 < (g.shms k).nattch

end Kernel

/-! ## Section 2: Segment objects -/

inductive ReadWriteMode where
  | readOnly
  | writeOnly
  deriving DecidableEq

/-- The call in progress. -/
inductive Op where
  | acquireBlockToWrite
  | acquireBlockToRead
  deriving DecidableEq

/-- Who called `OpenOrCreate` or `OpenOnly`. -/
inductive Opening where
  | init
  | remap
  | recreate
  deriving DecidableEq

/-- Who called `Reset`. `einval` is the creation loop of `OpenOrCreate`. -/
inductive ResetBy where
  | remap
  | recreate
  | einval
  deriving DecidableEq

/-- Who called `Remove`. -/
inductive RemoveBy where
  | recreate
  | einval
  | destroy
  deriving DecidableEq

/-- Program counters, named by the next step. At `writing` and `reading`
    the call has returned true and the caller uses the block; `crashed` is
    a null `state_` or `blocks_` dereferenced. -/
inductive Pc where
  | idle
  | needRemap
  | setNeedRemap
  | reset (by_ : ResetBy)
  | shmgetCreate
  | shmatCreate
  | rmidCreate
  | newState
  | loadCeilingCreate
  | newBlocks
  | shmgetOpen
  | shmatOpen
  | loadCeilingOpen
  | increaseReferenceCounts
  | shmgetRemove (by_ : RemoveBy)
  | shmctlRemove (by_ : RemoveBy)
  | wroteNum
  | tryLockForWrite
  | increaseWroteNum
  | writing
  | tryLockForRead
  | reading
  | decreaseReferenceCounts
  | referenceCounts
  | crashed
  deriving DecidableEq

/-- What the caller of `Reset` does next. -/
def ResetBy.next : ResetBy → Pc
  | .remap    => .shmgetOpen
  | .recreate => .shmgetRemove .recreate
  | .einval   => .shmgetRemove .einval

/-- `managed_shm_`: null, the `-1` of a failed `shmat`, or attached. -/
inductive ManagedShm where
  | null
  | failed
  | attached (shmid : Nat)
  deriving DecidableEq

/-- An entry of `block_buf_addrs_`. -/
structure Addr where
  shmid  : Nat
  offset : Nat
  deriving DecidableEq

/-- The members of a `Segment` and the local variables of the call in
    progress. -/
structure Object where
  init         : Bool
  mode         : ReadWriteMode
  conf         : ShmConf
  state        : Option Nat
  blocks       : Option Nat
  managedShm   : ManagedShm
  blockBufAddr : Nat → Option Addr
  pc           : Pc
  op           : Op
  opening      : Opening
  msgSize      : Nat
  index        : Nat
  retry        : Nat
  shmid        : Nat
  tryIdx       : Nat

namespace Object

/-- `Segment::Segment`. -/
def new (mode : ReadWriteMode) : Object where
  init         := false
  mode         := mode
  conf         := .new
  state        := none
  blocks       := none
  managedShm   := .null
  blockBufAddr := fun _ => none
  pc           := .idle
  op           := .acquireBlockToWrite
  opening      := .init
  msgSize      := 0
  index        := 0
  retry        := 0
  shmid        := 0
  tryIdx       := 0

def goto (l : Object) (pc : Pc) : Object := { l with pc := pc }

/-- `blocks_` and `block_buf_addrs_` as `OpenOrCreate` and `OpenOnly` lay
    them out for the configuration in force. An entry with a larger index
    stays as it is. -/
def layOut (l : Object) (k : Nat) : Object :=
  { l with
    blocks       := some k
    blockBufAddr := fun i =>
      if i < l.conf.blockNum then some ⟨k, l.conf.bufOffset i⟩ else l.blockBufAddr i }

/-- `Segment::Init`. -/
def callInit (l : Object) : Object :=
  match l.mode with
  | .readOnly  => { l with opening := .init, pc := .shmgetOpen }
  | .writeOnly => { l with opening := .init, pc := .shmgetCreate, retry := 0 }

/-- `AcquireBlockToWrite` from the size check on; `result` is what `Remap`
    returned, if it was called. `Recreate` stores into `state_` without a
    null check. -/
def checkSize (l : Object) (result : Bool) : Object :=
  if l.conf.ceilingMsgSize < l.msgSize then
    match l.state with
    | some _ => { l with conf := .update l.msgSize, init := false, pc := .setNeedRemap }
    | none   => { l with conf := .update l.msgSize, init := false, pc := .crashed }
  else if result then
    l.goto .wroteNum
  else
    l.goto .idle

/-- `AcquireBlockToRead` from the index check on. -/
def checkIndex (l : Object) : Object :=
  if l.index < l.conf.blockNum then l.goto .needRemap else l.goto .idle

/-- What follows when `OpenOrCreate` or `OpenOnly` returns `ok`. -/
def opened (l : Object) (ok : Bool) : Object :=
  match l.opening, l.op with
  | .init, .acquireBlockToWrite =>
    if ok then l.goto .needRemap else l.goto .idle
  | .init, .acquireBlockToRead => if ok then l.checkIndex else l.goto .idle
  | .remap, .acquireBlockToWrite => l.checkSize ok
  | .remap, .acquireBlockToRead =>
    -- the index is not checked again
    if ok then l.goto .tryLockForRead else l.goto .idle
  | .recreate, _ =>
    -- the size is not checked again
    if ok then l.goto .wroteNum else l.goto .idle

/-- What follows when `Remove` returns; its result is ignored. -/
def removed (l : Object) (by_ : RemoveBy) : Object :=
  match by_ with
  | .recreate => { l with pc := .shmgetCreate, retry := 0 }
  | .einval   =>
    if l.retry + 1 < 2 then
      { l with pc := .shmgetCreate, retry := l.retry + 1 }
    else
      { l with retry := l.retry + 1 }.opened false
  | .destroy  => l.goto .idle

/-- The block `GetNextWritableBlockIndex` tries next. -/
def tryIndex (l : Object) : Nat := wrapIndex l.conf.blockNum l.tryIdx

end Object

/-! ## Section 3: Steps -/

/-- The steps of one object. `…Fail` is a system call that returns -1 or a
    lock attempt that returns false. -/
inductive Step where
  | acquireBlockToWrite (msgSize : Nat)
  | acquireBlockToRead (index : Nat)
  | destroy
  | needRemap
  | setNeedRemap
  | reset (by_ : ResetBy)
  | shmgetCreate
  | shmgetEexist
  | shmgetEinval
  | shmgetCreateFail
  | shmatCreate
  | shmatCreateFail
  | rmidCreate
  | newState
  | loadCeilingCreate
  | newBlocks
  | shmgetOpen
  | shmgetOpenFail
  | shmatOpen
  | shmatOpenFail
  | loadCeilingOpen
  | increaseReferenceCounts
  | shmgetRemove (by_ : RemoveBy)
  | shmgetRemoveFail (by_ : RemoveBy)
  | shmctlRemove (by_ : RemoveBy)
  | shmctlRemoveFail (by_ : RemoveBy)
  | wroteNum
  | tryLockForWrite
  | tryLockForWriteFail
  | increaseWroteNum
  | releaseWrittenBlock
  | tryLockForRead
  | tryLockForReadFail
  | releaseReadBlock
  | decreaseReferenceCounts
  | referenceCounts
  deriving DecidableEq

/-- Where a step is taken. -/
def Step.pc : Step → Pc
  | .acquireBlockToWrite _ | .acquireBlockToRead _ | .destroy => .idle
  | .needRemap => .needRemap
  | .setNeedRemap => .setNeedRemap
  | .reset by_ => .reset by_
  | .shmgetCreate | .shmgetEexist | .shmgetEinval | .shmgetCreateFail => .shmgetCreate
  | .shmatCreate | .shmatCreateFail => .shmatCreate
  | .rmidCreate => .rmidCreate
  | .newState => .newState
  | .loadCeilingCreate => .loadCeilingCreate
  | .newBlocks => .newBlocks
  | .shmgetOpen | .shmgetOpenFail => .shmgetOpen
  | .shmatOpen | .shmatOpenFail => .shmatOpen
  | .loadCeilingOpen => .loadCeilingOpen
  | .increaseReferenceCounts => .increaseReferenceCounts
  | .shmgetRemove by_ | .shmgetRemoveFail by_ => .shmgetRemove by_
  | .shmctlRemove by_ | .shmctlRemoveFail by_ => .shmctlRemove by_
  | .wroteNum => .wroteNum
  | .tryLockForWrite | .tryLockForWriteFail => .tryLockForWrite
  | .increaseWroteNum => .increaseWroteNum
  | .releaseWrittenBlock => .writing
  | .tryLockForRead | .tryLockForReadFail => .tryLockForRead
  | .releaseReadBlock => .reading
  | .decreaseReferenceCounts => .decreaseReferenceCounts
  | .referenceCounts => .referenceCounts

/-- The lock word at `blocks_[i]`. -/
def lockWord (g : Kernel) (l : Object) (i : Nat) : Option Int :=
  l.blocks.map fun k => (g.shms k).lockNum i

/-- What a step asks of the kernel and of the lock word. A failing step
    asks nothing: a call may fail at any time, and so may the weak
    compare-and-exchange of a lock attempt. -/
def Step.guard (b : Step) (g : Kernel) (l : Object) : Prop :=
  match b with
  | .shmgetCreate   => g.key = none
  | .shmgetEexist   => g.key ≠ none
  | .shmatCreate    => g.Exists l.shmid
  | .shmgetOpen     => g.key ≠ none
  | .shmatOpen      => g.Exists l.shmid
  | .shmgetRemove _ => g.key ≠ none
  | .tryLockForWrite => lockWord g l l.tryIndex = some 0
  | .tryLockForRead  => ∀ word ∈ lockWord g l l.index, 0 ≤ word
  | _ => True

def Step.gate (b : Step) (g : Kernel) (l : Object) : Prop := l.pc = b.pc ∧ b.guard g l

/-- An access through `state_`. -/
def withState (g : Kernel) (l : Object) (f : Nat → Kernel × Object) : Kernel × Object :=
  match l.state with
  | some k => f k
  | none   => (g, l.goto .crashed)

/-- An access through `blocks_`. -/
def withBlocks (g : Kernel) (l : Object) (f : Nat → Kernel × Object) : Kernel × Object :=
  match l.blocks with
  | some k => f k
  | none   => (g, l.goto .crashed)

theorem withState_rec {g : Kernel} {l : Object} {f : Nat → Kernel × Object}
    {P : Kernel × Object → Prop} (hsome : ∀ k, l.state = some k → P (f k))
    (hnone : l.state = none → P (g, l.goto .crashed)) : P (withState g l f) := by
  unfold withState
  split
  · next k hk => exact hsome k hk
  · next hk => exact hnone hk

theorem withBlocks_rec {g : Kernel} {l : Object} {f : Nat → Kernel × Object}
    {P : Kernel × Object → Prop} (hsome : ∀ k, l.blocks = some k → P (f k))
    (hnone : l.blocks = none → P (g, l.goto .crashed)) : P (withBlocks g l f) := by
  unfold withBlocks
  split
  · next k hk => exact hsome k hk
  · next hk => exact hnone hk

/-- Storing into the lock word of block `i`. -/
def setLockNum (g : Kernel) (k i : Nat) (word : Int) : Kernel :=
  g.modify k fun m => { m with lockNum := Function.update m.lockNum i word }

def Step.effect (b : Step) (g : Kernel) (l : Object) : Kernel × Object :=
  match b with
  | .acquireBlockToWrite msgSize =>
    let l := { l with op := .acquireBlockToWrite, msgSize := msgSize }
    (g, if l.init then l.goto .needRemap else l.callInit)
  | .acquireBlockToRead index =>
    let l := { l with op := .acquireBlockToRead, index := index }
    (g, if l.init then l.checkIndex else l.callInit)
  | .destroy =>
    (g, if l.init then { l with init := false, pc := .decreaseReferenceCounts } else l)
  | .needRemap =>
    withState g l fun k =>
      if (g.shms k).needRemap then
        (g, { l with init := false, opening := .remap, pc := .reset .remap })
      else
        match l.op with
        | .acquireBlockToWrite => (g, l.checkSize true)
        | .acquireBlockToRead  => (g, l.goto .tryLockForRead)
  | .setNeedRemap =>
    withState g l fun k =>
      (g.modify k fun m => { m with needRemap := true },
        { l with opening := .recreate, pc := .reset .recreate })
  | .reset by_ =>
    let l' := { l with
      state := none, blocks := none, blockBufAddr := fun _ => none, managedShm := .null
      pc := by_.next }
    -- `shmdt` of the `-1` of a failed `shmat` fails and is ignored
    match l.managedShm with
    | .attached k => (g.shmdt k, l')
    | _           => (g, l')
  | .shmgetCreate => (g.create l.conf, { l with shmid := g.next, pc := .shmatCreate })
  | .shmgetEexist => (g, l.goto .shmgetOpen)
  | .shmgetEinval => (g, l.goto (.reset .einval))
  | .shmgetCreateFail => (g, l.opened false)
  | .shmatCreate =>
    (g.shmat l.shmid, { l with managedShm := .attached l.shmid, pc := .newState })
  | .shmatCreateFail => (g, { l with managedShm := .failed, pc := .rmidCreate })
  | .rmidCreate => (g.rmid l.shmid, l.opened false)
  | .newState =>
    (g.modify l.shmid fun m => { m with
      needRemap := false, wroteNum := 0, referenceCount := 0
      ceilingMsgSize := l.conf.ceilingMsgSize },
      { l with state := some l.shmid, pc := .loadCeilingCreate })
  | .loadCeilingCreate =>
    withState g l fun k =>
      (g, { l with conf := .update (g.shms k).ceilingMsgSize, pc := .newBlocks })
  | .newBlocks =>
    (g.modify l.shmid fun m => { m with
      lockNum := fun i => if i < l.conf.blockNum then 0 else m.lockNum i },
      (l.layOut l.shmid).goto .increaseReferenceCounts)
  | .shmgetOpen =>
    (g, match g.key with
      | some k => { l with shmid := k, pc := .shmatOpen }
      | none   => l)
  | .shmgetOpenFail => (g, l.opened false)
  | .shmatOpen =>
    (g.shmat l.shmid, { l with
      managedShm := .attached l.shmid, state := some l.shmid, pc := .loadCeilingOpen })
  | .shmatOpenFail => (g, { l with managedShm := .failed }.opened false)
  | .loadCeilingOpen =>
    withState g l fun k =>
      (g, ({ l with conf := .update (g.shms k).ceilingMsgSize }.layOut k).goto
        .increaseReferenceCounts)
  | .increaseReferenceCounts =>
    withState g l fun k =>
      (g.modify k fun m => { m with referenceCount := (m.referenceCount + 1) % 2 ^ 32 },
        { l with init := true }.opened true)
  | .shmgetRemove by_ =>
    (g, match g.key with
      | some k => { l with shmid := k, pc := .shmctlRemove by_ }
      | none   => l)
  | .shmgetRemoveFail by_ => (g, l.removed by_)
  | .shmctlRemove by_ => (g.rmid l.shmid, l.removed by_)
  | .shmctlRemoveFail by_ => (g, l.removed by_)
  | .wroteNum =>
    withState g l fun k =>
      (g, { l with tryIdx := (g.shms k).wroteNum, pc := .tryLockForWrite })
  | .tryLockForWrite =>
    withBlocks g l fun k =>
      (setLockNum g k l.tryIndex (-1), { l with index := l.tryIndex, pc := .increaseWroteNum })
  | .tryLockForWriteFail =>
    -- `try_idx` was wrapped before the attempt; it is a `uint32_t`
    withBlocks g l fun _ => (g, { l with tryIdx := (l.tryIndex + 1) % 2 ^ 32 })
  | .increaseWroteNum =>
    withState g l fun k =>
      (g.modify k fun m => { m with wroteNum := (m.wroteNum + 1) % 2 ^ 32 },
        l.goto .writing)
  | .releaseWrittenBlock =>
    let l' := l.goto .idle
    if l.index < l.conf.blockNum then
      withBlocks g l fun k => (setLockNum g k l.index ((g.shms k).lockNum l.index + 1), l')
    else
      (g, l')
  | .tryLockForRead =>
    withBlocks g l fun k =>
      (setLockNum g k l.index ((g.shms k).lockNum l.index + 1), l.goto .reading)
  | .tryLockForReadFail => withBlocks g l fun _ => (g, l.goto .idle)
  | .releaseReadBlock =>
    let l' := l.goto .idle
    if l.index < l.conf.blockNum then
      withBlocks g l fun k => (setLockNum g k l.index ((g.shms k).lockNum l.index - 1), l')
    else
      (g, l')
  | .decreaseReferenceCounts =>
    withState g l fun k =>
      (g.modify k fun m => { m with referenceCount := m.referenceCount - 1 },
        l.goto .referenceCounts)
  | .referenceCounts =>
    withState g l fun k =>
      (g, if (g.shms k).referenceCount = 0 then l.goto (.shmgetRemove .destroy)
        else l.goto .idle)

/-- The `Segment` objects of one channel: no segment exists at first and
    every object is just constructed. -/
def component : Component Kernel Object Step where
  initShared := fun g => g.key = none
  initLocal  := fun l => l = .new l.mode
  gate       := Step.gate
  effect     := Step.effect

/-- The objects `Pid` with the kernel. -/
def channel {Pid : Type} [DecidableEq Pid] : System (Global Kernel Object Pid) (Pid × Step) :=
  component.parallel

/-! ## Section 4: Runs on concrete inputs -/

instance (g : Kernel) (k : Nat) : Decidable (g.Exists k) :=
  inferInstanceAs (Decidable (_ ∨ _))

instance decidableGuard (b : Step) (g : Kernel) (l : Object) : Decidable (b.guard g l) :=
  match b with
  | .shmgetCreate    => inferInstanceAs (Decidable (g.key = none))
  | .shmgetEexist    => inferInstanceAs (Decidable (g.key ≠ none))
  | .shmatCreate     => inferInstanceAs (Decidable (g.Exists l.shmid))
  | .shmgetOpen      => inferInstanceAs (Decidable (g.key ≠ none))
  | .shmatOpen       => inferInstanceAs (Decidable (g.Exists l.shmid))
  | .shmgetRemove _  => inferInstanceAs (Decidable (g.key ≠ none))
  | .tryLockForWrite => inferInstanceAs (Decidable (lockWord g l l.tryIndex = some 0))
  | .tryLockForRead  => inferInstanceAs (Decidable (∀ word ∈ lockWord g l l.index, 0 ≤ word))
  | .acquireBlockToWrite _ | .acquireBlockToRead _ | .destroy | .needRemap | .setNeedRemap
  | .reset _ | .shmgetEinval | .shmgetCreateFail | .shmatCreateFail | .rmidCreate | .newState
  | .loadCeilingCreate | .newBlocks | .shmgetOpenFail | .shmatOpenFail | .loadCeilingOpen
  | .increaseReferenceCounts | .shmgetRemoveFail _ | .shmctlRemove _ | .shmctlRemoveFail _
  | .wroteNum | .tryLockForWriteFail | .increaseWroteNum | .releaseWrittenBlock
  | .tryLockForReadFail | .releaseReadBlock | .decreaseReferenceCounts | .referenceCounts =>
    .isTrue trivial

instance decidableGate (b : Step) (g : Kernel) (l : Object) :
    Decidable (component.gate b g l) :=
  inferInstanceAs (Decidable (l.pc = b.pc ∧ b.guard g l))

instance decidableChannel {Pid : Type} [DecidableEq Pid] (a : Pid × Step)
    (s : Global Kernel Object Pid) : Decidable ((channel.action a).gate s) :=
  decidableGate a.2 s.shared (s.loc a.1)

/-- The steps of one object while the others stand still. -/
def stepsOf {Pid : Type} (p : Pid) (bs : List Step) : List (Pid × Step) := bs.map fun b => (p, b)

/-- `OpenOrCreate` without a failure, up to the reference count. -/
def createSteps : List Step :=
  [.shmgetCreate, .shmatCreate, .newState, .loadCeilingCreate, .newBlocks, .increaseReferenceCounts]

/-- `OpenOnly` without a failure, up to the reference count. -/
def openSteps : List Step := [.shmgetOpen, .shmatOpen, .loadCeilingOpen, .increaseReferenceCounts]

/-- `Recreate` up to `OpenOrCreate`. -/
def recreateSteps : List Step :=
  [.setNeedRemap, .reset .recreate, .shmgetRemove .recreate, .shmctlRemove .recreate]

/-- The search for a free block, the first try successful. -/
def searchSteps : List Step := [.wroteNum, .tryLockForWrite, .increaseWroteNum]

/-- No segment, and every object just constructed for `mode`. -/
def initial {Pid : Type} (mode : Pid → ReadWriteMode) : Global Kernel Object Pid where
  shared := { key := none, shms := fun _ => SharedMemory.zeroed .new, next := 0 }
  loc    := fun p => .new (mode p)

theorem initial_init {Pid : Type} [DecidableEq Pid] (mode : Pid → ReadWriteMode) :
    channel.init (initial mode) :=
  ⟨rfl, fun _ => rfl⟩

end CyberRT.Transport.Shm.Segment
