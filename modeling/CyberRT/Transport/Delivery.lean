import CyberRT.Framework.System
import CyberRT.Framework.Tally
import CyberRT.Transport.Shm.ShmConf

/-! # Delivery over shared memory

    Transmitters write messages into the blocks of a channel's segments and
    announce each by its block index; the dispatcher of each receiving
    process takes the announcements one by one and hands over whatever the
    announced block holds by then.

    A block is one cell here and holds one message: that what is copied out
    of a block under its lock is the last message written there, byte for
    byte, is shown for the blocks of one segment. Which segment an object
    is attached to may change at any time before it locks a block, to the
    registered segment or to one it creates; the code does so only when it
    has to. The notifier delivers every announcement once to every
    dispatcher, in order.

    A dispatcher checks the index of an announcement before it attaches to
    another segment, which may have fewer blocks. The lock it then takes is a
    word in the buffer of the first block (`ShmConf.blockAt_blockOffset`),
    which it raises and never puts back.

    A segment is created in one step, and a message fits into the block it is
    written to: what becomes of an object that opens a segment under
    construction, and of a message beyond the largest tier, is part of the
    model of one segment. -/

namespace CyberRT.Transport.Delivery

open CyberRT.Framework CyberRT.Transport.Shm

/-! ## Section 1: Messages and blocks -/

variable {Tid Did : Type}

/-- The `seq`-th message of a transmitter. -/
structure Msg (Tid : Type) where
  transmitter : Tid
  seq         : Nat
  deriving DecidableEq

/-- A segment. `content` is the message that was written last, if there was
    one. `intact` says that the block has its bytes and no others: they may
    have been changed by a failed serialization or by a lock behind the
    blocks. `writes` is history, how often the block was locked for
    writing. -/
structure Seg (Tid : Type) where
  conf     : ShmConf
  wroteNum : Nat
  lockNum  : Nat → Int
  content  : Nat → Option (Msg Tid)
  intact   : Nat → Bool
  writes   : Nat → Nat

def Seg.fresh (conf : ShmConf) : Seg Tid where
  conf     := conf
  wroteNum := 0
  lockNum  := fun _ => 0
  content  := fun _ => none
  intact   := fun _ => false
  writes   := fun _ => 0

/-- A `ReadableInfo`. Only the block index travels; the rest is history:
    the message announced, the segment it was written to and which write of
    the block it was. -/
structure ReadableInfo (Tid : Type) where
  blockIndex : Nat
  message    : Msg Tid
  seg        : Nat
  write      : Nat
  deriving DecidableEq

/-- What the listeners are called with: the bytes of a message if they are
    `intact`. `current` is history: the block read was the one announced, had
    not been locked for writing again, and was intact. -/
structure HandOver (Tid : Type) where
  info    : ReadableInfo Tid
  message : Msg Tid
  intact  : Bool
  current : Bool
  deriving DecidableEq

/-! ## Section 2: Transmitters and dispatchers -/

inductive TxPc where
  | idle
  | acquire
  | tryLockForWrite
  | increaseWroteNum
  | serialize
  | releaseWrittenBlock
  | releaseFailed
  | notify
  deriving DecidableEq

/-- From the lock to the release the transmitter writes its block. -/
def TxPc.writing : TxPc → Bool
  | .increaseWroteNum | .serialize | .releaseWrittenBlock | .releaseFailed => true
  | _ => false

/-- A `ShmTransmitter`; `seq` counts its calls of `Transmit`. -/
structure Transmitter where
  pc     : TxPc
  seq    : Nat
  seg    : Option Nat
  tryIdx : Nat
  index  : Nat
  write  : Nat

inductive RxPc where
  | listen
  | acquire
  | tryLockForRead
  | onMessage
  | releaseReadBlock
  deriving DecidableEq

def RxPc.reading : RxPc → Bool
  | .onMessage | .releaseReadBlock => true
  | _ => false

/-- The thread of a `ShmDispatcher`. -/
structure Dispatcher (Tid : Type) where
  pc   : RxPc
  seg  : Option Nat
  info : Option (ReadableInfo Tid)
  index : Nat

/-- `queue` holds what the notifier has not delivered yet. `announced`,
    `done` and `handedOver` are history: all announcements, those a
    dispatcher is through with, and what it handed over. -/
structure State (Tid Did : Type) where
  registered : Option Nat
  next       : Nat
  segs       : Nat → Seg Tid
  tx         : Tid → Transmitter
  rx         : Did → Dispatcher Tid
  queue      : Did → List (ReadableInfo Tid)
  announced  : List (ReadableInfo Tid)
  done       : Did → List (ReadableInfo Tid)
  handedOver : Did → List (HandOver Tid)

/-- The transmitter holds the write lock of block `i` of segment `k`. -/
def Transmitter.Writes (k i : Nat) (l : Transmitter) : Prop :=
  l.pc.writing = true ∧ l.seg = some k ∧ l.index = i

/-- The dispatcher holds a read lock of block `i` of segment `k`. -/
def Dispatcher.Reads (k i : Nat) (l : Dispatcher Tid) : Prop :=
  l.pc.reading = true ∧ l.seg = some k ∧ l.index = i

instance (k i : Nat) : DecidablePred (Transmitter.Writes k i) := fun l =>
  inferInstanceAs (Decidable (l.pc.writing = true ∧ l.seg = some k ∧ l.index = i))

instance (k i : Nat) : DecidablePred (Dispatcher.Reads k i : Dispatcher Tid → Prop) := fun l =>
  inferInstanceAs (Decidable (l.pc.reading = true ∧ l.seg = some k ∧ l.index = i))

/-! ## Section 3: Model -/

section model
variable [DecidableEq Tid] [DecidableEq Did]

def State.setTx (s : State Tid Did) (t : Tid) (l : Transmitter) : State Tid Did :=
  { s with tx := Function.update s.tx t l }

def State.setRx (s : State Tid Did) (d : Did) (l : Dispatcher Tid) : State Tid Did :=
  { s with rx := Function.update s.rx d l }

def State.setSeg (s : State Tid Did) (k : Nat) (g : Seg Tid) : State Tid Did :=
  { s with segs := Function.update s.segs k g }

/-- The segment a transmitter has attached. -/
def State.txSeg (s : State Tid Did) (t : Tid) : Seg Tid := s.segs ((s.tx t).seg.getD 0)

/-- The segment a dispatcher has attached. -/
def State.rxSeg (s : State Tid Did) (d : Did) : Seg Tid := s.segs ((s.rx d).seg.getD 0)

/-- The block `GetNextWritableBlockIndex` tries next. -/
def State.tryIndex (s : State Tid Did) (t : Tid) : Nat :=
  wrapIndex (s.txSeg t).conf.blockNum (s.tx t).tryIdx

/-- The announcement of the message a transmitter has just written. -/
def State.info (s : State Tid Did) (t : Tid) : ReadableInfo Tid where
  blockIndex := (s.tx t).index
  message    := ⟨t, (s.tx t).seq⟩
  seg        := (s.tx t).seg.getD 0
  write      := (s.tx t).write

/-- The block a dispatcher reads is the one announced, was not locked for
    writing since, and is intact. -/
def State.current (s : State Tid Did) (d : Did) (info : ReadableInfo Tid) : Bool :=
  decide (info.seg = (s.rx d).seg.getD 0) &&
    decide (info.write = (s.rxSeg d).writes (s.rx d).index) && (s.rxSeg d).intact (s.rx d).index

inductive Label (Tid Did : Type) where
  | transmit (t : Tid)
  | create (t : Tid) (msgSize : Nat)
  | attach (t : Tid)
  | acquireFail (t : Tid)
  | wroteNum (t : Tid)
  | tryLockForWrite (t : Tid)
  | tryLockForWriteFail (t : Tid)
  | increaseWroteNum (t : Tid)
  | serialize (t : Tid)
  | serializeFail (t : Tid)
  | releaseWrittenBlock (t : Tid)
  | releaseFailed (t : Tid)
  | notify (t : Tid)
  | listen (d : Did)
  | attachRead (d : Did)
  | checkIndex (d : Did)
  | acquireReadFail (d : Did)
  | tryLockForRead (d : Did)
  | lockBehind (d : Did)
  | onMessage (d : Did)
  | releaseReadBlock (d : Did)

/-- Transmitters `Tid` and dispatchers `Did` on one channel. -/
def delivery : System (State Tid Did) (Label Tid Did) where
  init := fun s =>
    s.registered = none ∧ (∀ k i, (s.segs k).lockNum i = 0) ∧
    (∀ t, (s.tx t).pc = .idle ∧ (s.tx t).seg = none ∧ (s.tx t).seq = 0) ∧
    (∀ d, (s.rx d).pc = .listen ∧ (s.rx d).seg = none ∧ (s.rx d).info = none) ∧
    (∀ d, s.queue d = [] ∧ s.done d = [] ∧ s.handedOver d = []) ∧ s.announced = []
  action := fun
    | .transmit t =>
      { gate   := fun s => (s.tx t).pc = .idle
        effect := fun s => s.setTx t { s.tx t with pc := .acquire } }
    -- `AcquireBlockToWrite` creates, attaches or recreates the segment
    | .create t msgSize =>
      { gate   := fun s => (s.tx t).pc = .acquire
        effect := fun s =>
          { (s.setTx t { s.tx t with seg := some s.next }).setSeg s.next
              (.fresh (.update msgSize)) with
            registered := some s.next, next := s.next + 1 } }
    | .attach t =>
      { gate   := fun s => (s.tx t).pc = .acquire ∧ s.registered ≠ none
        effect := fun s => s.setTx t { s.tx t with seg := s.registered } }
    | .acquireFail t =>
      { gate   := fun s => (s.tx t).pc = .acquire
        effect := fun s => s.setTx t { s.tx t with pc := .idle, seq := (s.tx t).seq + 1 } }
    | .wroteNum t =>
      { gate   := fun s => (s.tx t).pc = .acquire ∧ (s.tx t).seg ≠ none
        effect := fun s =>
          s.setTx t { s.tx t with pc := .tryLockForWrite, tryIdx := (s.txSeg t).wroteNum } }
    -- `GetNextWritableBlockIndex` goes around the blocks until one is free
    | .tryLockForWrite t =>
      { gate   := fun s => (s.tx t).pc = .tryLockForWrite ∧
          (s.txSeg t).lockNum (s.tryIndex t) = 0
        effect := fun s =>
          let i := s.tryIndex t
          let g := s.txSeg t
          let write := g.writes i + 1
          let l := { s.tx t with pc := .increaseWroteNum, index := i, write := write }
          (s.setTx t l).setSeg ((s.tx t).seg.getD 0)
            { g with lockNum := Function.update g.lockNum i (-1)
                     writes  := Function.update g.writes i write } }
    | .tryLockForWriteFail t =>
      { gate   := fun s => (s.tx t).pc = .tryLockForWrite
        effect := fun s => s.setTx t { s.tx t with tryIdx := (s.tryIndex t + 1) % 2 ^ 32 } }
    | .increaseWroteNum t =>
      { gate   := fun s => (s.tx t).pc = .increaseWroteNum
        effect := fun s =>
          (s.setTx t { s.tx t with pc := .serialize }).setSeg ((s.tx t).seg.getD 0)
            { s.txSeg t with wroteNum := ((s.txSeg t).wroteNum + 1) % 2 ^ 32 } }
    -- the beginning of the writing: a byte that changes from now on may stay so
    | .serialize t =>
      { gate   := fun s => (s.tx t).pc = .serialize
        effect := fun s =>
          let g := s.txSeg t
          let i := (s.tx t).index
          (s.setTx t { s.tx t with pc := .releaseWrittenBlock }).setSeg ((s.tx t).seg.getD 0)
            { g with content := Function.update g.content i (some ⟨t, (s.tx t).seq⟩)
                     intact  := Function.update g.intact i true } }
    | .serializeFail t =>
      { gate   := fun s => (s.tx t).pc = .serialize
        effect := fun s =>
          let g := s.txSeg t
          (s.setTx t { s.tx t with pc := .releaseFailed }).setSeg ((s.tx t).seg.getD 0)
            { g with intact := Function.update g.intact (s.tx t).index false } }
    | .releaseWrittenBlock t =>
      { gate   := fun s => (s.tx t).pc = .releaseWrittenBlock
        effect := fun s =>
          let g := s.txSeg t
          let i := (s.tx t).index
          (s.setTx t { s.tx t with pc := .notify }).setSeg ((s.tx t).seg.getD 0)
            { g with lockNum := Function.update g.lockNum i (g.lockNum i + 1) } }
    | .releaseFailed t =>
      { gate   := fun s => (s.tx t).pc = .releaseFailed
        effect := fun s =>
          let g := s.txSeg t
          let i := (s.tx t).index
          (s.setTx t { s.tx t with pc := .idle, seq := (s.tx t).seq + 1 }).setSeg
            ((s.tx t).seg.getD 0)
            { g with lockNum := Function.update g.lockNum i (g.lockNum i + 1) } }
    -- the notification reaches the queue of every dispatcher
    | .notify t =>
      { gate   := fun s => (s.tx t).pc = .notify
        effect := fun s =>
          { s.setTx t { s.tx t with pc := .idle, seq := (s.tx t).seq + 1 } with
            queue     := fun d => s.queue d ++ [s.info t]
            announced := s.announced ++ [s.info t] } }
    | .listen d =>
      { gate   := fun s => (s.rx d).pc = .listen ∧ s.queue d ≠ []
        effect := fun s =>
          { s.setRx d { s.rx d with pc := .acquire, info := (s.queue d).head? } with
            queue := Function.update s.queue d (s.queue d).tail } }
    -- `Init` before the index is checked, `Remap` after it
    | .attachRead d =>
      { gate   := fun s => ((s.rx d).pc = .acquire ∨ (s.rx d).pc = .tryLockForRead) ∧
          s.registered ≠ none
        effect := fun s => s.setRx d { s.rx d with seg := s.registered } }
    | .checkIndex d =>
      { gate   := fun s => (s.rx d).pc = .acquire ∧ (s.rx d).seg ≠ none ∧
          ∀ info ∈ (s.rx d).info, info.blockIndex < (s.rxSeg d).conf.blockNum
        effect := fun s =>
          let index := ((s.rx d).info.map (·.blockIndex)).getD 0
          s.setRx d { s.rx d with pc := .tryLockForRead, index := index } }
    | .acquireReadFail d =>
      { gate   := fun s => (s.rx d).pc = .acquire ∨ (s.rx d).pc = .tryLockForRead
        effect := fun s =>
          { s.setRx d { s.rx d with pc := .listen, info := none } with
            done := Function.update s.done d (s.done d ++ (s.rx d).info.toList) } }
    | .tryLockForRead d =>
      { gate   := fun s => (s.rx d).pc = .tryLockForRead ∧
          (s.rx d).index < (s.rxSeg d).conf.blockNum ∧ 0 ≤ (s.rxSeg d).lockNum (s.rx d).index
        effect := fun s =>
          let g := s.rxSeg d
          let i := (s.rx d).index
          (s.setRx d { s.rx d with pc := .onMessage }).setSeg ((s.rx d).seg.getD 0)
            { g with lockNum := Function.update g.lockNum i (g.lockNum i + 1) } }
    -- the lock of a block that does not exist: there is nothing to read, and it is not released
    | .lockBehind d =>
      { gate   := fun s => (s.rx d).pc = .tryLockForRead ∧
          (s.rxSeg d).conf.blockNum ≤ (s.rx d).index
        effect := fun s =>
          let g := s.rxSeg d
          let i := g.conf.blockAt (ShmConf.blockOffset (s.rx d).index)
          { (s.setRx d { s.rx d with pc := .listen, info := none }).setSeg ((s.rx d).seg.getD 0)
              { g with intact := Function.update g.intact i false } with
            done := Function.update s.done d (s.done d ++ (s.rx d).info.toList) } }
    -- a block without a message parses to nothing
    | .onMessage d =>
      { gate   := fun s => (s.rx d).pc = .onMessage
        effect := fun s =>
          let handed := match (s.rx d).info, (s.rxSeg d).content (s.rx d).index with
            | some info, some message =>
              [⟨info, message, (s.rxSeg d).intact (s.rx d).index, s.current d info⟩]
            | _, _ => []
          { s.setRx d { s.rx d with pc := .releaseReadBlock, info := none } with
            done       := Function.update s.done d (s.done d ++ (s.rx d).info.toList)
            handedOver := Function.update s.handedOver d (s.handedOver d ++ handed) } }
    | .releaseReadBlock d =>
      { gate   := fun s => (s.rx d).pc = .releaseReadBlock
        effect := fun s =>
          let g := s.rxSeg d
          let i := (s.rx d).index
          (s.setRx d { s.rx d with pc := .listen }).setSeg ((s.rx d).seg.getD 0)
            { g with lockNum := Function.update g.lockNum i (g.lockNum i - 1) } }

instance decidableGate (a : Label Tid Did) (s : State Tid Did) :
    Decidable ((delivery.action a).gate s) :=
  match a with
  | .transmit t            => inferInstanceAs (Decidable ((s.tx t).pc = .idle))
  | .create t _            => inferInstanceAs (Decidable ((s.tx t).pc = .acquire))
  | .attach t              => inferInstanceAs (Decidable ((s.tx t).pc = .acquire ∧
      s.registered ≠ none))
  | .acquireFail t         => inferInstanceAs (Decidable ((s.tx t).pc = .acquire))
  | .wroteNum t            => inferInstanceAs (Decidable ((s.tx t).pc = .acquire ∧
      (s.tx t).seg ≠ none))
  | .tryLockForWrite t     => inferInstanceAs (Decidable ((s.tx t).pc = .tryLockForWrite ∧
      (s.txSeg t).lockNum (s.tryIndex t) = 0))
  | .tryLockForWriteFail t => inferInstanceAs (Decidable ((s.tx t).pc = .tryLockForWrite))
  | .increaseWroteNum t    => inferInstanceAs (Decidable ((s.tx t).pc = .increaseWroteNum))
  | .serialize t           => inferInstanceAs (Decidable ((s.tx t).pc = .serialize))
  | .serializeFail t       => inferInstanceAs (Decidable ((s.tx t).pc = .serialize))
  | .releaseWrittenBlock t => inferInstanceAs (Decidable ((s.tx t).pc = .releaseWrittenBlock))
  | .releaseFailed t       => inferInstanceAs (Decidable ((s.tx t).pc = .releaseFailed))
  | .notify t              => inferInstanceAs (Decidable ((s.tx t).pc = .notify))
  | .listen d              => inferInstanceAs (Decidable ((s.rx d).pc = .listen ∧ s.queue d ≠ []))
  | .attachRead d          => inferInstanceAs (Decidable (((s.rx d).pc = .acquire ∨
      (s.rx d).pc = .tryLockForRead) ∧ s.registered ≠ none))
  | .checkIndex d          => inferInstanceAs (Decidable ((s.rx d).pc = .acquire ∧
      (s.rx d).seg ≠ none ∧
      ∀ info ∈ (s.rx d).info, info.blockIndex < (s.rxSeg d).conf.blockNum))
  | .acquireReadFail d     => inferInstanceAs (Decidable ((s.rx d).pc = .acquire ∨
      (s.rx d).pc = .tryLockForRead))
  | .tryLockForRead d      => inferInstanceAs (Decidable ((s.rx d).pc = .tryLockForRead ∧
      (s.rx d).index < (s.rxSeg d).conf.blockNum ∧ 0 ≤ (s.rxSeg d).lockNum (s.rx d).index))
  | .lockBehind d          => inferInstanceAs (Decidable ((s.rx d).pc = .tryLockForRead ∧
      (s.rxSeg d).conf.blockNum ≤ (s.rx d).index))
  | .onMessage d           => inferInstanceAs (Decidable ((s.rx d).pc = .onMessage))
  | .releaseReadBlock d    => inferInstanceAs (Decidable ((s.rx d).pc = .releaseReadBlock))

end model

/-- No segment, idle transmitters, and dispatchers with nothing to read. -/
def initial : State Tid Did where
  registered := none
  next       := 0
  segs       := fun _ => .fresh .new
  tx         := fun _ => { pc := .idle, seq := 0, seg := none, tryIdx := 0, index := 0, write := 0 }
  rx         := fun _ => { pc := .listen, seg := none, info := none, index := 0 }
  queue      := fun _ => []
  announced  := []
  done       := fun _ => []
  handedOver := fun _ => []

theorem initial_init [DecidableEq Tid] [DecidableEq Did] :
    delivery.init (initial : State Tid Did) :=
  ⟨rfl, fun _ _ => rfl, fun _ => ⟨rfl, rfl, rfl⟩, fun _ => ⟨rfl, rfl, rfl⟩,
    fun _ => ⟨rfl, rfl, rfl⟩, rfl⟩

end CyberRT.Transport.Delivery
