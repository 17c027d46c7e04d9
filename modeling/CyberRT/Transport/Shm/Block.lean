import CyberRT.Framework.System
import CyberRT.Framework.Tally
import CyberRT.Transport.MessageInfo
import CyberRT.Transport.Shm.ShmConf

/-! # Blocks of one shared-memory segment

    Writers and readers attached to one segment of `n` blocks. A writer
    (`ShmTransmitter::Transmit`) searches a free block from `wrote_num_` on,
    fills payload, size and `MessageInfo`, and releases it; a reader
    (`ShmDispatcher::ReadMessage`) takes a read lock on the announced block,
    parses the `MessageInfo`, lets every listener parse the payload and
    releases it.

    Every atomic operation on `lock_num_` and `wrote_num_`, every load and
    store of a size and every byte copied is a step of its own. The
    segment is neither recreated nor remapped, so `need_remap` is never
    set and no payload exceeds the ceiling. `lock_num_` is an unbounded
    integer: it would take `2 ^ 31` simultaneous readers to wrap it. -/

namespace CyberRT.Transport.Shm

open CyberRT.Framework

/-! ## Section 1: Blocks -/

/-- A block and its buffer. -/
structure Block where
  lockNum     : Int
  msgSize     : Nat
  msgInfoSize : Nat
  buf         : Nat → UInt8

def kRWLockFree : Int := 0
def kWriteExclusive : Int := -1
def kMaxTryLockTimes : Nat := 5

/-- The bytes of the buffer in `[off, off + len)`. -/
def Block.bytesAt (blk : Block) (off len : Nat) : List UInt8 :=
  (List.range len).map (fun k => blk.buf (off + k))

/-- Storing one byte into the buffer. -/
def Block.store (blk : Block) (addr : Nat) (byte : UInt8) : Block :=
  { blk with buf := Function.update blk.buf addr byte }

/-- What one `Transmit` publishes. -/
structure Message where
  payload : List UInt8
  msgInfo : MessageInfo

/-- The block holds exactly the message `m`. -/
structure Block.Holds (blk : Block) (m : Message) : Prop where
  msgSize_eq     : blk.msgSize = m.payload.length
  msgInfoSize_eq : blk.msgInfoSize = MessageInfo.kSize
  payload_eq     : blk.bytesAt 0 m.payload.length = m.payload
  msgInfo_eq     : blk.bytesAt m.payload.length MessageInfo.kSize = m.msgInfo.serializeTo

/-! ## Section 2: Threads -/

/-- Program counters, named by the next step. From `increaseWroteNum` to
    `releaseWrittenBlock` the thread holds the write lock of its block,
    from `msgSize` to `releaseReadBlock` a read lock. -/
inductive Pc where
  | idle
  | wroteNum
  | tryLockForWrite
  | increaseWroteNum
  | serializeToArray
  | serializeTo
  | releaseWrittenBlock
  | loadLockNum
  | tryLockForRead
  | msgSize
  | msgInfoSize
  | deserializeFrom
  | onMessage
  | parseFromArray
  | releaseReadBlock
  deriving DecidableEq

def Pc.writing : Pc → Bool
  | .increaseWroteNum | .serializeToArray | .serializeTo | .releaseWrittenBlock => true
  | _ => false

def Pc.reading : Pc → Bool
  | .msgSize | .msgInfoSize | .deserializeFrom | .onMessage | .parseFromArray
  | .releaseReadBlock => true
  | _ => false

/-- Local variables of one thread. `pos` counts the bytes copied by a
    writer. `msgInfoBytes` and `payload` are the bytes a reader has copied so
    far. `base` is history: how many writes of the block were complete when
    the read lock was taken. -/
structure Local (n : Nat) where
  pc           : Pc
  index        : Fin n
  message      : Message
  tryIdx       : Nat
  pos          : Nat
  lockNum      : Int
  tryTimes     : Nat
  msgSize      : Nat
  msgInfoSize  : Nat
  msgInfoBytes : List UInt8
  msgInfo      : Option MessageInfo
  payloadSize  : Nat
  payload      : List UInt8
  base         : Nat

/-- What a listener is called with, and the block and `base` it came from. -/
structure Heard (n : Nat) where
  index   : Fin n
  base    : Nat
  payload : List UInt8
  msgInfo : Option MessageInfo
  deriving DecidableEq

/-- Shared state. `written` is the history of completed writes of each
    block, `heard` the history of listener calls. -/
structure State (n : Nat) (Tid : Type) where
  wroteNum : Nat
  blocks   : Fin n → Block
  loc      : Tid → Local n
  written  : Fin n → List Message
  heard    : List (Heard n)

/-- The thread holds the write lock of block `b`. -/
def Local.Writes {n : Nat} (b : Fin n) (l : Local n) : Prop := l.pc.writing = true ∧ l.index = b

/-- The thread holds a read lock of block `b`. -/
def Local.Reads {n : Nat} (b : Fin n) (l : Local n) : Prop := l.pc.reading = true ∧ l.index = b

instance {n : Nat} (b : Fin n) : DecidablePred (Local.Writes b) := fun l =>
  inferInstanceAs (Decidable (l.pc.writing = true ∧ l.index = b))

instance {n : Nat} (b : Fin n) : DecidablePred (Local.Reads b) := fun l =>
  inferInstanceAs (Decidable (l.pc.reading = true ∧ l.index = b))

/-! ## Section 3: Model -/

section model
variable {n : Nat} {Tid : Type}

/-- The block `GetNextWritableBlockIndex` tries for `try_idx`. -/
def blockIndex [NeZero n] (tryIdx : Nat) : Fin n :=
  ⟨wrapIndex n tryIdx, wrapIndex_lt (NeZero.pos n) tryIdx⟩

variable [DecidableEq Tid]

def State.setLoc (s : State n Tid) (t : Tid) (l : Local n) : State n Tid :=
  { s with loc := Function.update s.loc t l }

def State.setBlock (s : State n Tid) (b : Fin n) (blk : Block) : State n Tid :=
  { s with blocks := Function.update s.blocks b blk }

/-- The block the thread works on. -/
def State.blockOf (s : State n Tid) (t : Tid) : Block := s.blocks (s.loc t).index

inductive Label (Tid : Type) where
  | transmit (t : Tid) (m : Message)
  | wroteNum (t : Tid)
  | tryLockForWrite (t : Tid)
  | tryLockForWriteFail (t : Tid)
  | increaseWroteNum (t : Tid)
  | serializeByte (t : Tid)
  | setMsgSize (t : Tid)
  | serializeInfoByte (t : Tid)
  | setMsgInfoSize (t : Tid)
  | releaseWrittenBlock (t : Tid)
  | readMessage (t : Tid) (index : Nat)
  | loadLockNum (t : Tid)
  | tryLockForRead (t : Tid)
  | tryLockForReadFail (t : Tid)
  | msgSize (t : Tid)
  | msgInfoSize (t : Tid)
  | deserializeByte (t : Tid)
  | deserializeFrom (t : Tid)
  | parseMsgSize (t : Tid)
  | parseByte (t : Tid)
  | listener (t : Tid)
  | releaseReadBlock (t : Tid)

/-- One segment of `n` blocks, attached by the threads `Tid`. -/
def segment (n : Nat) [NeZero n] (ceilingMsgSize : Nat) : System (State n Tid) (Label Tid) where
  init := fun s =>
    s.wroteNum = 0 ∧ (∀ b, (s.blocks b).lockNum = kRWLockFree) ∧
    (∀ b, (s.blocks b).msgSize = 0 ∧ (s.blocks b).msgInfoSize = 0) ∧
    (∀ t, (s.loc t).pc = .idle) ∧ (∀ b, s.written b = []) ∧ s.heard = []
  action := fun
    | .transmit t m =>
      { gate   := fun s => (s.loc t).pc = .idle ∧ m.payload.length ≤ ceilingMsgSize
        effect := fun s => s.setLoc t { s.loc t with pc := .wroteNum, message := m } }
    | .wroteNum t =>
      { gate   := fun s => (s.loc t).pc = .wroteNum
        effect := fun s =>
          s.setLoc t { s.loc t with pc := .tryLockForWrite, tryIdx := s.wroteNum } }
    | .tryLockForWrite t =>
      { gate   := fun s => (s.loc t).pc = .tryLockForWrite ∧
          (s.blocks (blockIndex (s.loc t).tryIdx)).lockNum = kRWLockFree
        effect := fun s =>
          let b : Fin n := blockIndex (s.loc t).tryIdx
          (s.setLoc t { s.loc t with pc := .increaseWroteNum, index := b }).setBlock b
            { s.blocks b with lockNum := kWriteExclusive } }
    | .tryLockForWriteFail t =>
      -- `try_idx` was wrapped before the attempt; it is a `uint32_t`
      { gate   := fun s => (s.loc t).pc = .tryLockForWrite
        effect := fun s =>
          let b : Fin n := blockIndex (s.loc t).tryIdx
          s.setLoc t { s.loc t with tryIdx := (b.val + 1) % 2 ^ 32 } }
    | .increaseWroteNum t =>
      { gate   := fun s => (s.loc t).pc = .increaseWroteNum
        effect := fun s =>
          { s.setLoc t { s.loc t with pc := .serializeToArray, pos := 0 } with
            wroteNum := (s.wroteNum + 1) % 2 ^ 32 } }
    | .serializeByte t =>
      { gate   := fun s => (s.loc t).pc = .serializeToArray ∧
          (s.loc t).pos < (s.loc t).message.payload.length
        effect := fun s =>
          let l := s.loc t
          (s.setLoc t { l with pos := l.pos + 1 }).setBlock l.index
            ((s.blockOf t).store l.pos (l.message.payload.getD l.pos 0)) }
    | .setMsgSize t =>
      { gate   := fun s => (s.loc t).pc = .serializeToArray ∧
          (s.loc t).pos = (s.loc t).message.payload.length
        effect := fun s =>
          let l := s.loc t
          (s.setLoc t { l with pc := .serializeTo, pos := 0 }).setBlock l.index
            { s.blockOf t with msgSize := l.message.payload.length } }
    | .serializeInfoByte t =>
      { gate   := fun s => (s.loc t).pc = .serializeTo ∧ (s.loc t).pos < MessageInfo.kSize
        effect := fun s =>
          let l := s.loc t
          (s.setLoc t { l with pos := l.pos + 1 }).setBlock l.index
            ((s.blockOf t).store (l.message.payload.length + l.pos)
              (l.message.msgInfo.serializeTo.getD l.pos 0)) }
    | .setMsgInfoSize t =>
      { gate   := fun s => (s.loc t).pc = .serializeTo ∧ (s.loc t).pos = MessageInfo.kSize
        effect := fun s =>
          let l := s.loc t
          (s.setLoc t { l with pc := .releaseWrittenBlock }).setBlock l.index
            { s.blockOf t with msgInfoSize := MessageInfo.kSize } }
    | .releaseWrittenBlock t =>
      { gate   := fun s => (s.loc t).pc = .releaseWrittenBlock
        effect := fun s =>
          let l := s.loc t
          { (s.setLoc t { l with pc := .idle }).setBlock l.index
              { s.blockOf t with lockNum := (s.blockOf t).lockNum + 1 } with
            written := Function.update s.written l.index (s.written l.index ++ [l.message]) } }
    | .readMessage t index =>
      { gate   := fun s => (s.loc t).pc = .idle
        effect := fun s =>
          if h : index < n then
            s.setLoc t { s.loc t with pc := .loadLockNum, index := ⟨index, h⟩, tryTimes := 0 }
          else
            s }
    | .loadLockNum t =>
      { gate   := fun s => (s.loc t).pc = .loadLockNum
        effect := fun s =>
          if (s.blockOf t).lockNum < kRWLockFree then
            s.setLoc t { s.loc t with pc := .idle }
          else
            s.setLoc t { s.loc t with pc := .tryLockForRead, lockNum := (s.blockOf t).lockNum } }
    | .tryLockForRead t =>
      { gate   := fun s => (s.loc t).pc = .tryLockForRead ∧
          (s.blockOf t).lockNum = (s.loc t).lockNum
        effect := fun s =>
          let l := s.loc t
          let base := (s.written l.index).length
          (s.setLoc t { l with pc := .msgSize, base := base }).setBlock l.index
            { s.blockOf t with lockNum := l.lockNum + 1 } }
    | .tryLockForReadFail t =>
      { gate   := fun s => (s.loc t).pc = .tryLockForRead
        effect := fun s =>
          let l := s.loc t
          if l.tryTimes + 1 = kMaxTryLockTimes then
            s.setLoc t { l with pc := .idle }
          else
            s.setLoc t { l with pc := .loadLockNum, tryTimes := l.tryTimes + 1 } }
    | .msgSize t =>
      { gate   := fun s => (s.loc t).pc = .msgSize
        effect := fun s =>
          s.setLoc t { s.loc t with pc := .msgInfoSize, msgSize := (s.blockOf t).msgSize } }
    | .msgInfoSize t =>
      -- `DeserializeFrom` rejects every other size before it reads a byte
      { gate   := fun s => (s.loc t).pc = .msgInfoSize
        effect := fun s =>
          let size := (s.blockOf t).msgInfoSize
          if size = MessageInfo.kSize then
            s.setLoc t { s.loc t with
              pc := .deserializeFrom, msgInfoSize := size, msgInfoBytes := [] }
          else
            s.setLoc t { s.loc t with pc := .releaseReadBlock, msgInfoSize := size } }
    | .deserializeByte t =>
      { gate   := fun s => (s.loc t).pc = .deserializeFrom ∧
          (s.loc t).msgInfoBytes.length < (s.loc t).msgInfoSize
        effect := fun s =>
          let l := s.loc t
          s.setLoc t { l with msgInfoBytes := l.msgInfoBytes ++
            [(s.blockOf t).buf (l.msgSize + l.msgInfoBytes.length)] } }
    | .deserializeFrom t =>
      { gate   := fun s => (s.loc t).pc = .deserializeFrom ∧
          (s.loc t).msgInfoBytes.length = (s.loc t).msgInfoSize
        effect := fun s =>
          let l := s.loc t
          let info := MessageInfo.deserializeFrom l.msgInfoBytes
          s.setLoc t { l with pc := .onMessage, msgInfo := info } }
    | .parseMsgSize t =>
      { gate   := fun s => (s.loc t).pc = .onMessage
        effect := fun s =>
          s.setLoc t { s.loc t with
            pc := .parseFromArray, payloadSize := (s.blockOf t).msgSize, payload := [] } }
    | .parseByte t =>
      { gate   := fun s => (s.loc t).pc = .parseFromArray ∧
          (s.loc t).payload.length < (s.loc t).payloadSize
        effect := fun s =>
          let l := s.loc t
          s.setLoc t { l with payload := l.payload ++ [(s.blockOf t).buf l.payload.length] } }
    | .listener t =>
      { gate   := fun s => (s.loc t).pc = .parseFromArray ∧
          (s.loc t).payload.length = (s.loc t).payloadSize
        effect := fun s =>
          let l := s.loc t
          { s.setLoc t { l with pc := .onMessage } with
            heard := s.heard ++ [⟨l.index, l.base, l.payload, l.msgInfo⟩] } }
    | .releaseReadBlock t =>
      { gate   := fun s => (s.loc t).pc = .onMessage ∨ (s.loc t).pc = .releaseReadBlock
        effect := fun s =>
          let l := s.loc t
          (s.setLoc t { l with pc := .idle }).setBlock l.index
            { s.blockOf t with lockNum := (s.blockOf t).lockNum - 1 } }

instance decidableGate (n : Nat) [NeZero n] (ceilingMsgSize : Nat) (a : Label Tid)
    (s : State n Tid) : Decidable (((segment n ceilingMsgSize).action a).gate s) :=
  match a with
  | .transmit t m            => inferInstanceAs (Decidable ((s.loc t).pc = .idle ∧
      m.payload.length ≤ ceilingMsgSize))
  | .wroteNum t              => inferInstanceAs (Decidable ((s.loc t).pc = .wroteNum))
  | .tryLockForWrite t       => inferInstanceAs (Decidable ((s.loc t).pc = .tryLockForWrite ∧
      (s.blocks (blockIndex (s.loc t).tryIdx)).lockNum = kRWLockFree))
  | .tryLockForWriteFail t   => inferInstanceAs (Decidable ((s.loc t).pc = .tryLockForWrite))
  | .increaseWroteNum t      => inferInstanceAs (Decidable ((s.loc t).pc = .increaseWroteNum))
  | .serializeByte t         => inferInstanceAs (Decidable ((s.loc t).pc = .serializeToArray ∧
      (s.loc t).pos < (s.loc t).message.payload.length))
  | .setMsgSize t            => inferInstanceAs (Decidable ((s.loc t).pc = .serializeToArray ∧
      (s.loc t).pos = (s.loc t).message.payload.length))
  | .serializeInfoByte t     => inferInstanceAs (Decidable ((s.loc t).pc = .serializeTo ∧
      (s.loc t).pos < MessageInfo.kSize))
  | .setMsgInfoSize t        => inferInstanceAs (Decidable ((s.loc t).pc = .serializeTo ∧
      (s.loc t).pos = MessageInfo.kSize))
  | .releaseWrittenBlock t   => inferInstanceAs (Decidable ((s.loc t).pc = .releaseWrittenBlock))
  | .readMessage t _         => inferInstanceAs (Decidable ((s.loc t).pc = .idle))
  | .loadLockNum t           => inferInstanceAs (Decidable ((s.loc t).pc = .loadLockNum))
  | .tryLockForRead t        => inferInstanceAs (Decidable ((s.loc t).pc = .tryLockForRead ∧
      (s.blockOf t).lockNum = (s.loc t).lockNum))
  | .tryLockForReadFail t    => inferInstanceAs (Decidable ((s.loc t).pc = .tryLockForRead))
  | .msgSize t               => inferInstanceAs (Decidable ((s.loc t).pc = .msgSize))
  | .msgInfoSize t           => inferInstanceAs (Decidable ((s.loc t).pc = .msgInfoSize))
  | .deserializeByte t       => inferInstanceAs (Decidable ((s.loc t).pc = .deserializeFrom ∧
      (s.loc t).msgInfoBytes.length < (s.loc t).msgInfoSize))
  | .deserializeFrom t       => inferInstanceAs (Decidable ((s.loc t).pc = .deserializeFrom ∧
      (s.loc t).msgInfoBytes.length = (s.loc t).msgInfoSize))
  | .parseMsgSize t          => inferInstanceAs (Decidable ((s.loc t).pc = .onMessage))
  | .parseByte t             => inferInstanceAs (Decidable ((s.loc t).pc = .parseFromArray ∧
      (s.loc t).payload.length < (s.loc t).payloadSize))
  | .listener t              => inferInstanceAs (Decidable ((s.loc t).pc = .parseFromArray ∧
      (s.loc t).payload.length = (s.loc t).payloadSize))
  | .releaseReadBlock t      => inferInstanceAs (Decidable ((s.loc t).pc = .onMessage ∨
      (s.loc t).pc = .releaseReadBlock))

end model

/-- A fresh segment and idle threads. -/
def initial {n : Nat} [NeZero n] {Tid : Type} : State n Tid where
  wroteNum := 0
  blocks   := fun _ => ⟨kRWLockFree, 0, 0, fun _ => 0⟩
  loc      := fun _ =>
    { pc := .idle, index := 0, message := ⟨[], .zero⟩, tryIdx := 0, pos := 0, lockNum := 0,
      tryTimes := 0, msgSize := 0, msgInfoSize := 0, msgInfoBytes := [], msgInfo := none,
      payloadSize := 0, payload := [], base := 0 }
  written  := fun _ => []
  heard    := []

theorem initial_init (n : Nat) [NeZero n] (ceilingMsgSize : Nat) {Tid : Type} [DecidableEq Tid] :
    (segment n ceilingMsgSize).init (initial : State n Tid) :=
  ⟨rfl, fun _ => rfl, fun _ => ⟨rfl, rfl⟩, fun _ => rfl, fun _ => rfl, rfl⟩

end CyberRT.Transport.Shm
