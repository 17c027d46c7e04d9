import CyberRT.Framework.System
import CyberRT.Record.RecordProto
import Mathlib.Logic.Function.Basic

/-! # The record file writer

    `RecordFileWriter` collects messages in `chunk_active_`. When a chunk
    has grown over its interval or its raw size, `WriteMessage` swaps it
    with `chunk_flush_` under `flush_mutex_` and notifies the flush thread,
    which writes `chunk_flush_` as a header and a body section and clears
    it. `Close` swaps what is left, waits until it is written, stops the
    thread, writes the index and then the header once more.

    The caller's thread and the flush thread interleave statement by
    statement: every lock, test of a shared flag, wait, swap, notification,
    section write and clear is one step. What `WriteMessage` does with
    `chunk_active_` before it locks is one step: no other thread looks at
    that chunk. `mutex_` is released with the last section written under
    it. A step that writes a section is taken only when the writes of the
    section succeed.

    `written` and `blocks` are history: the messages handed to
    `WriteMessage`, and the channels and chunks whose sections are complete,
    each in order. -/

namespace CyberRT.Record

open CyberRT.Framework

/-! ## Section 1: Chunks -/

structure Chunk where
  header : ChunkHeader
  body   : ChunkBody
  deriving DecidableEq

namespace Chunk

def clear (c : Chunk) : Chunk where
  body   := ⟨[]⟩
  header := { c.header with beginTime := 0, endTime := 0, messageNumber := 0, rawSize := 0 }

/-- A new chunk. -/
def new : Chunk := ⟨⟨0, 0, 0, 0⟩, ⟨[]⟩⟩

def add (c : Chunk) (message : SingleMessage) : Chunk where
  body   := ⟨c.body.messages ++ [message]⟩
  header :=
    { beginTime :=
        if c.header.beginTime = 0 then message.time
        else if c.header.beginTime > message.time then message.time
        else c.header.beginTime
      endTime :=
        if c.header.endTime < message.time then message.time else c.header.endTime
      messageNumber := c.header.messageNumber + 1
      rawSize := c.header.rawSize + .ofNat message.content.length }

def empty (c : Chunk) : Bool := c.header.messageNumber == 0

/-- The chunk `add` makes of these messages. -/
def of (messages : List SingleMessage) : Chunk := messages.foldl add new

end Chunk

/-- What a record file holds between its header and its index: channels, and
    chunks of messages. -/
inductive Block where
  | channel (c : Channel)
  | chunk (messages : List SingleMessage)
  deriving DecidableEq

/-! ## Section 2: The members and what is done to them -/

structure RecordFileWriter where
  file                    : FileImage
  header                  : Header
  index                   : Index
  chunkActive             : Chunk
  chunkFlush              : Chunk
  channelMessageNumberMap : List UInt8 → Option UInt64
  written                 : List SingleMessage
  blocks                  : List Block

/-- `mutable_channel_cache`: the channel cache, made empty if the entry has
    another one. -/
def SingleIndex.mutableChannelCache (e : SingleIndex) : ChannelCache :=
  match e.cache with
  | .channel c => c
  | _          => ⟨0, [], [], []⟩

/-- One pass of the loop of `WriteIndex`. -/
def SingleIndex.setMessageNumber (map : List UInt8 → Option UInt64) (e : SingleIndex) :
    SingleIndex :=
  if e.type = .channel then
    let c := e.mutableChannelCache
    match map c.name with
    | some n => { e with cache := .channel { c with messageNumber := n } }
    | none   => { e with cache := .channel c }
  else e

namespace RecordFileWriter

variable (P : Protobuf) (w : RecordFileWriter)

/-- `Open` of a path that did not exist. -/
def opened : RecordFileWriter where
  file                    := ⟨[], 0⟩
  header                  := .default
  index                   := ⟨[]⟩
  chunkActive             := .new
  chunkFlush              := .new
  channelMessageNumberMap := fun _ => none
  written                 := []
  blocks                  := []

def writeSection (m : Message) : RecordFileWriter :=
  let file := match m with
    | .header _ => w.file.seek 0
    | _         => w.file
  let file := file.write (sectionStruct m.type (P.byteSize m))
  let file := file.write (P.serialize m)
  let file := match m with
    | .header _ => file.write (blank.take (headerLength - P.byteSize m))
    | _         => file
  { w with
    file   := file
    header := { w.header with size := .ofNat file.pos } }

/-- The writes of the section succeed: protobuf serialises no message over
    `INT_MAX` bytes, the padding has no negative length, and a file offset
    is an `int64_t`. -/
def CanWrite (m : Message) : Prop :=
  P.byteSize m ≤ intMax ∧ (m.type = .header → P.byteSize m ≤ headerLength) ∧
    (w.writeSection P m).file.pos ≤ int64Max

instance (m : Message) : Decidable (w.CanWrite P m) :=
  inferInstanceAs (Decidable (_ ∧ _))

def writeHeader (header : Header) : RecordFileWriter :=
  { w with header := header }.writeSection P (.header header)

def writeIndex : RecordFileWriter :=
  let index : Index := ⟨w.index.indexes.map (·.setMessageNumber w.channelMessageNumberMap)⟩
  { w with
    index  := index
    header := { w.header with indexPosition := .ofNat w.file.pos } }.writeSection P (.index index)

def writeChannel (channel : Channel) : RecordFileWriter :=
  let w := w.writeSection P (.channel channel)
  let single : SingleIndex :=
    { type     := .channel
      position := .ofNat w.file.pos
      cache    := .channel ⟨0, channel.name, channel.messageType, channel.protoDesc⟩ }
  { w with
    header := { w.header with channelNumber := w.header.channelNumber + 1 }
    index  := ⟨w.index.indexes ++ [single]⟩
    blocks := w.blocks ++ [.channel channel] }

/-- The first half of `WriteChunk`. -/
def writeChunkHeader (header : ChunkHeader) : RecordFileWriter :=
  let w := w.writeSection P (.chunkHeader header)
  let single : SingleIndex :=
    { type     := .chunkHeader
      position := .ofNat w.file.pos
      cache    := .chunkHeader
        ⟨header.messageNumber, header.beginTime, header.endTime, header.rawSize⟩ }
  { w with index := ⟨w.index.indexes ++ [single]⟩ }

/-- The second half of `WriteChunk`. -/
def writeChunkBody (header : ChunkHeader) (body : ChunkBody) : RecordFileWriter :=
  let w := w.writeSection P (.chunkBody body)
  let single : SingleIndex :=
    { type     := .chunkBody
      position := .ofNat w.file.pos
      cache    := .chunkBody ⟨.ofNat body.messages.length⟩ }
  { w with
    header :=
      { w.header with
        chunkNumber   := w.header.chunkNumber + 1
        beginTime     := if w.header.beginTime = 0 then header.beginTime else w.header.beginTime
        endTime       := header.endTime
        messageNumber := w.header.messageNumber + header.messageNumber }
    index  := ⟨w.index.indexes ++ [single]⟩
    blocks := w.blocks ++ [.chunk body.messages] }

/-- `WriteMessage` up to the threshold tests. -/
def addMessage (message : SingleMessage) : RecordFileWriter :=
  let number := match w.channelMessageNumberMap message.channelName with
    | some n => n + 1
    | none   => 1
  { w with
    chunkActive             := w.chunkActive.add message
    channelMessageNumberMap :=
      Function.update w.channelMessageNumberMap message.channelName (some number)
    written                 := w.written ++ [message] }

/-- The threshold tests, after the message was added. -/
def needFlush (message : SingleMessage) : Bool :=
  decide (w.header.chunkInterval > 0 ∧
    message.time - w.chunkActive.header.beginTime > w.header.chunkInterval) ||
  decide (w.header.chunkRawSize > 0 ∧ w.chunkActive.header.rawSize > w.header.chunkRawSize)

def swapChunks : RecordFileWriter :=
  { w with
    chunkFlush  := w.chunkActive
    chunkActive := w.chunkFlush }

def clearFlush : RecordFileWriter := { w with chunkFlush := w.chunkFlush.clear }

def setComplete : RecordFileWriter := { w with header := { w.header with isComplete := true } }

end RecordFileWriter

/-! ## Section 3: State -/

inductive Owner where
  | caller
  | flusher
  deriving DecidableEq

/-- Where the caller's thread stands. `last` tells the swap and the header
    write of `Close` from those of `WriteMessage` and of the first
    `WriteHeader`. -/
inductive CallerPc where
  | opened
  | headerLock (last : Bool)
  | headerWrite (last : Bool)
  | idle
  | channelLock (c : Channel)
  | channelWrite (c : Channel)
  | swapLock (last : Bool)
  | swap (last : Bool)
  | notify (last : Bool)
  | swapUnlock (last : Bool)
  | waitFlush
  | waitLast
  | stop
  | notifyAll
  | join
  | indexLock
  | indexWrite
  | setComplete
  | closed
  deriving DecidableEq

/-- Where the flush thread stands. `block` to `relock` are the inside of the
    condition variable's wait. -/
inductive FlushPc where
  | loop
  | lock
  | test
  | block
  | blocked
  | relock
  | checkWriting
  | checkEmpty
  | chunkLock
  | chunkHeader
  | chunkBody
  | clear
  | unlock
  | done
  deriving DecidableEq

structure State extends RecordFileWriter where
  isWriting  : Bool
  mutex      : Option Owner
  flushMutex : Option Owner
  caller     : CallerPc
  flusher    : FlushPc

/-! ## Section 4: Model -/

/-- A notification wakes the flush thread if it is blocked. -/
def FlushPc.notified : FlushPc → FlushPc
  | .blocked => .relock
  | pc       => pc

inductive Label where
  | writeHeader
  | writeChannel (c : Channel)
  | writeMessage (m : SingleMessage)
  | close
  | headerLock (last : Bool)
  | headerWrite (last : Bool)
  | channelLock (c : Channel)
  | channelWrite (c : Channel)
  | swapLock (last : Bool)
  | swap (last : Bool)
  | notify (last : Bool)
  | swapUnlock (last : Bool)
  | waitFlush
  | waitLast
  | stop
  | notifyAll
  | join
  | indexLock
  | indexWrite
  | setComplete
  | loop
  | lock
  | test
  | block
  | spurious
  | relock
  | checkWriting
  | checkEmpty
  | chunkLock
  | chunkHeader
  | chunkBody
  | clear
  | unlock
  deriving DecidableEq

/-- The header `WriteHeader` writes: the caller's, or in `Close` the member. -/
def State.headerToWrite (given : Header) (s : State) (last : Bool) : Header :=
  if last then s.header else given

/-- The index `WriteIndex` writes. -/
def State.indexToWrite (s : State) : Index :=
  ⟨s.index.indexes.map (·.setMessageNumber s.channelMessageNumberMap)⟩

/-- A writer whose caller hands `given` to `WriteHeader`, then calls
    `WriteChannel` and `WriteMessage` any number of times and then `Close`. -/
def recordFileWriter (P : Protobuf) (given : Header) : System State Label where
  init := fun s =>
    s.toRecordFileWriter = .opened ∧ s.isWriting = true ∧ s.mutex = none ∧
    s.flushMutex = none ∧ s.caller = .opened ∧ s.flusher = .loop
  action := fun
    | .writeHeader =>
      { gate   := fun s => s.caller = .opened
        effect := fun s => { s with caller := .headerLock false } }
    | .writeChannel c =>
      { gate   := fun s => s.caller = .idle
        effect := fun s => { s with caller := .channelLock c } }
    -- a repeated field has at most `INT_MAX` elements
    | .writeMessage m =>
      { gate   := fun s => s.caller = .idle ∧ s.chunkActive.body.messages.length < intMax
        effect := fun s =>
          let w := s.addMessage m
          { s with
            toRecordFileWriter := w
            caller := if w.needFlush m then .swapLock false else .idle } }
    | .close =>
      { gate   := fun s => s.caller = .idle
        effect := fun s => { s with caller := .waitFlush } }
    -- `WriteHeader`, `WriteChannel` and the chunk are written under `mutex_`
    | .headerLock last =>
      { gate   := fun s => s.caller = .headerLock last ∧ s.mutex = none
        effect := fun s => { s with mutex := some .caller, caller := .headerWrite last } }
    | .headerWrite last =>
      { gate   := fun s => s.caller = .headerWrite last ∧
          { s.toRecordFileWriter with header := s.headerToWrite given last }.CanWrite P
            (.header (s.headerToWrite given last))
        effect := fun s =>
          { s with
            toRecordFileWriter := s.writeHeader P (s.headerToWrite given last)
            mutex  := none
            caller := if last then .closed else .idle } }
    | .channelLock c =>
      { gate   := fun s => s.caller = .channelLock c ∧ s.mutex = none
        effect := fun s => { s with mutex := some .caller, caller := .channelWrite c } }
    | .channelWrite c =>
      { gate   := fun s => s.caller = .channelWrite c ∧ s.CanWrite P (.channel c)
        effect := fun s =>
          { s with
            toRecordFileWriter := s.writeChannel P c
            mutex  := none
            caller := .idle } }
    | .swapLock last =>
      { gate   := fun s => s.caller = .swapLock last ∧ s.flushMutex = none
        effect := fun s => { s with flushMutex := some .caller, caller := .swap last } }
    | .swap last =>
      { gate   := fun s => s.caller = .swap last
        effect := fun s =>
          { s with
            toRecordFileWriter := s.swapChunks
            caller := .notify last } }
    | .notify last =>
      { gate   := fun s => s.caller = .notify last
        effect := fun s =>
          { s with
            flusher := s.flusher.notified
            caller  := .swapUnlock last } }
    | .swapUnlock last =>
      { gate   := fun s => s.caller = .swapUnlock last
        effect := fun s =>
          { s with
            flushMutex := none
            caller := if last then .waitLast else .idle } }
    -- `Close` first waits until the chunk being flushed is written
    | .waitFlush =>
      { gate   := fun s => s.caller = .waitFlush ∧ s.chunkFlush.empty = true
        effect := fun s => { s with caller := .swapLock true } }
    | .waitLast =>
      { gate   := fun s => s.caller = .waitLast ∧ s.chunkFlush.empty = true
        effect := fun s => { s with caller := .stop } }
    | .stop =>
      { gate   := fun s => s.caller = .stop
        effect := fun s => { s with isWriting := false, caller := .notifyAll } }
    | .notifyAll =>
      { gate   := fun s => s.caller = .notifyAll
        effect := fun s =>
          { s with
            flusher := s.flusher.notified
            caller  := .join } }
    | .join =>
      { gate   := fun s => s.caller = .join ∧ s.flusher = .done
        effect := fun s => { s with caller := .indexLock } }
    | .indexLock =>
      { gate   := fun s => s.caller = .indexLock ∧ s.mutex = none
        effect := fun s => { s with mutex := some .caller, caller := .indexWrite } }
    | .indexWrite =>
      { gate   := fun s => s.caller = .indexWrite ∧ s.CanWrite P (.index s.indexToWrite)
        effect := fun s =>
          { s with
            toRecordFileWriter := s.writeIndex P
            mutex  := none
            caller := .setComplete } }
    | .setComplete =>
      { gate   := fun s => s.caller = .setComplete
        effect := fun s =>
          { s with
            toRecordFileWriter := s.toRecordFileWriter.setComplete
            caller := .headerLock true } }
    -- `Flush`, the thread that writes the chunks
    | .loop =>
      { gate   := fun s => s.flusher = .loop
        effect := fun s => { s with flusher := if s.isWriting then .lock else .done } }
    | .lock =>
      { gate   := fun s => s.flusher = .lock ∧ s.flushMutex = none
        effect := fun s => { s with flushMutex := some .flusher, flusher := .test } }
    -- the predicate the flusher waits for is looked at under `flush_mutex_`
    | .test =>
      { gate   := fun s => s.flusher = .test
        effect := fun s =>
          { s with
            flusher := if s.chunkFlush.empty && s.isWriting then .block else .checkWriting } }
    | .block =>
      { gate   := fun s => s.flusher = .block
        effect := fun s => { s with flushMutex := none, flusher := .blocked } }
    | .spurious =>
      { gate   := fun s => s.flusher = .blocked
        effect := fun s => { s with flusher := .relock } }
    | .relock =>
      { gate   := fun s => s.flusher = .relock ∧ s.flushMutex = none
        effect := fun s => { s with flushMutex := some .flusher, flusher := .test } }
    | .checkWriting =>
      { gate   := fun s => s.flusher = .checkWriting
        effect := fun s =>
          if s.isWriting then { s with flusher := .checkEmpty }
          else { s with flushMutex := none, flusher := .done } }
    | .checkEmpty =>
      { gate   := fun s => s.flusher = .checkEmpty
        effect := fun s =>
          if s.chunkFlush.empty then { s with flushMutex := none, flusher := .loop }
          else { s with flusher := .chunkLock } }
    | .chunkLock =>
      { gate   := fun s => s.flusher = .chunkLock ∧ s.mutex = none
        effect := fun s => { s with mutex := some .flusher, flusher := .chunkHeader } }
    | .chunkHeader =>
      { gate   := fun s => s.flusher = .chunkHeader ∧
          s.CanWrite P (.chunkHeader s.chunkFlush.header)
        effect := fun s =>
          { s with
            toRecordFileWriter := s.writeChunkHeader P s.chunkFlush.header
            flusher := .chunkBody } }
    | .chunkBody =>
      { gate   := fun s => s.flusher = .chunkBody ∧ s.CanWrite P (.chunkBody s.chunkFlush.body)
        effect := fun s =>
          { s with
            toRecordFileWriter := s.writeChunkBody P s.chunkFlush.header s.chunkFlush.body
            mutex   := none
            flusher := .clear } }
    | .clear =>
      { gate   := fun s => s.flusher = .clear
        effect := fun s =>
          { s with
            toRecordFileWriter := s.clearFlush
            flusher := .unlock } }
    | .unlock =>
      { gate   := fun s => s.flusher = .unlock
        effect := fun s => { s with flushMutex := none, flusher := .loop } }

instance decidableGate (P : Protobuf) (given : Header) :
    ∀ (a : Label) (s : State), Decidable (((recordFileWriter P given).action a).gate s)
  | .writeHeader, s    => inferInstanceAs (Decidable (s.caller = _))
  | .writeChannel _, s => inferInstanceAs (Decidable (s.caller = _))
  | .writeMessage _, s => inferInstanceAs (Decidable (s.caller = _ ∧ _ < _))
  | .close, s          => inferInstanceAs (Decidable (s.caller = _))
  | .headerLock _, s   => inferInstanceAs (Decidable (s.caller = _ ∧ s.mutex = none))
  | .headerWrite last, s => inferInstanceAs (Decidable (s.caller = _ ∧
      RecordFileWriter.CanWrite P _ (.header (s.headerToWrite given last))))
  | .channelLock _, s  => inferInstanceAs (Decidable (s.caller = _ ∧ s.mutex = none))
  | .channelWrite c, s => inferInstanceAs (Decidable (s.caller = _ ∧ s.CanWrite P (.channel c)))
  | .swapLock _, s     => inferInstanceAs (Decidable (s.caller = _ ∧ s.flushMutex = none))
  | .swap _, s         => inferInstanceAs (Decidable (s.caller = _))
  | .notify _, s       => inferInstanceAs (Decidable (s.caller = _))
  | .swapUnlock _, s   => inferInstanceAs (Decidable (s.caller = _))
  | .waitFlush, s      => inferInstanceAs (Decidable (s.caller = _ ∧ s.chunkFlush.empty = true))
  | .waitLast, s       => inferInstanceAs (Decidable (s.caller = _ ∧ s.chunkFlush.empty = true))
  | .stop, s           => inferInstanceAs (Decidable (s.caller = _))
  | .notifyAll, s      => inferInstanceAs (Decidable (s.caller = _))
  | .join, s           => inferInstanceAs (Decidable (s.caller = _ ∧ s.flusher = _))
  | .indexLock, s      => inferInstanceAs (Decidable (s.caller = _ ∧ s.mutex = none))
  | .indexWrite, s     => inferInstanceAs (Decidable (s.caller = _ ∧
      s.CanWrite P (.index s.indexToWrite)))
  | .setComplete, s    => inferInstanceAs (Decidable (s.caller = _))
  | .loop, s           => inferInstanceAs (Decidable (s.flusher = _))
  | .lock, s           => inferInstanceAs (Decidable (s.flusher = _ ∧ s.flushMutex = none))
  | .test, s           => inferInstanceAs (Decidable (s.flusher = _))
  | .block, s          => inferInstanceAs (Decidable (s.flusher = _))
  | .spurious, s       => inferInstanceAs (Decidable (s.flusher = _))
  | .relock, s         => inferInstanceAs (Decidable (s.flusher = _ ∧ s.flushMutex = none))
  | .checkWriting, s   => inferInstanceAs (Decidable (s.flusher = _))
  | .checkEmpty, s     => inferInstanceAs (Decidable (s.flusher = _))
  | .chunkLock, s      => inferInstanceAs (Decidable (s.flusher = _ ∧ s.mutex = none))
  | .chunkHeader, s    => inferInstanceAs (Decidable (s.flusher = _ ∧
      s.CanWrite P (.chunkHeader s.chunkFlush.header)))
  | .chunkBody, s      => inferInstanceAs (Decidable (s.flusher = _ ∧
      s.CanWrite P (.chunkBody s.chunkFlush.body)))
  | .clear, s          => inferInstanceAs (Decidable (s.flusher = _))
  | .unlock, s         => inferInstanceAs (Decidable (s.flusher = _))

/-- The state after `Open`. -/
def initial : State where
  toRecordFileWriter := .opened
  isWriting          := true
  mutex              := none
  flushMutex         := none
  caller             := .opened
  flusher            := .loop

theorem initial_init (P : Protobuf) (given : Header) :
    (recordFileWriter P given).init initial :=
  ⟨rfl, rfl, rfl, rfl, rfl, rfl⟩

end CyberRT.Record
