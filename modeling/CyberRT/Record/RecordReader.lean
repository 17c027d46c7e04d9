import CyberRT.Record.File.RecordFileReader

/-! # The record reader

    `RecordReader` reads the messages of a record file whose time is in a
    window. It holds one chunk at a time and goes on to the next chunk when
    the messages of this one are used up.

    `ReadNextChunk` loops over the sections of the file. It need not end on
    a file that is not well formed, so its passes are counted. -/

namespace CyberRT.Record

open CyberRT.Framework

/-! ## Section 1: The reader -/

/-- What `ReadMessage` hands out. -/
structure RecordMessage where
  channelName : List UInt8
  content     : List UInt8
  time        : UInt64
  deriving DecidableEq

def RecordMessage.of (m : SingleMessage) : RecordMessage := ⟨m.channelName, m.content, m.time⟩

structure RecordReader where
  fileReader   : RecordFileReader
  isValid      : Bool
  reachEnd     : Bool
  chunk        : ChunkBody
  messageIndex : Nat
  header       : Header
  index        : Index
  channelInfo  : List UInt8 → Option ChannelCache

/-- The loop of the constructor over the index: the first entry of a name
    stays. -/
def insertChannel (info : List UInt8 → Option ChannelCache) (e : SingleIndex) :
    List UInt8 → Option ChannelCache :=
  match e.type, e.cache with
  | .channel, .channel c =>
    fun name => if name = c.name ∧ info name = none then some c else info name
  | _, _ => info

namespace RecordReader

variable (P : Protobuf)

/-- The constructor. -/
def openFile (bytes : List UInt8) : RecordReader :=
  match RecordFileReader.openFile P bytes with
  | (false, r) => ⟨r, false, false, ⟨[]⟩, 0, .default, ⟨[]⟩, fun _ => none⟩
  | (true, r) =>
    let header := r.header
    match r.readIndex P with
    | (true, r)  =>
      ⟨r.reset, true, false, ⟨[]⟩, 0, header, r.index,
        r.index.indexes.foldl insertChannel fun _ => none⟩
    | (false, r) => ⟨r.reset, true, false, ⟨[]⟩, 0, header, ⟨[]⟩, fun _ => none⟩

def reset (r : RecordReader) : RecordReader :=
  { r with
    fileReader   := r.fileReader.reset
    reachEnd     := false
    messageIndex := 0
    chunk        := ⟨[]⟩ }

def setFile (r : RecordReader) (f : FileImage) : RecordReader :=
  { r with fileReader := { r.fileReader with file := f } }

/-! ## Section 2: ReadNextChunk -/

/-- How one pass of the section loop ends. -/
inductive Pass where
  | again (skip : Bool) (r : RecordReader)
  | done (ok : Bool) (r : RecordReader)

variable (flushMode : Bool) (beginTime endTime : UInt64)

/-- One pass of the section loop. `skip` is `skip_next_chunk_body`. -/
def pass (skip : Bool) (r : RecordReader) : Pass :=
  match readSection r.fileReader.file with
  | (none, f) => .done false (r.setFile f)
  | (some sec, f) =>
    match sec.type with
    | some .index => .again skip { r.setFile (skipSection sec.size f) with reachEnd := true }
    | some .channel =>
      match readSectionOf P P.channel sec.size ⟨[], [], []⟩ f with
      | (_, false, f) => .done false (r.setFile f)
      | (_, true, f)  => .again skip (r.setFile f)
    | some .chunkHeader =>
      match readSectionOf P P.chunkHeader sec.size ⟨0, 0, 0, 0⟩ f with
      | (_, false, f) => .done false (r.setFile f)
      | (header, true, f) =>
        if header.beginTime > endTime then .done false (r.setFile f)
        else .again (skip || header.endTime < beginTime) (r.setFile f)
    | some .chunkBody =>
      if skip then .again false (r.setFile (skipSection sec.size f))
      else
        let chunk := if flushMode then ⟨[]⟩ else r.chunk
        match readSectionOf P P.chunkBody sec.size chunk f with
        | (chunk, ok, f) => .done ok { r.setFile f with chunk := chunk }
    | _ => .done false (r.setFile f)

/-- `ReadNextChunk`, if `passes` are enough for it to return. -/
def readNextChunk : Nat → Bool → RecordReader → Option (Bool × RecordReader)
  | 0,          _,    _ => none
  | passes + 1, skip, r =>
    if r.reachEnd then some (false, r)
    else match pass P flushMode beginTime endTime skip r with
      | .again skip r => readNextChunk passes skip r
      | .done ok r    => some (ok, r)

/-! ## Section 3: ReadMessage -/

/-- The loop over the messages of the chunk from `message_index_` on: the new
    index, and the message found, if the loop did not run out. -/
inductive Scan where
  | found (index : Nat) (m : SingleMessage)
  | beyond (index : Nat)
  | exhausted (index : Nat)

def scan : List SingleMessage → Nat → Scan
  | [],      index => .exhausted index
  | m :: ms, index =>
    if m.time > endTime then .beyond index
    else if m.time < beginTime then scan ms (index + 1)
    else .found (index + 1) m

/-- `ReadMessage`, if `calls` of itself and `passes` of the section loop are
    enough for it to return. -/
def readMessage (passes : Nat) : Nat → RecordReader → Option (Option RecordMessage × RecordReader)
  | 0,         _ => none
  | calls + 1, r =>
    if !r.isValid then some (none, r)
    else if beginTime > r.header.endTime ∨ endTime < r.header.beginTime then some (none, r)
    else match scan beginTime endTime (r.chunk.messages.drop r.messageIndex) r.messageIndex with
      | .found index m   => some (some (.of m), { r with messageIndex := index })
      | .beyond index    => some (none, { r with messageIndex := index })
      | .exhausted index =>
        let r := { r with messageIndex := index }
        match readNextChunk P flushMode beginTime endTime passes false r with
        | none            => none
        | some (false, r) => some (none, r)
        | some (true, r)  => readMessage passes calls { r with messageIndex := 0 }

/-- `ReadMessage` until it returns false: the messages in the order they are
    handed out. -/
def readAll (passes calls : Nat) : Nat → RecordReader → Option (List RecordMessage)
  | 0,         _ => none
  | reads + 1, r =>
    match readMessage P flushMode beginTime endTime passes calls r with
    | none             => none
    | some (none, _)   => some []
    | some (some m, r) => (readAll passes calls reads r).map (m :: ·)

end RecordReader

end CyberRT.Record
