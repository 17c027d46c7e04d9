import CyberRT.Record.RecordReader

/-! # The record viewer

    `RecordViewer` merges several readers by time. It moves a window of one
    second over the times of their files, collects what each reader finds in
    the window in a multimap, and hands out its front; it collects again
    when the multimap is empty. A reader whose file ends before the window
    is finished and is asked no more.

    The loops of the viewer are bounded by the contents of the files, which
    it does not know, so `fuel` counts their passes. -/

namespace CyberRT.Record

/-! ## Section 1: The message buffer -/

/-- `emplace`: behind the messages of the same time. -/
def emplace (m : RecordMessage) : List RecordMessage → List RecordMessage
  | []      => [m]
  | x :: xs => if m.time < x.time then m :: x :: xs else x :: emplace m xs

def kStepTimeNanoSec : UInt64 := 1000000000

def kBufferMinSize : Nat := 128

/-! ## Section 2: The viewer -/

/-- An element of `readers_` with that of `readers_finished_`. -/
structure Slot where
  reader   : RecordReader
  finished : Bool

structure RecordViewer where
  beginTime     : UInt64
  endTime       : UInt64
  channels      : List (List UInt8)
  slots         : List Slot
  currBeginTime : UInt64
  msgBuffer     : List RecordMessage

/-- The order of `Init`. -/
def headerLess (lhs rhs : RecordReader) : Bool :=
  if lhs.header.beginTime = rhs.header.beginTime then
    lhs.header.endTime < rhs.header.endTime
  else lhs.header.beginTime < rhs.header.beginTime

/-- What `std::sort` may make of the readers: it need not keep the order of
    those that compare equal. -/
structure Sorts (readers sorted : List RecordReader) : Prop where
  perm    : sorted.Perm readers
  ordered : sorted.Pairwise fun lhs rhs => headerLess rhs lhs = false

namespace RecordViewer

/-- `UpdateTime`. -/
def updateTime (v : RecordViewer) : RecordViewer :=
  let headers := (v.slots.filter (·.reader.isValid)).map (·.reader.header)
  let minBeginTime := headers.foldl
    (fun t h => if t > h.beginTime then h.beginTime else t) 0xFFFFFFFFFFFFFFFF
  let maxEndTime := headers.foldl (fun t h => if t < h.endTime then h.endTime else t) 0
  let beginTime := if v.beginTime < minBeginTime then minBeginTime else v.beginTime
  let endTime := if v.endTime > maxEndTime then maxEndTime else v.endTime
  { v with beginTime := beginTime, endTime := endTime, currBeginTime := beginTime }

/-- The constructor, over the readers as `Init` has sorted them. -/
def create (sorted : List RecordReader) (beginTime endTime : UInt64)
    (channels : List (List UInt8)) : RecordViewer :=
  updateTime
    { beginTime     := beginTime
      endTime       := endTime
      channels      := channels
      slots         := sorted.map (⟨·, false⟩)
      currBeginTime := 0
      msgBuffer     := [] }

def isValid (v : RecordViewer) : Bool := !(decide (v.beginTime > v.endTime))

def reset (v : RecordViewer) : RecordViewer :=
  { v with
    slots         := v.slots.map fun s => ⟨s.reader.reset, false⟩
    currBeginTime := v.beginTime
    msgBuffer     := [] }

variable (P : Protobuf) (flushMode : Bool) (fuel : Nat)

/-! ## Section 3: FillBuffer -/

/-- `ReadMessage` into the buffer until it returns false. -/
def readInto (thisBeginTime thisEndTime : UInt64) :
    Nat → RecordReader → List RecordMessage → Option (RecordReader × List RecordMessage)
  | 0,         _, _   => none
  | reads + 1, r, buf =>
    match RecordReader.readMessage P flushMode thisBeginTime thisEndTime fuel fuel r with
    | none             => none
    | some (none, r)   => some (r, buf)
    | some (some m, r) => readInto thisBeginTime thisEndTime reads r (emplace m buf)

/-- A reader whose file ends before the window. -/
def Slot.finish (thisBeginTime : UInt64) (s : Slot) : Slot :=
  if !s.finished && decide (s.reader.header.endTime < thisBeginTime) then
    ⟨s.reader.reset, true⟩
  else s

/-- The loop over the readers that are not finished. -/
def readSlots (thisBeginTime thisEndTime : UInt64) :
    List Slot → List RecordMessage → Option (List Slot × List RecordMessage)
  | [],      buf => some ([], buf)
  | s :: ss, buf =>
    if s.finished then
      (readSlots thisBeginTime thisEndTime ss buf).map fun x => (s :: x.1, x.2)
    else
      match readInto P flushMode fuel thisBeginTime thisEndTime fuel s.reader buf with
      | none          => none
      | some (r, buf) =>
        (readSlots thisBeginTime thisEndTime ss buf).map fun x =>
          ({ s with reader := r } :: x.1, x.2)

/-- The end of the window that begins at `curr_begin_time_`. -/
def thisEndTime (v : RecordViewer) : UInt64 :=
  if v.currBeginTime + kStepTimeNanoSec > v.endTime then v.endTime
  else v.currBeginTime + kStepTimeNanoSec

/-- One pass of the loop of `FillBuffer`. -/
def fillWindow (v : RecordViewer) : Option RecordViewer :=
  (readSlots P flushMode fuel v.currBeginTime v.thisEndTime
      (v.slots.map (Slot.finish v.currBeginTime)) v.msgBuffer).map fun x =>
    { v with
      slots         := x.1
      msgBuffer     := x.2
      currBeginTime := v.thisEndTime + 1 }

/-- The loop of `FillBuffer`. -/
def fillLoop : Nat → RecordViewer → Option RecordViewer
  | 0,           _ => none
  | windows + 1, v =>
    if v.currBeginTime ≤ v.endTime ∧ v.msgBuffer.length < kBufferMinSize then
      match fillWindow P flushMode fuel v with
      | none   => none
      | some v => fillLoop windows v
    else some v

def fillBuffer (v : RecordViewer) : Option (Bool × RecordViewer) :=
  (fillLoop P flushMode fuel fuel v).map fun v => (!v.msgBuffer.isEmpty, v)

/-! ## Section 4: Update and the iterator -/

/-- The message is of a channel that is asked for. -/
def wants (v : RecordViewer) (m : RecordMessage) : Bool :=
  v.channels.isEmpty || v.channels.contains m.channelName

/-- `msg_buffer_.empty() && !FillBuffer()`, negated. -/
def refill (v : RecordViewer) : Option (Bool × RecordViewer) :=
  if v.msgBuffer.isEmpty then fillBuffer P flushMode fuel v else some (true, v)

/-- `Update`: the message found, if it returns true. -/
def update : Nat → RecordViewer → Option (Option RecordMessage × RecordViewer)
  | 0,          _ => none
  | passes + 1, v =>
    match refill P flushMode fuel v with
    | none            => none
    | some (false, v) => some (none, v)
    | some (true, v)  =>
      match v.msgBuffer with
      | []      => some (none, v)
      | m :: ms =>
        let v := { v with msgBuffer := ms }
        if v.wants m then some (some m, v) else update passes v

end RecordViewer

/-- `RecordViewer::Iterator`. -/
structure Iterator where
  isEnd           : Bool
  index           : UInt64
  messageInstance : RecordMessage

namespace RecordViewer

variable (P : Protobuf) (flushMode : Bool) (fuel : Nat)

/-- `Iterator(viewer)`. -/
def begin (v : RecordViewer) : Option (Iterator × RecordViewer) :=
  let v := v.reset
  if !v.isValid then some (⟨true, 0, ⟨[], [], 0⟩⟩, v)
  else match update P flushMode fuel fuel v with
    | none             => none
    | some (none, v)   => some (⟨true, 0, ⟨[], [], 0⟩⟩, v)
    | some (some m, v) => some (⟨false, 0, m⟩, v)

/-- `operator++`. -/
def advance (it : Iterator) (v : RecordViewer) : Option (Iterator × RecordViewer) :=
  let it := { it with index := it.index + 1 }
  match update P flushMode fuel fuel v with
  | none             => none
  | some (none, v)   => some ({ it with isEnd := true }, v)
  | some (some m, v) => some ({ it with messageInstance := m }, v)

/-- The messages from an iterator to `end()`. -/
def collect : Nat → Iterator → RecordViewer → Option (List RecordMessage × RecordViewer)
  | 0,         _,  _ => none
  | steps + 1, it, v =>
    if it.isEnd then some ([], v)
    else match advance P flushMode fuel it v with
      | none         => none
      | some (it', v) =>
        (collect steps it' v).map fun x => (it.messageInstance :: x.1, x.2)

/-- The messages from `begin()` to `end()`. -/
def iterate (v : RecordViewer) : Option (List RecordMessage × RecordViewer) :=
  match begin P flushMode fuel v with
  | none         => none
  | some (it, v) => collect P flushMode fuel fuel it v

end RecordViewer

end CyberRT.Record
