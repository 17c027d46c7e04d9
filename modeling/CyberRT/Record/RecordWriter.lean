import CyberRT.Record.RecordProto
import Mathlib.Logic.Function.Basic

/-! # The record writer

    `RecordWriter` spreads what it is given over segment files. When the
    times or the sizes in a segment have grown over their thresholds,
    `WriteMessage` closes the segment's `RecordFileWriter` and opens the
    next one, to which it writes all channels it knows again.

    `WriteChannel` and `WriteMessage` hold `mutex_` from their start to
    their end, so each call is one step. Opening and writing files succeed.
    A file writer is seen here by the calls made to it. -/

namespace CyberRT.Record

/-! ## Section 1: Calls -/

/-- The calls between `Open` and `Close`. -/
inductive Call where
  | writeChannel (c : Channel)
  | writeMessage (m : SingleMessage)
  deriving DecidableEq

def Call.asChannel : Call → Option Channel
  | .writeChannel c => some c
  | .writeMessage _ => none

def Call.asMessage : Call → Option SingleMessage
  | .writeChannel _ => none
  | .writeMessage m => some m

/-- The channels handed to `WriteChannel`. -/
def channelsIn (calls : List Call) : List Channel := calls.filterMap Call.asChannel

/-- The messages handed to `WriteMessage`. -/
def callMessages (calls : List Call) : List SingleMessage := calls.filterMap Call.asMessage

/-- `file` with the suffix of segment `index`: five digits, or more where
    they are needed. -/
def segmentPath (file : List Char) (index : UInt32) : List Char :=
  file ++ '.' :: (Nat.toDigits 10 index.toNat).leftpad 5 '0'

/-- A `RecordFileWriter` after `Open` and `WriteHeader`. -/
structure SegmentFile where
  path      : List Char
  header    : Header
  calls     : List Call
  isWriting : Bool
  deriving DecidableEq

namespace SegmentFile

def openFile (path : List Char) (header : Header) : SegmentFile := ⟨path, header, [], true⟩

def write (f : SegmentFile) (c : Call) : SegmentFile := { f with calls := f.calls ++ [c] }

def close (f : SegmentFile) : SegmentFile := { f with isWriting := false }

end SegmentFile

/-! ## Section 2: The writer -/

/-- `closed` is history: the file writers in the order in which they were
    closed. -/
structure RecordWriter where
  header                  : Header
  file                    : List Char
  path                    : List Char
  isOpened                : Bool
  segmentRawSize          : UInt64
  segmentBeginTime        : UInt64
  fileIndex               : UInt32
  channelMessageNumberMap : List (List UInt8 × UInt64)
  channelMessageTypeMap   : List UInt8 → List UInt8
  channelProtoDescMap     : List UInt8 → List UInt8
  fileWriter              : SegmentFile
  fileWriterBackup        : Option SegmentFile
  closed                  : List SegmentFile

namespace RecordWriter

/-- `RecordWriter(header)` and `Open`. -/
def openFile (header : Header) (file : List Char) : RecordWriter :=
  let path :=
    if header.segmentInterval > 0 ∨ header.segmentRawSize > 0 then segmentPath file 0 else file
  { header                  := header
    file                    := file
    path                    := path
    isOpened                := true
    segmentRawSize          := 0
    segmentBeginTime        := 0
    fileIndex               := 1
    channelMessageNumberMap := []
    channelMessageTypeMap   := fun _ => []
    channelProtoDescMap     := fun _ => []
    fileWriter              := .openFile path header
    fileWriterBackup        := none
    closed                  := [] }

variable (w : RecordWriter)

/-! ### Channels and their numbers -/

def isNewChannel (name : List UInt8) : Bool :=
  (w.channelMessageNumberMap.find? (·.1 = name)).isNone

/-- `OnNewChannel`. -/
def onNewChannel (c : Channel) : RecordWriter :=
  if w.isNewChannel c.name then
    { w with
      channelMessageNumberMap := w.channelMessageNumberMap ++ [(c.name, 0)]
      channelMessageTypeMap   := Function.update w.channelMessageTypeMap c.name c.messageType
      channelProtoDescMap     := Function.update w.channelProtoDescMap c.name c.protoDesc }
  else w

/-- `OnNewMessage`. -/
def onNewMessage (name : List UInt8) : RecordWriter :=
  { w with
    channelMessageNumberMap :=
      w.channelMessageNumberMap.map fun e => if e.1 = name then (e.1, e.2 + 1) else e }

def getMessageNumber (name : List UInt8) : UInt64 :=
  match w.channelMessageNumberMap.find? (·.1 = name) with
  | some search => search.2
  | none        => 0

/-- The channel as the maps have it. -/
def channelOf (name : List UInt8) : Channel :=
  ⟨name, w.channelMessageTypeMap name, w.channelProtoDescMap name⟩

/-! ### Segments -/

def writeFile (c : Call) : RecordWriter := { w with fileWriter := w.fileWriter.write c }

/-- The file writer is closed and kept in `file_writer_backup_`. -/
def closeSegment : RecordWriter :=
  { w with
    fileWriterBackup := some w.fileWriter.close
    closed           := w.closed ++ [w.fileWriter.close] }

/-- `SplitOutfile`. `names` are the keys of `channel_message_number_map_` as
    the loop finds them. -/
def splitOutfile (names : List (List UInt8)) : RecordWriter :=
  let fileIndex := if w.fileIndex > 99999 then 0 else w.fileIndex
  let path := segmentPath w.file fileIndex
  let w' :=
    { w with
      path             := path
      fileIndex        := fileIndex + 1
      segmentRawSize   := 0
      segmentBeginTime := 0
      fileWriter       := .openFile path w.header }
  names.foldl (fun w name => w.writeFile (.writeChannel (w.channelOf name))) w'

/-- The size and the times of the segment with this message. -/
def measure (message : SingleMessage) : RecordWriter :=
  let beginTime := if w.segmentBeginTime = 0 then message.time else w.segmentBeginTime
  { w with
    segmentRawSize   := w.segmentRawSize + .ofNat message.content.length
    segmentBeginTime := if beginTime > message.time then message.time else beginTime }

/-- The thresholds are passed. -/
def needSplit (message : SingleMessage) : Bool :=
  decide (w.header.segmentInterval > 0 ∧
    message.time - w.segmentBeginTime > w.header.segmentInterval) ||
  decide (w.header.segmentRawSize > 0 ∧ w.segmentRawSize > w.header.segmentRawSize)

/-! ### WriteChannel, WriteMessage and Close -/

def writeChannel (c : Channel) : RecordWriter :=
  if w.isNewChannel c.name then (w.onNewChannel c).writeFile (.writeChannel c) else w

/-- `WriteMessage` up to the test of the thresholds. -/
def addMessage (message : SingleMessage) : RecordWriter :=
  ((w.onNewMessage message.channelName).writeFile (.writeMessage message)).measure message

/-- The keys of `channel_message_number_map_` in the order in which they
    were inserted. -/
def names : List (List UInt8) := w.channelMessageNumberMap.map Prod.fst

/-- `order` is the order in which the map hands out its keys. -/
def writeMessage (order : List (List UInt8) → List (List UInt8)) (message : SingleMessage) :
    RecordWriter :=
  let w := w.addMessage message
  if w.needSplit message then w.closeSegment.splitOutfile (order w.names) else w

def close : RecordWriter :=
  if w.isOpened then
    { w with
      isOpened   := false
      fileWriter := w.fileWriter.close
      closed     := w.closed ++ [w.fileWriter.close] }
  else w

def call (order : List (List UInt8) → List (List UInt8)) : Call → RecordWriter
  | .writeChannel c => w.writeChannel c
  | .writeMessage m => w.writeMessage order m

/-- The calls one after the other. -/
def run (order : List (List UInt8) → List (List UInt8)) (calls : List Call) : RecordWriter :=
  calls.foldl (call · order) w

end RecordWriter

end CyberRT.Record
