import CyberRT.Framework.Bytes
import CyberRT.Framework.FileImage

/-! # Record messages and sections

    The messages of a record file (`record.proto`), the `Section` struct in
    front of each of them, and the protobuf runtime as the record code uses
    it: a codec per message type, and the input stream that reads a message
    out of the file.

    Strings are the bytes of a `std::string`. Every message carries all its
    fields: the record code sets each field of the messages it writes. -/

namespace CyberRT.Record

open CyberRT.Framework

/-! ## Section 1: Messages -/

inductive SectionType where
  | header
  | chunkHeader
  | chunkBody
  | index
  | channel
  deriving DecidableEq

inductive CompressType where
  | none
  | bz2
  | lz4
  deriving DecidableEq

structure ChunkHeaderCache where
  messageNumber : UInt64
  beginTime     : UInt64
  endTime       : UInt64
  rawSize       : UInt64
  deriving DecidableEq

structure ChunkBodyCache where
  messageNumber : UInt64
  deriving DecidableEq

structure ChannelCache where
  messageNumber : UInt64
  name          : List UInt8
  messageType   : List UInt8
  protoDesc     : List UInt8
  deriving DecidableEq

/-- The `oneof cache` of an index entry. -/
inductive Cache where
  | channel (c : ChannelCache)
  | chunkHeader (c : ChunkHeaderCache)
  | chunkBody (c : ChunkBodyCache)
  deriving DecidableEq

structure SingleIndex where
  type     : SectionType
  position : UInt64
  cache    : Cache
  deriving DecidableEq

structure SingleMessage where
  channelName : List UInt8
  time        : UInt64
  content     : List UInt8
  deriving DecidableEq

structure Header where
  majorVersion    : UInt32
  minorVersion    : UInt32
  compress        : CompressType
  chunkInterval   : UInt64
  segmentInterval : UInt64
  indexPosition   : UInt64
  chunkNumber     : UInt64
  channelNumber   : UInt64
  beginTime       : UInt64
  endTime         : UInt64
  messageNumber   : UInt64
  size            : UInt64
  isComplete      : Bool
  chunkRawSize    : UInt64
  segmentRawSize  : UInt64
  deriving DecidableEq

structure Channel where
  name        : List UInt8
  messageType : List UInt8
  protoDesc   : List UInt8
  deriving DecidableEq

structure ChunkHeader where
  beginTime     : UInt64
  endTime       : UInt64
  messageNumber : UInt64
  rawSize       : UInt64
  deriving DecidableEq

structure ChunkBody where
  messages : List SingleMessage
  deriving DecidableEq

structure Index where
  indexes : List SingleIndex
  deriving DecidableEq

/-- The messages `WriteSection` supports. -/
inductive Message where
  | header (m : Header)
  | chunkHeader (m : ChunkHeader)
  | chunkBody (m : ChunkBody)
  | index (m : Index)
  | channel (m : Channel)
  deriving DecidableEq

def Message.type : Message → SectionType
  | .header _      => .header
  | .chunkHeader _ => .chunkHeader
  | .chunkBody _   => .chunkBody
  | .index _       => .index
  | .channel _     => .channel

/-- The members of a default-constructed `Header`. -/
def Header.default : Header where
  majorVersion    := 0
  minorVersion    := 0
  compress        := .none
  chunkInterval   := 0
  segmentInterval := 0
  indexPosition   := 0
  chunkNumber     := 0
  channelNumber   := 0
  beginTime       := 0
  endTime         := 0
  messageNumber   := 0
  size            := 0
  isComplete      := false
  chunkRawSize    := 0
  segmentRawSize  := 0

/-! ## Section 2: The protobuf runtime -/

def intMax : Nat := 2 ^ 31 - 1
def int64Max : Nat := 2 ^ 63 - 1

/-- `SerializeToZeroCopyStream` and `ParseFromCodedStream` of one message
    type. `parse` fills the message also when it fails; its flag tells that
    it succeeded and consumed the entire message. -/
structure Codec (M : Type) where
  serialize : M → List UInt8
  parse     : List UInt8 → M × Bool

def Codec.byteSize {M : Type} (c : Codec M) (m : M) : Nat := (c.serialize m).length

/-- Decoding undoes encoding. -/
def Codec.RoundTrip {M : Type} (c : Codec M) : Prop :=
  ∀ m, c.parse (c.serialize m) = (m, true)

/-- The runtime. A `CodedInputStream` limited to `size` bytes, over what is
    left of a file, hands `view size rest` to the parser and moves the
    descriptor by `taken size rest`. -/
structure Protobuf where
  header      : Codec Header
  chunkHeader : Codec ChunkHeader
  chunkBody   : Codec ChunkBody
  index       : Codec Index
  channel     : Codec Channel
  view        : Int → List UInt8 → List UInt8
  taken       : Int → List UInt8 → Nat

/-- What the record code relies on: encode and decode are inverse, a message
    with a field set has a non-empty encoding, each element of a repeated
    field takes a byte at least, and a stream limited to a size the file
    still has delivers that many bytes (a stream of block size `0` may read
    ahead). -/
structure Protobuf.Lawful (P : Protobuf) : Prop where
  header           : P.header.RoundTrip
  chunkHeader      : P.chunkHeader.RoundTrip
  chunkBody        : P.chunkBody.RoundTrip
  index            : P.index.RoundTrip
  channel          : P.channel.RoundTrip
  chunkHeader_pos  : ∀ m, 0 < P.chunkHeader.byteSize m
  channel_pos      : ∀ m, 0 < P.channel.byteSize m
  chunkBody_length : ∀ m, m.messages.length ≤ P.chunkBody.byteSize m
  view  : ∀ (size : Nat) (rest : List UInt8), size ≤ rest.length → P.view size rest = rest.take size
  taken : ∀ (size : Nat) (rest : List UInt8), 0 < size → size ≤ rest.length →
    P.taken size rest = size

namespace Protobuf

variable (P : Protobuf)

def serialize : Message → List UInt8
  | .header m      => P.header.serialize m
  | .chunkHeader m => P.chunkHeader.serialize m
  | .chunkBody m   => P.chunkBody.serialize m
  | .index m       => P.index.serialize m
  | .channel m     => P.channel.serialize m

def byteSize (m : Message) : Nat := (P.serialize m).length

end Protobuf

/-! ## Section 3: Sections -/

def headerLength : Nat := 2048

/-- `sizeof(Section)`: an enum, four bytes of padding, an `int64_t`. -/
def sizeofSection : Nat := 16

def SectionType.toNat : SectionType → Nat
  | .header      => 0
  | .chunkHeader => 1
  | .chunkBody   => 2
  | .index       => 3
  | .channel     => 4

def SectionType.ofValue : Nat → Option SectionType
  | 0 => some .header
  | 1 => some .chunkHeader
  | 2 => some .chunkBody
  | 3 => some .index
  | 4 => some .channel
  | _ => none

theorem SectionType.ofValue_toNat (t : SectionType) : SectionType.ofValue t.toNat = some t := by
  cases t <;> rfl

theorem SectionType.toNat_lt (t : SectionType) : t.toNat < 5 := by
  cases t <;> decide

/-- The bytes of the struct `{type, size}`. Nothing reads the padding. -/
def sectionStruct (type : SectionType) (size : Nat) : List UInt8 :=
  leBytes 4 type.toNat ++ List.replicate 4 0 ++ leBytes 8 size

@[simp] theorem length_sectionStruct (type : SectionType) (size : Nat) :
    (sectionStruct type size).length = sizeofSection := by
  simp [sectionStruct, sizeofSection]

/-- `static char blank[HEADER_LENGTH] = {'0'}`. -/
def blank : List UInt8 := 48 :: List.replicate (headerLength - 1) 0

@[simp] theorem length_blank : blank.length = headerLength := by
  rw [blank, List.length_cons, List.length_replicate]
  rfl

namespace Protobuf

variable (P : Protobuf)

/-- A section: the struct and the message. -/
def sectionBytes (m : Message) : List UInt8 :=
  sectionStruct m.type (P.byteSize m) ++ P.serialize m

/-- The header section with its padding. -/
def headerBlock (h : Header) : List UInt8 :=
  P.sectionBytes (.header h) ++ blank.take (headerLength - P.byteSize (.header h))

@[simp] theorem length_sectionBytes (m : Message) :
    (P.sectionBytes m).length = sizeofSection + P.byteSize m := by
  simp [sectionBytes, byteSize]

/-- The header section has a fixed length. -/
theorem length_headerBlock {h : Header} (hh : P.byteSize (.header h) ≤ headerLength) :
    (P.headerBlock h).length = sizeofSection + headerLength := by
  simp only [headerBlock, List.length_append, length_sectionBytes, List.length_take, length_blank]
  omega

end Protobuf

end CyberRT.Record
