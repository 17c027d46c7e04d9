import CyberRT.Message.MessageHeader

/-! # Serialising messages

    `RawMessage` and `PyMessageWrap` keep their payload as a string and copy
    it in and out. `SerializeToHC` puts a header in front of the payload,
    `ParseFromHC` reads both back.

    Buffers are given by the bytes that may be accessed; a function returns
    `none` when it reads or writes anything else. No pointer is null. -/

namespace CyberRT.Message

open CyberRT.Framework

/-! ## Section 1: Payloads kept as strings -/

/-- A `size_t` converted to `int`. -/
def toInt32 (n : Nat) : Int :=
  if n % 2 ^ 32 < 2 ^ 31 then (n % 2 ^ 32 : Nat) else (n % 2 ^ 32 : Nat) - 2 ^ 32

theorem toInt32_of_lt {n : Nat} (h : n < 2 ^ 31) : toInt32 n = n := by
  unfold toInt32
  split <;> omega

theorem toInt32_le (n : Nat) : toInt32 n ≤ n := by
  unfold toInt32
  split <;> omega

/-- `SerializeToArray(data, size)` of a message with this payload, `data`
    being the offset `off` of a buffer. -/
def serializeString (payload buf : List UInt8) (off : Nat) (size : Int) :
    Option (Bool × List UInt8) :=
  if size < toInt32 payload.length then some (false, buf)
  else (Buffer.write buf off payload).map fun buf => (true, buf)

/-- `ParseFromArray(data, size)` into a message whose payload is `old`. An
    empty array is refused. -/
def parseString (old data : List UInt8) (off : Nat) (size : Int) : Option (Bool × List UInt8) :=
  if size ≤ 0 then some (false, old)
  else (Buffer.read data off size.toNat).map fun bs => (true, bs)

theorem parseString_inside {old data : List UInt8} {off : Nat} {size : Int}
    (h : off + size ≤ data.length) : (parseString old data off size).isSome := by
  unfold parseString
  split
  · rfl
  · rw [Buffer.read_of_le (by omega)]
    rfl

/-- The bytes of a text in which every character is one byte. -/
def ascii (text : String) : List UInt8 := text.toList.map fun c => UInt8.ofNat c.toNat

structure RawMessage where
  message   : List UInt8
  timestamp : UInt64
  deriving DecidableEq

namespace RawMessage

def parseFromArray (m : RawMessage) (data : List UInt8) (off : Nat) (size : Int) :
    Option (Bool × RawMessage) :=
  (parseString m.message data off size).map fun r => (r.1, { m with message := r.2 })

def typeName : List UInt8 := ascii "apollo.cyber.message.RawMessage"

end RawMessage

structure PyMessageWrap where
  data     : List UInt8
  typeName : List UInt8
  deriving DecidableEq

namespace PyMessageWrap

def parseFromArray (m : PyMessageWrap) (data : List UInt8) (off : Nat) (size : Int) :
    Option (Bool × PyMessageWrap) :=
  (parseString m.data data off size).map fun r => (r.1, { m with data := r.2 })

/-- `TypeName()`, which is not the member `type_name_`. -/
def fullName : List UInt8 := ascii "apollo.cyber.message.PyMessage"

end PyMessageWrap

/-! ## Section 2: Traits -/

/-- What the templates below use of a message type that serialises itself.
    Protobuf messages have it as well: their `SerializeToArray` copies the
    serialised message if it fits and nothing otherwise. -/
structure MessageTraits (M : Type) where
  messageType    : M → List UInt8
  content        : M → List UInt8
  parseFromArray : M → List UInt8 → Nat → Int → Option (Bool × M)
  /-- `ParseFromArray(data, size)` reads nothing but the `size` bytes. -/
  parse_inside   : ∀ m data (off : Nat) size, off + size ≤ (data.length : Int) →
    (parseFromArray m data off size).isSome

/-- A message type that keeps its payload as a string: parsing assigns the
    string. -/
structure MessageTraits.KeepsString {M : Type} (T : MessageTraits M) where
  assign         : M → List UInt8 → M
  content_assign : ∀ m payload, T.content (assign m payload) = payload
  parse          : ∀ m data off size, T.parseFromArray m data off size =
    (parseString (T.content m) data off size).map fun r => (r.1, assign m r.2)
  /-- The type name has no zero byte. -/
  named          : ∀ m, 0 ∉ T.messageType m

def RawMessage.traits : MessageTraits RawMessage where
  messageType    := fun _ => RawMessage.typeName
  content        := RawMessage.message
  parseFromArray := RawMessage.parseFromArray
  parse_inside   := by
    intro m data off size h
    rw [RawMessage.parseFromArray, Option.isSome_map]
    exact parseString_inside h

def RawMessage.keepsString : RawMessage.traits.KeepsString where
  assign         := fun m payload => { m with message := payload }
  content_assign := fun _ _ => rfl
  parse          := fun _ _ _ _ => rfl
  named          := fun _ => (by decide : 0 ∉ RawMessage.typeName)

def PyMessageWrap.traits : MessageTraits PyMessageWrap where
  messageType    := fun _ => PyMessageWrap.fullName
  content        := PyMessageWrap.data
  parseFromArray := PyMessageWrap.parseFromArray
  parse_inside   := by
    intro m data off size h
    rw [PyMessageWrap.parseFromArray, Option.isSome_map]
    exact parseString_inside h

def PyMessageWrap.keepsString : PyMessageWrap.traits.KeepsString where
  assign         := fun m payload => { m with data := payload }
  content_assign := fun _ _ => rfl
  parse          := fun _ _ _ _ => rfl
  named          := fun _ => (by decide : 0 ∉ PyMessageWrap.fullName)

namespace MessageTraits

variable {M : Type} (T : MessageTraits M)

/-- `ByteSize(message)`: the length of the string, or that of the serialised
    protobuf message. -/
def byteSize (m : M) : Int := toInt32 (T.content m).length

/-- `SerializeToArray(message, data, size)`, the same for both classes. -/
def serializeToArray (m : M) (buf : List UInt8) (off : Nat) (size : Int) :
    Option (Bool × List UInt8) := serializeString (T.content m) buf off size

def fullByteSize (m : M) : Int :=
  if T.byteSize m < 0 then T.byteSize m else T.byteSize m + sizeofMessageHeader

/-! ## Section 3: Framed messages -/

/-- The header `SerializeToHC` makes. -/
def header (m : M) : MessageHeader :=
  (MessageHeader.new.setMsgType (T.messageType m)).setContentSize (T.byteSize m).toNat

/-- `SerializeToHC(message, data, size)`: the buffer it leaves behind. -/
def serializeToHC (m : M) (data : List UInt8) (size : Int) : Option (Bool × List UInt8) :=
  if T.byteSize m < 0 then some (false, data)
  else
    -- `size` is not looked at before the header is copied
    match Buffer.write data 0 (T.header m).toBytes with
    | none      => none
    | some data => T.serializeToArray m data sizeofMessageHeader (size - sizeofMessageHeader)

/-- `ParseFromHC(data, size, message)`: the message it leaves behind. -/
def parseFromHC (data : List UInt8) (size : Int) (message : M) : Option (Bool × M) :=
  if size < sizeofMessageHeader then some (false, message)
  else match contentSizeAt data with
    | none => none
    | some contentSize =>
      if (size - sizeofMessageHeader).toNat < contentSize then some (false, message)
      else
        -- `SetTypeName` does nothing, but its argument is a string made of
        -- the message type
        match msgTypeAt data with
        | none   => none
        | some _ => T.parseFromArray message data sizeofMessageHeader (toInt32 contentSize)

end MessageTraits

end CyberRT.Message
